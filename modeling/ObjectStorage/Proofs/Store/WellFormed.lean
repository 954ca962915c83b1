import ObjectStorage.Proofs.Store.Edits

/-!
# Well-formed buckets

`Buckets.WellFormed` says what the infos at rest state about the buckets and
objects they lie under. Every admissible edit keeps it (`Edit.wellFormed_apply`).
Among well-formed buckets a lookup answers with an info about the id that was
asked for, and reports it as found exactly when it is there.
-/

namespace ObjectStorage

/-- What the info and the content of an object at rest have to do with its id and each other. -/
structure StoredObject.WellFormed (object : StoredObject) (id : ResourceId) : Prop where
  named : id.objectName ≠ some ""
  resourceId : object.info.resourceId = id
  found : object.info.found = true
  location : object.info.location = none
  storageClass : object.info.storageClass = none
  size : object.info.size = object.content.length
  contentHash : object.info.contentHash = some (Bytes.sha256 object.content)
  contentGeneration : 1 ≤ object.info.contentGeneration
  metaGeneration : 1 ≤ object.info.metaGeneration

/-- What the info of a bucket at rest has to do with its name. -/
structure ItemInfo.DescribesBucket (info : ItemInfo) (bucketName : String) : Prop where
  named : checkBucketName bucketName = .ok ()
  resourceId : info.resourceId = .bucket bucketName
  found : info.found = true
  size : info.size = 0
  metadata : info.metadata = ∅
  contentGeneration : info.contentGeneration = 0
  metaGeneration : info.metaGeneration = 0
  contentHash : info.contentHash = none

/-- Every bucket and every object is described by the info that it lies under. -/
structure Buckets.WellFormed (buckets : Buckets) : Prop where
  bucket : ∀ {bucketName info}, buckets.bucketInfo? bucketName = some info →
    info.DescribesBucket bucketName
  object : ∀ {id object}, buckets.object? id = some object → object.WellFormed id

/-- A first version is well-formed, whatever generation it follows. -/
theorem StoredObject.version_wellFormed {id : ResourceId} {content : Bytes}
    {contentType : Option String} {metadata : Metadata} {previous : Int} {now : Timestamp}
    (hname : id.objectName ≠ some "") (hprevious : 0 ≤ previous) :
    (version id content contentType metadata previous now).WellFormed id where
  named := hname
  resourceId := rfl
  found := rfl
  location := rfl
  storageClass := rfl
  size := rfl
  contentHash := rfl
  contentGeneration := by
    simp only [version]
    omega
  metaGeneration := by simp [version, ItemInfo.object]

/-- A patch keeps an object well-formed. -/
theorem StoredObject.WellFormed.patched {object : StoredObject} {id : ResourceId}
    (h : object.WellFormed id) (update : ItemUpdate) (now : Timestamp) :
    (object.patched update now).WellFormed id where
  named := h.named
  resourceId := h.resourceId
  found := h.found
  location := h.location
  storageClass := h.storageClass
  size := h.size
  contentHash := h.contentHash
  contentGeneration := h.contentGeneration
  metaGeneration := by
    have hgeneration := h.metaGeneration
    simp only [StoredObject.patched]
    omega

namespace Buckets.WellFormed

variable {buckets : Buckets} {id : ResourceId}

/-- There is nothing to be ill-formed without buckets. -/
theorem empty : Buckets.WellFormed (∅ : Buckets) where
  bucket h := by simp at h
  object h := by simp at h

/-- Generations are not negative. -/
theorem generation_nonneg (h : buckets.WellFormed) : 0 ≤ buckets.generation id := by
  unfold generation
  cases hobject : buckets.object? id with
  | none => simp
  | some object =>
    have hgeneration := (h.object hobject).contentGeneration
    simp only [Option.map_some, Option.getD_some]
    omega

/-- Putting a well-formed object keeps buckets well-formed. -/
theorem put (h : buckets.WellFormed) {object : StoredObject} (hbucket : id.bucketName ∈ buckets)
    (hname : id.isObject = true) (hobject : object.WellFormed id) :
    (buckets.put id object).WellFormed where
  bucket hinfo := h.bucket (bucketInfo?_put.symm.trans hinfo)
  object {other stored} hstored := by
    rw [object?_put hbucket hname] at hstored
    split at hstored
    · next heq =>
      subst heq
      obtain rfl := Option.some.inj hstored
      exact hobject
    · exact h.object hstored

/-- A lookup answers with an info about the id that was asked for. -/
theorem lookup_resourceId (h : buckets.WellFormed) : (buckets.lookup id).resourceId = id := by
  obtain ⟨bucketName, objectName⟩ := id
  unfold lookup
  split
  · next hroot =>
    cases objectName <;> simp_all [ResourceId.isRoot, ItemInfo.inferredDirectory, ResourceId.root]
  · cases objectName with
    | none =>
      cases hinfo : buckets.bucketInfo? bucketName with
      | none => simp [ItemInfo.notFound]
      | some info => simpa [hinfo, ResourceId.bucket] using (h.bucket hinfo).resourceId
    | some name =>
      cases hobject : buckets.object? ⟨bucketName, some name⟩ with
      | none => simp [ItemInfo.notFound]
      | some object => simpa [hobject] using (h.object hobject).resourceId

/-- What is there is reported as found, and only that. -/
theorem lookup_found (h : buckets.WellFormed) (hroot : id.isRoot = false) :
    (buckets.lookup id).found = true ↔ buckets.Holds id := by
  obtain ⟨bucketName, objectName⟩ := id
  unfold lookup
  rw [if_neg (by simp [hroot])]
  cases objectName with
  | none =>
    rw [holds_bucket, mem_iff_bucketInfo?]
    cases hinfo : buckets.bucketInfo? bucketName with
    | none => simp [ItemInfo.notFound]
    | some info => simpa [hinfo] using (h.bucket hinfo).found
  | some name =>
    rw [holds_object]
    cases hobject : buckets.object? ⟨bucketName, some name⟩ with
    | none => simp [ItemInfo.notFound]
    | some object => simpa [hobject] using (h.object hobject).found

end Buckets.WellFormed

/-- An object that is not there is reported as not found. -/
theorem Buckets.lookup_eq_notFound {buckets : Buckets} {id : ResourceId}
    (hname : id.isObject = true) (h : buckets.object? id = none) :
    buckets.lookup id = .notFound id := by
  obtain ⟨bucketName, objectName⟩ := id
  cases objectName with
  | none => simp [ResourceId.isObject] at hname
  | some name => simp [lookup, ResourceId.isRoot, h]

/-- The object that is at an id is what is reported about it. -/
theorem Buckets.lookup_of_object? {buckets : Buckets} {id : ResourceId} {object : StoredObject}
    (h : buckets.object? id = some object) : buckets.lookup id = object.info := by
  obtain ⟨bucketName, objectName⟩ := id
  cases objectName with
  | none => simp [object?] at h
  | some name => simp [lookup, ResourceId.isRoot, h]

/-- The info of a bucket is what is reported about it. -/
theorem Buckets.WellFormed.lookup_bucket {buckets : Buckets} (h : buckets.WellFormed)
    {bucketName : String} {bucket : StoredBucket} (hbucket : buckets[bucketName]? = some bucket) :
    buckets.lookup bucket.info.resourceId = bucket.info := by
  have hinfo : buckets.bucketInfo? bucketName = some bucket.info := by
    simp [bucketInfo?, hbucket]
  have hdescribes := h.bucket hinfo
  have hname : bucketName ≠ "" := by
    rintro rfl
    have hnamed := hdescribes.named
    simp [checkBucketName] at hnamed
  rw [hdescribes.resourceId]
  simp [lookup, ResourceId.bucket, ResourceId.isRoot, hname, hinfo]

/-- An admissible edit keeps buckets well-formed. -/
theorem Edit.wellFormed_apply {edit : Edit} {buckets : Buckets} (hadm : edit.Admissible buckets)
    (h : buckets.WellFormed) : (edit.apply buckets).WellFormed where
  bucket hinfo := by
    rcases bucket_origin hinfo with hbefore | ⟨options, now, rfl, rfl⟩
    · exact h.bucket hbefore
    · exact ⟨hadm.1, rfl, rfl, rfl, rfl, rfl, rfl, rfl⟩
  object hobject := by
    rcases object_origin hadm hobject with hbefore |
        ⟨content, contentType, metadata, overwrite, now, rfl, rfl⟩ |
        ⟨update, now, old, rfl, rfl, hold, rfl⟩
    · exact h.object hbefore
    · exact StoredObject.version_wellFormed hadm.2.1 h.generation_nonneg
    · exact (h.object hold).patched update now

/-- A series of edits keeps buckets well-formed. -/
theorem Edits.wellFormed {edits : List Edit} {before after : Buckets}
    (h : Edits edits before after) (hwf : before.WellFormed) : after.WellFormed := by
  induction h with
  | nil => exact hwf
  | cons hadm _ ih => exact ih (Edit.wellFormed_apply hadm hwf)

end ObjectStorage
