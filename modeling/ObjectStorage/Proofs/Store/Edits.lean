import ObjectStorage.Proofs.Store.Checks

/-!
# Edits of buckets

Whatever an operation does to the buckets of a store is a series of edits: a
bucket is added or dropped, an object is stored, patched or removed.
`Edits edits before after` says that a series of admissible edits leads from
some buckets to others. `Edits.lookup_eq` says that a series changes only what
is reported about the ids that it touches, and `Edits.holds` that only a removal
makes a resource disappear.
-/

namespace ObjectStorage

/-- An object after a patch of its metadata. -/
def StoredObject.patched (object : StoredObject) (update : ItemUpdate) (now : Timestamp) :
    StoredObject :=
  { object with info := { object.info with
      metadata := object.info.metadata.patch update.metadata
      metaGeneration := object.info.metaGeneration + 1
      modificationTime := some now } }

namespace Buckets

variable {buckets : Buckets} {bucketName other : String} {id : ResourceId}

/-- Says that the bucket or the object that an id names is there. -/
def Holds (buckets : Buckets) (id : ResourceId) : Prop :=
  match id.objectName with
  | none => id.bucketName ∈ buckets
  | some _ => (buckets.object? id).isSome = true

/-- There is no info about a bucket when there are no buckets. -/
@[simp]
theorem bucketInfo?_empty : Buckets.bucketInfo? ∅ bucketName = none := by
  simp [bucketInfo?]

/-- There is no object when there are no buckets. -/
@[simp]
theorem object?_empty : Buckets.object? ∅ id = none := by
  cases hname : id.objectName <;> simp [object?, hname]

/-- A bucket is there exactly when there is an info about it. -/
theorem mem_iff_bucketInfo? : bucketName ∈ buckets ↔ (buckets.bucketInfo? bucketName).isSome := by
  simp [bucketInfo?]

/-- Adding an empty bucket under a free name adds no object. -/
theorem object?_addBucket {info : ItemInfo} (hfree : bucketName ∉ buckets) :
    Buckets.object? (buckets.insert bucketName { info }) id = buckets.object? id := by
  obtain ⟨ownBucket, objectName⟩ := id
  cases objectName with
  | none => rfl
  | some name =>
    by_cases hb : bucketName = ownBucket
    · subst hb
      simp [object?, Std.ExtTreeMap.getElem?_eq_none hfree]
    · simp [object?, Std.ExtTreeMap.getElem?_insert, hb]

/-- Inserting a bucket changes only the info under its own name. -/
theorem bucketInfo?_insert {bucket : StoredBucket} :
    Buckets.bucketInfo? (buckets.insert bucketName bucket) other =
      if bucketName = other then some bucket.info else buckets.bucketInfo? other := by
  by_cases hb : bucketName = other <;> simp [bucketInfo?, Std.ExtTreeMap.getElem?_insert, hb]

/-- Dropping a bucket drops its objects and no others. -/
theorem object?_erase :
    Buckets.object? (buckets.erase bucketName) id =
      if bucketName = id.bucketName then none else buckets.object? id := by
  obtain ⟨ownBucket, objectName⟩ := id
  by_cases hb : bucketName = ownBucket <;> cases objectName <;>
    simp [object?, Std.ExtTreeMap.getElem?_erase, hb]

/-- Dropping a bucket changes only the info under its own name. -/
theorem bucketInfo?_erase :
    Buckets.bucketInfo? (buckets.erase bucketName) other =
      if bucketName = other then none else buckets.bucketInfo? other := by
  by_cases hb : bucketName = other <;> simp [bucketInfo?, Std.ExtTreeMap.getElem?_erase, hb]

/-- Putting an object keeps the names of the buckets. -/
theorem mem_put {object : StoredObject} :
    bucketName ∈ buckets.put id object ↔ bucketName ∈ buckets := by
  rw [mem_iff_bucketInfo?, bucketInfo?_put, ← mem_iff_bucketInfo?]

/-- Removing an object keeps the names of the buckets. -/
theorem mem_remove : bucketName ∈ buckets.remove id ↔ bucketName ∈ buckets := by
  rw [mem_iff_bucketInfo?, bucketInfo?_remove, ← mem_iff_bucketInfo?]

/-- A bucket is there exactly when its name is taken. -/
theorem holds_bucket : buckets.Holds ⟨bucketName, none⟩ ↔ bucketName ∈ buckets := Iff.rfl

/-- An object is there exactly when its id leads to one. -/
theorem holds_object {name : String} :
    buckets.Holds ⟨bucketName, some name⟩ ↔
      (buckets.object? ⟨bucketName, some name⟩).isSome = true := Iff.rfl

/-- Putting an object makes nothing disappear. -/
theorem holds_put {place : ResourceId} {object : StoredObject}
    (hbucket : place.bucketName ∈ buckets) (hname : place.isObject = true)
    (hholds : buckets.Holds id) :
    (buckets.put place object).Holds id := by
  obtain ⟨ownBucket, objectName⟩ := id
  cases objectName with
  | none => exact mem_put.2 hholds
  | some name =>
    rw [holds_object, object?_put hbucket hname]
    split
    · rfl
    · exact hholds

/-- Putting an object over another one changes only what lies at its id. -/
theorem object?_put_over {place : ResourceId} {stored object : StoredObject}
    (hplace : buckets.object? place = some stored) :
    (buckets.put place object).object? id =
      if place = id then some object else buckets.object? id :=
  object?_put (mem_of_object? hplace) (isObject_of_object? hplace)

/-- Putting an object over another one takes no object away. -/
theorem exists_object?_put {place : ResourceId} {stored object : StoredObject}
    (hplace : buckets.object? place = some stored)
    (h : ∃ found, buckets.object? id = some found) :
    ∃ found, (buckets.put place object).object? id = some found := by
  rw [object?_put_over hplace]
  split
  · exact ⟨object, rfl⟩
  · exact h

/-- What is reported about an id depends only on the info of its bucket and on its object. -/
theorem lookup_congr {after : Buckets}
    (hinfo : after.bucketInfo? id.bucketName = buckets.bucketInfo? id.bucketName)
    (hobject : after.object? id = buckets.object? id) : after.lookup id = buckets.lookup id := by
  simp [lookup, hinfo, hobject]

end Buckets

/-- One elementary change of the buckets. -/
inductive Edit where
  | addBucket (bucketName : String) (options : BucketOptions) (now : Timestamp)
  | store (id : ResourceId) (content : Bytes) (contentType : Option String) (metadata : Metadata)
      (overwrite : Bool) (now : Timestamp)
  | patch (update : ItemUpdate) (now : Timestamp)
  | remove (id : ResourceId)
  | dropBucket (bucketName : String)

namespace Edit

/-- The buckets after an edit. -/
def apply (edit : Edit) (buckets : Buckets) : Buckets :=
  match edit with
  | addBucket bucketName options now =>
    buckets.insert bucketName
      { info := .bucket bucketName now options.location options.storageClass }
  | store id content contentType metadata _ now =>
    buckets.put id (.version id content contentType metadata (buckets.generation id) now)
  | patch update now =>
    match buckets.object? update.resourceId with
    | some object => buckets.put update.resourceId (object.patched update now)
    | none => buckets
  | remove id => buckets.remove id
  | dropBucket bucketName => buckets.erase bucketName

/-- What an operation has checked before it makes an edit. -/
def Admissible (edit : Edit) (buckets : Buckets) : Prop :=
  match edit with
  | addBucket bucketName _ _ => checkBucketName bucketName = .ok () ∧ bucketName ∉ buckets
  | store id _ _ _ overwrite _ =>
    id.isObject = true ∧ id.objectName ≠ some "" ∧ id.bucketName ∈ buckets ∧
      (overwrite = false → buckets.object? id = none)
  | patch update _ => ∃ object, buckets.object? update.resourceId = some object
  | remove _ | dropBucket _ => True

/-- Says that an edit can change what is reported about an id. -/
def Touches (edit : Edit) (id : ResourceId) : Prop :=
  match edit with
  | addBucket bucketName _ _ => id = .bucket bucketName
  | store other _ _ _ _ _ | remove other => id = other
  | patch update _ => id = update.resourceId
  | dropBucket bucketName => id.belongsTo bucketName = true

/-- Says that an edit takes the resource that an id names away. -/
def Removes (edit : Edit) (id : ResourceId) : Prop :=
  match edit with
  | remove other => id = other
  | dropBucket bucketName => id.bucketName = bucketName
  | addBucket _ _ _ | store _ _ _ _ _ _ | patch _ _ => False

/-- Says that an edit only makes what is not there yet. -/
def Creates (edit : Edit) : Prop :=
  match edit with
  | addBucket _ _ _ => True
  | store _ _ _ _ overwrite _ => overwrite = false
  | patch _ _ | remove _ | dropBucket _ => False

variable {edit : Edit} {buckets : Buckets} {id : ResourceId}

/-- A bucket that is there after an edit was there before, or is the one that was added. -/
theorem bucket_origin {bucketName : String} {info : ItemInfo}
    (h : (edit.apply buckets).bucketInfo? bucketName = some info) :
    buckets.bucketInfo? bucketName = some info ∨
      ∃ options now, edit = addBucket bucketName options now ∧
        info = .bucket bucketName now options.location options.storageClass := by
  cases edit with
  | addBucket other options now =>
    rw [apply, Buckets.bucketInfo?_insert] at h
    split at h
    · next heq =>
      subst heq
      exact .inr ⟨options, now, rfl, (Option.some.inj h).symm⟩
    · exact .inl h
  | store id content contentType metadata overwrite now =>
    exact .inl (Buckets.bucketInfo?_put.symm.trans h)
  | patch update now =>
    rw [apply] at h
    split at h
    · exact .inl (Buckets.bucketInfo?_put.symm.trans h)
    · exact .inl h
  | remove id => exact .inl (Buckets.bucketInfo?_remove.symm.trans h)
  | dropBucket other =>
    rw [apply, Buckets.bucketInfo?_erase] at h
    split at h
    · cases h
    · exact .inl h

/-- An object that is there after an edit was there before, or is the one that was stored, or the
one that was patched. -/
theorem object_origin {object : StoredObject} (hadm : edit.Admissible buckets)
    (h : (edit.apply buckets).object? id = some object) :
    buckets.object? id = some object ∨
      (∃ content contentType metadata overwrite now,
        edit = store id content contentType metadata overwrite now ∧
          object = .version id content contentType metadata (buckets.generation id) now) ∨
      ∃ update now old, edit = patch update now ∧ update.resourceId = id ∧
        buckets.object? id = some old ∧ object = old.patched update now := by
  cases edit with
  | addBucket bucketName options now =>
    rw [apply, Buckets.object?_addBucket hadm.2] at h
    exact .inl h
  | store other content contentType metadata overwrite now =>
    rw [apply, Buckets.object?_put hadm.2.2.1 hadm.1] at h
    split at h
    · next heq =>
      subst heq
      exact .inr (.inl ⟨content, contentType, metadata, overwrite, now, rfl,
        (Option.some.inj h).symm⟩)
    · exact .inl h
  | patch update now =>
    obtain ⟨old, hold⟩ := hadm
    simp only [apply, hold] at h
    rw [Buckets.object?_put_over hold] at h
    split at h
    · next heq =>
      subst heq
      exact .inr (.inr ⟨update, now, old, rfl, rfl, hold, (Option.some.inj h).symm⟩)
    · exact .inl h
  | remove other =>
    rw [apply, Buckets.object?_remove] at h
    split at h
    · cases h
    · exact .inl h
  | dropBucket bucketName =>
    rw [apply, Buckets.object?_erase] at h
    split at h
    · cases h
    · exact .inl h

/-- The objects that an edit leaves alone. -/
theorem object?_apply (hadm : edit.Admissible buckets) (htouch : ¬ edit.Touches id)
    (hroot : id.isRoot = false) : (edit.apply buckets).object? id = buckets.object? id := by
  cases edit with
  | addBucket bucketName options now => exact Buckets.object?_addBucket hadm.2
  | store other content contentType metadata overwrite now =>
    rw [apply, Buckets.object?_put hadm.2.2.1 hadm.1, if_neg (Ne.symm htouch)]
  | patch update now =>
    obtain ⟨object, hobject⟩ := hadm
    simp only [apply, hobject]
    rw [Buckets.object?_put_over hobject, if_neg (Ne.symm htouch)]
  | remove other => rw [apply, Buckets.object?_remove, if_neg (Ne.symm htouch)]
  | dropBucket bucketName =>
    have hne : bucketName ≠ id.bucketName := by
      rintro rfl
      simp [Touches, ResourceId.belongsTo, hroot] at htouch
    rw [apply, Buckets.object?_erase, if_neg hne]

/-- The infos about buckets that an edit leaves alone. -/
theorem bucketInfo?_apply (htouch : ¬ edit.Touches id) (hbucket : id.isBucket = true) :
    (edit.apply buckets).bucketInfo? id.bucketName = buckets.bucketInfo? id.bucketName := by
  obtain ⟨ownBucket, objectName⟩ := id
  obtain rfl : objectName = none := by
    cases objectName <;> simp_all [ResourceId.isBucket]
  cases edit with
  | addBucket bucketName options now =>
    have hne : bucketName ≠ ownBucket := by
      rintro rfl
      exact htouch rfl
    rw [apply, Buckets.bucketInfo?_insert, if_neg hne]
  | store other content contentType metadata overwrite now => exact Buckets.bucketInfo?_put
  | patch update now =>
    rw [apply]
    cases buckets.object? update.resourceId with
    | none => rfl
    | some object => exact Buckets.bucketInfo?_put
  | remove other => exact Buckets.bucketInfo?_remove
  | dropBucket bucketName =>
    have hne : bucketName ≠ ownBucket := by
      rintro rfl
      simp_all [Touches, ResourceId.belongsTo, ResourceId.isRoot, ResourceId.isBucket]
    rw [apply, Buckets.bucketInfo?_erase, if_neg hne]

/-- An edit changes only what is reported about the ids that it touches. -/
theorem lookup_apply (hadm : edit.Admissible buckets) (htouch : ¬ edit.Touches id) :
    (edit.apply buckets).lookup id = buckets.lookup id := by
  cases hroot : id.isRoot with
  | true => simp [Buckets.lookup, hroot]
  | false =>
    have hobject := object?_apply hadm htouch hroot
    cases hname : id.objectName with
    | none =>
      have hbucket : id.isBucket = true := by
        simpa [ResourceId.isBucket, ResourceId.isRoot, hname] using hroot
      exact Buckets.lookup_congr (bucketInfo?_apply htouch hbucket) hobject
    | some name => simp [Buckets.lookup, hroot, hname, hobject]

/-- An edit makes only those resources disappear that it removes. -/
theorem holds_apply (hadm : edit.Admissible buckets) (hremove : ¬ edit.Removes id)
    (hholds : buckets.Holds id) : (edit.apply buckets).Holds id := by
  obtain ⟨ownBucket, objectName⟩ := id
  cases edit with
  | addBucket bucketName options now =>
    cases objectName with
    | none => exact Std.ExtTreeMap.mem_insert.2 (.inr hholds)
    | some name =>
      rw [apply, Buckets.holds_object, Buckets.object?_addBucket hadm.2]
      exact hholds
  | store other content contentType metadata overwrite now =>
    exact Buckets.holds_put hadm.2.2.1 hadm.1 hholds
  | patch update now =>
    obtain ⟨object, hobject⟩ := hadm
    simp only [apply, hobject]
    exact Buckets.holds_put (Buckets.mem_of_object? hobject)
      (Buckets.isObject_of_object? hobject) hholds
  | remove other =>
    cases objectName with
    | none => exact Buckets.mem_remove.2 hholds
    | some name =>
      rw [apply, Buckets.holds_object, Buckets.object?_remove, if_neg (Ne.symm hremove)]
      exact hholds
  | dropBucket bucketName =>
    have hne : bucketName ≠ ownBucket := Ne.symm hremove
    cases objectName with
    | none => exact Std.ExtTreeMap.mem_erase.2 ⟨by simpa using hne, hholds⟩
    | some name =>
      rw [apply, Buckets.holds_object, Buckets.object?_erase, if_neg hne]
      exact hholds

/-- An edit that only makes what is not there leaves alone what is there. -/
theorem not_touches_of_creates (hadm : edit.Admissible buckets) (hcreates : edit.Creates)
    (hholds : buckets.Holds id) : ¬ edit.Touches id ∧ ¬ edit.Removes id := by
  cases edit with
  | addBucket bucketName options now =>
    refine ⟨?_, not_false⟩
    rintro rfl
    exact hadm.2 hholds
  | store other content contentType metadata overwrite now =>
    refine ⟨?_, not_false⟩
    rintro rfl
    obtain ⟨bucketName, objectName⟩ := id
    cases objectName with
    | none => simp [Admissible, ResourceId.isObject] at hadm
    | some name =>
      rw [Buckets.holds_object, hadm.2.2.2 hcreates] at hholds
      cases hholds
  | patch | remove | dropBucket => exact hcreates.elim

end Edit

/-- A series of admissible edits leads from some buckets to others. -/
inductive Edits : List Edit → Buckets → Buckets → Prop where
  | nil (buckets : Buckets) : Edits [] buckets buckets
  | cons {edit : Edit} {rest : List Edit} {before after : Buckets} :
      edit.Admissible before → Edits rest (edit.apply before) after →
      Edits (edit :: rest) before after

namespace Edits

variable {edits later : List Edit} {before middle after : Buckets} {id : ResourceId}

/-- One edit is a series. -/
theorem single {edit : Edit} (h : edit.Admissible before) :
    Edits [edit] before (edit.apply before) :=
  .cons h (.nil _)

/-- Two series make one. -/
theorem append (hfirst : Edits edits before middle) (hlater : Edits later middle after) :
    Edits (edits ++ later) before after := by
  induction hfirst with
  | nil => exact hlater
  | cons hadm _ ih => exact .cons hadm (ih hlater)

/-- A series changes only what is reported about the ids that it touches. -/
theorem lookup_eq (h : Edits edits before after) (htouch : ∀ edit ∈ edits, ¬ edit.Touches id) :
    after.lookup id = before.lookup id := by
  induction h with
  | nil => rfl
  | cons hadm _ ih =>
    rw [ih fun edit hedit => htouch edit (.tail _ hedit),
      Edit.lookup_apply hadm (htouch _ (.head _))]

/-- A series leaves the objects alone that it does not touch. -/
theorem object?_eq (h : Edits edits before after) (htouch : ∀ edit ∈ edits, ¬ edit.Touches id)
    (hroot : id.isRoot = false) : after.object? id = before.object? id := by
  induction h with
  | nil => rfl
  | cons hadm _ ih =>
    rw [ih fun edit hedit => htouch edit (.tail _ hedit),
      Edit.object?_apply hadm (htouch _ (.head _)) hroot]

/-- A series makes only those resources disappear that it removes. -/
theorem holds (h : Edits edits before after) (hremove : ∀ edit ∈ edits, ¬ edit.Removes id)
    (hholds : before.Holds id) : after.Holds id := by
  induction h with
  | nil => exact hholds
  | cons hadm _ ih =>
    exact ih (fun edit hedit => hremove edit (.tail _ hedit))
      (Edit.holds_apply hadm (hremove _ (.head _)) hholds)

/-- A series that only makes what is not there changes nothing that is reported about what is. -/
theorem lookup_of_creates (h : Edits edits before after) (hcreates : ∀ edit ∈ edits, edit.Creates)
    (hholds : before.Holds id) : after.lookup id = before.lookup id := by
  induction h with
  | nil => rfl
  | cons hadm _ ih =>
    obtain ⟨htouch, hremove⟩ := Edit.not_touches_of_creates hadm (hcreates _ (.head _)) hholds
    rw [ih (fun edit hedit => hcreates edit (.tail _ hedit))
      (Edit.holds_apply hadm hremove hholds), Edit.lookup_apply hadm htouch]

end Edits

end ObjectStorage
