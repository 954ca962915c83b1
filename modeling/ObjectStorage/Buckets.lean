import ObjectStorage.Operation

/-!
# Buckets

Buckets hold objects by name. `Buckets.bucketInfo?` and `Buckets.object?` are
their view: what lies under a bucket name and at an id. The small lemmas say
what each change does to that view.
-/

namespace ObjectStorage

/-- An object at rest: what is reported about it, and its content. -/
structure StoredObject where
  info : ItemInfo
  content : Bytes
deriving DecidableEq

/-- A bucket at rest: what is reported about it, and its objects by name. -/
structure StoredBucket where
  info : ItemInfo
  objects : Std.ExtTreeMap String StoredObject := ∅
deriving DecidableEq

/-- Buckets by name. -/
abbrev Buckets := Std.ExtTreeMap String StoredBucket

namespace Buckets

/-- The object that an id names. -/
def object? (buckets : Buckets) (id : ResourceId) : Option StoredObject :=
  id.objectName.bind fun name => buckets[id.bucketName]?.bind (·.objects[name]?)

/-- What is reported about the bucket with this name. -/
def bucketInfo? (buckets : Buckets) (bucketName : String) : Option ItemInfo :=
  buckets[bucketName]?.map (·.info)

/-- The buckets with an object put into the bucket that its id names, if there is one. -/
def put (buckets : Buckets) (id : ResourceId) (object : StoredObject) : Buckets :=
  match id.objectName with
  | some name =>
    buckets.modify id.bucketName fun bucket =>
      { bucket with objects := bucket.objects.insert name object }
  | none => buckets

/-- The buckets without the object that an id names. -/
def remove (buckets : Buckets) (id : ResourceId) : Buckets :=
  match id.objectName with
  | some name =>
    buckets.modify id.bucketName fun bucket =>
      { bucket with objects := bucket.objects.erase name }
  | none => buckets

/-- What is reported about a resource: the root is a directory, and what is not there is reported
as not found. -/
def lookup (buckets : Buckets) (id : ResourceId) : ItemInfo :=
  if id.isRoot then .inferredDirectory .root
  else
    match id.objectName with
    | none => (buckets.bucketInfo? id.bucketName).getD (.notFound id)
    | some _ => ((buckets.object? id).map (·.info)).getD (.notFound id)

/-- The bucket with this name, or the error that it is missing. -/
def require (buckets : Buckets) (bucketName : String) : Except Error StoredBucket :=
  match buckets[bucketName]? with
  | some bucket => .ok bucket
  | none => .error (StorageError.notFound (.bucket bucketName))

/-- The object that an id names, or the error that it is missing. -/
def requireObject (buckets : Buckets) (id : ResourceId) : Except Error StoredObject :=
  match buckets.object? id with
  | some object => .ok object
  | none => .error (StorageError.notFound id)

theorem object?_put {buckets : Buckets} {id other : ResourceId} {object : StoredObject}
    (hbucket : id.bucketName ∈ buckets) (hname : id.isObject = true) :
    (buckets.put id object).object? other =
      if id = other then some object else buckets.object? other := by
  obtain ⟨bucketName, objectName⟩ := id
  obtain ⟨otherBucket, otherName⟩ := other
  cases objectName with
  | none => simp [ResourceId.isObject] at hname
  | some name =>
    cases otherName with
    | none => simp [put, object?]
    | some otherName =>
      obtain ⟨bucket, hget⟩ : ∃ bucket, buckets[bucketName]? = some bucket :=
        Option.isSome_iff_exists.1 (by simpa using hbucket)
      by_cases hb : bucketName = otherBucket
      · subst hb
        by_cases hn : name = otherName <;>
          simp [put, object?, hget, Std.ExtTreeMap.getElem?_insert, hn]
      · simp [put, object?, Std.ExtTreeMap.getElem?_modify, hb]

theorem object?_remove {buckets : Buckets} {id other : ResourceId} :
    (buckets.remove id).object? other = if id = other then none else buckets.object? other := by
  obtain ⟨bucketName, objectName⟩ := id
  obtain ⟨otherBucket, otherName⟩ := other
  cases objectName with
  | none => cases otherName <;> simp [remove, object?]
  | some name =>
    cases otherName with
    | none => simp [remove, object?]
    | some otherName =>
      by_cases hb : bucketName = otherBucket
      · subst hb
        cases hget : buckets[bucketName]? <;> by_cases hn : name = otherName <;>
          simp [remove, object?, hget, Std.ExtTreeMap.getElem?_erase, hn]
      · simp [remove, object?, Std.ExtTreeMap.getElem?_modify, hb]

theorem bucketInfo?_put {buckets : Buckets} {id : ResourceId} {object : StoredObject}
    {bucketName : String} :
    (buckets.put id object).bucketInfo? bucketName = buckets.bucketInfo? bucketName := by
  obtain ⟨ownBucket, objectName⟩ := id
  cases objectName with
  | none => rfl
  | some name =>
    by_cases hb : ownBucket = bucketName
    · simp [put, bucketInfo?, hb, Function.comp_def]
    · simp [put, bucketInfo?, Std.ExtTreeMap.getElem?_modify, hb]

theorem bucketInfo?_remove {buckets : Buckets} {id : ResourceId} {bucketName : String} :
    (buckets.remove id).bucketInfo? bucketName = buckets.bucketInfo? bucketName := by
  obtain ⟨ownBucket, objectName⟩ := id
  cases objectName with
  | none => rfl
  | some name =>
    by_cases hb : ownBucket = bucketName
    · simp [remove, bucketInfo?, hb, Function.comp_def]
    · simp [remove, bucketInfo?, Std.ExtTreeMap.getElem?_modify, hb]

end Buckets

end ObjectStorage
