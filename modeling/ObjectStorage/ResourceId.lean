/-!
# Resource ids

A `ResourceId` names the root of the namespace, a bucket, or an object in a
bucket. Ids are ordered by bucket name and then by object name, with the bucket
before its objects; `LawfulEqOrd` and `TransOrd` say that this is a total order
in which only equal ids compare equal.
-/

namespace ObjectStorage

/-- The name of a bucket, or of an object inside one; the empty bucket name without an
object is the root. -/
structure ResourceId where
  bucketName : String
  objectName : Option String
deriving DecidableEq

namespace ResourceId

/-- The id of the whole namespace. -/
def root : ResourceId := ⟨"", none⟩

/-- The id of a bucket. -/
def bucket (bucketName : String) : ResourceId := ⟨bucketName, none⟩

/-- The id of an object inside a bucket. -/
def object (bucketName objectName : String) : ResourceId := ⟨bucketName, some objectName⟩

/-- Says that the id names the whole namespace. -/
def isRoot (id : ResourceId) : Bool :=
  id.bucketName.isEmpty && id.objectName.isNone

/-- Says that the id names a bucket. -/
def isBucket (id : ResourceId) : Bool :=
  !id.bucketName.isEmpty && id.objectName.isNone

/-- Says that the id names an object. -/
def isObject (id : ResourceId) : Bool :=
  id.objectName.isSome

/-- Says that the id names the bucket `bucketName` or something inside it. -/
def belongsTo (id : ResourceId) (bucketName : String) : Bool :=
  !id.isRoot && id.bucketName == bucketName

/-- The scheme of a resource URI. -/
def scheme : String := "gs"

/-- The URI of an id. -/
def toUri (id : ResourceId) : String :=
  match id.objectName with
  | some name => scheme ++ "://" ++ id.bucketName ++ "/" ++ name
  | none => scheme ++ "://" ++ id.bucketName

instance : ToString ResourceId := ⟨toUri⟩

/-- Bucket names are compared first; a bucket comes before its objects. -/
instance : Ord ResourceId where
  compare a b := (compare a.bucketName b.bucketName).then (compare a.objectName b.objectName)

theorem compare_def (a b : ResourceId) :
    compare a b =
      (compare a.bucketName b.bucketName).then (compare a.objectName b.objectName) := rfl

instance : Std.OrientedOrd ResourceId where
  eq_swap {a b} := by
    rw [compare_def, compare_def, Ordering.swap_then,
      ← Std.OrientedOrd.eq_swap, ← Std.OrientedOrd.eq_swap]

instance : Std.TransOrd ResourceId where
  isLE_trans {a b c} hab hbc := by
    rw [compare_def, Ordering.isLE_then_iff_or] at hab hbc ⊢
    rcases hab with hab | ⟨hab, hab'⟩ <;> rcases hbc with hbc | ⟨hbc, hbc'⟩
    · exact .inl (Std.TransCmp.lt_trans hab hbc)
    · exact .inl (Std.TransCmp.lt_of_lt_of_eq hab hbc)
    · exact .inl (Std.TransCmp.lt_of_eq_of_lt hab hbc)
    · exact .inr ⟨Std.TransCmp.eq_trans hab hbc, Std.TransCmp.isLE_trans hab' hbc'⟩

instance : Std.LawfulEqOrd ResourceId where
  eq_of_compare {a b} h := by
    obtain ⟨bucketName, objectName⟩ := a
    simp_all [compare_def, Ordering.then_eq_eq]

end ResourceId

end ObjectStorage
