import ObjectStorage.Error
import ObjectStorage.Options

/-!
# Storage operations

`Operation α` is a call that a storage backend answers with a value of type
`α`, and a `Backend σ` carries out operations on a state of type `σ`. A call may
fail and still have changed the state, so the state after it is always given.
-/

namespace ObjectStorage

/-- The calls of a storage backend, by the type of their answers. -/
inductive Operation : Type → Type where
  | createBucket (bucketName : String) (options : BucketOptions) : Operation Unit
  | createEmptyObject (id : ResourceId) (options : ObjectOptions) : Operation Unit
  | createEmptyObjects (ids : List ResourceId) (options : ObjectOptions) : Operation Unit
  | writeObject (id : ResourceId) (content : Bytes) (options : ObjectOptions) : Operation Unit
  | readObject (id : ResourceId) : Operation Bytes
  | copy (sourceBucket : String) (sources : List String) (targetBucket : String)
      (targets : List String) : Operation Unit
  | deleteBuckets (bucketNames : List String) : Operation Unit
  | deleteObjects (ids : List ResourceId) : Operation Unit
  | listBucketNames : Operation (List String)
  | listBucketInfo : Operation (List ItemInfo)
  | listObjectNames (bucketName : String) (options : ListOptions) : Operation (List String)
  | listObjectInfo (bucketName : String) (options : ListOptions) : Operation (List ItemInfo)
  | getItemInfo (id : ResourceId) : Operation ItemInfo
  | getItemInfos (ids : List ResourceId) : Operation (List ItemInfo)
  | updateItems (updates : List ItemUpdate) : Operation (List ItemInfo)
  | composeObjects (sources : List ResourceId) (target : ResourceId) (options : ComposeOptions) :
      Operation ItemInfo
  | waitForBucketEmpty (bucketName : String) : Operation Unit
  | close : Operation Unit

/-- How a call ends. -/
abbrev Outcome (α : Type) := Except Failure α

/-- A call that fails with a cause. -/
def Outcome.failed {α : Type} (cause : Error) : Outcome α :=
  Except.error (.error cause)

/-- A call that breaks off. -/
def Outcome.panicked {α : Type} (reason : Panic) : Outcome α :=
  Except.error (.panic reason)

/-- Says that the call broke off. -/
def Outcome.isPanic {α : Type} : Outcome α → Bool
  | .ok _ => false
  | .error failure => failure.isPanic

/-- A way of carrying out storage operations on a state. -/
structure Backend (σ : Type) where
  run : {α : Type} → Operation α → σ → Outcome α × σ

/-- The item infos that an answer reports, in order. -/
def Operation.reported {α : Type} : Operation α → α → List ItemInfo
  | .listBucketInfo, infos => infos
  | .listObjectInfo _ _, infos => infos
  | .getItemInfo _, info => [info]
  | .getItemInfos _, infos => infos
  | .updateItems _, infos => infos
  | .composeObjects _ _ _, info => [info]
  | _, _ => []

end ObjectStorage
