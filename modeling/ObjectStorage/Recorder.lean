import ObjectStorage.Operation

/-!
# Recording backends

A `Recorder` keeps a list of the calls that reach it and passes them on. When a
failure is armed, the next call is recorded and fails with it instead.
-/

namespace ObjectStorage

/-- What is kept of a call: its kind and the names it is about. -/
inductive Call where
  | createBucket (bucketName : String)
  | createEmptyObject (id : ResourceId)
  | createEmptyObjects (ids : List ResourceId)
  | writeObject (id : ResourceId)
  | readObject (id : ResourceId)
  | copy (sourceBucket : String) (sources : List String) (targetBucket : String)
      (targets : List String)
  | deleteBuckets (bucketNames : List String)
  | deleteObjects (ids : List ResourceId)
  | listBucketNames
  | listBucketInfo
  | listObjectNames (bucketName : String) (options : ListOptions)
  | listObjectInfo (bucketName : String) (options : ListOptions)
  | getItemInfo (id : ResourceId)
  | getItemInfos (ids : List ResourceId)
  | updateItems (ids : List ResourceId)
  | composeObjects (sources : List ResourceId) (target : ResourceId)
  | waitForBucketEmpty (bucketName : String)
  | close
deriving DecidableEq

/-- What a recorder keeps of an operation. -/
def Operation.call {α : Type} : Operation α → Call
  | .createBucket bucketName _ => .createBucket bucketName
  | .createEmptyObject id _ => .createEmptyObject id
  | .createEmptyObjects ids _ => .createEmptyObjects ids
  | .writeObject id _ _ => .writeObject id
  | .readObject id => .readObject id
  | .copy sourceBucket sources targetBucket targets =>
    .copy sourceBucket sources targetBucket targets
  | .deleteBuckets bucketNames => .deleteBuckets bucketNames
  | .deleteObjects ids => .deleteObjects ids
  | .listBucketNames => .listBucketNames
  | .listBucketInfo => .listBucketInfo
  | .listObjectNames bucketName options => .listObjectNames bucketName options
  | .listObjectInfo bucketName options => .listObjectInfo bucketName options
  | .getItemInfo id => .getItemInfo id
  | .getItemInfos ids => .getItemInfos ids
  | .updateItems updates => .updateItems (updates.map (·.resourceId))
  | .composeObjects sources target _ => .composeObjects sources target
  | .waitForBucketEmpty bucketName => .waitForBucketEmpty bucketName
  | .close => .close

/-- A backend's state, the calls that reached it, oldest first, and the failure that is armed. -/
structure Recorder (σ : Type) where
  inner : σ
  calls : List Call := []
  nextFailure : Option StorageError := none

namespace Recorder

variable {σ : Type}

/-- Arms a failure for the next call, in place of the one that was armed. -/
def failNext (error : StorageError) (recorder : Recorder σ) : Recorder σ :=
  { recorder with nextFailure := some error }

/-- Forgets the recorded calls. -/
def clearCalls (recorder : Recorder σ) : Recorder σ :=
  { recorder with calls := [] }

/-- Records a call, and fails it or passes it on. -/
def run (inner : Backend σ) {α : Type} (operation : Operation α) (recorder : Recorder σ) :
    Outcome α × Recorder σ :=
  let calls := recorder.calls ++ [operation.call]
  match recorder.nextFailure with
  | some error => (.failed error, { recorder with calls, nextFailure := none })
  | none =>
    let result := inner.run operation recorder.inner
    (result.1, { recorder with inner := result.2, calls })

/-- A backend whose calls are recorded. -/
def backend (inner : Backend σ) : Backend (Recorder σ) := ⟨run inner⟩

end Recorder

end ObjectStorage
