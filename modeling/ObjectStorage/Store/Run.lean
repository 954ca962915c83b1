import ObjectStorage.Store.Change
import ObjectStorage.Store.Listing

/-!
# The store as a backend

`Store.run` carries out one operation on a store. Arguments that can be judged
by themselves are checked before the lock is taken, so that their errors are
reported by a closed store too.
-/

namespace ObjectStorage

namespace Store

/-- Goes on with a call when its arguments are good in themselves. -/
def checked {α : Type} (store : Store) (check : Except Error Unit)
    (call : Store → Outcome α × Store) : Outcome α × Store :=
  match check with
  | .error cause => (.failed cause, store)
  | .ok () => call store

/-- Carries out one operation. -/
def run {α : Type} (operation : Operation α) (store : Store) : Outcome α × Store :=
  match operation with
  | .createBucket bucketName options =>
    store.checked (checkBucketName bucketName) (·.write (createBucket bucketName options))
  | .createEmptyObject id options => store.write (createEmptyObject id options)
  | .createEmptyObjects ids options => store.write (createEmptyObjects options ids)
  | .writeObject id content options => store.write (writeObject id content options)
  | .readObject id => store.read fun buckets => do return (← buckets.requireObject id).content
  | .copy sourceBucket sources targetBucket targets =>
    store.checked (checkCopy sources targets)
      (·.write (copy sourceBucket sources targetBucket targets))
  | .deleteBuckets bucketNames => store.write (deleteBuckets bucketNames)
  | .deleteObjects ids => store.write (deleteObjects ids)
  | .listBucketNames => store.read fun buckets => .ok buckets.keys
  | .listBucketInfo => store.read fun buckets => .ok (buckets.toList.map (·.2.info))
  | .listObjectNames bucketName options =>
    store.read fun buckets => .ok ((buckets.entries bucketName options).map (·.name))
  | .listObjectInfo bucketName options =>
    store.read fun buckets => .ok ((buckets.entries bucketName options).map (·.info bucketName))
  | .getItemInfo id => store.read fun buckets => .ok (buckets.lookup id)
  | .getItemInfos ids => store.read fun buckets => .ok (ids.map buckets.lookup)
  | .updateItems updates => store.write (updateItems updates)
  | .composeObjects sources target options =>
    store.checked (checkCompose sources target) (·.write (composeObjects sources target options))
  | .waitForBucketEmpty bucketName =>
    store.read fun buckets => do
      if (← buckets.require bucketName).objects.isEmpty then .ok ()
      else .error (StorageError.bucketNotEmpty bucketName)
  | .close => (.ok (), { store with closed := true })

/-- The store answers operations by itself. -/
def backend : Backend Store := ⟨run⟩

end Store

end ObjectStorage
