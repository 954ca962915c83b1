import ObjectStorage.Store.Run

/-!
# Dumps

A dump shows everything that a store holds, as its own operations report it.
-/

namespace ObjectStorage

/-- The contents of a bucket: its info, and the info and content of its objects. -/
structure BucketDump where
  info : ItemInfo
  objects : List (ItemInfo × Bytes)

/-- Everything in a store, through its own operations, or the first failure. -/
def Store.dump (store : Store) : Outcome (List BucketDump) := do
  let buckets ← (store.run .listBucketInfo).1
  buckets.mapM fun info => do
    let objects ← (store.run (.listObjectInfo info.resourceId.bucketName {})).1
    return ⟨info, ← objects.mapM fun object => do
      return (object, ← (store.run (.readObject object.resourceId)).1)⟩

end ObjectStorage
