import ObjectStorage.Naming
import ObjectStorage.Store

/-!
# Changes to a store

Each change checks its arguments against the buckets before it reads the clock,
and reads the clock before it changes anything. A batch goes on until its first
failure, and what it changed before stays changed.
-/

namespace ObjectStorage

/-- The name of the object that an id names, or the error that it names none. -/
def ResourceId.requireObjectName (id : ResourceId) : Except Error String :=
  match id.objectName with
  | some name => .ok name
  | none => .error (StorageError.invalidArgument s!"{id} does not name an object")

/-- Checks that an object can be stored at an id, and gives the generation of what lies there:
zero when nothing does. -/
def Buckets.admit (buckets : Buckets) (id : ResourceId) (overwrite : Bool) : Except Error Int := do
  let name ← id.requireObjectName
  checkObjectName name
  let bucket ← buckets.require id.bucketName
  match bucket.objects[name]? with
  | none => .ok 0
  | some existing =>
    if overwrite then .ok existing.info.contentGeneration
    else .error (StorageError.alreadyExists id)

/-- An object as it is first stored over generation `previous` of the same name. -/
def StoredObject.version (id : ResourceId) (content : Bytes) (contentType : Option String)
    (metadata : Metadata) (previous : Int) (now : Timestamp) : StoredObject where
  info := { ItemInfo.object id now now content.length contentType metadata with
    contentGeneration := previous + 1
    contentHash := some (Bytes.sha256 content) }
  content := content

/-- Says that an empty object with the asked attributes is already there and may be kept. -/
def ObjectOptions.accepts (options : ObjectOptions) (existing? : Option StoredObject) : Bool :=
  options.ensureMatch && !options.overwrite && existing?.any fun existing =>
    existing.content.isEmpty && existing.info.contentType = options.contentType &&
      existing.info.metadata = options.metadata

namespace Store

/-- Makes a bucket. -/
def createBucket (bucketName : String) (options : BucketOptions) (store : Store) :
    Outcome Unit × Store :=
  if bucketName ∈ store.buckets then
    (.failed (StorageError.alreadyExists (.bucket bucketName)), store)
  else
    store.stamp fun now store =>
      let info := ItemInfo.bucket bucketName now options.location options.storageClass
      (.ok (), { store with buckets := store.buckets.insert bucketName { info } })

/-- Stores an object, and gives what is reported about it. -/
def storeObject (id : ResourceId) (content : Bytes) (contentType : Option String)
    (metadata : Metadata) (overwrite : Bool) (store : Store) : Outcome ItemInfo × Store :=
  match store.buckets.admit id overwrite with
  | .error cause => (.failed cause, store)
  | .ok previous =>
    store.stamp fun now store =>
      let object := StoredObject.version id content contentType metadata previous now
      (.ok object.info, { store with buckets := store.buckets.put id object })

/-- Stores an object without an answer. -/
def writeObject (id : ResourceId) (content : Bytes) (options : ObjectOptions) (store : Store) :
    Outcome Unit × Store :=
  let result := store.storeObject id content options.contentType options.metadata options.overwrite
  (result.1.map fun _ => (), result.2)

/-- Stores an empty object, unless one with the asked attributes may be kept. -/
def createEmptyObject (id : ResourceId) (options : ObjectOptions) (store : Store) :
    Outcome Unit × Store :=
  if options.accepts (store.buckets.object? id) then (.ok (), store)
  else store.writeObject id [] options

/-- Stores empty objects one after another. -/
def createEmptyObjects (options : ObjectOptions) :
    List ResourceId → Store → Outcome Unit × Store
  | [], store => (.ok (), store)
  | id :: rest, store =>
    match store.createEmptyObject id options with
    | (.ok (), store) => createEmptyObjects options rest store
    | (.error failure, store) => (.error failure, store)

/-- Says whether a copy has as many targets as sources. -/
def checkCopy (sources targets : List String) : Except Error Unit :=
  if sources.length = targets.length then .ok ()
  else
    .error (StorageError.invalidArgument
      (s!"copy needs one destination per source, got {sources.length} sources and " ++
        s!"{targets.length} destinations"))

/-- Collects what a copy stores: each target with the object that its source names. -/
def stageCopies (bucket : StoredBucket) (sourceBucket targetBucket : String) :
    List (String × String) → Except Error (List (ResourceId × StoredObject))
  | [] => .ok []
  | (source, target) :: rest =>
    if sourceBucket = targetBucket ∧ source = target then
      .error (StorageError.invalidArgument
        s!"cannot copy {ResourceId.object sourceBucket source} onto itself")
    else
      match bucket.objects[source]? with
      | none => .error (StorageError.notFound (.object sourceBucket source))
      | some object =>
        (stageCopies bucket sourceBucket targetBucket rest).map
          ((.object targetBucket target, object) :: ·)

/-- Stores copies one after another, over what lies at their targets. -/
def storeCopies : List (ResourceId × StoredObject) → Store → Outcome Unit × Store
  | [], store => (.ok (), store)
  | (id, object) :: rest, store =>
    match store.storeObject id object.content object.info.contentType object.info.metadata true with
    | (.ok _, store) => storeCopies rest store
    | (.error failure, store) => (.error failure, store)

/-- Copies objects pairwise: all sources are read before the first target is stored. -/
def copy (sourceBucket : String) (sources : List String) (targetBucket : String)
    (targets : List String) (store : Store) : Outcome Unit × Store :=
  let staged : Except Error (List (ResourceId × StoredObject)) := do
    discard <| store.buckets.require targetBucket
    let bucket ← store.buckets.require sourceBucket
    stageCopies bucket sourceBucket targetBucket (sources.zip targets)
  match staged with
  | .error cause => (.failed cause, store)
  | .ok copies => store.storeCopies copies

/-- Removes buckets with their objects, when all of them exist. -/
def deleteBuckets (bucketNames : List String) (store : Store) : Outcome Unit × Store :=
  match bucketNames.forM fun name => discard (store.buckets.require name) with
  | .error cause => (.failed cause, store)
  | .ok () => (.ok (), { store with buckets := bucketNames.foldl (·.erase ·) store.buckets })

/-- Removes objects, when all of them exist. -/
def deleteObjects (ids : List ResourceId) (store : Store) : Outcome Unit × Store :=
  match ids.forM fun id => discard (store.buckets.requireObject id) with
  | .error cause => (.failed cause, store)
  | .ok () => (.ok (), { store with buckets := ids.foldl Buckets.remove store.buckets })

/-- Patches the metadata of objects one after another, with one time for all, and gives what is
reported about each right after its patch. -/
def patchItems (now : Timestamp) : List ItemUpdate → Store → Outcome (List ItemInfo) × Store
  | [], store => (.ok [], store)
  | update :: rest, store =>
    match store.buckets.requireObject update.resourceId with
    | .error cause => (.failed cause, store)
    | .ok object =>
      let info := { object.info with
        metadata := object.info.metadata.patch update.metadata
        metaGeneration := object.info.metaGeneration + 1
        modificationTime := some now }
      let result := patchItems now rest
        { store with buckets := store.buckets.put update.resourceId { object with info } }
      (result.1.map (info :: ·), result.2)

/-- Patches the metadata of objects, when all of them exist. -/
def updateItems (updates : List ItemUpdate) (store : Store) : Outcome (List ItemInfo) × Store :=
  match updates.forM fun update => discard (store.buckets.requireObject update.resourceId) with
  | .error cause => (.failed cause, store)
  | .ok () => store.stamp fun now store => store.patchItems now updates

/-- The greatest number of sources of a composition. -/
def maxComposeSources : Nat := 32

/-- Checks the arguments of a composition: the number of its sources, that its target names an
object, and that its sources lie in the bucket of the target. -/
def checkCompose (sources : List ResourceId) (target : ResourceId) : Except Error Unit :=
  if sources.isEmpty || sources.length > maxComposeSources then
    .error (StorageError.invalidArgument
      s!"compose takes 1 to {maxComposeSources} sources, got {sources.length}")
  else
    match target.requireObjectName, sources.find? (·.bucketName ≠ target.bucketName) with
    | .error cause, _ => .error cause
    | .ok _, some stray =>
      .error (StorageError.invalidArgument
        s!"compose source {stray} is not in bucket {target.bucketName}")
    | .ok _, none => .ok ()

/-- Stores the contents of the sources, one behind the other, over what lies at the target. -/
def composeObjects (sources : List ResourceId) (target : ResourceId) (options : ComposeOptions)
    (store : Store) : Outcome ItemInfo × Store :=
  match sources.mapM store.buckets.requireObject with
  | .error cause => (.failed cause, store)
  | .ok objects =>
    store.storeObject target (objects.flatMap (·.content)) options.contentType options.metadata true

end Store

end ObjectStorage
