import ObjectStorage.Bridge
import ObjectStorage.Cached
import ObjectStorage.Recorder
import ObjectStorage.Store.Run

/-!
# The fixture

Two buckets with the same two objects in each, for trying a stack of backends
out. `lookUpTwice` shows what such a stack does: the second of two equal lookups
is answered from the cache.
-/

namespace ObjectStorage.Fixture

/-- The names of the buckets. -/
def bucketNames : List String := ["alpha", "beta"]

/-- The names of the objects in each bucket. -/
def objectNames : List String := ["foo/a", "foo/b"]

/-- The metadata of each object. -/
def metadata : Metadata :=
  (∅ : Metadata).insert "test_key" [2]

/-- The operations that build the fixture in an empty store. -/
def setUp : List (Operation Unit) :=
  bucketNames.flatMap fun bucketName => [
    .createBucket bucketName ⟨some "us-central1", some "STANDARD"⟩,
    .createEmptyObjects (objectNames.map (.object bucketName))
      { contentType := some "text/plain", metadata }]

/-- A recorded store that holds the fixture, with no calls recorded yet. -/
def populated (clock : Clock) : Recorder Store :=
  Recorder.clearCalls <| setUp.foldl
    (fun state operation => (Recorder.run Store.backend operation state).2)
    { inner := Store.empty clock }

/-- How a cache in front of a recorded store carries out operations. -/
def backend : Backend (Cached (Recorder Store)) :=
  Cached.backend (Recorder.backend Store.backend)

/-- The fixture behind a cache with these settings; it panics when they are not valid. -/
def cached (config : CacheConfig) : Outcome (Cached (Recorder Store)) :=
  match Cached.ofConfig config (populated (.fixed .epoch)) with
  | .error (.error (.config error)) => .panicked (.unusableFixture error)
  | outcome => outcome

/-- What two equal lookups through a bridge give, and the stack after them. -/
def lookUpTwice (ids : List ResourceId) (state : Cached (Recorder Store)) :
    Outcome (List ItemInfo × List ItemInfo) × Cached (Recorder Store) :=
  match Bridge.run Panic.message backend (.getItemInfos ids) state with
  | (.error failure, state) => (.error failure, state)
  | (.ok first, state) =>
    let second := Bridge.run Panic.message backend (.getItemInfos ids) state
    (second.1.map fun infos => (first, infos), second.2)

end ObjectStorage.Fixture
