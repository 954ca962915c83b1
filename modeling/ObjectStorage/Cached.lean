import ObjectStorage.Config
import ObjectStorage.Operation

/-!
# Cached backends

A `Cached` backend keeps an item cache in front of a delegate. Calls about
content, creation and names go straight through. Calls that report item infos
fill the cache. Deletions, copies and closing drop what they affect, once the
delegate has carried them out. Lookups are answered from the cache, and only
what is missing is asked of the delegate. A failed call leaves the entries of
the cache as they were.
-/

namespace ObjectStorage

/-- An item cache and the state of the delegate behind it. -/
structure Cached (σ : Type) where
  cache : ItemCache
  delegate : σ

namespace ItemCache

/-- The cache after the delegate has carried out an operation with this answer. -/
def settle {α : Type} (cache : ItemCache) (operation : Operation α) (answer : α) : ItemCache :=
  match operation with
  | .copy _ _ targetBucket targets =>
    targets.foldl (fun cache name => cache.invalidate (.object targetBucket name)) cache
  | .deleteBuckets bucketNames =>
    bucketNames.foldl (fun cache name => cache.invalidateBucket name) cache
  | .deleteObjects ids => ids.foldl (fun cache id => cache.invalidate id) cache
  | .close => cache.invalidateAll
  | operation => cache.populate (operation.reported answer)

end ItemCache

/-- Lines infos up with the ids that were asked for. As many infos as ids are taken in order; else
each id takes the last info about it, and is reported as not found when there is none. -/
def alignInfos (ids : List ResourceId) (infos : List ItemInfo) : List ItemInfo :=
  if infos.length = ids.length then infos
  else ids.map fun id => (infos.reverse.find? (·.resourceId = id)).getD (.notFound id)

/-- Fills the places that have no info yet with infos, in order. -/
def fillMisses : List (ResourceId × Option ItemInfo) → List ItemInfo → List ItemInfo
  | [], _ => []
  | (_, some hit) :: rest, infos => hit :: fillMisses rest infos
  | (_, none) :: rest, info :: infos => info :: fillMisses rest infos
  | (id, none) :: rest, [] => .notFound id :: fillMisses rest []

namespace Cached

variable {σ : Type}

/-- A delegate behind an empty cache with these settings, which have to be valid. -/
def ofConfig (config : CacheConfig) (delegate : σ) : Outcome (Cached σ) :=
  config.policy.map fun policy => ⟨{ policy }, delegate⟩

/-- Passes an operation on to the delegate, and settles the cache when it was carried out. -/
def forward (delegate : Backend σ) {α : Type} (operation : Operation α) (state : Cached σ) :
    Outcome α × Cached σ :=
  match delegate.run operation state.delegate with
  | (.ok answer, after) => (.ok answer, ⟨state.cache.settle operation answer, after⟩)
  | (.error failure, after) => (.error failure, ⟨state.cache, after⟩)

/-- Looks one id up. -/
def getItemInfo (delegate : Backend σ) (id : ResourceId) (state : Cached σ) :
    Outcome ItemInfo × Cached σ :=
  match state.cache.probe id with
  | (some info, cache) => (.ok info, { state with cache })
  | (none, cache) => { state with cache }.forward delegate (.getItemInfo id)

/-- Looks several ids up: all are probed first, and those that are missing are asked for in one
call. -/
def getItemInfos (delegate : Backend σ) (ids : List ResourceId) (state : Cached σ) :
    Outcome (List ItemInfo) × Cached σ :=
  let probed := state.cache.probeAll ids
  let places := ids.zip probed.1
  let misses := (places.filter (·.2.isNone)).map (·.1)
  if misses = [] then (.ok (places.filterMap (·.2)), { state with cache := probed.2 })
  else
    match { state with cache := probed.2 }.forward delegate (.getItemInfos misses) with
    | (.ok infos, after) => (.ok (fillMisses places (alignInfos misses infos)), after)
    | (.error failure, after) => (.error failure, after)

/-- Forgets everything without closing the delegate. -/
def invalidateCache (state : Cached σ) : Cached σ :=
  { state with cache := state.cache.invalidateAll }

/-- Carries out one operation. -/
def run (delegate : Backend σ) {α : Type} (operation : Operation α) (state : Cached σ) :
    Outcome α × Cached σ :=
  match operation with
  | .getItemInfo id => state.getItemInfo delegate id
  | .getItemInfos ids => state.getItemInfos delegate ids
  | operation => state.forward delegate operation

/-- A backend behind an item cache. -/
def backend (delegate : Backend σ) : Backend (Cached σ) := ⟨run delegate⟩

end Cached

end ObjectStorage
