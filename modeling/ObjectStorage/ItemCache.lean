import ObjectStorage.Duration
import ObjectStorage.Error
import ObjectStorage.ItemInfo

/-!
# The item cache

An `ItemCache` remembers item infos by id. A plain cache is a map; a bounded
cache has a lifetime for its entries and a greatest number of them, and reports
its hits and misses. `ItemCache.entries` is the view: what is remembered. Which
entries a cache drops by age or to make room is not determined by its calls, so
the losses that are still to come are part of its state.
-/

namespace ObjectStorage

/-- What a cache may keep. -/
inductive CachePolicy where
  | plain
  | bounded (lifetime : Duration) (capacity : Nat)
deriving DecidableEq

namespace CachePolicy

/-- The longest lifetime of an entry. -/
def maxLifetime : Duration := .ofYears 1000

/-- A bounded policy; one with too long a lifetime cannot be set up. -/
def limited (lifetime : Duration) (capacity : Nat) : Except Panic CachePolicy :=
  if lifetime ≤ maxLifetime then .ok (.bounded lifetime capacity) else .error .lifetimeTooLong

/-- Says whether one more entry can be kept beside `size` others. -/
def hasRoom (policy : CachePolicy) (size : Nat) : Bool :=
  match policy with
  | .plain => true
  | .bounded _ capacity => size < capacity

/-- Says whether an entry is ever seen again: with no lifetime at all it is not. -/
def retains (policy : CachePolicy) : Bool :=
  match policy with
  | .plain => true
  | .bounded lifetime _ => lifetime ≠ .zero

end CachePolicy

/-- How much a cache was used, and how many entries it has. -/
structure CacheStats where
  hits : Nat := 0
  misses : Nat := 0
  entryCount : Nat := 0
deriving DecidableEq

/-- The part of the probes that found an entry; none when there were no probes. -/
def CacheStats.hitRate (stats : CacheStats) : Float :=
  let total := stats.hits + stats.misses
  if total = 0 then 0.0 else stats.hits.toUInt64.toFloat / total.toUInt64.toFloat

/-- The ids that are lost before each access that is still to come, the next one first. -/
abbrev Losses := Nat → List ResourceId

/-- The course of a cache that loses nothing. -/
def Losses.none : Losses := fun _ => []

/-- Item infos by id, the losses that are still to come, and the probes that were counted. -/
structure ItemCache where
  policy : CachePolicy
  entries : Std.ExtTreeMap ResourceId ItemInfo := ∅
  losses : Losses := .none
  hits : Nat := 0
  misses : Nat := 0

namespace ItemCache

/-- The cache as the next access finds it. -/
def elapse (cache : ItemCache) : ItemCache :=
  { cache with
    entries := (cache.losses 0).foldl (·.erase ·) cache.entries
    losses := fun n => cache.losses (n + 1) }

/-- Remembers an info under an id. A known id takes the new info; a new id is kept if there is
room for it. What is remembered under an id is never older than the last info put there. -/
def put (id : ResourceId) (info : ItemInfo) (cache : ItemCache) : ItemCache :=
  let found := cache.elapse
  if found.policy.retains && (id ∈ found.entries || found.policy.hasRoom found.entries.size) then
    { found with entries := found.entries.insert id info }
  else { found with entries := found.entries.erase id }

/-- Looks for what is remembered under an id, and counts whether it is there. -/
def probe (id : ResourceId) (cache : ItemCache) : Option ItemInfo × ItemCache :=
  let found := cache.elapse
  match found.entries[id]? with
  | some info => (some info, { found with hits := found.hits + 1 })
  | none => (none, { found with misses := found.misses + 1 })

/-- Looks for ids one after another. -/
def probeAll : List ResourceId → ItemCache → List (Option ItemInfo) × ItemCache
  | [], cache => ([], cache)
  | id :: rest, cache =>
    let first := cache.probe id
    let others := probeAll rest first.2
    (first.1 :: others.1, others.2)

/-- Forgets what is remembered under an id. -/
def invalidate (id : ResourceId) (cache : ItemCache) : ItemCache :=
  { cache with entries := cache.entries.erase id }

/-- Forgets everything. -/
def invalidateAll (cache : ItemCache) : ItemCache :=
  { cache with entries := ∅ }

/-- Forgets a bucket and everything inside it. -/
def invalidateBucket (bucketName : String) (cache : ItemCache) : ItemCache :=
  { cache with entries := cache.entries.filter fun id _ => !id.belongsTo bucketName }

/-- Remembers infos that were reported, in order, each under its own id. What does not exist, and
the root, is not remembered. -/
def populate (infos : List ItemInfo) (cache : ItemCache) : ItemCache :=
  infos.foldl (fun cache info =>
    if info.found && !info.resourceId.isRoot then cache.put info.resourceId info else cache) cache

/-- How much the cache was used; a plain cache does not report its probes. -/
def stats (cache : ItemCache) : CacheStats :=
  match cache.policy with
  | .plain => { entryCount := cache.entries.size }
  | .bounded _ _ =>
    { hits := cache.hits, misses := cache.misses, entryCount := cache.entries.size }

end ItemCache

end ObjectStorage
