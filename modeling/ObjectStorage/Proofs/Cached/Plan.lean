import Mathlib.Algebra.GroupWithZero.Nat
import ObjectStorage.Proofs.Cached.Calls
import ObjectStorage.Recorder

/-!
# What a call through a cache comes to

A call through a cache probes the cache first, and the findings decide what it
comes to: a reply, or one call of the delegate. `ItemCache.plan` takes that
decision without a delegate, and `Cached.run_eq_follow` says that every call
follows its plan. `ItemCache.plan_probed` and `ItemCache.plan_misses` say what the
probes do to the cache: they are counted, and what is lost is lost by age or for
room.
-/

namespace ObjectStorage

/-- What an operation comes to once a cache was probed for it: a reply, or a call of the delegate
whose answer is completed with the findings. -/
inductive Plan (α : Type) : Type 1 where
  | reply (answer : α)
  | ask {β : Type} (call : Operation β) (complete : β → α)

/-- The call that a plan makes of the delegate, if any. -/
def Plan.request {α : Type} : Plan α → Option Call
  | .reply _ => none
  | .ask call _ => some call.call

/-- The number of ids that a call looks up. -/
def Call.lookups : Call → Nat
  | .getItemInfo _ => 1
  | .getItemInfos ids => ids.length
  | _ => 0

namespace ItemCache

variable {α : Type} {cache before after last : ItemCache} {count more : Nat}

/-- What an operation comes to, and the cache once it was probed for it. -/
def plan (operation : Operation α) (cache : ItemCache) : Plan α × ItemCache :=
  match operation with
  | .getItemInfo id =>
    let probed := cache.probe id
    (match probed.1 with
      | some info => .reply info
      | none => .ask (.getItemInfo id) fun info => info, probed.2)
  | .getItemInfos ids =>
    let probed := cache.probeAll ids
    let places := ids.zip probed.1
    (if missing places = [] then .reply (places.filterMap (·.2))
      else .ask (.getItemInfos (missing places)) fun infos =>
        fillMisses places (alignInfos (missing places) infos), probed.2)
  | operation => (.ask operation fun answer => answer, cache)

/-- Says that a cache was probed so many times and not changed otherwise: each probe was counted,
and no entry was lost but by age or for room. -/
structure Probed (count : Nat) (before after : ItemCache) : Prop where
  policy : after.policy = before.policy
  losses : ∀ n, after.losses n = before.losses (n + count)
  counted : after.hits + after.misses = before.hits + before.misses + count
  within : after.Within before
  kept : ∀ id, (∀ n < count, id ∉ before.losses n) → after.entries[id]? = before.entries[id]?

/-- A cache that was not probed. -/
theorem Probed.refl (cache : ItemCache) : Probed 0 cache cache :=
  ⟨rfl, fun _ => rfl, rfl, .refl cache, fun _ _ => rfl⟩

/-- A cache that was probed and then probed again. -/
theorem Probed.trans (h : Probed count before after) (hlast : Probed more after last) :
    Probed (count + more) before last where
  policy := hlast.policy.trans h.policy
  losses n := by rw [hlast.losses, h.losses, Nat.add_assoc, Nat.add_comm more]
  counted := by rw [hlast.counted, h.counted, Nat.add_assoc]
  within := hlast.within.trans h.within
  kept id hkeep := by
    rw [hlast.kept, h.kept]
    · intro n hn
      exact hkeep n (by omega)
    · intro n hn
      rw [h.losses]
      exact hkeep _ (by omega)

/-- A probe is counted. -/
theorem probe_probed (id : ResourceId) (cache : ItemCache) : Probed 1 cache (cache.probe id).2 := by
  have hwithin : cache.elapse.Within cache := elapse_within
  have hkept : ∀ id, (∀ n < 1, id ∉ cache.losses n) →
      cache.elapse.entries[id]? = cache.entries[id]? := by
    intro id hkeep
    exact (getElem?_foldl_erase _ _).trans (if_neg (hkeep 0 Nat.one_pos))
  unfold probe
  dsimp only
  cases cache.elapse.entries[id]? with
  | some info => exact ⟨rfl, fun _ => rfl, Nat.add_right_comm .., hwithin, hkept⟩
  | none => exact ⟨rfl, fun _ => rfl, rfl, hwithin, hkept⟩

/-- A probe that finds nothing is a miss. -/
theorem probe_misses (id : ResourceId) (cache : ItemCache) :
    (cache.probe id).2.misses = cache.misses + (cache.probe id).1.isNone.toNat := by
  unfold probe
  dsimp only
  cases cache.elapse.entries[id]? <;> rfl

/-- Probes are counted. -/
theorem probeAll_probed (ids : List ResourceId) (cache : ItemCache) :
    Probed ids.length cache (cache.probeAll ids).2 := by
  induction ids generalizing cache with
  | nil => exact .refl cache
  | cons first rest ih =>
    rw [List.length_cons, Nat.add_comm]
    exact (probe_probed first cache).trans (ih _)

/-- There are as many misses as missing ids. -/
theorem probeAll_misses (ids : List ResourceId) (cache : ItemCache) :
    (cache.probeAll ids).2.misses =
      cache.misses + (missing (ids.zip (cache.probeAll ids).1)).length := by
  induction ids generalizing cache with
  | nil => rfl
  | cons first rest ih =>
    rw [probeAll, List.zip_cons_cons]
    dsimp only
    rw [ih, probe_misses]
    cases (cache.probe first).1 with
    | none => simp [missing, Nat.add_assoc, Nat.add_comm]
    | some info => simp [missing]

/-- For a plan the cache is probed once for each id that the operation looks up. -/
theorem plan_probed (operation : Operation α) (cache : ItemCache) :
    Probed operation.call.lookups cache (cache.plan operation).2 := by
  cases operation
  case getItemInfo id => exact probe_probed id cache
  case getItemInfos ids => exact probeAll_probed ids cache
  all_goals exact .refl cache

/-- A plan asks for as many ids as were missed. -/
theorem plan_misses (operation : Operation α) (cache : ItemCache) :
    (cache.plan operation).2.misses =
      cache.misses + ((cache.plan operation).1.request.toList.map Call.lookups).sum := by
  cases operation
  case getItemInfo id =>
    unfold plan
    dsimp only
    rw [probe_misses]
    cases (cache.probe id).1 <;> rfl
  case getItemInfos ids =>
    unfold plan
    dsimp only
    rw [probeAll_misses]
    split
    · next hnone => rw [hnone]; rfl
    · rfl
  all_goals rfl

/-- What is not a lookup is passed on as it is. -/
theorem plan_of_not_isLookup {operation : Operation α} (h : operation.isLookup = false)
    (cache : ItemCache) : cache.plan operation = (.ask operation fun answer => answer, cache) := by
  cases operation <;> first | rfl | cases h

end ItemCache

namespace Cached

variable {σ α : Type}

/-- Replies, or makes the call that a plan asks for. -/
def follow (delegate : Backend σ) (plan : Plan α) (state : Cached σ) : Outcome α × Cached σ :=
  match plan with
  | .reply answer => (.ok answer, state)
  | .ask call complete =>
    let result := state.forward delegate call
    (result.1.map complete, result.2)

/-- An outcome mapped by the identity. -/
theorem outcome_map_id (outcome : Outcome α) : outcome.map (fun answer => answer) = outcome := by
  cases outcome <;> rfl

/-- Every call through a cache follows its plan. -/
theorem run_eq_follow (delegate : Backend σ) (operation : Operation α) (state : Cached σ) :
    state.run delegate operation =
      follow delegate (state.cache.plan operation).1
        ⟨(state.cache.plan operation).2, state.delegate⟩ := by
  cases operation
  case getItemInfo id =>
    unfold run getItemInfo ItemCache.plan
    dsimp only
    rcases state.cache.probe id with ⟨_ | info, probed⟩
    · exact Prod.ext (outcome_map_id _).symm rfl
    · rfl
  case getItemInfos ids =>
    rw [run, getItemInfos_eq]
    unfold ItemCache.plan
    dsimp only
    split <;> rfl
  all_goals exact Prod.ext (outcome_map_id _).symm rfl

end Cached

end ObjectStorage
