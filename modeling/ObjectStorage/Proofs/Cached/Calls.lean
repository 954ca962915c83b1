import ObjectStorage.Proofs.Cached.Entries
import ObjectStorage.Proofs.Store.Evolution

/-!
# Calls through a cache

Whatever the delegate is, a call through a cache loses entries of the cache and
then either is answered from it or passes an operation on. `Cached.run_passes`
says so of the state that a call leaves, `Cached.Passes.entries` says where the
entries of that state stem from, and `Cached.getItemInfo_cases` and
`Cached.getItemInfos_cases` add what a lookup is answered.
-/

namespace ObjectStorage

/-- Says that an operation looks ids up. -/
def Operation.isLookup {α : Type} : Operation α → Bool
  | .getItemInfo _ | .getItemInfos _ => true
  | _ => false

/-- A lookup only reads. -/
theorem Operation.isRead_of_isLookup {α : Type} {operation : Operation α}
    (h : operation.isLookup = true) : operation.isRead = true := by
  cases operation <;> first | rfl | cases h

/-- What a cached backend asks of its delegate for an operation: the operation itself, or, for a
lookup of several ids, those that it does not know. -/
inductive Operation.Asks : {α β : Type} → Operation α → Operation β → Prop where
  | self {α : Type} (operation : Operation α) : Asks operation operation
  | misses (ids missing : List ResourceId) : Asks (.getItemInfos ids) (.getItemInfos missing)

/-- What probes for these ids found in a cache, in order. -/
structure ItemCache.Found (cache : ItemCache) (ids : List ResourceId)
    (places : List (ResourceId × Option ItemInfo)) : Prop where
  ids_eq : places.map (·.1) = ids
  entry : ∀ {id info}, (id, some info) ∈ places → cache.entries[id]? = some info
  missed : places.Pairwise fun earlier later =>
    earlier.1 = later.1 → earlier.2 = none → later.2 = none

/-- Probes find entries. -/
theorem ItemCache.found_probeAll (ids : List ResourceId) (cache : ItemCache) :
    cache.Found ids (ids.zip (probeAll ids cache).1) where
  ids_eq := List.map_fst_zip (Nat.le_of_eq length_probeAll.symm)
  entry := probeAll_eq_some
  missed := probeAll_pairwise

/-- The ids for which nothing was found. -/
def missing (places : List (ResourceId × Option ItemInfo)) : List ResourceId :=
  (places.filter (·.2.isNone)).map (·.1)

/-- The missing ids are those of the places where nothing was found. -/
theorem mem_missing {places : List (ResourceId × Option ItemInfo)} {id : ResourceId} :
    id ∈ missing places ↔ (id, none) ∈ places := by
  simp [missing]

/-- When some ids are probed and none is missing, the cache has an entry. -/
theorem ItemCache.Found.exists_entry {cache : ItemCache} {ids : List ResourceId}
    {places : List (ResourceId × Option ItemInfo)} (h : cache.Found ids places)
    (hnone : missing places = []) (hids : ids ≠ []) :
    ∃ (id : ResourceId) (info : ItemInfo), cache.entries[id]? = some info := by
  obtain ⟨rfl, hentry, -⟩ := h
  cases places with
  | nil => exact (hids rfl).elim
  | cons place rest =>
    obtain ⟨id, slot⟩ := place
    cases slot with
    | none => simp [missing] at hnone
    | some info => exact ⟨id, info, hentry (.head _)⟩

/-- As many infos as ids are lined up with them in order. -/
theorem alignInfos_map (f : ResourceId → ItemInfo) (ids : List ResourceId) :
    alignInfos ids (ids.map f) = ids.map f :=
  if_pos (List.length_map f)

/-- When nothing is missing, the findings are the answer. -/
theorem hits_map (f : ResourceId → ItemInfo) {places : List (ResourceId × Option ItemInfo)}
    (h : missing places = []) :
    places.filterMap (·.2) = places.map fun place => place.2.getD (f place.1) := by
  induction places with
  | nil => rfl
  | cons place rest ih =>
    obtain ⟨id, slot⟩ := place
    cases slot with
    | none => simp [missing] at h
    | some info =>
      have hrest : missing rest = [] := by simpa [missing] using h
      exact congrArg (info :: ·) (ih hrest)

/-- The missing places are filled with what was asked for them. -/
theorem fillMisses_map (f : ResourceId → ItemInfo) (places : List (ResourceId × Option ItemInfo)) :
    fillMisses places ((missing places).map f) =
      places.map fun place => place.2.getD (f place.1) := by
  induction places with
  | nil => rfl
  | cons place rest ih =>
    obtain ⟨id, slot⟩ := place
    cases slot with
    | none => exact congrArg (f id :: ·) ih
    | some info => exact congrArg (info :: ·) ih

namespace Cached

variable {σ α : Type} {delegate : Backend σ} {operation : Operation α} {state after : Cached σ}
  {cache : ItemCache} {before last : σ} {answer : α} {id : ResourceId} {info : ItemInfo}

/-- An operation that the delegate carries out settles the cache. -/
theorem forward_ok (h : delegate.run operation before = (.ok answer, last)) :
    forward delegate operation ⟨cache, before⟩ =
      (.ok answer, ⟨cache.settle operation answer, last⟩) := by
  rw [forward, h]

/-- An operation that fails leaves the cache alone. -/
theorem forward_error {failure : Failure}
    (h : delegate.run operation before = (.error failure, last)) :
    forward delegate operation ⟨cache, before⟩ = (.error failure, ⟨cache, last⟩) := by
  rw [forward, h]

/-- An operation that is passed on is answered by the delegate. -/
theorem forward_fst :
    (state.forward delegate operation).1 = (delegate.run operation state.delegate).1 := by
  unfold forward
  split <;> next h => rw [h]

/-- An operation that is passed on leaves the delegate as it does by itself. -/
theorem forward_delegate :
    (state.forward delegate operation).2.delegate =
      (delegate.run operation state.delegate).2 := by
  unfold forward
  split <;> next h => rw [h]

/-- A lookup of one id is answered with an entry, or by the delegate. -/
theorem getItemInfo_cases (delegate : Backend σ) (id : ResourceId) (state : Cached σ) :
    ∃ cache : ItemCache, cache.Within state.cache ∧
      ((∃ info, state.cache.entries[id]? = some info ∧
          state.getItemInfo delegate id = (.ok info, ⟨cache, state.delegate⟩)) ∨
        cache.entries[id]? = none ∧ state.getItemInfo delegate id =
          forward delegate (.getItemInfo id) ⟨cache, state.delegate⟩) := by
  have hwithin : (state.cache.probe id).2.Within state.cache := ItemCache.probe_within
  unfold getItemInfo
  split
  · next info cache hprobe =>
    rw [hprobe] at hwithin
    exact ⟨cache, hwithin, .inl ⟨info, ItemCache.probe_eq_some (congrArg (·.1) hprobe), rfl⟩⟩
  · next cache hprobe =>
    rw [hprobe] at hwithin
    have hmissed := ItemCache.probe_eq_none (congrArg (·.1) hprobe)
    rw [hprobe] at hmissed
    exact ⟨cache, hwithin, .inr ⟨hmissed, rfl⟩⟩

/-- A lookup of several ids probes them, and is answered with the findings when nothing is missing.
What is missing is asked of the delegate in one call. -/
theorem getItemInfos_eq (delegate : Backend σ) (ids : List ResourceId) (state : Cached σ) :
    state.getItemInfos delegate ids =
      let probed := state.cache.probeAll ids
      let places := ids.zip probed.1
      let result := forward delegate (.getItemInfos (missing places)) ⟨probed.2, state.delegate⟩
      if missing places = [] then (.ok (places.filterMap (·.2)), ⟨probed.2, state.delegate⟩)
      else
        (result.1.map fun infos => fillMisses places (alignInfos (missing places) infos),
          result.2) := by
  unfold getItemInfos
  dsimp only [missing]
  refine ite_congr rfl (fun _ => rfl) ?_
  intro hsome
  split <;> next hforward => rw [hforward]; rfl

/-- A lookup of several ids is answered with entries, if all are found, or else by the delegate for
those that are missing. -/
theorem getItemInfos_cases (delegate : Backend σ) (ids : List ResourceId) (state : Cached σ) :
    ∃ (cache : ItemCache) (places : List (ResourceId × Option ItemInfo)),
      cache.Within state.cache ∧ state.cache.Found ids places ∧
      (∀ {id}, (id, none) ∈ places → cache.entries[id]? = none) ∧
      (missing places = [] ∧ state.getItemInfos delegate ids =
          (.ok (places.filterMap (·.2)), ⟨cache, state.delegate⟩) ∨
        missing places ≠ [] ∧ state.getItemInfos delegate ids =
          let result := forward delegate (.getItemInfos (missing places)) ⟨cache, state.delegate⟩
          (result.1.map fun infos => fillMisses places (alignInfos (missing places) infos),
            result.2)) := by
  have hwithin : (ItemCache.probeAll ids state.cache).2.Within state.cache :=
    ItemCache.probeAll_within
  refine ⟨_, _, hwithin, ItemCache.found_probeAll ids state.cache, ItemCache.probeAll_eq_none, ?_⟩
  rw [getItemInfos_eq]
  dsimp only
  split
  · next hnone => exact .inl ⟨hnone, rfl⟩
  · next hsome => exact .inr ⟨hsome, rfl⟩

/-- What is not a lookup is passed on. -/
theorem run_eq_forward (h : operation.isLookup = false) :
    state.run delegate operation = state.forward delegate operation := by
  cases operation <;> first | rfl | cases h

/-- The states that a call can leave behind: entries were lost, and unless a lookup was answered
with what is remembered, an operation was passed on. -/
inductive Passes (delegate : Backend σ) (state : Cached σ) (operation : Operation α) :
    Cached σ → Prop where
  | hit {cache : ItemCache} (hwithin : cache.Within state.cache)
      (hlookup : operation.isLookup = true) :
      Passes delegate state operation ⟨cache, state.delegate⟩
  | ask {β : Type} {asked : Operation β} {cache : ItemCache} (hasks : operation.Asks asked)
      (hwithin : cache.Within state.cache) :
      Passes delegate state operation (forward delegate asked ⟨cache, state.delegate⟩).2

/-- Every call is answered from the cache or passed on. -/
theorem run_passes (delegate : Backend σ) (operation : Operation α) (state : Cached σ) :
    Passes delegate state operation (state.run delegate operation).2 := by
  cases operation
  case getItemInfo id =>
    obtain ⟨cache, hwithin, ⟨info, -, hrun⟩ | ⟨-, hrun⟩⟩ := getItemInfo_cases delegate id state
    · rw [run, hrun]
      exact .hit hwithin rfl
    · rw [run, hrun]
      exact .ask (.self _) hwithin
  case getItemInfos ids =>
    obtain ⟨cache, places, hwithin, -, -, ⟨-, hrun⟩ | ⟨-, hrun⟩⟩ :=
      getItemInfos_cases delegate ids state
    · rw [run, hrun]
      exact .hit hwithin rfl
    · rw [run, hrun]
      exact .ask (.misses ids _) hwithin
  all_goals
    rw [run_eq_forward rfl]
    exact .ask (.self _) (.refl state.cache)

/-- An entry after a call is the last info that is remembered of what the delegate answered, or an
older entry that the call, if it was carried out, neither reports on nor drops. -/
theorem Passes.entries (h : Passes delegate state operation after)
    (hentry : after.cache.entries[id]? = some info) :
    (∃ (β : Type) (asked : Operation β) (answer : β), operation.Asks asked ∧
        delegate.run asked state.delegate = (.ok answer, after.delegate) ∧
        ItemInfo.lastKept (asked.reported answer) id = some info) ∨
      state.cache.entries[id]? = some info ∧ (operation.isLookup = true ∨
        ∀ answer last, delegate.run operation state.delegate = (.ok answer, last) →
          ¬ operation.Drops id ∧ ItemInfo.lastKept (operation.reported answer) id = none) := by
  cases h with
  | hit hwithin hlookup => exact .inr ⟨hwithin hentry, .inl hlookup⟩
  | @ask _ asked cache hasks hwithin =>
    rcases hrun : delegate.run asked state.delegate with ⟨failure | answer, last⟩
    · -- The call failed, so that entries were lost at most.
      rw [forward_error hrun] at hentry
      refine .inr ⟨hwithin hentry, ?_⟩
      cases hasks with
      | misses ids missing => exact .inl rfl
      | self =>
        refine .inr ?_
        intro answer last hok
        rw [hrun] at hok
        cases hok
    · rw [forward_ok hrun] at hentry ⊢
      rcases ItemCache.entries_settle hentry with hlast | ⟨hnone, hkeep, hold⟩
      · exact .inl ⟨_, asked, answer, hasks, hrun, hlast⟩
      · refine .inr ⟨hwithin hold, ?_⟩
        cases hasks with
        | misses ids missing => exact .inl rfl
        | self =>
          refine .inr ?_
          intro other last hok
          rw [hrun] at hok
          obtain ⟨hanswer, -⟩ := Prod.mk.inj hok
          obtain rfl := Except.ok.inj hanswer
          exact ⟨hkeep, hnone⟩

end Cached

end ObjectStorage
