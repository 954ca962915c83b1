import ObjectStorage.Proofs.Cached.Steps
import ObjectStorage.Proofs.Store.Failure

/-!
# Transparency of a cache

`Cached.trace_transparent` says that a run through a cache is seen exactly as it
is on the store by itself, and leaves the store the same after each step, as long
as every step keeps to what a cache can hide (`Cached.Admissible`). The invariant
is `Cached.Coherent`: every entry is what a lookup would answer now, and only an
open store has entries.
-/

namespace ObjectStorage

/-- Says that a call keeps to what a cache can hide: it overwrites nothing that is cached, lists
infos without a delimiter, copies to names that are not empty, and asks a closed store for at least
one id. -/
def Operation.Admissible {α : Type} (operation : Operation α) (state : Cached Store) : Prop :=
  match operation with
  | .createEmptyObject id options | .writeObject id _ options =>
    options.overwrite = true → state.cache.entries[id]? = none
  | .createEmptyObjects ids options =>
    options.overwrite = true → ∀ id ∈ ids, state.cache.entries[id]? = none
  | .listObjectInfo _ options => ∀ delimiter, options.delimiter = some delimiter → delimiter = ""
  | .copy _ _ _ targets => ∀ name ∈ targets, name ≠ ""
  | .getItemInfos ids => state.delegate.closed = true → ids ≠ []
  | _ => True

/-- Says that a step is no call, or one that keeps to what a cache can hide. -/
def Step.Admissible (step : Step) (state : Cached Store) : Prop :=
  match step with
  | .call _ operation => operation.Admissible state
  | .invalidateCache | .lose _ => True

namespace Cached

variable {α : Type} {operation : Operation α} {state : Cached Store} {clock : Clock}
  {id : ResourceId} {info : ItemInfo}

/-- Says that every step of a run keeps to what a cache can hide when it is taken. -/
def Admissible : List Step → Cached Store → Prop
  | [], _ => True
  | step :: rest, state => step.Admissible state ∧ Admissible rest (state.step step).2

/-- What an entry has to do with the store behind it. -/
structure Coherent.Entry (store : Store) (id : ResourceId) (info : ItemInfo) : Prop where
  notRoot : id.isRoot = false
  found : info.found = true
  current : store.buckets.lookup id = info
  isOpen : store.closed = false

/-- Says that every entry is what a lookup would answer now, by a store that is open. -/
def Coherent (state : Cached Store) : Prop :=
  ∀ ⦃id : ResourceId⦄ ⦃info : ItemInfo⦄, state.cache.entries[id]? = some info →
    Coherent.Entry state.delegate id info

/-- What is cached is there. -/
theorem Coherent.Entry.holds {store : Store} (h : Coherent.Entry store id info)
    (hwf : store.buckets.WellFormed) : store.buckets.Holds id :=
  (hwf.lookup_found h.notRoot).1 (h.current ▸ h.found)

/-- A call that can change a cached id without replacing its entry only makes what is not there, or
has to succeed for it to drop or renew the entry. -/
theorem touches_cases (hadm : operation.Admissible state)
    (hentry : state.cache.entries[id]? = some info) (htouch : operation.Touches id) :
    operation.Creates ∨ operation.Atomic ∧ (operation.Drops id ∨ operation.Renews id) := by
  have hcached : state.cache.entries[id]? ≠ none := by
    rw [hentry]
    exact Option.some_ne_none info
  cases operation with
  | createBucket => exact .inl trivial
  | createEmptyObject other options | writeObject other content options =>
    obtain rfl : id = other := htouch
    refine .inl (Bool.eq_false_iff.2 fun hoverwrite => hcached ?_)
    exact hadm hoverwrite
  | createEmptyObjects ids options =>
    refine .inl (Bool.eq_false_iff.2 fun hoverwrite => hcached ?_)
    exact hadm hoverwrite id htouch
  | copy => exact .inr ⟨hadm, .inl htouch⟩
  | deleteBuckets | deleteObjects => exact .inr ⟨trivial, .inl htouch⟩
  | updateItems | composeObjects => exact .inr ⟨trivial, .inr htouch⟩
  | _ => exact htouch.elim

/-- An entry that a call neither drops nor renews stays what a lookup answers. -/
theorem Coherent.Entry.run (hwf : state.delegate.buckets.WellFormed)
    (hclock : state.delegate.clock.NeverPanics) (hadm : operation.Admissible state)
    (hentry : state.cache.entries[id]? = some info) (h : Coherent.Entry state.delegate id info)
    (hkeep : ∀ answer last, state.delegate.run operation = (.ok answer, last) →
      ¬ operation.Drops id ∧ ¬ operation.Renews id) :
    Coherent.Entry (state.delegate.run operation).2 id info := by
  refine ⟨h.notRoot, h.found, ?_, ?_⟩
  · rw [← h.current]
    by_cases htouch : operation.Touches id
    · rcases touches_cases hadm hentry htouch with hcreates | ⟨hatomic, hreplace⟩
      · exact Store.run_lookup_of_creates hcreates (h.holds hwf)
      · rcases hrun : state.delegate.run operation with ⟨failure | answer, last⟩
        · -- A failure changes nothing, and the old entry stays right.
          have hfailed := Store.run_failed hclock hatomic (congrArg (·.1) hrun)
          rw [hrun] at hfailed
          rw [hfailed]
        · obtain ⟨hdrop, hrenew⟩ := hkeep answer last hrun
          exact (hreplace.elim hdrop hrenew).elim
    · exact Store.run_lookup htouch
  · rw [(Store.run_carried operation state.delegate).closed, h.isOpen, Bool.false_or]
    cases operation <;> first | rfl | exact ((hkeep () _ rfl).1 trivial).elim

/-- A call that keeps to what a cache can hide infers no directories. -/
theorem not_infers {buckets : Buckets} (hadm : operation.Admissible state) :
    ¬ Store.Infers operation buckets id info := by
  rintro ⟨-, -, name, delimiter, -, hdelimiter, hnonempty, -⟩
  cases operation <;> first | cases hdelimiter | exact hnonempty (hadm delimiter hdelimiter)

/-- A call keeps a cache coherent. -/
theorem Coherent.run (hwf : state.delegate.buckets.WellFormed)
    (hclock : state.delegate.clock.NeverPanics) (hadm : operation.Admissible state)
    (h : state.Coherent) : (state.run Store.backend operation).2.Coherent := by
  intro id info hentry
  rw [run_delegate]
  rcases run_entries hwf hentry with
      ⟨havailable, hfound, hroot, hlookup | ⟨hinfers, -⟩⟩ | ⟨hold, hkeep⟩
  · exact ⟨hroot, hfound, hlookup, (Store.available_eq_ok.1 havailable).1⟩
  · exact (not_infers hadm hinfers).elim
  · exact (h hold).run hwf hclock hadm hold hkeep

/-- A call through a coherent cache is answered as it is without the cache. -/
theorem Coherent.run_fst (hsound : state.delegate.poisoned = false)
    (hadm : operation.Admissible state) (h : state.Coherent) :
    (state.run Store.backend operation).1 = (state.delegate.run operation).1 := by
  cases operation
  case getItemInfo id =>
    rcases getItemInfo_fst state id with ⟨info, hentry, hanswer⟩ | hanswer
    · have hcurrent := h hentry
      have havailable := Store.available_eq_ok.2 ⟨hcurrent.isOpen, hsound⟩
      rw [hanswer, Store.run, Store.read_of_available havailable, hcurrent.current]
    · exact hanswer
  case getItemInfos ids =>
    obtain ⟨places, hfound, ⟨hreach, hanswer⟩ | ⟨-, cause, hrefused, hanswer⟩⟩ :=
      getItemInfos_fst state ids
    · have hplaces : ∀ place ∈ places, place.2.getD (state.delegate.buckets.lookup place.1) =
          state.delegate.buckets.lookup place.1 := by
        rintro ⟨id, slot⟩ hplace
        cases slot with
        | none => rfl
        | some info => exact (h (hfound.entry hplace)).current.symm
      have havailable : state.delegate.available = .ok () := by
        rcases hreach with hnone | havailable
        · refine Store.available_eq_ok.2 ⟨?_, hsound⟩
          by_cases hids : ids = []
          · exact Bool.eq_false_iff.2 fun hclosed => hadm hclosed hids
          · obtain ⟨id, info, hentry⟩ := hfound.exists_entry hnone hids
            exact (h hentry).isOpen
        · exact havailable
      rw [hanswer, Store.run, Store.read_of_available havailable, List.map_congr_left hplaces,
        ← hfound.ids_eq, List.map_map]
      rfl
    · rw [hanswer, Store.run, Store.read_of_refused hrefused]
  all_goals exact Cached.run_fst rfl

/-- A step through a coherent cache is seen as it is on the store by itself. -/
theorem Coherent.step_fst {step : Step} (hclock : state.delegate.clock.NeverPanics)
    (hsound : state.delegate.poisoned = false) (hadm : step.Admissible state)
    (h : state.Coherent) : (state.step step).1 = (state.delegate.step step).1 := by
  cases step with
  | @call α manner operation =>
    have hanswer := h.run_fst hsound hadm
    have hsteady := (Store.run_carried operation state.delegate).steady hclock
    rw [← hanswer] at hsteady
    exact congrArg (fun outcome => some (⟨α, outcome⟩ : Σ α : Type, Outcome α))
      ((frontend_fst hsteady).trans hanswer)
  | invalidateCache | lose => rfl

/-- A step keeps a cache coherent. -/
theorem Coherent.step {step : Step} (hwf : state.delegate.buckets.WellFormed)
    (hclock : state.delegate.clock.NeverPanics) (hadm : step.Admissible state)
    (h : state.Coherent) : (state.step step).2.Coherent := by
  cases step with
  | call manner operation =>
    have hrun := h.run hwf hclock hadm
    rwa [← frontend_snd] at hrun
  | invalidateCache =>
    intro id info hentry
    rw [Cached.step, invalidateCache, ItemCache.entries_invalidateAll] at hentry
    cases hentry
  | lose ids =>
    intro id info hentry
    exact h (ItemCache.foldl_erase hentry).2

/-- A run through a coherent cache is seen as it is on the store by itself, and leaves the store the
same after each step. -/
theorem Coherent.trace_eq {steps : List Step} (hreach : Store.Reachable clock state.delegate)
    (hclock : clock.NeverPanics) (hadm : Admissible steps state) (h : state.Coherent) :
    (Step.trace Cached.step steps state).map (fun seen => (seen.1, seen.2.delegate)) =
      Step.trace Store.step steps state.delegate := by
  induction steps generalizing state with
  | nil => rfl
  | cons first rest ih =>
    obtain ⟨hfirst, hrest⟩ := hadm
    have hnever := hreach.neverPanics hclock
    have hseen := h.step_fst hnever (hreach.not_poisoned hclock) hfirst
    have hlater := ih (reachable_step hreach first) hrest (h.step hreach.wellFormed hnever hfirst)
    rw [step_delegate] at hlater
    rw [Step.trace, Step.trace, List.map_cons, hlater, hseen, step_delegate]

/-- A run through a cache without entries is seen as it is on the store by itself, and leaves the
store the same after each step. -/
theorem trace_transparent {store : Store} (hreach : Store.Reachable clock store)
    (hclock : clock.NeverPanics) {cache : ItemCache} (hempty : cache.entries = ∅)
    {steps : List Step} (hadm : Admissible steps ⟨cache, store⟩) :
    (Step.trace step steps ⟨cache, store⟩).map (fun seen => (seen.1, seen.2.delegate)) =
      Step.trace Store.step steps store := by
  refine Coherent.trace_eq hreach hclock hadm ?_
  intro id info hentry
  simp [hempty] at hentry

/-- A lookup, a loss, a write over what was lost and a lookup of it and of a directory are seen
alike. -/
theorem nested_trace_transparent :
    let steps := [.call .direct (.getItemInfo (.object "media" "a/x")),
      .lose [.object "media" "a/x"],
      .call (.task Panic.message) (.writeObject (.object "media" "a/x") [2] {}),
      .call .direct (.getItemInfos [.object "media" "a/x", .object "media" "a/"])]
    (Step.trace step steps ⟨{ policy := .plain }, Store.nested⟩).map
        (fun seen => (seen.1, seen.2.delegate)) =
      Step.trace Store.step steps Store.nested :=
  trace_transparent Store.reachable_nested (fun _ => ⟨.epoch, rfl⟩) rfl
    ⟨trivial, trivial, fun _ => by decide +kernel, fun _ => by simp, trivial⟩

end Cached

end ObjectStorage
