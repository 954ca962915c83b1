import Mathlib.Data.List.Induction
import ObjectStorage.Bridge
import ObjectStorage.Proofs.Cached.Calls
import ObjectStorage.Proofs.Store.Reports

/-!
# Runs through a cache

A `Step` is what can happen to a store behind a cache: a call, made in some
`Manner`, a request to forget everything, or a loss of entries. The same step can
be taken on the store by itself, where it has no cache to forget or to lose.
`Cached.step_delegate` says that the cache never changes what a step does to the
store.
-/

namespace ObjectStorage

/-- How a call is made: directly, or as a task of its own, with the wording that the runtime of the
task has for a panic. -/
inductive Manner where
  | direct
  | task (wording : Panic → String)

/-- What can happen to a store behind a cache. -/
inductive Step : Type 1 where
  | call {α : Type} (manner : Manner) (operation : Operation α)
  | invalidateCache
  | lose (ids : List ResourceId)

/-- What a caller sees of a step: how a call ended. -/
abbrev Step.Seen := Option (Σ α : Type, Outcome α)

/-- What is seen of each step of a run, and the states that the steps leave. -/
def Step.trace {σ : Type} (step : Step → σ → Step.Seen × σ) : List Step → σ → List (Step.Seen × σ)
  | [], _ => []
  | first :: rest, state => step first state :: Step.trace step rest (step first state).2

/-- Takes one step on a store by itself. -/
def Store.step (step : Step) (store : Store) : Step.Seen × Store :=
  match step with
  | .call _ operation =>
    let result := store.run operation
    (some ⟨_, result.1⟩, result.2)
  | .invalidateCache | .lose _ => (none, store)

/-- A store whose only object lies in a directory of its only bucket. -/
def Store.nested : Store :=
  (((Store.empty (.fixed .epoch)).run (.createBucket "media" {})).2.run
    (.writeObject (.object "media" "a/x") [1] {})).2

/-- Calls lead to the nested store. -/
theorem Store.reachable_nested : Reachable (.fixed .epoch) nested :=
  .run (.writeObject (.object "media" "a/x") [1] {}) (.run (.createBucket "media" {}) .empty)

/-- The listing that shows the directory of the nested store. -/
def Step.listing : Step :=
  .call .direct (.listObjectInfo "media" { delimiter := some "/" })

namespace Cached

/-- How calls reach a store behind a cache. -/
def frontend : Manner → Backend (Cached Store)
  | .direct => backend Store.backend
  | .task wording => Bridge.backend wording (backend Store.backend)

/-- Takes one step on a store behind a cache. -/
def step (step : Step) (state : Cached Store) : Step.Seen × Cached Store :=
  match step with
  | .call manner operation =>
    let result := (frontend manner).run operation state
    (some ⟨_, result.1⟩, result.2)
  | .invalidateCache => (none, state.invalidateCache)
  | .lose ids =>
    (none, { state with cache := { state.cache with
      entries := ids.foldl (·.erase ·) state.cache.entries } })

/-- The state that a run leaves. -/
def after (steps : List Step) (state : Cached Store) : Cached Store :=
  steps.foldl (fun state step => (state.step step).2) state

variable {α : Type} {operation : Operation α} {state : Cached Store} {id : ResourceId}
  {info : ItemInfo}

/-- The state that a run with one more step leaves. -/
theorem after_append_singleton (steps : List Step) (step : Step) :
    after (steps ++ [step]) state = ((after steps state).step step).2 := by
  simp [after]

/-- A bridge changes what a caller is told, and nothing else. -/
theorem frontend_snd {manner : Manner} :
    ((frontend manner).run operation state).2 = (state.run Store.backend operation).2 := by
  cases manner <;> rfl

/-- An outcome that is not a panic crosses a bridge unchanged. -/
theorem bridge_outcome {outcome : Outcome α} (h : outcome.isPanic = false)
    (wording : Panic → String) : Bridge.outcome wording outcome = outcome := by
  rcases outcome with ⟨cause | reason⟩ | answer
  · rfl
  · cases h
  · rfl

/-- A call that is not a panic is answered the same when it is a task. -/
theorem frontend_fst {manner : Manner} (h : (state.run Store.backend operation).1.isPanic = false) :
    ((frontend manner).run operation state).1 = (state.run Store.backend operation).1 := by
  cases manner with
  | direct => rfl
  | task wording => exact bridge_outcome h wording

/-- A lookup neither drops nor renews anything. -/
theorem lookup_quiet (h : operation.isLookup = true) :
    ¬ operation.Drops id ∧ ¬ operation.Renews id := by
  cases operation <;> first | exact ⟨not_false, not_false⟩ | cases h

/-- What is asked for a lookup is a lookup. -/
theorem asks_isLookup {β : Type} {asked : Operation β} (hasks : operation.Asks asked)
    (hlookup : operation.isLookup = true) : asked.isLookup = true := by
  cases hasks with
  | self => exact hlookup
  | misses => rfl

/-- A call through the cache does to the store what it does without one. -/
theorem run_delegate (operation : Operation α) (state : Cached Store) :
    (state.run Store.backend operation).2.delegate = (state.delegate.run operation).2 := by
  have hpasses := run_passes Store.backend operation state
  cases hlookup : operation.isLookup with
  | false => rw [run_eq_forward hlookup, forward_delegate, Store.backend]
  | true =>
    rw [Store.run_snd_of_isRead (Operation.isRead_of_isLookup hlookup)]
    generalize (state.run Store.backend operation).2 = last at hpasses
    cases hpasses with
    | hit => rfl
    | ask hasks =>
      rw [forward_delegate]
      exact Store.run_snd_of_isRead
        (Operation.isRead_of_isLookup (asks_isLookup hasks hlookup))

/-- An entry after a call is new, and then the store is available and the entry is found, not about
the root, and what a lookup answers from then on or a directory that the call has inferred; or it is
an older one that the call, if it succeeded, neither drops nor renews. -/
theorem run_entries (hwf : state.delegate.buckets.WellFormed)
    (hentry : (state.run Store.backend operation).2.cache.entries[id]? = some info) :
    ((state.delegate.run operation).2.available = .ok () ∧ info.found = true ∧
        id.isRoot = false ∧ ((state.delegate.run operation).2.buckets.lookup id = info ∨
          Store.Infers operation (state.delegate.run operation).2.buckets id info ∧
            ∃ answer, (state.delegate.run operation).1 = .ok answer ∧
              info ∈ operation.reported answer)) ∨
      state.cache.entries[id]? = some info ∧
        ∀ answer last, state.delegate.run operation = (.ok answer, last) →
          ¬ operation.Drops id ∧ ¬ operation.Renews id := by
  rcases (run_passes Store.backend operation state).entries hentry with
      ⟨β, asked, answer, hasks, hrun, hlast⟩ | ⟨hold, hkeep⟩
  · left
    rw [run_delegate] at hrun
    obtain ⟨hmem, -, hfound, hroot⟩ := ItemInfo.lastKept_eq_some hlast
    refine ⟨Store.available_of_reported hrun hmem, hfound, hroot, ?_⟩
    rcases (Store.run_kept hwf hrun hlast).2 with hlookup | hinfers
    · exact .inl hlookup
    · cases hasks with
      | self => exact .inr ⟨hinfers, answer, congrArg (·.1) hrun, hmem⟩
      | misses =>
        -- The missing ids are looked up, and only listings infer directories.
        obtain ⟨-, -, name, delimiter, -, hdelimiter, -⟩ := hinfers
        cases hdelimiter
  · refine .inr ⟨hold, ?_⟩
    intro answer last hok
    rcases hkeep with hlookup | hquiet
    · exact lookup_quiet hlookup
    obtain ⟨hdrop, hnone⟩ := hquiet answer last hok
    -- A renewal would have been reported.
    refine ⟨hdrop, ?_⟩
    intro hrenew
    obtain ⟨other, hother⟩ := Store.run_renews hwf hok hrenew
    rw [hnone] at hother
    cases hother

/-- What is not a lookup is answered as without the cache. -/
theorem run_fst (h : operation.isLookup = false) :
    (state.run Store.backend operation).1 = (state.delegate.run operation).1 := by
  rw [run_eq_forward h, forward_fst, Store.backend]

/-- A lookup of one id through the cache is answered with an entry, or as without the cache. -/
theorem getItemInfo_fst (state : Cached Store) (id : ResourceId) :
    (∃ info, state.cache.entries[id]? = some info ∧
        (state.run Store.backend (.getItemInfo id)).1 = .ok info) ∨
      (state.run Store.backend (.getItemInfo id)).1 = (state.delegate.run (.getItemInfo id)).1 := by
  obtain ⟨cache, -, ⟨info, hentry, hrun⟩ | ⟨-, hrun⟩⟩ := getItemInfo_cases Store.backend id state
  · exact .inl ⟨info, hentry, congrArg (·.1) hrun⟩
  · exact .inr ((congrArg (·.1) hrun).trans forward_fst)

/-- A lookup of several ids through the cache is answered with entries and, for the missing ids, as
the store looks them up; it is refused when an id is missing and the store is not available. -/
theorem getItemInfos_fst (state : Cached Store) (ids : List ResourceId) :
    ∃ places, state.cache.Found ids places ∧
      ((missing places = [] ∨ state.delegate.available = .ok ()) ∧
          (state.run Store.backend (.getItemInfos ids)).1 = .ok (places.map fun place =>
            place.2.getD (state.delegate.buckets.lookup place.1)) ∨
        missing places ≠ [] ∧ ∃ cause, state.delegate.available = .error cause ∧
          (state.run Store.backend (.getItemInfos ids)).1 = .failed cause) := by
  obtain ⟨cache, places, -, hfound, -, ⟨hnone, hrun⟩ | ⟨hsome, hrun⟩⟩ :=
    getItemInfos_cases Store.backend ids state
  · refine ⟨places, hfound, .inl ⟨.inl hnone, ?_⟩⟩
    rw [run, hrun, hits_map state.delegate.buckets.lookup hnone]
  · refine ⟨places, hfound, ?_⟩
    rw [run, hrun]
    have hask : Store.backend.run (.getItemInfos (missing places)) state.delegate =
        state.delegate.read fun buckets => .ok ((missing places).map buckets.lookup) := rfl
    dsimp only
    rw [forward_fst, hask]
    cases havailable : state.delegate.available with
    | error cause =>
      rw [Store.read_of_refused havailable]
      exact .inr ⟨hsome, cause, rfl, rfl⟩
    | ok =>
      rw [Store.read_of_available havailable]
      refine .inl ⟨.inr rfl, ?_⟩
      rw [← fillMisses_map, Except.map, alignInfos_map]

/-- A step on a store behind a cache does to the store what it does to the store by itself. -/
theorem step_delegate (step : Step) (state : Cached Store) :
    (state.step step).2.delegate = (state.delegate.step step).2 := by
  cases step with
  | call manner operation => exact (congrArg delegate frontend_snd).trans (run_delegate _ _)
  | invalidateCache | lose => rfl

/-- A step keeps a store that calls can lead to. -/
theorem reachable_step {clock : Clock} (h : Store.Reachable clock state.delegate) (step : Step) :
    Store.Reachable clock (state.step step).2.delegate := by
  rw [step_delegate]
  cases step with
  | call manner operation => exact .run operation h
  | invalidateCache | lose => exact h

/-- A run keeps a store that calls can lead to. -/
theorem reachable_after {clock : Clock} (h : Store.Reachable clock state.delegate)
    (steps : List Step) : Store.Reachable clock (after steps state).delegate := by
  induction steps using List.reverseRecOn with
  | nil => exact h
  | append_singleton steps step ih =>
    rw [after_append_singleton]
    exact reachable_step ih step

end Cached

end ObjectStorage
