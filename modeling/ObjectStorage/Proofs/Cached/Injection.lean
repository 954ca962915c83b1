import ObjectStorage.Proofs.Cached.Containment
import ObjectStorage.Proofs.Cached.Recorded

/-!
# Injected failures

A failure that is armed in a recorder ends the next call that reaches the recorder.
`Cached.armedAfter` says which failure is armed after some turns, from what the cache
answers by itself alone, and `Cached.Delivery` what a call comes to when that failure
is armed. `Cached.faultless` are the turns of a run less those that arm a failure or
end with one, and `Cached.failures_injected` says that a run leaves the store as they
do by themselves.
-/

namespace ObjectStorage

namespace Turn

/-- The failure that is armed after a turn, if `armed` was before: the last one armed, until a call
reaches the recorder. -/
def armed (next : Turn) (cache : ItemCache) (armed : Option StorageError) :
    Option StorageError :=
  match next with
  | .failNext error => some error
  | .call operation => if (cache.plan operation).1.request = none then armed else none
  | .invalidateCache | .lose _ | .direct _ => armed

/-- Says that a turn arms a failure, or is a call that the armed one ends. -/
def isFault (next : Turn) (cache : ItemCache) (armed : Option StorageError) : Bool :=
  match next with
  | .failNext _ => true
  | .call operation => armed.isSome && (cache.plan operation).1.request.isSome
  | .invalidateCache | .lose _ | .direct _ => false

/-- Says that a turn arms a failure. -/
def isArming : Turn → Bool
  | .failNext _ => true
  | _ => false

end Turn

/-- What a turn does to a store by itself, without a recorder and a cache. -/
def Store.turn (next : Turn) (store : Store) : Store :=
  match next with
  | .call operation | .direct operation => (store.run operation).2
  | .failNext _ | .invalidateCache | .lose _ => store

namespace Cached

variable {σ α : Type} {inner : Backend σ} {operation : Operation α} {state : Cached (Recorder σ)}

/-- The failure that is armed after some turns, if `armed` was before them. -/
def armedAfter (inner : Backend σ) :
    List Turn → Cached (Recorder σ) → Option StorageError → Option StorageError
  | [], _, armed => armed
  | next :: rest, state, armed =>
    armedAfter inner rest (state.turn inner next) (next.armed state.cache armed)

/-- The turns that neither arm a failure nor end with the one that is armed. -/
def faultless (inner : Backend σ) :
    List Turn → Cached (Recorder σ) → Option StorageError → List Turn
  | [], _, _ => []
  | next :: rest, state, armed =>
    let later := faultless inner rest (state.turn inner next) (next.armed state.cache armed)
    if next.isFault state.cache armed then later else next :: later

/-- What the recorder has armed is what the turns have. -/
theorem turn_nextFailure (inner : Backend σ) (next : Turn) (state : Cached (Recorder σ)) :
    (state.turn inner next).delegate.nextFailure =
      next.armed state.cache state.delegate.nextFailure := by
  cases next with
  | call operation => exact run_nextFailure inner operation state
  | failNext | invalidateCache | lose | direct => rfl

/-- What the recorder has armed after a run is what the turns have. -/
theorem afterTurns_nextFailure (inner : Backend σ) (turns : List Turn)
    (state : Cached (Recorder σ)) :
    (afterTurns inner turns state).delegate.nextFailure =
      armedAfter inner turns state state.delegate.nextFailure := by
  induction turns generalizing state with
  | nil => rfl
  | cons next rest ih => rw [armedAfter, ← turn_nextFailure inner, ← ih]; rfl

/-- A reply that is planned is made of entries of the cache. -/
theorem answeredFrom_of_reply {cache : ItemCache} {answer : α}
    (h : (cache.plan operation).1 = .reply answer) : operation.AnsweredFrom cache (.ok answer) := by
  cases operation <;> first | cases h | skip
  case getItemInfo id =>
    dsimp only [ItemCache.plan] at h
    split at h <;> cases h
    next hfound => exact ⟨answer, rfl, ItemCache.probe_eq_some hfound⟩
  case getItemInfos ids =>
    dsimp only [ItemCache.plan] at h
    split at h <;> cases h
    next hnone =>
      refine ⟨_, rfl, ?_⟩
      rw [hits_map ItemInfo.notFound hnone]
      exact found_forall₂ (ItemCache.found_probeAll ids cache) hnone _

/-- What a call comes to when a failure may be armed. One that the cache answers leaves the recorder
as it is. One that reaches the recorder while a failure is armed is recorded and ends with it, and
neither the store nor the cache changes, but for what the cache loses by itself. All others are
recorded if they reach the recorder, and go as they do without one. -/
structure Delivery (inner : Backend σ) (armed : Option StorageError) (operation : Operation α)
    (state : Cached (Recorder σ)) (result : Outcome α × Cached (Recorder σ)) : Prop where
  answered : (state.cache.plan operation).1.request = none →
    operation.AnsweredFrom state.cache result.1 ∧ result.2.delegate = state.delegate
  failed : ∀ {error : StorageError} {call : Call}, armed = some error →
    (state.cache.plan operation).1.request = some call →
      result.1 = .failed error ∧
        result.2.delegate = { state.delegate with
          calls := state.delegate.calls ++ [call]
          nextFailure := none } ∧
        state.cache.Probed operation.call.lookups result.2.cache
  recorded : ∀ {call : Call}, (state.cache.plan operation).1.request = some call →
    result.2.delegate.calls = state.delegate.calls ++ [call]
  spared : armed = none ∨ (state.cache.plan operation).1.request = none →
    result.1 = (state.bare.run inner operation).1 ∧
      result.2.bare = (state.bare.run inner operation).2

/-- Every call is delivered as the failure that the recorder has armed demands. -/
theorem run_delivery (inner : Backend σ) (operation : Operation α)
    (state : Cached (Recorder σ)) :
    Delivery inner state.delegate.nextFailure operation state
      (state.run (Recorder.backend inner) operation) where
  answered hrequest := by
    cases hplan : (state.cache.plan operation).1 with
    | reply answer =>
      rw [run_of_reply hplan]
      exact ⟨answeredFrom_of_reply hplan, rfl⟩
    | ask call complete =>
      rw [hplan] at hrequest
      cases hrequest
  failed {error request} harmed hrequest := by
    cases hplan : (state.cache.plan operation).1 with
    | reply answer =>
      rw [hplan] at hrequest
      cases hrequest
    | ask call complete =>
      rw [hplan] at hrequest
      cases hrequest
      rw [run_of_armed hplan harmed]
      exact ⟨rfl, rfl, ItemCache.plan_probed operation state.cache⟩
  recorded hrequest := by rw [run_calls, hrequest, Option.toList_some]
  spared h := run_of_unarmed h.symm

/-- A turn does to the store what it does to it by itself, unless it arms a failure or ends with
one. -/
theorem turn_inner (next : Turn) (state : Cached (Recorder Store)) :
    (state.turn Store.backend next).delegate.inner =
      if next.isFault state.cache state.delegate.nextFailure = true then state.delegate.inner
      else state.delegate.inner.turn next := by
  cases next with
  | call operation =>
    have hdelivery := run_delivery Store.backend operation state
    -- A call that the cache answers is a lookup, which leaves a bare store alone too.
    cases hrequest : (state.cache.plan operation).1.request with
    | none =>
      have hbare := (hdelivery.spared (.inr hrequest)).2
      rw [Turn.isFault, hrequest, Option.isSome_none, Bool.and_false, if_neg Bool.false_ne_true]
      exact (congrArg (·.delegate) hbare).trans (run_delegate operation state.bare)
    | some call =>
      cases harmed : state.delegate.nextFailure with
      | none =>
        have hbare := (hdelivery.spared (.inl harmed)).2
        exact (congrArg (·.delegate) hbare).trans (run_delegate operation state.bare)
      | some error =>
        obtain ⟨-, hdelegate, -⟩ := hdelivery.failed harmed hrequest
        rw [Turn.isFault, hrequest, turn, hdelegate]
        rfl
  | failNext | invalidateCache | lose | direct => rfl

/-- A run does to the store what its turns without faults do to it by themselves. -/
theorem afterTurns_inner (turns : List Turn) (state : Cached (Recorder Store)) :
    (afterTurns Store.backend turns state).delegate.inner =
      (faultless Store.backend turns state state.delegate.nextFailure).foldl
        (fun store next => store.turn next) state.delegate.inner := by
  induction turns generalizing state with
  | nil => rfl
  | cons next rest ih =>
    have hrest := ih (state.turn Store.backend next)
    rw [turn_nextFailure, turn_inner] at hrest
    rw [faultless]
    split
    · next hfault => rwa [if_pos hfault] at hrest
    · next hfault => rwa [if_neg hfault] at hrest

/-- Turns without faults arm no failure. -/
theorem isArming_of_mem_faultless {turns : List Turn} {armed : Option StorageError} {next : Turn}
    (h : next ∈ faultless inner turns state armed) : next.isArming = false := by
  induction turns generalizing state armed with
  | nil => cases h
  | cons first rest ih =>
    rw [faultless] at h
    split at h
    · exact ih h
    · next hfault =>
      rcases List.mem_cons.1 h with rfl | hrest
      · cases next <;> first | rfl | exact (hfault rfl).elim
      · exact ih hrest

/-- A run that arms no failure has no faults. -/
theorem faultless_eq_self {turns : List Turn} (h : ∀ next ∈ turns, next.isArming = false)
    (inner : Backend σ) (state : Cached (Recorder σ)) :
    faultless inner turns state none = turns := by
  induction turns generalizing state with
  | nil => rfl
  | cons first rest ih =>
    have hfirst := h first (.head rest)
    have hrest : ∀ next ∈ rest, next.isArming = false := by
      intro next hnext
      exact h next (.tail first hnext)
    have harmed : first.armed state.cache none = none := by
      cases first <;> first | exact ite_self none | rfl | cases hfirst
    have hfault : first.isFault state.cache none = false := by
      cases first <;> first | rfl | cases hfirst
    rw [faultless, harmed, ih hrest, hfault]
    rfl

/-- At every point of a run from a recorder with no failure armed, a call is delivered as the
failure demands that was armed last and has not ended a call since. The store is left as the other
turns leave it by themselves, and as they leave it behind any cache. -/
theorem failures_injected (cache : ItemCache) (store : Store) (turns : List Turn) :
    let start : Cached (Recorder Store) := ⟨cache, { inner := store }⟩
    let state := afterTurns Store.backend turns start
    let others := faultless Store.backend turns start none
    (∀ {α : Type} (operation : Operation α),
        Delivery Store.backend (armedAfter Store.backend turns start none) operation state
          (state.run (Recorder.backend Store.backend) operation)) ∧
      state.delegate.inner = others.foldl (fun store next => store.turn next) store ∧
      ∀ cache : ItemCache,
        (afterTurns Store.backend others ⟨cache, { inner := store }⟩).delegate.inner =
          state.delegate.inner := by
  intro start state others
  have hinner : state.delegate.inner = others.foldl (fun store next => store.turn next) store :=
    afterTurns_inner turns start
  refine ⟨?_, hinner, ?_⟩
  · intro α operation
    have harmed := afterTurns_nextFailure Store.backend turns start
    rw [← harmed]
    exact run_delivery Store.backend operation state
  · -- Without an arming among them, the other turns have no faults behind any cache.
    intro cache
    rw [hinner, afterTurns_inner, faultless_eq_self]
    exact fun next hnext => isArming_of_mem_faultless hnext

/-- A failure that a lookup from the cache leaves armed ends the deletion behind it, which is
recorded and spares the store and the cache. -/
theorem nested_failure_injected :
    let id := ResourceId.object "media" "a/x"
    let start : Cached (Recorder Store) := ⟨{ policy := .plain }, { inner := Store.nested }⟩
    let turns : List Turn := [.call (.getItemInfo id), .failNext StorageError.lockPoisoned,
      .failNext StorageError.closed, .call (.getItemInfo id)]
    let state := afterTurns Store.backend turns start
    let result := state.run (Recorder.backend Store.backend) (.deleteObjects [id])
    armedAfter Store.backend turns start none = some StorageError.closed ∧
      state.delegate.calls = [.getItemInfo id] ∧
      result.1 = .failed StorageError.closed ∧
      result.2.delegate = { inner := state.delegate.inner
                            calls := [.getItemInfo id, .deleteObjects [id]] } ∧
      state.delegate.inner.buckets.lookup id = Store.nested.buckets.lookup id ∧
      id ∈ result.2.cache.entries := by
  intro id start turns state result
  have harmed : armedAfter Store.backend turns start none = some StorageError.closed := by
    decide +kernel
  have hcalls : state.delegate.calls = [.getItemInfo id] := by decide +kernel
  obtain ⟨hdelivery, -⟩ := failures_injected { policy := .plain } Store.nested turns
  obtain ⟨hended, hdelegate, -⟩ := (hdelivery (.deleteObjects [id])).failed harmed rfl
  refine ⟨harmed, hcalls, hended, hdelegate.trans ?_, by decide +kernel, by decide +kernel⟩
  show (⟨state.delegate.inner, state.delegate.calls ++ [_], none⟩ : Recorder Store) = _
  rw [hcalls]
  rfl

end Cached

end ObjectStorage
