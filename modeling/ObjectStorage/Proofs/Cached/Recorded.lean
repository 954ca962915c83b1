import ObjectStorage.Proofs.Cached.Plan

/-!
# Runs over a recorded backend

A `Turn` is what can happen to a recorded backend behind a cache. What a call does
to the recorder is read off its plan: `Cached.run_of_reply` says that a reply leaves
the recorder alone, `Cached.run_of_armed` that an armed failure ends the call that
reaches the recorder, and `Cached.run_of_unarmed` that other calls go as they do
without a recorder.
-/

namespace ObjectStorage

/-- What can happen to a recorded backend behind a cache: a call, a failure that is armed, a request
to forget everything, a loss of entries, or a call of the backend past the recorder. -/
inductive Turn : Type 1 where
  | call {α : Type} (operation : Operation α)
  | failNext (error : StorageError)
  | invalidateCache
  | lose (ids : List ResourceId)
  | direct {α : Type} (operation : Operation α)

namespace Recorder

variable {σ α : Type} {recorder : Recorder σ}

/-- A call that reaches the recorder while a failure is armed ends with it, and takes it away. -/
theorem run_of_armed {error : StorageError} (h : recorder.nextFailure = some error)
    (inner : Backend σ) (operation : Operation α) :
    (backend inner).run operation recorder = (.failed error,
      { recorder with calls := recorder.calls ++ [operation.call], nextFailure := none }) := by
  simp only [backend, run, h]

/-- A call that reaches the recorder while no failure is armed is recorded and passed on. -/
theorem run_of_unarmed (h : recorder.nextFailure = none) (inner : Backend σ)
    (operation : Operation α) :
    (backend inner).run operation recorder = ((inner.run operation recorder.inner).1,
      { recorder with
        inner := (inner.run operation recorder.inner).2
        calls := recorder.calls ++ [operation.call] }) := by
  simp only [backend, run, h]

/-- Every call that reaches the recorder is recorded, and no failure is armed behind it. -/
theorem run_recorded (inner : Backend σ) (operation : Operation α) (recorder : Recorder σ) :
    ((backend inner).run operation recorder).2.calls = recorder.calls ++ [operation.call] ∧
      ((backend inner).run operation recorder).2.nextFailure = none := by
  cases h : recorder.nextFailure with
  | none =>
    rw [run_of_unarmed h]
    exact ⟨rfl, h⟩
  | some error =>
    rw [run_of_armed h]
    exact ⟨rfl, rfl⟩

end Recorder

namespace Cached

variable {σ α : Type} {inner : Backend σ} {operation : Operation α} {state : Cached (Recorder σ)}

/-- The state that a turn leaves. -/
def turn (inner : Backend σ) (next : Turn) (state : Cached (Recorder σ)) : Cached (Recorder σ) :=
  match next with
  | .call operation => (state.run (Recorder.backend inner) operation).2
  | .failNext error => { state with delegate := state.delegate.failNext error }
  | .invalidateCache => state.invalidateCache
  | .lose ids =>
    { state with cache := { state.cache with
      entries := ids.foldl (·.erase ·) state.cache.entries } }
  | .direct operation =>
    { state with delegate := { state.delegate with
      inner := (inner.run operation state.delegate.inner).2 } }

/-- The state that a run leaves. -/
def afterTurns (inner : Backend σ) (turns : List Turn) (state : Cached (Recorder σ)) :
    Cached (Recorder σ) :=
  turns.foldl (fun state next => state.turn inner next) state

/-- A call that is answered with a reply leaves the recorder alone. -/
theorem run_of_reply {answer : α} (h : (state.cache.plan operation).1 = .reply answer) :
    state.run (Recorder.backend inner) operation =
      (.ok answer, ⟨(state.cache.plan operation).2, state.delegate⟩) := by
  rw [run_eq_follow, h, follow]

/-- A call that reaches the recorder while a failure is armed ends with the failure. It is recorded,
and the cache is left as the probes leave it. -/
theorem run_of_armed {β : Type} {call : Operation β} {complete : β → α} {error : StorageError}
    (h : (state.cache.plan operation).1 = .ask call complete)
    (harmed : state.delegate.nextFailure = some error) :
    state.run (Recorder.backend inner) operation = (.failed error,
      ⟨(state.cache.plan operation).2, { state.delegate with
        calls := state.delegate.calls ++ [call.call]
        nextFailure := none }⟩) := by
  rw [run_eq_follow, h, follow, forward_error (Recorder.run_of_armed harmed inner call)]
  rfl

/-- What is left when the recorder is taken away. -/
def bare (state : Cached (Recorder σ)) : Cached σ :=
  ⟨state.cache, state.delegate.inner⟩

/-- A call that no failure awaits goes as it does without a recorder. -/
theorem run_of_unarmed (h : (state.cache.plan operation).1.request = none ∨
      state.delegate.nextFailure = none) :
    (state.run (Recorder.backend inner) operation).1 = (state.bare.run inner operation).1 ∧
      (state.run (Recorder.backend inner) operation).2.bare =
        (state.bare.run inner operation).2 := by
  rw [run_eq_follow, run_eq_follow, bare]
  cases hplan : (state.cache.plan operation).1 with
  | reply answer => exact ⟨rfl, rfl⟩
  | ask call complete =>
    rw [hplan] at h
    have hpass := Recorder.run_of_unarmed (h.resolve_left nofun) inner call
    -- The recorder answers as the backend does, so that both caches settle alike.
    rcases hcall : inner.run call state.delegate.inner with ⟨failure | answer, last⟩
    · rw [hcall] at hpass
      rw [follow, follow, forward_error hpass, forward_error hcall]
      exact ⟨rfl, rfl⟩
    · rw [hcall] at hpass
      rw [follow, follow, forward_ok hpass, forward_ok hcall]
      exact ⟨rfl, rfl⟩

/-- A call records what its plan asks for. -/
theorem run_calls (inner : Backend σ) (operation : Operation α) (state : Cached (Recorder σ)) :
    (state.run (Recorder.backend inner) operation).2.delegate.calls =
      state.delegate.calls ++ (state.cache.plan operation).1.request.toList := by
  rw [run_eq_follow]
  cases (state.cache.plan operation).1 with
  | reply answer => exact (List.append_nil _).symm
  | ask call complete =>
    rw [follow, forward_delegate]
    exact (Recorder.run_recorded inner call state.delegate).1

/-- No failure is armed any more when a call has reached the recorder. -/
theorem run_nextFailure (inner : Backend σ) (operation : Operation α)
    (state : Cached (Recorder σ)) :
    (state.run (Recorder.backend inner) operation).2.delegate.nextFailure =
      if (state.cache.plan operation).1.request = none then state.delegate.nextFailure
      else none := by
  rw [run_eq_follow]
  cases (state.cache.plan operation).1 with
  | reply answer => rfl
  | ask call complete =>
    rw [follow, forward_delegate]
    exact (Recorder.run_recorded inner call state.delegate).2

end Cached

end ObjectStorage
