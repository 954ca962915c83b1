import ObjectStorage.Operation

/-!
# Bridged backends

A bridge carries out each call as a task of its own. A task that panics does
not take the caller with it: the caller is told that the task failed. All other
outcomes cross the bridge unchanged. How a failure is worded is up to the runtime
that the tasks belong to.
-/

namespace ObjectStorage

namespace Bridge

variable {σ : Type}

/-- What a caller is told about the outcome of a task, in the wording that the runtime has for a
panic. -/
def outcome (wording : Panic → String) {α : Type} : Outcome α → Outcome α
  | .error (.panic reason) => .failed (StorageError.taskFailed (wording reason))
  | outcome => outcome

/-- Carries out one operation as a task. -/
def run (wording : Panic → String) (inner : Backend σ) {α : Type} (operation : Operation α)
    (state : σ) : Outcome α × σ :=
  let result := inner.run operation state
  (outcome wording result.1, result.2)

/-- A backend whose calls are tasks. -/
def backend (wording : Panic → String) (inner : Backend σ) : Backend σ := ⟨run wording inner⟩

end Bridge

end ObjectStorage
