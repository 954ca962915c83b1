import ObjectStorage.Operation

/-!
# Interposed backends

An `Interposer` passes calls on. It can be armed to panic at the next call, or
to distort the next answer that reports item infos: it stands in for a delegate
that misbehaves, so that what is in front of it can be tried out.
-/

namespace ObjectStorage

/-- How to distort a list of infos: which of its places to keep, if not all, and what to add. -/
structure Distortion where
  kept : Option (List Nat) := none
  extra : List ItemInfo := []

namespace Distortion

/-- The distorted list; places that the list does not have are skipped. -/
def apply (distortion : Distortion) (infos : List ItemInfo) : List ItemInfo :=
  (match distortion.kept with
    | none => infos
    | some places => places.filterMap fun place => infos[place]?) ++ distortion.extra

/-- The first info of the distorted list, or the honest one when that list is empty. -/
def applyOne (distortion : Distortion) (info : ItemInfo) : ItemInfo :=
  (distortion.apply [info]).headD info

/-- The distorted answer, when the answer reports item infos. -/
def answer? {α : Type} (distortion : Distortion) : Operation α → α → Option α
  | .listBucketInfo, infos => some (distortion.apply infos)
  | .listObjectInfo _ _, infos => some (distortion.apply infos)
  | .getItemInfos _, infos => some (distortion.apply infos)
  | .updateItems _, infos => some (distortion.apply infos)
  | .getItemInfo _, info => some (distortion.applyOne info)
  | .composeObjects _ _ _, info => some (distortion.applyOne info)
  | _, _ => none

end Distortion

/-- A backend's state, and what is armed for its next call. -/
structure Interposer (σ : Type) where
  inner : σ
  panicArmed : Bool := false
  distortion : Option Distortion := none

namespace Interposer

variable {σ : Type}

/-- Panics if that is armed; else passes the call on, and distorts the answer if that is armed. -/
def run (inner : Backend σ) {α : Type} (operation : Operation α) (state : Interposer σ) :
    Outcome α × Interposer σ :=
  if state.panicArmed then (.panicked .backend, { state with panicArmed := false })
  else
    let result := inner.run operation state.inner
    let passed := { state with inner := result.2 }
    match result.1, state.distortion with
    | .ok answer, some distortion =>
      match distortion.answer? operation answer with
      | some distorted => (.ok distorted, { passed with distortion := none })
      | none => (.ok answer, passed)
    | outcome, _ => (outcome, passed)

/-- A backend that can be made to panic or to distort its answers. -/
def backend (inner : Backend σ) : Backend (Interposer σ) := ⟨run inner⟩

end Interposer

end ObjectStorage
