import ObjectStorage.Proofs.Store.Batch
import ObjectStorage.Proofs.Store.Failure

/-!
# Failed batches of creations

A batch of creations is not undone when it fails. `Store.createEmptyObjects_failed`
says what it leaves: the store behind the creations before the first one that
fails, each made as an operation of its own. `Store.run_atomic` joins this to what
the operations leave that make all their checks before their first edit: the
store as it was.
-/

namespace ObjectStorage.Store

variable {clock : Clock} {store after : Store} {failure : Failure} {options : ObjectOptions}
  {ids : List ResourceId}

/-- Says that a batch of creations goes on up to the first id that cannot be created, that it fails
with the failure of that id, and that it leaves what the creations before have made. -/
def StopsAtFirst (ids : List ResourceId) (options : ObjectOptions) (store : Store)
    (failure : Failure) (after : Store) : Prop :=
  ∃ done id rest, ids = done ++ id :: rest ∧
    Completes (fun id store => store.run (.createEmptyObject id options)) done store after ∧
    after.run (.createEmptyObject id options) = (.error failure, after)

/-- When the lock can be taken and the clock does not panic, a change behind the lock is the change
itself. -/
theorem write_of_evolves {α : Type} {permits : Edit → Prop} {change : Store → Outcome α × Store}
    (havailable : store.available = .ok ()) (hclock : store.clock.NeverPanics)
    (h : Evolves permits store (change store)) : store.write change = change store := by
  have hsound : (change store).2.poisoned = false :=
    h.poisoned.trans (available_eq_ok.1 havailable).2
  rw [write, havailable]
  dsimp only
  rw [h.steady hclock, ← hsound]

/-- A creation that takes the lock leaves it available, and the clock without panics. -/
theorem createEmptyObject_available (havailable : store.available = .ok ())
    (hclock : store.clock.NeverPanics) (id : ResourceId) (options : ObjectOptions) :
    (store.createEmptyObject id options).2.available = .ok () ∧
      (store.createEmptyObject id options).2.clock.NeverPanics := by
  have hevolves : Evolves _ store (store.createEmptyObject id options) := createEmptyObject_evolves
  exact ⟨hevolves.available havailable, hevolves.neverPanics hclock⟩

/-- Creations that all succeed behind one lock succeed as operations of their own, and leave the
lock available. -/
theorem completes_createEmptyObject (havailable : store.available = .ok ())
    (hclock : store.clock.NeverPanics)
    (h : Completes (createEmptyObject · options) ids store after) :
    Completes (fun id store => store.run (.createEmptyObject id options)) ids store after ∧
      after.available = .ok () ∧ after.clock.NeverPanics := by
  induction h with
  | nil store => exact ⟨.nil store, havailable, hclock⟩
  | @cons id rest store middle after hcall _ ih =>
    have hmiddle := createEmptyObject_available havailable hclock id options
    rw [hcall] at hmiddle
    obtain ⟨hlater, hafter⟩ := ih hmiddle.1 hmiddle.2
    have hrun : store.run (.createEmptyObject id options) = (.ok (), middle) :=
      (write_of_evolves havailable hclock createEmptyObject_evolves).trans hcall
    exact ⟨.cons hrun hlater, hafter⟩

/-- A lock that no panic has poisoned is refused only because the store is closed. -/
theorem closed_of_refused {cause : Error} (hsound : store.poisoned = false)
    (h : store.available = .error cause) :
    store.closed = true ∧ cause = StorageError.closed := by
  unfold available at h
  split at h
  · next hclosed => exact ⟨hclosed, (Except.error.inj h).symm⟩
  · rw [hsound] at h
    cases h

/-- A batch of creations that fails stops at the first id that cannot be created. Only a closed
store refuses a batch of none. -/
theorem createEmptyObjects_failed (hclock : store.clock.NeverPanics)
    (hsound : store.poisoned = false)
    (h : store.run (.createEmptyObjects ids options) = (.error failure, after)) :
    StopsAtFirst ids options store failure after ∨
      ids = [] ∧ store.closed = true ∧ failure = .error StorageError.closed ∧ after = store := by
  rw [run] at h
  rcases write_cases (createEmptyObjects options ids) with ⟨cause, hrefused, hwrite⟩ | ⟨hok, -⟩
  · -- The lock is refused, to the batch as well as to its first creation.
    rw [hwrite] at h
    cases h
    cases ids with
    | nil =>
      obtain ⟨hclosed, rfl⟩ := closed_of_refused hsound hrefused
      exact .inr ⟨rfl, hclosed, rfl, rfl⟩
    | cons id rest =>
      refine .inl ⟨[], id, rest, rfl, .nil store, ?_⟩
      rw [run, write, hrefused]
      rfl
  · rw [write_of_evolves hok hclock createEmptyObjects_evolves, createEmptyObjects_eq_each,
      each_eq_error] at h
    obtain ⟨done, id, rest, prior, rfl, hdone, hfail⟩ := h
    obtain ⟨hruns, hprior, hnever⟩ := completes_createEmptyObject hok hclock hdone
    -- The creation that fails changes nothing itself.
    obtain rfl : after = prior := by
      have hsame := createEmptyObject_failed hnever (congrArg Prod.fst hfail)
      rwa [hfail] at hsame
    refine .inl ⟨done, id, rest, rfl, hruns, ?_⟩
    rw [run, write_of_evolves hprior hnever createEmptyObject_evolves, hfail]

/-- With a clock that does not panic, an operation on a reachable store that makes all its checks
before its first edit leaves the store as it was when it fails. A batch of creations that fails
leaves what the creations before the first failing one have made; only a closed store refuses a
batch of none, and stays as it was. -/
theorem run_atomic (hreach : Reachable clock store) (hclock : clock.NeverPanics) :
    (∀ {α : Type} {operation : Operation α} {failure : Failure}, operation.Atomic →
      (store.run operation).1 = .error failure → (store.run operation).2 = store) ∧
    ∀ {ids options failure after},
      store.run (.createEmptyObjects ids options) = (.error failure, after) →
        StopsAtFirst ids options store failure after ∨
          ids = [] ∧ store.closed = true ∧ failure = .error StorageError.closed ∧
            after = store := by
  have hnever := hreach.neverPanics hclock
  refine ⟨fun hatomic hfailed => run_failed hnever hatomic hfailed, fun hfailed => ?_⟩
  exact createEmptyObjects_failed hnever (hreach.not_poisoned hclock) hfailed

/-- A batch with an empty name in its middle stops there. -/
theorem unnamed_batch_stops :
    let store := ((empty (.fixed .epoch)).run (.createBucket "media" {})).2
    let ids := [.object "media" "a", .object "media" "", .object "media" "b"]
    Reachable (.fixed .epoch) store ∧
      ∃ failure after, store.run (.createEmptyObjects ids {}) = (.error failure, after) ∧
        StopsAtFirst ids {} store failure after := by
  intro store ids
  have hreach : Reachable (.fixed .epoch) store := .run _ .empty
  have hfails : (store.run (.createEmptyObjects ids {})).1.isOk = false := by decide +kernel
  refine ⟨hreach, ?_⟩
  rcases hrun : store.run (.createEmptyObjects ids {}) with ⟨failure | _, after⟩
  · refine ⟨failure, after, rfl, ?_⟩
    rcases (run_atomic hreach fun _ => ⟨.epoch, rfl⟩).2 hrun with hstops | ⟨hnone, -⟩
    · exact hstops
    · exact (List.cons_ne_nil _ _ hnone).elim
  · rw [hrun] at hfails
    cases hfails

/-- A batch of none can fail, on a closed store, though it has no id that cannot be created. -/
theorem closed_batch_fails :
    let store := ((empty (.fixed .epoch)).run .close).2
    Reachable (.fixed .epoch) store ∧ (Clock.fixed .epoch).NeverPanics ∧
      ∃ failure after, store.run (.createEmptyObjects [] {}) = (.error failure, after) ∧
        ¬ StopsAtFirst [] {} store failure after := by
  refine ⟨.run _ .empty, fun _ => ⟨.epoch, rfl⟩, _, _, rfl, ?_⟩
  rintro ⟨done, id, rest, hids, -⟩
  simp at hids

end ObjectStorage.Store
