import ObjectStorage.Proofs.Store.Checks

/-!
# Batches

A batch makes one call for each of its entries and stops at the first that
fails. `Store.each` is a batch of any calls, and `Store.Completes` says that all
calls of a series succeed. `Store.each_eq_error` says what a failed batch leaves:
the series of the calls before the first failure, and that failure. Creations and
copies of several objects are batches of writes.
-/

namespace ObjectStorage.Store

variable {β : Type} {call : β → Store → Outcome Unit × Store} {entry : β} {entries : List β}
  {store middle after : Store} {failure : Failure}

/-- Makes a call for each entry, one after another, until one fails. -/
def each (call : β → Store → Outcome Unit × Store) : List β → Store → Outcome Unit × Store
  | [], store => (.ok (), store)
  | entry :: rest, store =>
    match call entry store with
    | (.ok (), store) => each call rest store
    | (.error failure, store) => (.error failure, store)

/-- The calls for these entries all succeed, one after another, and lead from one store to
another. -/
inductive Completes (call : β → Store → Outcome Unit × Store) : List β → Store → Store → Prop where
  | nil (store : Store) : Completes call [] store store
  | cons {entry : β} {rest : List β} {store middle after : Store} :
      call entry store = (.ok (), middle) → Completes call rest middle after →
      Completes call (entry :: rest) store after

/-- A batch whose first call succeeds goes on behind it. -/
theorem each_cons_ok (h : call entry store = (.ok (), middle)) :
    each call (entry :: entries) store = each call entries middle := by
  rw [each, h]

/-- A batch whose first call fails is over. -/
theorem each_cons_error (h : call entry store = (.error failure, middle)) :
    each call (entry :: entries) store = (.error failure, middle) := by
  rw [each, h]

/-- A batch fails when a call fails behind others that succeed, and leaves what that call leaves. -/
theorem each_eq_error :
    each call entries store = (.error failure, after) ↔
      ∃ done entry rest prior, entries = done ++ entry :: rest ∧
        Completes call done store prior ∧ call entry prior = (.error failure, after) := by
  constructor
  · intro h
    induction entries generalizing store with
    | nil => cases h
    | cons first others ih =>
      rcases hcall : call first store with ⟨cause | _, middle⟩
      · rw [each_cons_error hcall] at h
        exact ⟨[], first, others, store, rfl, .nil store, hcall.trans h⟩
      · rw [each_cons_ok hcall] at h
        obtain ⟨done, entry, rest, prior, rfl, hdone, hfail⟩ := ih h
        exact ⟨first :: done, entry, rest, prior, rfl, .cons hcall hdone, hfail⟩
  · rintro ⟨done, entry, rest, prior, rfl, hdone, hfail⟩
    induction hdone with
    | nil store => exact each_cons_error hfail
    | cons hcall _ ih =>
      rw [List.cons_append, each_cons_ok hcall]
      exact ih hfail

/-- A batch succeeds when all its calls do. -/
theorem each_eq_ok :
    each call entries store = (.ok (), after) ↔ Completes call entries store after := by
  constructor
  · intro h
    induction entries generalizing store with
    | nil =>
      cases h
      exact .nil _
    | cons entry rest ih =>
      rcases hcall : call entry store with ⟨failure | _, middle⟩
      · rw [each_cons_error hcall] at h
        cases h
      · rw [each_cons_ok hcall] at h
        exact .cons hcall (ih h)
  · intro h
    induction h with
    | nil store => rfl
    | cons hcall _ ih => rw [each_cons_ok hcall, ih]

/-- A series of calls leads through what the first of them leave. -/
theorem Completes.append_cases {done rest : List β}
    (h : Completes call (done ++ rest) store after) :
    ∃ middle, Completes call done store middle ∧ Completes call rest middle after := by
  induction done generalizing store with
  | nil => exact ⟨store, .nil store, h⟩
  | cons entry done ih =>
    cases h with
    | cons hcall hlater =>
      obtain ⟨middle, hdone, hrest⟩ := ih hlater
      exact ⟨middle, .cons hcall hdone, hrest⟩

/-- Creating several objects is a batch of single creations. -/
theorem createEmptyObjects_eq_each (options : ObjectOptions) (ids : List ResourceId)
    (store : Store) :
    store.createEmptyObjects options ids = store.each (createEmptyObject · options) ids := by
  induction ids generalizing store with
  | nil => rfl
  | cons id rest ih =>
    rw [createEmptyObjects, each]
    generalize store.createEmptyObject id options = result
    obtain ⟨outcome, after⟩ := result
    cases outcome with
    | error failure => rfl
    | ok _ => exact ih after

/-- Stores one copy, over what lies at its target. -/
def storeCopy (copy : ResourceId × StoredObject) (store : Store) : Outcome Unit × Store :=
  store.writeObject copy.1 copy.2.content
    { contentType := copy.2.info.contentType, metadata := copy.2.info.metadata }

/-- Storing copies is a batch of single ones. -/
theorem storeCopies_eq_each (copies : List (ResourceId × StoredObject)) (store : Store) :
    store.storeCopies copies = store.each storeCopy copies := by
  induction copies generalizing store with
  | nil => rfl
  | cons copy rest ih =>
    obtain ⟨id, object⟩ := copy
    rw [storeCopies, each, storeCopy, writeObject]
    generalize store.storeObject id object.content object.info.contentType object.info.metadata
      true = result
    obtain ⟨outcome, after⟩ := result
    cases outcome with
    | error failure => rfl
    | ok info => exact ih after

/-- What a copy stages before it stores anything, or the error for which it is refused. -/
def staged (sourceBucket : String) (sources : List String) (targetBucket : String)
    (targets : List String) (store : Store) : Except Error (List (ResourceId × StoredObject)) := do
  discard <| store.buckets.require targetBucket
  let bucket ← store.buckets.require sourceBucket
  stageCopies bucket sourceBucket targetBucket (sources.zip targets)

/-- What a copy stages lies at its targets. -/
theorem mem_staged {sourceBucket targetBucket : String} {sources targets : List String}
    {copies : List (ResourceId × StoredObject)} {copy : ResourceId × StoredObject}
    (hstaged : store.staged sourceBucket sources targetBucket targets = .ok copies)
    (hcopy : copy ∈ copies) : ∃ name ∈ targets, copy.1 = .object targetBucket name := by
  simp only [staged, bind_eq_ok_iff] at hstaged
  obtain ⟨-, -, source, -, hstaged⟩ := hstaged
  have hid : copy.1 ∈ copies.map (·.1) := List.mem_map.2 ⟨copy, hcopy, rfl⟩
  rw [stageCopies_targets hstaged] at hid
  obtain ⟨pair, hpair, hid⟩ := List.mem_map.1 hid
  exact ⟨pair.2, (List.of_mem_zip hpair).2, hid.symm⟩

/-- A copy that is not refused stores what it has staged. -/
theorem copy_eq (sourceBucket : String) (sources : List String) (targetBucket : String)
    (targets : List String) (store : Store) :
    store.copy sourceBucket sources targetBucket targets =
      match store.staged sourceBucket sources targetBucket targets with
      | .error cause => (.failed cause, store)
      | .ok copies => store.each storeCopy copies := by
  unfold copy
  dsimp only
  split
  · next cause hstaged => rw [staged, hstaged]
  · next copies hstaged => rw [staged, hstaged, storeCopies_eq_each]

end ObjectStorage.Store
