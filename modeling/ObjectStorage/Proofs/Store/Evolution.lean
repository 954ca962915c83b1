import ObjectStorage.Proofs.Store.WellFormed
import ObjectStorage.Store.Run

/-!
# How a store evolves

`Store.Evolves` says what a change under the lock may do: a series of edits,
each of a permitted kind, and readings of the clock. Each change has one lemma of
this form, and `Store.run_carried` puts them together: every operation, whether it
succeeds, fails or breaks off, leaves a series of edits that
`Operation.Permits` allows it. `Store.Reachable` collects the stores that
operations lead to.
-/

namespace ObjectStorage

/-- Says that a clock never panics. -/
def Clock.NeverPanics (clock : Clock) : Prop :=
  ∀ n, ∃ time, clock n = .time time

/-- Says that an edit is of the kind that an operation makes, at an id that it names. -/
def Operation.Permits {α : Type} (operation : Operation α) (edit : Edit) : Prop :=
  match operation, edit with
  | .createBucket bucketName options, .addBucket other otherOptions _ =>
    other = bucketName ∧ otherOptions = options
  | .createEmptyObject id options, .store other _ _ _ overwrite _ =>
    other = id ∧ overwrite = options.overwrite
  | .createEmptyObjects ids options, .store other _ _ _ overwrite _ =>
    other ∈ ids ∧ overwrite = options.overwrite
  | .writeObject id _ options, .store other _ _ _ overwrite _ =>
    other = id ∧ overwrite = options.overwrite
  | .copy _ _ targetBucket targets, .store other _ _ _ overwrite _ =>
    (∃ name ∈ targets, other = .object targetBucket name) ∧ overwrite = true
  | .deleteBuckets bucketNames, .dropBucket bucketName => bucketName ∈ bucketNames
  | .deleteObjects ids, .remove id => id ∈ ids
  | .updateItems updates, .patch update _ => update ∈ updates
  | .composeObjects _ target _, .store other _ _ _ overwrite _ => other = target ∧ overwrite = true
  | _, _ => False

namespace Store

variable {α β : Type} {permits : Edit → Prop} {store : Store}

/-- What a change of a store may do under the lock. -/
structure Evolves (permits : Edit → Prop) (before : Store) (result : Outcome α × Store) : Prop where
  edits : ∃ edits, Edits edits before.buckets result.2.buckets ∧ ∀ edit ∈ edits, permits edit
  clock : ∃ ticks, ∀ n, result.2.clock n = before.clock (n + ticks)
  poisoned : result.2.poisoned = before.poisoned
  closed : result.2.closed = before.closed
  steady : before.clock.NeverPanics → result.1.isPanic = false

namespace Evolves

/-- A change that leaves the store alone and does not break off. -/
theorem rest {outcome : Outcome α} (h : outcome.isPanic = false) :
    Evolves permits store (outcome, store) :=
  ⟨⟨[], .nil _, by simp⟩, ⟨0, fun _ => rfl⟩, rfl, rfl, fun _ => h⟩

/-- One permitted edit. -/
theorem edit (store : Store) (edit : Edit) {answer : α} (hadm : edit.Admissible store.buckets)
    (hpermit : permits edit) :
    Evolves permits store (.ok answer, { store with buckets := edit.apply store.buckets }) :=
  ⟨⟨[edit], .single hadm, by simpa using hpermit⟩, ⟨0, fun _ => rfl⟩, rfl, rfl, fun _ => rfl⟩

/-- A clock that never panics goes on without panics. -/
theorem neverPanics {result : Outcome α × Store} (h : Evolves permits store result)
    (hclock : store.clock.NeverPanics) : result.2.clock.NeverPanics := by
  obtain ⟨ticks, hticks⟩ := h.clock
  intro n
  rw [hticks]
  exact hclock _

/-- One change after another. -/
theorem trans {outcome : Outcome α} {middle : Store} {result : Outcome β × Store}
    (hfirst : Evolves permits store (outcome, middle)) (hlater : Evolves permits middle result) :
    Evolves permits store result where
  edits := by
    obtain ⟨first, hfirst, hpermit⟩ := hfirst.edits
    obtain ⟨later, hlater, hpermit'⟩ := hlater.edits
    refine ⟨first ++ later, hfirst.append hlater, ?_⟩
    intro edit hedit
    exact (List.mem_append.1 hedit).elim (hpermit edit) (hpermit' edit)
  clock := by
    obtain ⟨first, hfirst⟩ := hfirst.clock
    obtain ⟨later, hlater⟩ := hlater.clock
    exact ⟨later + first, fun n => by rw [hlater, hfirst, Nat.add_assoc]⟩
  poisoned := hlater.poisoned.trans hfirst.poisoned
  closed := hlater.closed.trans hfirst.closed
  steady hclock := hlater.steady (hfirst.neverPanics hclock)

/-- A change whose answer is replaced by another. -/
theorem of_outcome {outcome : Outcome α} {other : Outcome β} {after : Store}
    (h : Evolves permits store (outcome, after)) (hpanic : other.isPanic = outcome.isPanic) :
    Evolves permits store (other, after) :=
  ⟨h.edits, h.clock, h.poisoned, h.closed, fun hclock => hpanic.trans (h.steady hclock)⟩

/-- A change that makes its edits under a wider permission. -/
theorem mono {wider : Edit → Prop} {result : Outcome α × Store} (h : Evolves permits store result)
    (hwider : ∀ edit, permits edit → wider edit) : Evolves wider store result where
  edits := by
    obtain ⟨edits, hedits, hpermit⟩ := h.edits
    exact ⟨edits, hedits, fun edit hedit => hwider edit (hpermit edit hedit)⟩
  clock := h.clock
  poisoned := h.poisoned
  closed := h.closed
  steady := h.steady

/-- A reading of the clock before a change. -/
theorem stamp {change : Timestamp → Store → Outcome α × Store}
    (h : ∀ now, Evolves permits { store with clock := store.clock.tick }
      (change now { store with clock := store.clock.tick })) :
    Evolves permits store (store.stamp change) := by
  unfold Store.stamp
  split
  · next now hnow =>
    have hlater := h now
    refine ⟨hlater.edits, ?_, hlater.poisoned, hlater.closed, fun hclock => ?_⟩
    · obtain ⟨ticks, hticks⟩ := hlater.clock
      exact ⟨ticks + 1, fun n => hticks n⟩
    · exact hlater.steady fun n => hclock (n + 1)
  · next hnow =>
    refine ⟨⟨[], .nil _, by simp⟩, ⟨1, fun _ => rfl⟩, rfl, rfl, ?_⟩
    intro hclock
    obtain ⟨time, htime⟩ := hclock 0
    rw [Clock.now, htime] at hnow
    cases hnow

end Evolves

/-- Mapping an answer does not change whether a call broke off. -/
theorem isPanic_map (outcome : Outcome α) (f : α → β) :
    Outcome.isPanic (outcome.map f) = outcome.isPanic := by
  cases outcome <;> rfl

/-- Making a bucket adds it. -/
theorem createBucket_evolves {bucketName : String} {options : BucketOptions}
    (hname : checkBucketName bucketName = .ok ()) :
    Evolves (Operation.createBucket bucketName options).Permits store
      (store.createBucket bucketName options) := by
  unfold createBucket
  split
  · exact .rest rfl
  · next hfree =>
    exact .stamp fun now => .edit { store with clock := store.clock.tick }
      (.addBucket bucketName options now) ⟨hname, hfree⟩ ⟨rfl, rfl⟩

/-- Storing an object stores it at its id. -/
theorem storeObject_evolves {id : ResourceId} {content : Bytes} {contentType : Option String}
    {metadata : Metadata} {overwrite : Bool} :
    Evolves (∃ now, · = .store id content contentType metadata overwrite now) store
      (store.storeObject id content contentType metadata overwrite) := by
  unfold storeObject
  split
  · exact .rest rfl
  · next previous hplace =>
    obtain ⟨hobject, hname, hbucket, hfree, rfl⟩ := Buckets.admit_eq_ok.1 hplace
    exact .stamp fun now => .edit { store with clock := store.clock.tick }
      (.store id content contentType metadata overwrite now) ⟨hobject, hname, hbucket, hfree⟩
      ⟨now, rfl⟩

/-- Writing an object stores it at its id. -/
theorem writeObject_evolves {id : ResourceId} {content : Bytes} {options : ObjectOptions} :
    Evolves (Operation.writeObject id content options).Permits store
      (store.writeObject id content options) := by
  refine (storeObject_evolves.mono ?_).of_outcome (isPanic_map _ _)
  rintro _ ⟨now, rfl⟩
  exact ⟨rfl, rfl⟩

/-- Creating an object stores it at its id, if at all. -/
theorem createEmptyObject_evolves {id : ResourceId} {options : ObjectOptions} :
    Evolves (Operation.createEmptyObject id options).Permits store
      (store.createEmptyObject id options) := by
  unfold createEmptyObject
  split
  · exact .rest rfl
  · refine writeObject_evolves.mono ?_
    intro edit hpermit
    cases edit <;> exact hpermit

/-- Creating objects stores them at their ids. -/
theorem createEmptyObjects_evolves {ids : List ResourceId} {options : ObjectOptions} :
    Evolves (Operation.createEmptyObjects ids options).Permits store
      (store.createEmptyObjects options ids) := by
  induction ids generalizing store with
  | nil => exact .rest rfl
  | cons id rest ih =>
    have hfirst : Evolves (Operation.createEmptyObjects (id :: rest) options).Permits store
        (store.createEmptyObject id options) := by
      refine createEmptyObject_evolves.mono ?_
      intro edit hpermit
      cases edit <;> first | exact hpermit.elim | exact ⟨by simp [hpermit.1], hpermit.2⟩
    unfold createEmptyObjects
    split
    · next after hcreate =>
      rw [hcreate] at hfirst
      refine hfirst.trans (ih.mono ?_)
      intro edit hpermit
      cases edit <;> first | exact hpermit.elim | exact ⟨.tail _ hpermit.1, hpermit.2⟩
    · next failure after hcreate =>
      rw [hcreate] at hfirst
      exact hfirst

/-- Storing copies stores them at their targets. -/
theorem storeCopies_evolves {copies : List (ResourceId × StoredObject)} :
    Evolves (fun edit => ∃ id ∈ copies.map (·.1), ∃ content contentType metadata now,
      edit = .store id content contentType metadata true now) store
      (store.storeCopies copies) := by
  induction copies generalizing store with
  | nil => exact .rest rfl
  | cons copy rest ih =>
    obtain ⟨id, object⟩ := copy
    have hfirst : Evolves (fun edit => ∃ other ∈ ((id, object) :: rest).map (·.1),
        ∃ content contentType metadata now,
          edit = .store other content contentType metadata true now) store
        (store.storeObject id object.content object.info.contentType object.info.metadata
          true) := by
      refine storeObject_evolves.mono ?_
      rintro _ ⟨now, rfl⟩
      exact ⟨id, by simp, _, _, _, now, rfl⟩
    unfold storeCopies
    split
    · next info after hstore =>
      rw [hstore] at hfirst
      exact hfirst.trans (ih.mono fun edit ⟨other, hother, h⟩ => ⟨other, .tail _ hother, h⟩)
    · next failure after hstore =>
      rw [hstore] at hfirst
      exact hfirst.of_outcome rfl

/-- Copying stores objects at the targets. -/
theorem copy_evolves {sourceBucket targetBucket : String} {sources targets : List String} :
    Evolves (Operation.copy sourceBucket sources targetBucket targets).Permits store
      (store.copy sourceBucket sources targetBucket targets) := by
  rcases copy_cases sourceBucket sources targetBucket targets store with
      ⟨cause, hcopy⟩ | ⟨source, copies, -, -, hstaged, hcopy⟩
  · rw [hcopy]
    exact .rest rfl
  · rw [hcopy]
    refine storeCopies_evolves.mono ?_
    rintro _ ⟨id, hid, content, contentType, metadata, now, rfl⟩
    rw [stageCopies_targets hstaged] at hid
    obtain ⟨pair, hpair, rfl⟩ := List.mem_map.1 hid
    exact ⟨⟨pair.2, (List.of_mem_zip hpair).2, rfl⟩, rfl⟩

/-- Erasing buckets one after another is a series of edits. -/
theorem edits_dropBuckets (bucketNames : List String) (buckets : Buckets) :
    Edits (bucketNames.map .dropBucket) buckets (bucketNames.foldl (·.erase ·) buckets) := by
  induction bucketNames generalizing buckets with
  | nil => exact .nil _
  | cons bucketName rest ih => exact .cons trivial (ih _)

/-- Deleting buckets drops them. -/
theorem deleteBuckets_evolves {bucketNames : List String} :
    Evolves (Operation.deleteBuckets bucketNames).Permits store
      (store.deleteBuckets bucketNames) := by
  unfold deleteBuckets
  split
  · exact .rest rfl
  · refine ⟨⟨_, edits_dropBuckets bucketNames _, fun edit hedit => ?_⟩, ⟨0, fun _ => rfl⟩, rfl, rfl,
      fun _ => rfl⟩
    obtain ⟨bucketName, hname, rfl⟩ := List.mem_map.1 hedit
    exact hname

/-- Removing objects one after another is a series of edits. -/
theorem edits_removeObjects (ids : List ResourceId) (buckets : Buckets) :
    Edits (ids.map .remove) buckets (ids.foldl Buckets.remove buckets) := by
  induction ids generalizing buckets with
  | nil => exact .nil _
  | cons id rest ih => exact .cons trivial (ih _)

/-- Deleting objects removes them. -/
theorem deleteObjects_evolves {ids : List ResourceId} :
    Evolves (Operation.deleteObjects ids).Permits store (store.deleteObjects ids) := by
  unfold deleteObjects
  split
  · exact .rest rfl
  · refine ⟨⟨_, edits_removeObjects ids _, fun edit hedit => ?_⟩, ⟨0, fun _ => rfl⟩, rfl, rfl,
      fun _ => rfl⟩
    obtain ⟨id, hid, rfl⟩ := List.mem_map.1 hedit
    exact hid

/-- Patching items patches them one after another. -/
theorem patchItems_evolves {now : Timestamp} {updates : List ItemUpdate} :
    Evolves (Operation.updateItems updates).Permits store (store.patchItems now updates) := by
  induction updates generalizing store with
  | nil => exact .rest rfl
  | cons update rest ih =>
    unfold patchItems
    split
    · exact .rest rfl
    · next object hrequire =>
      have hobject := Buckets.requireObject_eq_ok.1 hrequire
      have hadm : (Edit.patch update now).Admissible store.buckets := ⟨object, hobject⟩
      have hpatch : Evolves (Operation.updateItems (update :: rest)).Permits store
          ((.ok () : Outcome Unit),
            { store with buckets := (Edit.patch update now).apply store.buckets }) :=
        .edit store _ hadm (.head _)
      simp only [Edit.apply, hobject] at hpatch
      refine (hpatch.trans (ih.mono fun edit hpermit => ?_)).of_outcome (isPanic_map _ _)
      cases edit <;> first | exact hpermit.elim | exact List.mem_cons_of_mem _ hpermit

/-- Updating items patches them. -/
theorem updateItems_evolves {updates : List ItemUpdate} :
    Evolves (Operation.updateItems updates).Permits store (store.updateItems updates) := by
  unfold updateItems
  split
  · exact .rest rfl
  · exact .stamp fun now => patchItems_evolves

/-- Composing objects stores the result at the target. -/
theorem composeObjects_evolves {sources : List ResourceId} {target : ResourceId}
    {options : ComposeOptions} :
    Evolves (Operation.composeObjects sources target options).Permits store
      (store.composeObjects sources target options) := by
  unfold composeObjects
  split
  · exact .rest rfl
  · refine storeObject_evolves.mono ?_
    rintro _ ⟨now, rfl⟩
    exact ⟨rfl, rfl⟩

/-- The lock can be taken when the store is open and no panic has poisoned it. -/
theorem available_eq_ok :
    store.available = .ok () ↔ store.closed = false ∧ store.poisoned = false := by
  unfold available
  cases store.closed <;> cases store.poisoned <;> simp

/-- An open store refuses its lock once a panic has poisoned it. -/
theorem available_of_poisoned (hopen : store.closed = false) (hpoisoned : store.poisoned = true) :
    store.available = .error StorageError.lockPoisoned := by
  simp [available, hopen, hpoisoned]

/-- A change under the lock leaves it available. -/
theorem Evolves.available {result : Outcome α × Store} (h : Evolves permits store result)
    (havailable : store.available = .ok ()) : result.2.available = .ok () := by
  obtain ⟨hopen, hsound⟩ := available_eq_ok.1 havailable
  exact available_eq_ok.2 ⟨h.closed.trans hopen, h.poisoned.trans hsound⟩

/-- A question that has an answer is answered by a store that is available. -/
theorem read_of_available (h : store.available = .ok ()) (question : Buckets → α) :
    store.read (fun buckets => .ok (question buckets)) = (.ok (question store.buckets), store) := by
  rw [read, h]

/-- A question is refused with the lock. -/
theorem read_of_refused {cause : Error} (h : store.available = .error cause)
    (question : Buckets → Except Error α) : store.read question = (.failed cause, store) := by
  rw [read, h]

/-- A question leaves the store alone. -/
theorem read_snd (question : Buckets → Except Error α) : (store.read question).2 = store := by
  unfold read
  split
  · rfl
  · split <;> rfl

/-- A question never breaks off. -/
theorem read_isPanic (question : Buckets → Except Error α) :
    (store.read question).1.isPanic = false := by
  unfold read
  split
  · rfl
  · split <;> rfl

/-- A change is refused with the lock, or it is made and poisons the lock when it breaks off. -/
theorem write_cases (change : Store → Outcome α × Store) :
    (∃ cause, store.available = .error cause ∧ store.write change = (.failed cause, store)) ∨
      store.available = .ok () ∧ store.write change =
        ((change store).1, { (change store).2 with poisoned := (change store).1.isPanic }) := by
  unfold write
  split
  · next cause havailable => exact .inl ⟨cause, havailable, rfl⟩
  · next havailable => exact .inr ⟨havailable, rfl⟩

end Store

/-- Says that an operation only reads. -/
def Operation.isRead {α : Type} : Operation α → Bool
  | .getItemInfo _ | .getItemInfos _ | .listBucketInfo | .listObjectInfo _ _ | .listBucketNames
  | .listObjectNames _ _ | .readObject _ | .waitForBucketEmpty _ => true
  | _ => false

/-- Says that an operation closes the store. -/
def Operation.isClose {α : Type} : Operation α → Bool
  | .close => true
  | _ => false

namespace Store

variable {α : Type} {store : Store} {operation : Operation α}

/-- A read leaves the store alone. -/
theorem run_snd_of_isRead (h : operation.isRead = true) : (store.run operation).2 = store := by
  cases operation <;> first | exact read_snd _ | cases h

/-- What carrying out an operation does to a store. -/
structure Carried (operation : Operation α) (before : Store) (result : Outcome α × Store) :
    Prop where
  edits : ∃ edits, Edits edits before.buckets result.2.buckets ∧
    ∀ edit ∈ edits, operation.Permits edit
  clock : ∃ ticks, ∀ n, result.2.clock n = before.clock (n + ticks)
  closed : result.2.closed = (before.closed || operation.isClose)
  poisoned : result.2.poisoned = (before.poisoned || result.1.isPanic)
  steady : before.clock.NeverPanics → result.1.isPanic = false

namespace Carried

/-- An operation that leaves the store alone and does not break off. -/
theorem rest {outcome : Outcome α} (hclose : operation.isClose = false)
    (h : outcome.isPanic = false) : Carried operation store (outcome, store) :=
  ⟨⟨[], .nil _, by simp⟩, ⟨0, fun _ => rfl⟩, by simp [hclose], by simp [h], fun _ => h⟩

/-- An operation that asks a question. -/
theorem read {question : Buckets → Except Error α} (hclose : operation.isClose = false) :
    Carried operation store (store.read question) := by
  have h : Carried operation store ((store.read question).1, store) :=
    rest hclose (read_isPanic question)
  have heq : store.read question = ((store.read question).1, store) :=
    Prod.ext rfl (read_snd question)
  rwa [← heq] at h

/-- An operation that makes a change under the lock. -/
theorem write {change : Store → Outcome α × Store} (hclose : operation.isClose = false)
    (h : Evolves operation.Permits store (change store)) :
    Carried operation store (store.write change) := by
  rcases write_cases change with ⟨cause, -, hwrite⟩ | ⟨havailable, hwrite⟩
  · rw [hwrite]
    exact rest hclose rfl
  · rw [hwrite]
    obtain ⟨hopen, hsound⟩ := available_eq_ok.1 havailable
    exact ⟨h.edits, h.clock, by simp [h.closed, hclose], by simp [hsound], h.steady⟩

/-- An operation that judges its arguments before anything else. -/
theorem checked {check : Except Error Unit} {call : Store → Outcome α × Store}
    (hclose : operation.isClose = false)
    (h : check = .ok () → Carried operation store (call store)) :
    Carried operation store (store.checked check call) := by
  unfold Store.checked
  split
  · exact rest hclose rfl
  · exact h rfl

end Carried

/-- Every operation makes permitted edits and readings of the clock, closes the store only if that
is what it is for, and poisons the lock only by breaking off. -/
theorem run_carried (operation : Operation α) (store : Store) :
    Carried operation store (store.run operation) := by
  cases operation <;> rw [run]
  case createBucket =>
    exact .checked rfl fun hname => .write rfl (createBucket_evolves hname)
  case createEmptyObject => exact .write rfl createEmptyObject_evolves
  case createEmptyObjects => exact .write rfl createEmptyObjects_evolves
  case writeObject => exact .write rfl writeObject_evolves
  case copy => exact .checked rfl fun _ => .write rfl copy_evolves
  case deleteBuckets => exact .write rfl deleteBuckets_evolves
  case deleteObjects => exact .write rfl deleteObjects_evolves
  case updateItems => exact .write rfl updateItems_evolves
  case composeObjects => exact .checked rfl fun _ => .write rfl composeObjects_evolves
  case close =>
    exact ⟨⟨[], .nil _, by simp⟩, ⟨0, fun _ => rfl⟩, by simp [Operation.isClose],
      by simp [Outcome.isPanic], fun _ => rfl⟩
  all_goals exact .read rfl

/-- The stores that operations lead to from an empty one with this clock. -/
inductive Reachable (clock : Clock) : Store → Prop where
  | empty : Reachable clock (.empty clock)
  | run {α : Type} (operation : Operation α) {store : Store} :
      Reachable clock store → Reachable clock (store.run operation).2

namespace Reachable

variable {clock : Clock}

/-- Reachable stores are well-formed. -/
theorem wellFormed (h : Reachable clock store) : store.buckets.WellFormed := by
  induction h with
  | empty => exact .empty
  | run operation _ ih =>
    obtain ⟨_, hedits, _⟩ := (run_carried operation _).edits
    exact hedits.wellFormed ih

/-- The readings that are still to come are readings of the clock that the store was made with. -/
theorem neverPanics (h : Reachable clock store) (hclock : clock.NeverPanics) :
    store.clock.NeverPanics := by
  induction h with
  | empty => exact hclock
  | run operation _ ih =>
    obtain ⟨ticks, hticks⟩ := (run_carried operation _).clock
    intro n
    rw [hticks]
    exact ih _

/-- Without panics of the clock the lock is never poisoned. -/
theorem not_poisoned (h : Reachable clock store) (hclock : clock.NeverPanics) :
    store.poisoned = false := by
  induction h with
  | empty => rfl
  | @run _ operation store hreach ih =>
    have hcarried := run_carried operation store
    rw [hcarried.poisoned, ih, hcarried.steady (hreach.neverPanics hclock)]
    rfl

/-- Without panics of the clock the lock of an open store can be taken. -/
theorem available (h : Reachable clock store) (hclock : clock.NeverPanics)
    (hopen : store.closed = false) : store.available = .ok () :=
  available_eq_ok.2 ⟨hopen, h.not_poisoned hclock⟩

end Reachable

end Store

end ObjectStorage
