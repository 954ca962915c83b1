import ObjectStorage.Proofs.Store.Evolution

/-!
# Failures leave the store alone

`Store.run_failed` says that an operation that fails changes nothing, as long as
the clock does not panic: a failure comes from a check that is made before the
first edit. `Operation.Atomic` leaves out what can fail between two edits, a
batch of creations and a copy to an empty name.
-/

namespace ObjectStorage

/-- Says that an operation makes all its checks before its first edit. -/
def Operation.Atomic {α : Type} : Operation α → Prop
  | .createEmptyObjects _ _ => False
  | .copy _ _ _ targets => ∀ name ∈ targets, name ≠ ""
  | _ => True

/-- Says that an operation can make what is at an id disappear. -/
def Operation.Removes {α : Type} (operation : Operation α) (id : ResourceId) : Prop :=
  match operation with
  | .deleteBuckets bucketNames => id.bucketName ∈ bucketNames
  | .deleteObjects ids => id ∈ ids
  | _ => False

/-- The edits of an operation remove only what it removes itself. -/
theorem Operation.Permits.removes {α : Type} {operation : Operation α} {edit : Edit}
    {id : ResourceId} (hpermit : operation.Permits edit) (hremove : edit.Removes id) :
    operation.Removes id := by
  cases operation <;> cases edit <;> simp only [Permits] at hpermit <;>
    simp only [Edit.Removes] at hremove
  case deleteBuckets =>
    rw [← hremove] at hpermit
    exact hpermit
  case deleteObjects => exact hremove ▸ hpermit

namespace Store

variable {α β : Type} {store : Store} {failure : Failure}

/-- Only the change behind a reading of the clock can fail. -/
theorem stamp_eq (hclock : store.clock.NeverPanics)
    (change : Timestamp → Store → Outcome α × Store) :
    ∃ now, store.stamp change = change now { store with clock := store.clock.tick } := by
  obtain ⟨now, hnow⟩ := hclock 0
  exact ⟨now, by rw [stamp, Clock.now, hnow]⟩

/-- Mapping an answer keeps a failure. -/
theorem map_eq_error {outcome : Outcome α} {f : α → β} :
    Except.map f outcome = .error failure ↔ outcome = .error failure := by
  cases outcome <;> simp [Except.map]

/-- A bucket that cannot be made leaves the store alone. -/
theorem createBucket_failed {bucketName : String} {options : BucketOptions}
    (hclock : store.clock.NeverPanics)
    (h : (store.createBucket bucketName options).1 = .error failure) :
    (store.createBucket bucketName options).2 = store := by
  unfold createBucket at h ⊢
  split at h
  · next hmem => rw [if_pos hmem]
  · obtain ⟨now, hstamp⟩ := stamp_eq hclock _
    rw [hstamp] at h
    cases h

/-- An object that cannot be stored leaves the store alone. -/
theorem storeObject_failed {id : ResourceId} {content : Bytes} {contentType : Option String}
    {metadata : Metadata} {overwrite : Bool} (hclock : store.clock.NeverPanics)
    (h : (store.storeObject id content contentType metadata overwrite).1 = .error failure) :
    (store.storeObject id content contentType metadata overwrite).2 = store := by
  unfold storeObject at h ⊢
  cases hplace : store.buckets.admit id overwrite with
  | error cause => rfl
  | ok previous =>
    simp only [hplace] at h
    obtain ⟨now, hstamp⟩ := stamp_eq hclock _
    rw [hstamp] at h
    cases h

/-- An object that cannot be written leaves the store alone. -/
theorem writeObject_failed {id : ResourceId} {content : Bytes} {options : ObjectOptions}
    (hclock : store.clock.NeverPanics)
    (h : (store.writeObject id content options).1 = .error failure) :
    (store.writeObject id content options).2 = store :=
  storeObject_failed hclock (map_eq_error.1 h)

/-- An object that cannot be created leaves the store alone. -/
theorem createEmptyObject_failed {id : ResourceId} {options : ObjectOptions}
    (hclock : store.clock.NeverPanics)
    (h : (store.createEmptyObject id options).1 = .error failure) :
    (store.createEmptyObject id options).2 = store := by
  unfold createEmptyObject at h ⊢
  split at h
  · cases h
  · next haccept =>
    rw [if_neg haccept]
    exact writeObject_failed hclock h

/-- Storing an object at a good place with leave to overwrite succeeds. -/
theorem storeObject_overwrite {id : ResourceId} (content : Bytes) (contentType : Option String)
    (metadata : Metadata) (hclock : store.clock.NeverPanics) (hobject : id.isObject = true)
    (hname : id.objectName ≠ some "") (hbucket : id.bucketName ∈ store.buckets) :
    ∃ info after, store.storeObject id content contentType metadata true = (.ok info, after) ∧
      after.clock.NeverPanics ∧ ∀ name, name ∈ after.buckets ↔ name ∈ store.buckets := by
  have hplace : store.buckets.admit id true = .ok (store.buckets.generation id) :=
    Buckets.admit_eq_ok.2 ⟨hobject, hname, hbucket, nofun, rfl⟩
  unfold storeObject
  simp only [hplace]
  obtain ⟨now, hstamp⟩ := stamp_eq hclock _
  rw [hstamp]
  exact ⟨_, _, rfl, fun n => hclock (n + 1), fun name => Buckets.mem_put⟩

/-- Copies to good places in buckets that are there are all stored. -/
theorem storeCopies_ok {copies : List (ResourceId × StoredObject)}
    (hclock : store.clock.NeverPanics)
    (h : ∀ copy ∈ copies, copy.1.isObject = true ∧ copy.1.objectName ≠ some "" ∧
      copy.1.bucketName ∈ store.buckets) :
    (store.storeCopies copies).1 = .ok () := by
  induction copies generalizing store with
  | nil => rfl
  | cons copy rest ih =>
    obtain ⟨id, object⟩ := copy
    obtain ⟨hobject, hname, hbucket⟩ := h _ (.head _)
    obtain ⟨info, after, hstore, hafter, hmem⟩ := storeObject_overwrite object.content
      object.info.contentType object.info.metadata hclock hobject hname hbucket
    unfold storeCopies
    simp only [hstore]
    refine ih hafter ?_
    intro copy hcopy
    obtain ⟨hobject, hname, hbucket⟩ := h copy (.tail _ hcopy)
    exact ⟨hobject, hname, (hmem _).2 hbucket⟩

/-- A copy to names that are not empty that fails leaves the store alone. -/
theorem copy_failed {sourceBucket targetBucket : String} {sources targets : List String}
    (hclock : store.clock.NeverPanics) (hnames : ∀ name ∈ targets, name ≠ "")
    (h : (store.copy sourceBucket sources targetBucket targets).1 = .error failure) :
    (store.copy sourceBucket sources targetBucket targets).2 = store := by
  rcases copy_cases sourceBucket sources targetBucket targets store with
      ⟨cause, hcopy⟩ | ⟨source, copies, -, htarget, hstaged, hcopy⟩
  · rw [hcopy]
  · -- Every target is a good place, so that no copy that was staged can fail.
    have hok : (store.storeCopies copies).1 = .ok () := by
      refine storeCopies_ok hclock ?_
      intro copy hcopy
      have hid : copy.1 ∈ copies.map (·.1) := List.mem_map.2 ⟨copy, hcopy, rfl⟩
      rw [stageCopies_targets hstaged] at hid
      obtain ⟨pair, hpair, hid⟩ := List.mem_map.1 hid
      have hname := hnames _ (List.of_mem_zip hpair).2
      rw [← hid]
      exact ⟨rfl, by simpa [ResourceId.object] using hname, htarget⟩
    rw [hcopy, hok] at h
    cases h

/-- Buckets that cannot be deleted leave the store alone. -/
theorem deleteBuckets_failed {bucketNames : List String}
    (h : (store.deleteBuckets bucketNames).1 = .error failure) :
    (store.deleteBuckets bucketNames).2 = store := by
  unfold deleteBuckets at h ⊢
  split at h
  · rfl
  · cases h

/-- Objects that cannot be deleted leave the store alone. -/
theorem deleteObjects_failed {ids : List ResourceId}
    (h : (store.deleteObjects ids).1 = .error failure) : (store.deleteObjects ids).2 = store := by
  unfold deleteObjects at h ⊢
  split at h
  · rfl
  · cases h

/-- Patches of objects that are all there succeed. -/
theorem patchItems_ok (now : Timestamp) {updates : List ItemUpdate} (store : Store)
    (h : ∀ update ∈ updates, ∃ object, store.buckets.object? update.resourceId = some object) :
    ∃ infos, (store.patchItems now updates).1 = .ok infos := by
  induction updates generalizing store with
  | nil => exact ⟨[], rfl⟩
  | cons update rest ih =>
    obtain ⟨object, hobject⟩ := h _ (.head _)
    -- The patch takes none of the objects of the other updates away.
    obtain ⟨infos, hinfos⟩ := ih { store with
        buckets := store.buckets.put update.resourceId (object.patched update now) }
      fun other hother => Buckets.exists_object?_put hobject (h other (.tail _ hother))
    unfold patchItems
    simp only [Buckets.requireObject_eq_ok.2 hobject]
    exact ⟨_, congrArg (Except.map _) hinfos⟩

/-- Items that cannot be updated leave the store alone. -/
theorem updateItems_failed {updates : List ItemUpdate} (hclock : store.clock.NeverPanics)
    (h : (store.updateItems updates).1 = .error failure) :
    (store.updateItems updates).2 = store := by
  unfold updateItems at h ⊢
  split at h
  · rfl
  · next hcheck =>
    obtain ⟨now, hstamp⟩ := stamp_eq hclock _
    obtain ⟨infos, hinfos⟩ := patchItems_ok now { store with clock := store.clock.tick }
      (Buckets.forM_requireObject.1 hcheck)
    rw [hstamp, hinfos] at h
    cases h

/-- A composition that fails leaves the store alone. -/
theorem composeObjects_failed {sources : List ResourceId} {target : ResourceId}
    {options : ComposeOptions} (hclock : store.clock.NeverPanics)
    (h : (store.composeObjects sources target options).1 = .error failure) :
    (store.composeObjects sources target options).2 = store := by
  unfold composeObjects at h ⊢
  split at h
  · rfl
  · exact storeObject_failed hclock h

/-- A call under the lock that fails leaves the store alone when its change does. -/
theorem write_failed {change : Store → Outcome α × Store} (hpanic : failure.isPanic = false)
    (hchange : (change store).1 = .error failure → (change store).2 = store)
    (h : (store.write change).1 = .error failure) : (store.write change).2 = store := by
  rcases write_cases change with ⟨cause, -, hwrite⟩ | ⟨havailable, hwrite⟩
  · rw [hwrite]
  · rw [hwrite] at h ⊢
    obtain ⟨-, hsound⟩ := available_eq_ok.1 havailable
    -- The failure is not a panic, so it leaves the lock as sound as it was.
    have hoff : (change store).1.isPanic = store.poisoned := by
      rw [h, hsound]
      exact hpanic
    simp only [hchange h, hoff]

/-- A call whose arguments are refused leaves the store alone. -/
theorem checked_failed {check : Except Error Unit} {call : Store → Outcome α × Store}
    (hcall : (call store).1 = .error failure → (call store).2 = store)
    (h : (store.checked check call).1 = .error failure) : (store.checked check call).2 = store := by
  unfold checked at h ⊢
  split at h
  · rfl
  · exact hcall h

/-- An operation that makes all its checks before its first edit leaves the store alone when it
fails. -/
theorem run_failed {operation : Operation α} (hclock : store.clock.NeverPanics)
    (hatomic : operation.Atomic) (h : (store.run operation).1 = .error failure) :
    (store.run operation).2 = store := by
  have hpanic : failure.isPanic = false := by
    have hsteady := (run_carried operation store).steady hclock
    rwa [h] at hsteady
  cases operation <;> rw [run] at h ⊢
  case createBucket =>
    exact checked_failed (write_failed hpanic (createBucket_failed hclock)) h
  case createEmptyObject => exact write_failed hpanic (createEmptyObject_failed hclock) h
  case createEmptyObjects => exact hatomic.elim
  case writeObject => exact write_failed hpanic (writeObject_failed hclock) h
  case copy => exact checked_failed (write_failed hpanic (copy_failed hclock hatomic)) h
  case deleteBuckets => exact write_failed hpanic deleteBuckets_failed h
  case deleteObjects => exact write_failed hpanic deleteObjects_failed h
  case updateItems => exact write_failed hpanic (updateItems_failed hclock) h
  case composeObjects =>
    exact checked_failed (write_failed hpanic (composeObjects_failed hclock)) h
  case close => cases h
  all_goals exact read_snd _

/-- A change that leaves the buckets alone when it fails does so under the lock too. -/
theorem write_failed_buckets {change : Store → Outcome α × Store}
    (hchange : (change store).1 = .error failure → (change store).2 = store)
    (h : (store.write change).1 = .error failure) :
    (store.write change).2.buckets = store.buckets := by
  rcases write_cases change with ⟨cause, -, hwrite⟩ | ⟨-, hwrite⟩
  · rw [hwrite]
  · rw [hwrite] at h ⊢
    have hsame := hchange h
    simp only [hsame]

/-- What is there stays there, unless an operation that removes it succeeds. -/
theorem run_holds {operation : Operation α} {id : ResourceId} (hholds : store.buckets.Holds id)
    (hremove : operation.Removes id → ∃ failure, (store.run operation).1 = .error failure) :
    (store.run operation).2.buckets.Holds id := by
  by_cases hremoves : operation.Removes id
  · obtain ⟨failure, hfailed⟩ := hremove hremoves
    have hsame : (store.run operation).2.buckets = store.buckets := by
      cases operation <;> first | exact hremoves.elim | skip
      case deleteBuckets => exact write_failed_buckets deleteBuckets_failed hfailed
      case deleteObjects => exact write_failed_buckets deleteObjects_failed hfailed
    rwa [hsame]
  · obtain ⟨edits, hedits, hpermit⟩ := (run_carried operation store).edits
    exact hedits.holds (fun edit hedit h => hremoves ((hpermit edit hedit).removes h)) hholds

end Store

end ObjectStorage
