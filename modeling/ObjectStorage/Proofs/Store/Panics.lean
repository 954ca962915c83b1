import ObjectStorage.Proofs.Store.Journal

/-!
# Panics of the clock

A clock that panics takes the call with it that reads it. `Store.run_panicsWith`
says that nothing else makes a call break off, and that no call goes on behind
such a reading: an operation breaks off exactly when one of the readings among its
deeds is a panic. Each change has one lemma of this form.
-/

namespace ObjectStorage.Store

variable {α β : Type} {store : Store}

/-- Says that a call breaks off with the clock when the clock panics among these deeds, and does
not break off otherwise. -/
structure PanicsWith (deeds : List Deed) (outcome : Outcome α) : Prop where
  broken : .read .panic ∈ deeds → outcome = .panicked .clock
  sound : .read .panic ∉ deeds → outcome.isPanic = false

namespace PanicsWith

/-- A call among whose deeds the clock does not panic. -/
theorem of_not_mem {deeds : List Deed} {outcome : Outcome α} (hdeeds : .read .panic ∉ deeds)
    (h : outcome.isPanic = false) : PanicsWith deeds outcome :=
  ⟨fun hmem => (hdeeds hmem).elim, fun _ => h⟩

/-- A call that does nothing. -/
theorem nil {outcome : Outcome α} (h : outcome.isPanic = false) : PanicsWith [] outcome :=
  of_not_mem List.not_mem_nil h

/-- A call whose answer is replaced by another. -/
theorem map {deeds : List Deed} {outcome : Outcome α} (h : PanicsWith deeds outcome) (f : α → β) :
    PanicsWith deeds (Except.map f outcome) where
  broken hmem := by
    rw [h.broken hmem]
    rfl
  sound hmem := (isPanic_map outcome f).trans (h.sound hmem)

/-- A call that reads the clock once, before its edits. -/
theorem stamp {change : Timestamp → Store → Outcome α × Store} (edits : Timestamp → List Edit)
    (h : ∀ now store, (change now store).1.isPanic = false) :
    PanicsWith (store.stampedDeeds edits) (store.stamp change).1 := by
  unfold stampedDeeds Store.stamp
  cases store.clock.now with
  | time now => exact of_not_mem (by simp) (h now _)
  | panic => exact ⟨fun _ => rfl, fun hmem => (hmem (.head _)).elim⟩

/-- A batch, which goes no further when one of its calls breaks off. -/
theorem each {call : β → Store → Outcome Unit × Store} {deeds : β → Store → List Deed}
    (h : ∀ entry store, PanicsWith (deeds entry store) (call entry store).1) (entries : List β)
    (store : Store) :
    PanicsWith (store.eachDeeds call deeds entries) (store.each call entries).1 := by
  induction entries generalizing store with
  | nil => exact nil rfl
  | cons entry rest ih =>
    have hfirst := h entry store
    rw [eachDeeds, Store.each]
    generalize call entry store = result at hfirst ⊢
    obtain ⟨outcome, after⟩ := result
    cases outcome with
    | error failure =>
      dsimp only
      rw [List.append_nil]
      exact hfirst
    | ok _ =>
      -- The first call has not broken off, so that the clock has not panicked yet.
      have hquiet : .read .panic ∉ deeds entry store := fun hmem => by
        cases hfirst.broken hmem
      refine ⟨fun hmem => ?_, fun hmem => ?_⟩
      · exact (ih after).broken ((List.mem_append.1 hmem).resolve_left hquiet)
      · exact (ih after).sound fun hlater => hmem (List.mem_append_right _ hlater)

/-- A call behind a check breaks off as what it does when the check is passed. -/
theorem of_check {check : Except Error β} {deeds : β → List Deed} {outcome : Outcome α}
    (hrefused : ∀ cause, check = .error cause → outcome.isPanic = false)
    (hpassed : ∀ found, check = .ok found → PanicsWith (deeds found) outcome) :
    PanicsWith (granted check deeds) outcome := by
  cases hcheck : check with
  | error cause => exact nil (hrefused cause hcheck)
  | ok found => exact hpassed found hcheck

/-- A change behind the lock breaks off as it does by itself, if it is made. -/
theorem write {change : Store → Outcome α × Store} {deeds : List Deed}
    (h : PanicsWith deeds (change store).1) :
    PanicsWith (granted store.available fun _ => deeds) (store.write change).1 := by
  refine of_check (fun cause hrefused => by rw [Store.write, hrefused]; rfl) fun _ hpassed => ?_
  rw [Store.write, hpassed]
  exact h

/-- A call behind a check of its arguments breaks off as it does by itself, if it is made. -/
theorem checked {check : Except Error Unit} {call : Store → Outcome α × Store} {deeds : List Deed}
    (h : PanicsWith deeds (call store).1) :
    PanicsWith (granted check fun _ => deeds) (store.checked check call).1 := by
  unfold Store.checked
  split
  · exact nil rfl
  · exact h

end PanicsWith

/-- Making a bucket. -/
theorem createBucket_panicsWith (bucketName : String) (options : BucketOptions) (store : Store) :
    PanicsWith (store.createBucketDeeds bucketName options)
      (store.createBucket bucketName options).1 := by
  unfold createBucketDeeds createBucket
  split
  · exact .nil rfl
  · exact .stamp _ fun _ _ => rfl

/-- Storing an object. -/
theorem storeObject_panicsWith (id : ResourceId) (content : Bytes) (contentType : Option String)
    (metadata : Metadata) (overwrite : Bool) (store : Store) :
    PanicsWith (store.storeObjectDeeds id content contentType metadata overwrite)
      (store.storeObject id content contentType metadata overwrite).1 := by
  refine .of_check (fun cause hrefused => by rw [storeObject, hrefused]; rfl) fun _ hplace => ?_
  rw [storeObject, hplace]
  exact .stamp _ fun _ _ => rfl

/-- Creating an object. -/
theorem createEmptyObject_panicsWith (options : ObjectOptions) (id : ResourceId) (store : Store) :
    PanicsWith (store.createEmptyObjectDeeds options id)
      (store.createEmptyObject id options).1 := by
  unfold createEmptyObjectDeeds createEmptyObject
  split
  · exact .nil rfl
  · exact (storeObject_panicsWith _ _ _ _ _ store).map _

/-- Copying objects. -/
theorem copy_panicsWith (sourceBucket : String) (sources : List String) (targetBucket : String)
    (targets : List String) (store : Store) :
    PanicsWith (granted (store.staged sourceBucket sources targetBucket targets) fun copies =>
        store.eachDeeds storeCopy storeCopyDeeds copies)
      (store.copy sourceBucket sources targetBucket targets).1 := by
  rw [copy_eq]
  refine .of_check (fun cause hrefused => by rw [hrefused]; rfl) fun copies hstaged => ?_
  rw [hstaged]
  exact .each (fun copy store => (storeObject_panicsWith _ _ _ _ _ store).map _) copies store

/-- Deleting buckets. -/
theorem deleteBuckets_panicsWith (bucketNames : List String) (store : Store) :
    PanicsWith (granted (bucketNames.forM fun name => discard (store.buckets.require name)) fun _ =>
        bucketNames.map fun name => .edit (.dropBucket name))
      (store.deleteBuckets bucketNames).1 := by
  refine .of_check (fun cause hrefused => by rw [deleteBuckets, hrefused]; rfl) fun _ hpassed => ?_
  rw [deleteBuckets, hpassed]
  exact .of_not_mem (by simp) rfl

/-- Deleting objects. -/
theorem deleteObjects_panicsWith (ids : List ResourceId) (store : Store) :
    PanicsWith (granted (ids.forM fun id => discard (store.buckets.requireObject id)) fun _ =>
        ids.map fun id => .edit (.remove id))
      (store.deleteObjects ids).1 := by
  refine .of_check (fun cause hrefused => by rw [deleteObjects, hrefused]; rfl) fun _ hpassed => ?_
  rw [deleteObjects, hpassed]
  exact .of_not_mem (by simp) rfl

/-- Patches do not read the clock any more. -/
theorem patchItems_isPanic (now : Timestamp) (updates : List ItemUpdate) (store : Store) :
    (store.patchItems now updates).1.isPanic = false := by
  induction updates generalizing store with
  | nil => rfl
  | cons update rest ih =>
    unfold patchItems
    split
    · rfl
    · exact (isPanic_map _ _).trans (ih _)

/-- Updating items. -/
theorem updateItems_panicsWith (updates : List ItemUpdate) (store : Store) :
    PanicsWith (granted (updates.forM fun update =>
          discard (store.buckets.requireObject update.resourceId)) fun _ =>
        store.stampedDeeds fun now => updates.map (.patch · now))
      (store.updateItems updates).1 := by
  refine .of_check (fun cause hrefused => by rw [updateItems, hrefused]; rfl) fun _ hcheck => ?_
  rw [updateItems, hcheck]
  exact .stamp _ fun now store => patchItems_isPanic now updates store

/-- Composing objects. -/
theorem composeObjects_panicsWith (sources : List ResourceId) (target : ResourceId)
    (options : ComposeOptions) (store : Store) :
    PanicsWith (granted (sources.mapM store.buckets.requireObject) fun objects =>
        store.storeObjectDeeds target (objects.flatMap (·.content)) options.contentType
          options.metadata true)
      (store.composeObjects sources target options).1 := by
  refine .of_check (fun cause hrefused => by rw [composeObjects, hrefused]; rfl) fun _ hfound => ?_
  rw [composeObjects, hfound]
  exact storeObject_panicsWith _ _ _ _ _ store

/-- An operation breaks off exactly when the clock panics at one of the readings that it takes, and
then the clock is what it breaks off with. -/
theorem run_panicsWith (operation : Operation α) (store : Store) :
    PanicsWith (store.deeds operation) (store.run operation).1 := by
  cases operation <;> rw [run, deeds] <;> dsimp only [demand, lockedDeeds]
  case createBucket => exact .checked (.write (createBucket_panicsWith _ _ store))
  case createEmptyObject => exact .write (createEmptyObject_panicsWith _ _ store)
  case createEmptyObjects ids options =>
    refine .write ?_
    rw [createEmptyObjects_eq_each]
    exact .each (createEmptyObject_panicsWith options) ids store
  case writeObject => exact .write ((storeObject_panicsWith _ _ _ _ _ store).map _)
  case copy => exact .checked (.write (copy_panicsWith _ _ _ _ store))
  case deleteBuckets => exact .write (deleteBuckets_panicsWith _ store)
  case deleteObjects => exact .write (deleteObjects_panicsWith _ store)
  case updateItems => exact .write (updateItems_panicsWith _ store)
  case composeObjects => exact .checked (.write (composeObjects_panicsWith _ _ _ store))
  case close =>
    rw [granted_nil, granted_nil]
    exact .nil rfl
  all_goals
    rw [granted_nil, granted_nil]
    exact .nil (read_isPanic _)

end ObjectStorage.Store
