import ObjectStorage.Proofs.Store.Batch
import ObjectStorage.Proofs.Store.Deeds
import ObjectStorage.Proofs.Store.Evolution

/-!
# The journal of a store

`Store.deeds` writes down what an operation does to a store: nothing when a check
refuses it, else a reading of the clock and the edits that are stamped with the
time it shows. A batch writes down what it did before its first failure.
`Store.run_records` says that this is all: the deeds lead from the store before
the operation to the one after it. `Store.journal` collects the deeds of a run.
-/

namespace ObjectStorage

/-- A call that is made of a store. -/
structure Request where
  {Answer : Type}
  operation : Operation Answer

namespace Store

variable {α β : Type} {store middle after : Store}

/-- The deeds behind a check, which are done when it is passed. -/
def granted (check : Except Error α) (deeds : α → List Deed) : List Deed :=
  match check with
  | .ok found => deeds found
  | .error _ => []

/-- Nothing is done behind a check when there is nothing to do. -/
theorem granted_nil (check : Except Error α) : granted check (fun _ => []) = [] := by
  cases check <;> rfl

/-- The deeds behind a check are done when it is passed. -/
theorem mem_granted {check : Except Error α} {deeds : α → List Deed} {deed : Deed} :
    deed ∈ granted check deeds ↔ ∃ found, check = .ok found ∧ deed ∈ deeds found := by
  cases check <;> simp [granted]

/-- A reading of the clock, and edits that are stamped with the time it shows, if any. -/
def stampedDeeds (edits : Timestamp → List Edit) (store : Store) : List Deed :=
  .read store.clock.now ::
    match store.clock.now with
    | .time now => (edits now).map .edit
    | .panic => []

/-- The edits behind a reading of the clock are those that are stamped with it. -/
theorem mem_stampedDeeds {edits : Timestamp → List Edit} {edit : Edit}
    (h : .edit edit ∈ store.stampedDeeds edits) : ∃ now, edit ∈ edits now := by
  unfold stampedDeeds at h
  cases hnow : store.clock.now with
  | panic => simp [hnow] at h
  | time now => exact ⟨now, by simpa [hnow] using h⟩

/-- The deeds of a batch, up to its first failure. -/
def eachDeeds (call : β → Store → Outcome Unit × Store) (deeds : β → Store → List Deed) :
    List β → Store → List Deed
  | [], _ => []
  | entry :: rest, store =>
    deeds entry store ++
      match call entry store with
      | (.ok (), after) => eachDeeds call deeds rest after
      | (.error _, _) => []

/-- The deeds of a batch are those of its calls. -/
theorem mem_eachDeeds {call : β → Store → Outcome Unit × Store} {deeds : β → Store → List Deed}
    {entries : List β} {deed : Deed} (h : deed ∈ store.eachDeeds call deeds entries) :
    ∃ entry ∈ entries, ∃ prior, deed ∈ deeds entry prior := by
  induction entries generalizing store with
  | nil => cases h
  | cons entry rest ih =>
    rw [eachDeeds, List.mem_append] at h
    rcases h with hfirst | hlater
    · exact ⟨entry, .head _, store, hfirst⟩
    · split at hlater
      · next after hcall =>
        obtain ⟨other, hother, hprior⟩ := ih hlater
        exact ⟨other, .tail _ hother, hprior⟩
      · cases hlater

/-- The deeds of making a bucket. -/
def createBucketDeeds (bucketName : String) (options : BucketOptions) (store : Store) :
    List Deed :=
  if bucketName ∈ store.buckets then []
  else store.stampedDeeds fun now => [.addBucket bucketName options now]

/-- The deeds of storing an object. -/
def storeObjectDeeds (id : ResourceId) (content : Bytes) (contentType : Option String)
    (metadata : Metadata) (overwrite : Bool) (store : Store) : List Deed :=
  let place := store.buckets.admit id overwrite
  granted place fun _ =>
    store.stampedDeeds fun now => [.store id content contentType metadata overwrite now]

/-- The only edit of storing an object is at its id. -/
theorem mem_storeObjectDeeds {id : ResourceId} {content : Bytes} {contentType : Option String}
    {metadata : Metadata} {overwrite : Bool} {edit : Edit}
    (h : .edit edit ∈ store.storeObjectDeeds id content contentType metadata overwrite) :
    ∃ now, edit = .store id content contentType metadata overwrite now := by
  obtain ⟨previous, -, hstamped⟩ := mem_granted.1 h
  obtain ⟨now, hedit⟩ := mem_stampedDeeds hstamped
  exact ⟨now, List.mem_singleton.1 hedit⟩

/-- The deeds of creating an object: none when the one that is there may be kept. -/
def createEmptyObjectDeeds (options : ObjectOptions) (id : ResourceId) (store : Store) :
    List Deed :=
  if options.accepts (store.buckets.object? id) then []
  else store.storeObjectDeeds id [] options.contentType options.metadata options.overwrite

/-- The only edit of creating an object is at its id. -/
theorem mem_createEmptyObjectDeeds {id : ResourceId} {options : ObjectOptions} {edit : Edit}
    (h : .edit edit ∈ store.createEmptyObjectDeeds options id) :
    ∃ now, edit = .store id [] options.contentType options.metadata options.overwrite now := by
  unfold createEmptyObjectDeeds at h
  split at h
  · cases h
  · exact mem_storeObjectDeeds h

/-- The deeds of storing one copy. -/
def storeCopyDeeds (copy : ResourceId × StoredObject) (store : Store) : List Deed :=
  store.storeObjectDeeds copy.1 copy.2.content copy.2.info.contentType copy.2.info.metadata true

/-- The deeds of an operation that has taken the lock. -/
def lockedDeeds (operation : Operation α) (store : Store) : List Deed :=
  match operation with
  | .createBucket bucketName options => store.createBucketDeeds bucketName options
  | .createEmptyObject id options => store.createEmptyObjectDeeds options id
  | .createEmptyObjects ids options =>
    store.eachDeeds (createEmptyObject · options) (createEmptyObjectDeeds options) ids
  | .writeObject id content options =>
    store.storeObjectDeeds id content options.contentType options.metadata options.overwrite
  | .copy sourceBucket sources targetBucket targets =>
    granted (store.staged sourceBucket sources targetBucket targets) fun copies =>
      store.eachDeeds storeCopy storeCopyDeeds copies
  | .deleteBuckets bucketNames =>
    granted (bucketNames.forM fun name => discard (store.buckets.require name)) fun _ =>
      bucketNames.map fun name => .edit (.dropBucket name)
  | .deleteObjects ids =>
    granted (ids.forM fun id => discard (store.buckets.requireObject id)) fun _ =>
      ids.map fun id => .edit (.remove id)
  | .updateItems updates =>
    granted (updates.forM fun update =>
        discard (store.buckets.requireObject update.resourceId)) fun _ =>
      store.stampedDeeds fun now => updates.map (.patch · now)
  | .composeObjects sources target options =>
    granted (sources.mapM store.buckets.requireObject) fun objects =>
      store.storeObjectDeeds target (objects.flatMap (·.content)) options.contentType
        options.metadata true
  | _ => []

/-- What an operation demands of its arguments before it takes the lock. -/
def demand (operation : Operation α) : Except Error Unit :=
  match operation with
  | .createBucket bucketName _ => checkBucketName bucketName
  | .copy _ sources _ targets => checkCopy sources targets
  | .composeObjects sources target _ => checkCompose sources target
  | _ => .ok ()

/-- What an operation does to a store. -/
def deeds (operation : Operation α) (store : Store) : List Deed :=
  granted (demand operation) fun _ => granted store.available fun _ => store.lockedDeeds operation

/-- The edits among the deeds of an operation are those that it permits. -/
theorem permits_of_mem_deeds {operation : Operation α} {edit : Edit}
    (h : .edit edit ∈ store.deeds operation) : operation.Permits edit := by
  obtain ⟨-, -, h⟩ := mem_granted.1 h
  obtain ⟨-, -, h⟩ := mem_granted.1 h
  cases operation
  case createBucket bucketName options =>
    simp only [lockedDeeds, createBucketDeeds] at h
    split at h
    · cases h
    · obtain ⟨now, hedit⟩ := mem_stampedDeeds h
      obtain rfl := List.mem_singleton.1 hedit
      exact ⟨rfl, rfl⟩
  case createEmptyObject id options =>
    obtain ⟨now, rfl⟩ := mem_createEmptyObjectDeeds h
    exact ⟨rfl, rfl⟩
  case createEmptyObjects ids options =>
    obtain ⟨id, hid, prior, h⟩ := mem_eachDeeds h
    obtain ⟨now, rfl⟩ := mem_createEmptyObjectDeeds h
    exact ⟨hid, rfl⟩
  case writeObject id content options =>
    obtain ⟨now, rfl⟩ := mem_storeObjectDeeds h
    exact ⟨rfl, rfl⟩
  case copy sourceBucket sources targetBucket targets =>
    obtain ⟨copies, hstaged, h⟩ := mem_granted.1 h
    obtain ⟨copy, hcopy, prior, h⟩ := mem_eachDeeds h
    obtain ⟨now, rfl⟩ := mem_storeObjectDeeds h
    exact ⟨mem_staged hstaged hcopy, rfl⟩
  case deleteBuckets bucketNames =>
    obtain ⟨-, -, h⟩ := mem_granted.1 h
    obtain ⟨bucketName, hname, hedit⟩ := List.mem_map.1 h
    obtain rfl := Deed.edit.inj hedit
    exact hname
  case deleteObjects ids =>
    obtain ⟨-, -, h⟩ := mem_granted.1 h
    obtain ⟨id, hid, hedit⟩ := List.mem_map.1 h
    obtain rfl := Deed.edit.inj hedit
    exact hid
  case updateItems updates =>
    obtain ⟨-, -, h⟩ := mem_granted.1 h
    obtain ⟨now, hedit⟩ := mem_stampedDeeds h
    obtain ⟨update, hupdate, rfl⟩ := List.mem_map.1 hedit
    exact hupdate
  case composeObjects sources target options =>
    obtain ⟨objects, -, h⟩ := mem_granted.1 h
    obtain ⟨now, rfl⟩ := mem_storeObjectDeeds h
    exact ⟨rfl, rfl⟩
  all_goals cases h

/-- The store after some requests. -/
def runAll (requests : List Request) (store : Store) : Store :=
  requests.foldl (fun store request => (store.run request.operation).2) store

/-- What some requests do to a store, one after another. -/
def journal : List Request → Store → List Deed
  | [], _ => []
  | request :: rest, store =>
    store.deeds request.operation ++ journal rest (store.run request.operation).2

/-- Says that deeds are all that leads from one store to another, but for its lock. -/
def Records (deeds : List Deed) (before after : Store) : Prop :=
  ∀ latest, ∃ last, Deeds deeds ⟨before.buckets, before.clock, latest⟩
    ⟨after.buckets, after.clock, last⟩

namespace Records

/-- Nothing is done to a store that stays as it is. -/
theorem nil (store : Store) : Records [] store store := fun latest => ⟨latest, .nil _⟩

/-- Deeds behind other deeds. -/
theorem append {deeds later : List Deed} (hfirst : Records deeds store middle)
    (hlater : Records later middle after) : Records (deeds ++ later) store after := by
  intro latest
  obtain ⟨next, hfirst⟩ := hfirst latest
  obtain ⟨last, hlater⟩ := hlater next
  exact ⟨last, hfirst.append hlater⟩

/-- Edits without a stamp. -/
theorem of_edits {edits : List Edit} {buckets : Buckets} (h : Edits edits store.buckets buckets)
    (hstamp : ∀ edit ∈ edits, edit.stamp? = none) :
    Records (edits.map .edit) store { store with buckets } := by
  intro latest
  refine ⟨latest, Deeds.of_edits h ?_⟩
  intro edit hedit now hnow
  rw [hstamp edit hedit] at hnow
  cases hnow

/-- A reading of the clock and the edits that are stamped with it. -/
theorem stamp {change : Timestamp → Store → Outcome α × Store} {edits : Timestamp → List Edit}
    (hclock : ∀ now, (change now { store with clock := store.clock.tick }).2.clock =
      store.clock.tick)
    (hedits : ∀ now, Edits (edits now) store.buckets
      (change now { store with clock := store.clock.tick }).2.buckets)
    (hstamp : ∀ now, ∀ edit ∈ edits now, edit.stamp? = some now) :
    Records (store.stampedDeeds edits) store (store.stamp change).2 := by
  intro latest
  unfold stampedDeeds Store.stamp
  cases hnow : store.clock.now with
  | panic => exact ⟨latest, .cons hnow.symm (.nil _)⟩
  | time now =>
    -- The time that is shown becomes the latest one, which the edits have to bear.
    refine ⟨some now, .cons hnow.symm ?_⟩
    dsimp only [Deed.apply]
    rw [hclock now]
    refine Deeds.of_edits (hedits now) ?_
    intro edit hedit time htime
    exact (hstamp now edit hedit).symm.trans htime

/-- A batch does what its calls do. -/
theorem each {call : β → Store → Outcome Unit × Store} {deeds : β → Store → List Deed}
    (h : ∀ entry store, Records (deeds entry store) store (call entry store).2)
    (entries : List β) (store : Store) :
    Records (store.eachDeeds call deeds entries) store (store.each call entries).2 := by
  induction entries generalizing store with
  | nil => exact nil store
  | cons entry rest ih =>
    have hfirst := h entry store
    rw [eachDeeds, Store.each]
    generalize call entry store = result at hfirst ⊢
    obtain ⟨outcome, after⟩ := result
    cases outcome with
    | error failure =>
      -- Nothing more is done behind the first failure.
      exact hfirst.append (nil after)
    | ok _ => exact hfirst.append (ih after)

/-- What is done behind a check is done when it is passed; else the store stays as it is. -/
theorem of_check {check : Except Error β} {deeds : β → List Deed}
    (hrefused : ∀ cause, check = .error cause → after = store)
    (hpassed : ∀ found, check = .ok found → Records (deeds found) store after) :
    Records (granted check deeds) store after := by
  cases hcheck : check with
  | error cause => exact hrefused cause hcheck ▸ nil store
  | ok found => exact hpassed found hcheck

/-- A change behind the lock does what it does by itself, if it is made. -/
theorem write {change : Store → Outcome α × Store} {deeds : List Deed}
    (h : Records deeds store (change store).2) :
    Records (granted store.available fun _ => deeds) store (store.write change).2 := by
  refine of_check (fun cause hrefused => by rw [Store.write, hrefused]) fun _ hpassed => ?_
  rw [Store.write, hpassed]
  exact h

/-- A call behind a check of its arguments does what it does by itself, if it is made. -/
theorem checked {check : Except Error Unit} {call : Store → Outcome α × Store} {deeds : List Deed}
    (h : check = .ok () → Records deeds store (call store).2) :
    Records (granted check fun _ => deeds) store (store.checked check call).2 := by
  unfold Store.checked
  split
  · exact nil store
  · exact h rfl

end Records

/-- Making a bucket. -/
theorem createBucket_records {bucketName : String} {options : BucketOptions}
    (hname : checkBucketName bucketName = .ok ()) :
    Records (store.createBucketDeeds bucketName options) store
      (store.createBucket bucketName options).2 := by
  unfold createBucketDeeds createBucket
  split
  · exact .nil store
  · next hfree =>
    refine .stamp (fun now => rfl) (fun now => ?_) (fun now => by simp [Edit.stamp?])
    have hadm : (Edit.addBucket bucketName options now).Admissible store.buckets := ⟨hname, hfree⟩
    exact .single hadm

/-- Storing an object. -/
theorem storeObject_records (id : ResourceId) (content : Bytes) (contentType : Option String)
    (metadata : Metadata) (overwrite : Bool) (store : Store) :
    Records (store.storeObjectDeeds id content contentType metadata overwrite) store
      (store.storeObject id content contentType metadata overwrite).2 := by
  refine .of_check (fun cause hrefused => by rw [storeObject, hrefused]) fun previous hplace => ?_
  rw [storeObject, hplace]
  obtain ⟨hobject, hname, hbucket, hfree, rfl⟩ := Buckets.admit_eq_ok.1 hplace
  refine .stamp (fun now => rfl) (fun now => ?_) (fun now => by simp [Edit.stamp?])
  have hadm : (Edit.store id content contentType metadata overwrite now).Admissible
      store.buckets := ⟨hobject, hname, hbucket, hfree⟩
  exact .single hadm

/-- Creating an object. -/
theorem createEmptyObject_records (options : ObjectOptions) (id : ResourceId) (store : Store) :
    Records (store.createEmptyObjectDeeds options id) store
      (store.createEmptyObject id options).2 := by
  unfold createEmptyObjectDeeds createEmptyObject
  split
  · exact .nil store
  · exact storeObject_records _ _ _ _ _ store

/-- Copying objects. -/
theorem copy_records (sourceBucket : String) (sources : List String) (targetBucket : String)
    (targets : List String) (store : Store) :
    Records (granted (store.staged sourceBucket sources targetBucket targets) fun copies =>
        store.eachDeeds storeCopy storeCopyDeeds copies) store
      (store.copy sourceBucket sources targetBucket targets).2 := by
  rw [copy_eq]
  refine .of_check (fun cause hrefused => by rw [hrefused]) fun copies hstaged => ?_
  rw [hstaged]
  exact .each (fun copy store => storeObject_records _ _ _ _ _ store) copies store

/-- Deleting buckets. -/
theorem deleteBuckets_records (bucketNames : List String) (store : Store) :
    Records (granted (bucketNames.forM fun name => discard (store.buckets.require name)) fun _ =>
        bucketNames.map fun name => .edit (.dropBucket name)) store
      (store.deleteBuckets bucketNames).2 := by
  refine .of_check (fun cause hrefused => by rw [deleteBuckets, hrefused]) fun _ hpassed => ?_
  rw [deleteBuckets, hpassed]
  have h := Records.of_edits (edits_dropBuckets bucketNames store.buckets) (by simp [Edit.stamp?])
  rwa [List.map_map] at h

/-- Deleting objects. -/
theorem deleteObjects_records (ids : List ResourceId) (store : Store) :
    Records (granted (ids.forM fun id => discard (store.buckets.requireObject id)) fun _ =>
        ids.map fun id => .edit (.remove id)) store
      (store.deleteObjects ids).2 := by
  refine .of_check (fun cause hrefused => by rw [deleteObjects, hrefused]) fun _ hpassed => ?_
  rw [deleteObjects, hpassed]
  have h := Records.of_edits (edits_removeObjects ids store.buckets) (by simp [Edit.stamp?])
  rwa [List.map_map] at h

/-- Patching objects that are all there makes all the patches, and does not read the clock. -/
theorem patchItems_edits (now : Timestamp) {updates : List ItemUpdate} (store : Store)
    (h : ∀ update ∈ updates, ∃ object, store.buckets.object? update.resourceId = some object) :
    Edits (updates.map (.patch · now)) store.buckets (store.patchItems now updates).2.buckets ∧
      (store.patchItems now updates).2.clock = store.clock := by
  induction updates generalizing store with
  | nil => exact ⟨.nil _, rfl⟩
  | cons update rest ih =>
    obtain ⟨object, hobject⟩ := h _ (.head _)
    have hadm : (Edit.patch update now).Admissible store.buckets := ⟨object, hobject⟩
    -- The patch takes none of the objects of the other updates away.
    obtain ⟨hrest, hclock⟩ := ih { store with
        buckets := store.buckets.put update.resourceId (object.patched update now) }
      fun other hother => Buckets.exists_object?_put hobject (h other (.tail _ hother))
    have hpatch : (Edit.patch update now).apply store.buckets =
        store.buckets.put update.resourceId (object.patched update now) := by
      rw [Edit.apply, hobject]
    rw [patchItems, Buckets.requireObject_eq_ok.2 hobject]
    exact ⟨.cons hadm (hpatch ▸ hrest), hclock⟩

/-- Updating items. -/
theorem updateItems_records (updates : List ItemUpdate) (store : Store) :
    Records (granted (updates.forM fun update =>
          discard (store.buckets.requireObject update.resourceId)) fun _ =>
        store.stampedDeeds fun now => updates.map (.patch · now)) store
      (store.updateItems updates).2 := by
  refine .of_check (fun cause hrefused => by rw [updateItems, hrefused]) fun _ hcheck => ?_
  rw [updateItems, hcheck]
  have hpatch : ∀ now, Edits _ _ _ ∧ _ := fun now =>
    patchItems_edits now { store with clock := store.clock.tick }
      (Buckets.forM_requireObject.1 hcheck)
  refine .stamp (fun now => (hpatch now).2) (fun now => (hpatch now).1) ?_
  intro now edit hedit
  obtain ⟨update, -, rfl⟩ := List.mem_map.1 hedit
  rfl

/-- Composing objects. -/
theorem composeObjects_records (sources : List ResourceId) (target : ResourceId)
    (options : ComposeOptions) (store : Store) :
    Records (granted (sources.mapM store.buckets.requireObject) fun objects =>
        store.storeObjectDeeds target (objects.flatMap (·.content)) options.contentType
          options.metadata true) store
      (store.composeObjects sources target options).2 := by
  refine .of_check (fun cause hrefused => by rw [composeObjects, hrefused]) fun objects hfound => ?_
  rw [composeObjects, hfound]
  exact storeObject_records _ _ _ _ _ store

/-- The deeds of an operation are all that it does to the buckets and the clock of a store, whether
it succeeds, fails or breaks off. -/
theorem run_records (operation : Operation α) (store : Store) :
    Records (store.deeds operation) store (store.run operation).2 := by
  cases operation <;> rw [run, deeds] <;> dsimp only [demand, lockedDeeds]
  case createBucket =>
    exact .checked fun hname => .write (createBucket_records hname)
  case createEmptyObject => exact .write (createEmptyObject_records _ _ store)
  case createEmptyObjects ids options =>
    refine .write ?_
    rw [createEmptyObjects_eq_each]
    exact .each (createEmptyObject_records options) ids store
  case writeObject => exact .write (storeObject_records _ _ _ _ _ store)
  case copy => exact .checked fun _ => .write (copy_records _ _ _ _ store)
  case deleteBuckets => exact .write (deleteBuckets_records _ store)
  case deleteObjects => exact .write (deleteObjects_records _ store)
  case updateItems => exact .write (updateItems_records _ store)
  case composeObjects => exact .checked fun _ => .write (composeObjects_records _ _ _ store)
  case close =>
    rw [granted_nil, granted_nil]
    exact fun latest => ⟨latest, .nil _⟩
  all_goals
    rw [granted_nil, granted_nil, read_snd]
    exact .nil store

/-- The journal of a run is all that the run does to the buckets and the clock of a store. -/
theorem runAll_records (requests : List Request) (store : Store) :
    Records (store.journal requests) store (store.runAll requests) := by
  induction requests generalizing store with
  | nil => exact .nil store
  | cons request rest ih => exact (run_records request.operation store).append (ih _)

end Store

end ObjectStorage
