import ObjectStorage.Proofs.LastInfo
import ObjectStorage.Proofs.Store.Evolution
import ObjectStorage.Proofs.Store.Listing

/-!
# What a store reports

`Store.run_lookup` says that an operation changes only what is reported about the
ids that it touches. `Store.run_reported` says that the last info about an id in
an answer is what a lookup answers right after it, with one exception: a listing
with a delimiter reports directories under whose names no object lies.
-/

namespace ObjectStorage

namespace Operation

variable {α : Type}

/-- Says that an operation can change what is reported about an id. -/
def Touches (operation : Operation α) (id : ResourceId) : Prop :=
  match operation with
  | .createBucket bucketName _ => id = .bucket bucketName
  | .createEmptyObject other _ | .writeObject other _ _ | .composeObjects _ other _ => id = other
  | .createEmptyObjects ids _ | .deleteObjects ids => id ∈ ids
  | .copy _ _ targetBucket targets => ∃ name ∈ targets, id = .object targetBucket name
  | .deleteBuckets bucketNames => ∃ name ∈ bucketNames, id.belongsTo name = true
  | .updateItems updates => ∃ update ∈ updates, id = update.resourceId
  | _ => False

/-- Says that an operation only makes what is not there yet. -/
def Creates (operation : Operation α) : Prop :=
  match operation with
  | .createBucket _ _ => True
  | .createEmptyObject _ options | .createEmptyObjects _ options | .writeObject _ _ options =>
    options.overwrite = false
  | _ => False

/-- Says that an operation reports the infos that it leaves about an id. -/
def Renews (operation : Operation α) (id : ResourceId) : Prop :=
  match operation with
  | .updateItems updates => ∃ update ∈ updates, id = update.resourceId
  | .composeObjects _ target _ => id = target
  | _ => False

/-- The delimiter of a listing of infos. -/
def listingDelimiter? : Operation α → Option String
  | .listObjectInfo _ options => options.delimiter
  | _ => none

/-- The edits of an operation touch only what it touches itself. -/
theorem Permits.touches {operation : Operation α} {edit : Edit} {id : ResourceId}
    (hpermit : operation.Permits edit) (htouch : edit.Touches id) : operation.Touches id := by
  cases operation <;> cases edit <;> simp only [Permits] at hpermit <;>
    simp only [Edit.Touches] at htouch
  case createBucket => exact hpermit.1 ▸ htouch
  case createEmptyObject | writeObject | composeObjects => exact hpermit.1 ▸ htouch
  case createEmptyObjects => exact htouch ▸ hpermit.1
  case copy =>
    obtain ⟨⟨name, hname, rfl⟩, -⟩ := hpermit
    exact ⟨name, hname, htouch⟩
  case deleteBuckets => exact ⟨_, hpermit, htouch⟩
  case deleteObjects => exact htouch ▸ hpermit
  case updateItems => exact ⟨_, hpermit, htouch⟩

/-- An operation that only makes what is not there yet has no other edits. -/
theorem Permits.creates {operation : Operation α} {edit : Edit} (hpermit : operation.Permits edit)
    (hcreates : operation.Creates) : edit.Creates := by
  cases operation <;> cases edit <;> simp only [Permits] at hpermit <;>
    simp only [Creates] at hcreates
  case createBucket => trivial
  case createEmptyObject | createEmptyObjects | writeObject => exact hpermit.2.trans hcreates

end Operation

namespace Store

variable {α : Type} {store after : Store} {operation : Operation α} {answer : α}

/-- A series of edits that an operation permits changes only what is reported about the ids that the
operation touches. -/
theorem lookup_of_permits {id : ResourceId} {before after : Buckets}
    (h : ∃ edits, Edits edits before after ∧ ∀ edit ∈ edits, operation.Permits edit)
    (htouch : ¬ operation.Touches id) : after.lookup id = before.lookup id := by
  obtain ⟨edits, hedits, hpermit⟩ := h
  exact hedits.lookup_eq fun edit hedit htouched => htouch ((hpermit edit hedit).touches htouched)

/-- An operation changes only what is reported about the ids that it touches. -/
theorem run_lookup {id : ResourceId} (htouch : ¬ operation.Touches id) :
    (store.run operation).2.buckets.lookup id = store.buckets.lookup id :=
  lookup_of_permits (run_carried operation store).edits htouch

/-- An operation that only makes what is not there changes nothing that is reported about what
is. -/
theorem run_lookup_of_creates {id : ResourceId} (hcreates : operation.Creates)
    (hholds : store.buckets.Holds id) :
    (store.run operation).2.buckets.lookup id = store.buckets.lookup id := by
  obtain ⟨edits, hedits, hpermit⟩ := (run_carried operation store).edits
  exact hedits.lookup_of_creates (fun edit hedit => (hpermit edit hedit).creates hcreates) hholds

/-- A question is answered from the buckets, by a store that is available. -/
theorem read_eq_ok {question : Buckets → Except Error α} :
    store.read question = (.ok answer, after) ↔
      store.available = .ok () ∧ question store.buckets = .ok answer ∧ after = store := by
  unfold read
  cases havailable : store.available with
  | error cause => simp [Outcome.failed]
  | ok _ =>
    cases hquestion : question store.buckets with
    | error cause => simp [Outcome.failed]
    | ok other => simp [eq_comm]

/-- A change under the lock that succeeds is made on an available store. -/
theorem write_eq_ok {change : Store → Outcome α × Store}
    (h : store.write change = (.ok answer, after)) :
    store.available = .ok () ∧ ∃ changed, change store = (.ok answer, changed) ∧
      after.buckets = changed.buckets := by
  rcases write_cases change with ⟨cause, -, hwrite⟩ | ⟨havailable, hwrite⟩
  · rw [hwrite] at h
    cases h
  · rw [hwrite] at h
    have hanswer : (change store).1 = .ok answer := congrArg (·.1) h
    exact ⟨havailable, (change store).2, Prod.ext hanswer rfl,
      (congrArg (fun result => result.2.buckets) h).symm⟩

/-- A call that succeeds has good arguments. -/
theorem checked_eq_ok {check : Except Error Unit} {call : Store → Outcome α × Store}
    (h : store.checked check call = (.ok answer, after)) :
    check = .ok () ∧ call store = (.ok answer, after) := by
  unfold checked at h
  split at h
  · cases h
  · exact ⟨rfl, h⟩

/-- What was stored is what a lookup answers from then on. -/
theorem storeObject_lookup {id : ResourceId} {content : Bytes} {contentType : Option String}
    {metadata : Metadata} {overwrite : Bool} {info : ItemInfo}
    (h : store.storeObject id content contentType metadata overwrite = (.ok info, after)) :
    id.isObject = true ∧ info.resourceId = id ∧ info.found = true ∧
      after.buckets.lookup id = info := by
  obtain ⟨⟨hobject, -, hbucket, -⟩, _, now, rfl, rfl, rfl⟩ := storeObject_eq_ok h
  refine ⟨hobject, rfl, rfl, Buckets.lookup_of_object? ?_⟩
  rw [Buckets.object?_put hbucket hobject, if_pos rfl]

/-- The first patch is made before the others. -/
theorem patchItems_cons {now : Timestamp} {update : ItemUpdate} {rest : List ItemUpdate}
    {object : StoredObject} (hobject : store.buckets.object? update.resourceId = some object) :
    store.patchItems now (update :: rest) =
      let result := patchItems now rest { store with
        buckets := store.buckets.put update.resourceId (object.patched update now) }
      (result.1.map ((object.patched update now).info :: ·), result.2) := by
  rw [patchItems, Buckets.requireObject_eq_ok.2 hobject]
  rfl

/-- Patches succeed when the first object is there and the others follow. -/
theorem patchItems_cons_eq_ok {now : Timestamp} {update : ItemUpdate} {rest : List ItemUpdate}
    {infos : List ItemInfo} (h : store.patchItems now (update :: rest) = (.ok infos, after)) :
    ∃ object later, store.buckets.object? update.resourceId = some object ∧
      patchItems now rest { store with
        buckets := store.buckets.put update.resourceId (object.patched update now) } =
          (.ok later, after) ∧
      infos = (object.patched update now).info :: later := by
  cases hobject : store.buckets.object? update.resourceId with
  | none => simp [patchItems, Buckets.requireObject, hobject, Outcome.failed] at h
  | some object =>
    rw [patchItems_cons hobject] at h
    refine ⟨object, ?_⟩
    generalize patchItems now rest { store with
      buckets := store.buckets.put update.resourceId (object.patched update now) } = result
      at h ⊢
    obtain ⟨outcome, last⟩ := result
    obtain ⟨hanswer, rfl⟩ := Prod.mk.inj h
    cases outcome with
    | error failure => cases hanswer
    | ok later => exact ⟨later, rfl, rfl, (Except.ok.inj hanswer).symm⟩

/-- The infos that patches report are about the patched objects, one for one. -/
theorem patchItems_resourceIds {now : Timestamp} {updates : List ItemUpdate} {infos : List ItemInfo}
    (h : store.patchItems now updates = (.ok infos, after)) (hwf : store.buckets.WellFormed) :
    infos.map (·.resourceId) = updates.map (·.resourceId) ∧ ∀ info ∈ infos, info.isKept = true := by
  induction updates generalizing store infos with
  | nil =>
    cases h
    simp
  | cons update rest ih =>
    obtain ⟨object, later, hobject, hrest, rfl⟩ := patchItems_cons_eq_ok h
    have hname := Buckets.isObject_of_object? hobject
    have hpatched := (hwf.object hobject).patched update now
    obtain ⟨hids, hkept⟩ := ih hrest (hwf.put (Buckets.mem_of_object? hobject) hname hpatched)
    refine ⟨by rw [List.map_cons, List.map_cons, hids, hpatched.resourceId],
      List.forall_mem_cons.2 ⟨?_, hkept⟩⟩
    rw [ItemInfo.isKept, hpatched.found, hpatched.resourceId, ResourceId.isRoot_of_isObject hname]
    rfl

/-- The last info that patches report about an object is what a lookup answers from then on. -/
theorem patchItems_lookup {now : Timestamp} {updates : List ItemUpdate} {infos : List ItemInfo}
    (h : store.patchItems now updates = (.ok infos, after)) (hwf : store.buckets.WellFormed)
    {id : ResourceId} {info : ItemInfo} (hlast : ItemInfo.lastAbout infos id = some info) :
    after.buckets.lookup id = info := by
  induction updates generalizing store infos with
  | nil =>
    cases h
    cases hlast
  | cons update rest ih =>
    obtain ⟨object, later, hobject, hrest, rfl⟩ := patchItems_cons_eq_ok h
    have hmem := Buckets.mem_of_object? hobject
    have hname := Buckets.isObject_of_object? hobject
    have hpatched := (hwf.object hobject).patched update now
    have hwfPatched := hwf.put hmem hname hpatched
    rw [ItemInfo.lastAbout_cons, hpatched.resourceId] at hlast
    cases hlater : ItemInfo.lastAbout later id with
    | some other =>
      rw [hlater, Option.some_or] at hlast
      exact ih hrest hwfPatched (hlater.trans hlast)
    | none =>
      rw [hlater, Option.none_or] at hlast
      split at hlast
      · next hid =>
        subst hid
        obtain rfl := Option.some.inj hlast
        -- No later patch is about this object, so its info stays as it is.
        have huntouched : ¬ (Operation.updateItems rest).Touches update.resourceId := by
          rintro ⟨other, hother, hsame⟩
          have hreported : update.resourceId ∈ later.map (·.resourceId) := by
            rw [(patchItems_resourceIds hrest hwfPatched).1]
            exact List.mem_map.2 ⟨other, hother, hsame.symm⟩
          obtain ⟨info, hinfo, hid⟩ := List.mem_map.1 hreported
          exact ItemInfo.lastAbout_eq_none.1 hlater info hinfo hid
        have hevolves : Evolves (Operation.updateItems rest).Permits { store with
            buckets := store.buckets.put update.resourceId (object.patched update now) }
            ((.ok later : Outcome (List ItemInfo)), after) :=
          hrest ▸ patchItems_evolves
        rw [lookup_of_permits hevolves.edits huntouched]
        refine Buckets.lookup_of_object? ?_
        rw [Buckets.object?_put hmem hname, if_pos rfl]
      · cases hlast

/-- Updates that succeed make their patches at one time. -/
theorem updateItems_eq_ok {updates : List ItemUpdate} {infos : List ItemInfo}
    (h : store.updateItems updates = (.ok infos, after)) :
    ∃ now, patchItems now updates { store with clock := store.clock.tick } =
      (.ok infos, after) := by
  unfold updateItems at h
  split at h
  · cases h
  · unfold stamp at h
    split at h
    · next now _ => exact ⟨now, h⟩
    · cases h

/-- A composition that succeeds stores an object at its target. -/
theorem composeObjects_eq_ok {sources : List ResourceId} {target : ResourceId}
    {options : ComposeOptions} {info : ItemInfo}
    (h : store.composeObjects sources target options = (.ok info, after)) :
    target.isObject = true ∧ info.resourceId = target ∧ info.found = true ∧
      after.buckets.lookup target = info := by
  unfold composeObjects at h
  split at h
  · cases h
  · exact storeObject_lookup h

/-- An operation that succeeds, other than closing, has found the store available. -/
theorem run_available (hclose : operation.isClose = false)
    (h : store.run operation = (.ok answer, after)) : store.available = .ok () := by
  cases operation <;> rw [run] at h
  case createBucket | copy | composeObjects => exact (write_eq_ok (checked_eq_ok h).2).1
  case createEmptyObject | createEmptyObjects | writeObject | deleteBuckets | deleteObjects |
    updateItems => exact (write_eq_ok h).1
  case close => cases hclose
  all_goals exact (read_eq_ok.1 h).1

/-- An operation that reports an info leaves the store available. -/
theorem available_of_reported {info : ItemInfo} (h : store.run operation = (.ok answer, after))
    (hinfo : info ∈ operation.reported answer) : after.available = .ok () := by
  have hclose : operation.isClose = false := by
    cases operation <;> first | rfl | cases hinfo
  obtain ⟨hopen, hsound⟩ := available_eq_ok.1 (run_available hclose h)
  have hcarried := run_carried operation store
  rw [h] at hcarried
  refine available_eq_ok.2 ⟨?_, ?_⟩
  · rw [hcarried.closed, hopen, hclose]
    rfl
  · rw [hcarried.poisoned, hsound]
    rfl

/-- Says that an info about an id is a directory that a listing with a delimiter infers, where no
object lies. -/
def Infers (operation : Operation α) (buckets : Buckets) (id : ResourceId) (info : ItemInfo) :
    Prop :=
  info = .inferredDirectory id ∧ buckets.object? id = none ∧
    ∃ name delimiter, id.objectName = some name ∧ operation.listingDelimiter? = some delimiter ∧
      delimiter ≠ "" ∧ delimiter.toList <:+ name.toList

/-- Each info that a listing reports is what a lookup answers, or an inferred directory. -/
theorem listed_reported {bucketName : String} {options : ListOptions} {infos : List ItemInfo}
    (hwf : store.buckets.WellFormed)
    (h : store.run (.listObjectInfo bucketName options) = (.ok infos, after)) {info : ItemInfo}
    (hinfo : info ∈ infos) :
    store.buckets.lookup info.resourceId = info ∨
      Infers (.listObjectInfo bucketName options) store.buckets info.resourceId info := by
  rw [run, read_eq_ok] at h
  obtain ⟨-, hanswer, -⟩ := h
  obtain rfl := Except.ok.inj hanswer
  obtain ⟨entry, hentry, rfl⟩ := List.mem_map.1 hinfo
  rcases hwf.lookup_listed hentry with
      hlookup | ⟨name, delimiter, rfl, hdelimiter, hnonempty, hsuffix, hfree⟩
  · exact .inl hlookup
  · exact .inr ⟨rfl, hfree, name, delimiter, rfl, hdelimiter, hnonempty, hsuffix⟩

/-- The last info about an id in an answer is what a lookup answers right after it, or a directory
that a listing infers. -/
theorem run_reported (hwf : store.buckets.WellFormed)
    (h : store.run operation = (.ok answer, after)) {id : ResourceId} {info : ItemInfo}
    (hlast : ItemInfo.lastAbout (operation.reported answer) id = some info) :
    after.buckets.lookup id = info ∨ Infers operation after.buckets id info := by
  obtain ⟨hmem, hid⟩ := ItemInfo.lastAbout_eq_some hlast
  cases operation
  case listBucketInfo =>
    rw [run, read_eq_ok] at h
    obtain ⟨-, hanswer, rfl⟩ := h
    obtain rfl := Except.ok.inj hanswer
    obtain ⟨⟨bucketName, bucket⟩, hbucket, rfl⟩ := List.mem_map.1 hmem
    have hget := Std.ExtTreeMap.mem_toList_iff_getElem?_eq_some.1 hbucket
    exact .inl (hid ▸ hwf.lookup_bucket hget)
  case listObjectInfo bucketName options =>
    obtain rfl : after = store := by
      rw [run, read_eq_ok] at h
      exact h.2.2
    exact hid ▸ listed_reported hwf h hmem
  case getItemInfo other =>
    rw [run, read_eq_ok] at h
    obtain ⟨-, hanswer, rfl⟩ := h
    obtain rfl := Except.ok.inj hanswer
    obtain rfl := List.mem_singleton.1 hmem
    rw [hwf.lookup_resourceId] at hid
    exact .inl (by rw [hid])
  case getItemInfos ids =>
    rw [run, read_eq_ok] at h
    obtain ⟨-, hanswer, rfl⟩ := h
    obtain rfl := Except.ok.inj hanswer
    obtain ⟨other, -, rfl⟩ := List.mem_map.1 hmem
    rw [hwf.lookup_resourceId] at hid
    exact .inl (by rw [hid])
  case updateItems updates =>
    rw [run] at h
    obtain ⟨-, changed, hchange, hbuckets⟩ := write_eq_ok h
    obtain ⟨now, hpatch⟩ := updateItems_eq_ok hchange
    rw [hbuckets]
    exact .inl (patchItems_lookup hpatch hwf hlast)
  case composeObjects sources target options =>
    rw [run] at h
    obtain ⟨-, changed, hchange, hbuckets⟩ := write_eq_ok (checked_eq_ok h).2
    obtain ⟨-, htarget, -, hlookup⟩ := composeObjects_eq_ok hchange
    obtain rfl := List.mem_singleton.1 hmem
    rw [hbuckets, ← hid, htarget]
    exact .inl hlookup
  all_goals cases hmem

/-- The infos about one id in an answer agree on whether it exists. -/
theorem run_reported_found (hwf : store.buckets.WellFormed)
    (h : store.run operation = (.ok answer, after)) {a b : ItemInfo}
    (ha : a ∈ operation.reported answer) (hb : b ∈ operation.reported answer)
    (hid : a.resourceId = b.resourceId) : a.found = b.found := by
  cases operation
  case listBucketInfo =>
    rw [run, read_eq_ok] at h
    obtain ⟨-, hanswer, rfl⟩ := h
    obtain rfl := Except.ok.inj hanswer
    have hfound : ∀ info ∈ after.buckets.toList.map (·.2.info), info.found = true := by
      intro info hinfo
      obtain ⟨⟨bucketName, bucket⟩, hbucket, rfl⟩ := List.mem_map.1 hinfo
      have hget := Std.ExtTreeMap.mem_toList_iff_getElem?_eq_some.1 hbucket
      exact (hwf.bucket (by simp [Buckets.bucketInfo?, hget]) :
        bucket.info.DescribesBucket bucketName).found
    rw [hfound a ha, hfound b hb]
  case listObjectInfo bucketName options =>
    rw [run, read_eq_ok] at h
    obtain ⟨-, hanswer, rfl⟩ := h
    obtain rfl := Except.ok.inj hanswer
    have hfound : ∀ info ∈ (after.buckets.entries bucketName options).map (·.info bucketName),
        info.found = true := by
      intro info hinfo
      obtain ⟨entry, hentry, rfl⟩ := List.mem_map.1 hinfo
      exact hwf.found_listed hentry
    rw [hfound a ha, hfound b hb]
  case getItemInfo other =>
    rw [List.mem_singleton.1 ha, List.mem_singleton.1 hb]
  case getItemInfos ids =>
    rw [run, read_eq_ok] at h
    obtain ⟨-, hanswer, rfl⟩ := h
    obtain rfl := Except.ok.inj hanswer
    obtain ⟨first, -, rfl⟩ := List.mem_map.1 ha
    obtain ⟨second, -, rfl⟩ := List.mem_map.1 hb
    rw [hwf.lookup_resourceId, hwf.lookup_resourceId] at hid
    rw [hid]
  case updateItems updates =>
    rw [run] at h
    obtain ⟨-, changed, hchange, -⟩ := write_eq_ok h
    obtain ⟨now, hpatch⟩ := updateItems_eq_ok hchange
    obtain ⟨-, hkept⟩ := patchItems_resourceIds hpatch hwf
    rw [ItemInfo.found_of_isKept (hkept a ha), ItemInfo.found_of_isKept (hkept b hb)]
  case composeObjects sources target options =>
    rw [List.mem_singleton.1 ha, List.mem_singleton.1 hb]
  all_goals cases ha

/-- An operation that succeeds and renews an id reports an info about it that is remembered. -/
theorem run_renews (hwf : store.buckets.WellFormed)
    (h : store.run operation = (.ok answer, after)) {id : ResourceId}
    (hrenew : operation.Renews id) :
    ∃ info, ItemInfo.lastKept (operation.reported answer) id = some info := by
  rw [← Option.ne_none_iff_exists']
  intro hnone
  have hrefused := ItemInfo.lastKept_eq_none.1 hnone
  cases operation
  case updateItems updates =>
    rw [run] at h
    obtain ⟨-, changed, hchange, -⟩ := write_eq_ok h
    obtain ⟨now, hpatch⟩ := updateItems_eq_ok hchange
    obtain ⟨hids, hkept⟩ := patchItems_resourceIds hpatch hwf
    obtain ⟨update, hupdate, rfl⟩ := hrenew
    obtain ⟨info, hinfo, hid⟩ := List.mem_map.1
      (hids ▸ List.mem_map.2 ⟨update, hupdate, rfl⟩ :
        update.resourceId ∈ answer.map (·.resourceId))
    have hoff := hrefused info hinfo hid
    rw [hkept info hinfo] at hoff
    cases hoff
  case composeObjects sources target options =>
    rw [run] at h
    obtain ⟨-, changed, hchange, -⟩ := write_eq_ok (checked_eq_ok h).2
    obtain ⟨hobject, htarget, hfound, -⟩ := composeObjects_eq_ok hchange
    have hid : answer.resourceId = id := htarget.trans hrenew.symm
    have hoff := hrefused answer (.head _) hid
    rw [ItemInfo.isKept, hfound, htarget, ResourceId.isRoot_of_isObject hobject] at hoff
    cases hoff
  all_goals exact hrenew.elim

/-- What a cache remembers of an answer is what a lookup answers right after it, or a directory that
a listing infers. -/
theorem run_kept (hwf : store.buckets.WellFormed) (h : store.run operation = (.ok answer, after))
    {id : ResourceId} {info : ItemInfo}
    (hlast : ItemInfo.lastKept (operation.reported answer) id = some info) :
    ItemInfo.lastAbout (operation.reported answer) id = some info ∧
      (after.buckets.lookup id = info ∨ Infers operation after.buckets id info) := by
  have habout := ItemInfo.lastAbout_of_lastKept
    (fun a ha b hb => run_reported_found hwf h ha hb) hlast
  exact ⟨habout, run_reported hwf h habout⟩

end Store

end ObjectStorage
