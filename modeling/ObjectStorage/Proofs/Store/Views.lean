import ObjectStorage.Proofs.Store.Refusal
import ObjectStorage.Proofs.Store.Reports

/-!
# All views of a store agree

A store can be read by ids, by listings and by counts. `Store.ViewsAgree` says
that the answers fit together, and `Store.views_agree` that they do so in every
open store that operations lead to, as long as no panic has poisoned its lock; a
poisoned lock refuses all of these reads. Each read is reduced to lookups and to
the names under which buckets and objects lie.
-/

namespace ObjectStorage

/-- Says that a listing leaves nothing out: it has no prefix, no delimiter and no limit. -/
structure ListOptions.Whole (options : ListOptions) : Prop where
  namePrefix : options.prefixText = []
  delimiter : options.delimiterText = none
  maxResults : options.limit = none

namespace ListOptions.Whole

variable {options : ListOptions}

/-- A listing that leaves nothing out covers every name. -/
theorem covers (h : options.Whole) (name : String) : options.covers name = true := by
  rw [ListOptions.covers, h.namePrefix]
  rfl

/-- A listing that leaves nothing out lists every name as it is. -/
theorem representative (h : options.Whole) (name : String) :
    options.representative name = name := by
  rw [ListOptions.representative, directory?, h.delimiter]
  rfl

/-- A listing that leaves nothing out has one entry for each object, if no name occurs twice. -/
theorem entriesFrom (h : options.Whole) {shown : List String}
    {named : List (String × StoredObject)} (hdistinct : named.Pairwise fun a b => a.1 ≠ b.1)
    (hnew : ∀ pair ∈ named, pair.1 ∉ shown) :
    options.entriesFrom none shown named = named.map fun pair => .object pair.2 := by
  induction named generalizing shown with
  | nil => rfl
  | cons first rest ih =>
    obtain ⟨name, stored⟩ := first
    obtain ⟨hfirst, hrest⟩ := List.pairwise_cons.1 hdistinct
    have hlater : ∀ pair ∈ rest, pair.1 ∉ name :: shown := by
      intro pair hpair hmem
      rcases List.mem_cons.1 hmem with heq | hshown
      · exact hfirst pair hpair heq.symm
      · exact hnew pair (.tail _ hpair) hshown
    rw [ListOptions.entriesFrom_cons (by simp), h.representative, if_neg (hnew _ (.head _)),
      if_pos rfl, Option.map_none, ih hrest hlater, List.map_cons]

/-- A listing that leaves nothing out has one entry for each object of the bucket. -/
theorem entries (h : options.Whole) (bucket : StoredBucket) :
    bucket.entries options = bucket.objects.toList.map fun pair => .object pair.2 := by
  have hdistinct : bucket.objects.toList.Pairwise fun a b => a.1 ≠ b.1 := by
    refine Std.ExtTreeMap.ordered_keys_toList.imp ?_
    intro a b hlt heq
    simp [heq] at hlt
  rw [StoredBucket.entries, h.maxResults, List.filter_eq_self.2 fun pair _ => h.covers pair.1]
  exact h.entriesFrom hdistinct (by simp)

end ListOptions.Whole

namespace Buckets

variable {buckets : Buckets} {bucketName name : String} {options : ListOptions}

/-- The names of the objects in a bucket, in order; a missing bucket has none. -/
def objectNames (buckets : Buckets) (bucketName : String) : List String :=
  (buckets[bucketName]?.map (·.objects.keys)).getD []

/-- An object is there exactly when its name is one of those in its bucket. -/
theorem mem_objectNames :
    name ∈ buckets.objectNames bucketName ↔
      (buckets.object? (.object bucketName name)).isSome = true := by
  cases hbucket : buckets[bucketName]? with
  | none => simp [objectNames, object?, ResourceId.object, hbucket]
  | some bucket =>
    simp [objectNames, object?, ResourceId.object, hbucket]

/-- The names of the buckets are in strictly ascending order. -/
theorem sorted_keys (buckets : Buckets) : buckets.keys.Pairwise (· < ·) := by
  have hordered : buckets.keys.Pairwise fun a b => compare a b = .lt :=
    Std.ExtTreeMap.ordered_keys
  exact hordered.imp compareOfLessAndEq_eq_lt.1

namespace WellFormed

/-- The infos of the buckets, in the order of their names, are what lookups answer. -/
theorem bucketInfos (h : buckets.WellFormed) :
    buckets.toList.map (·.2.info) = (buckets.keys.map .bucket).map buckets.lookup := by
  rw [← Std.ExtTreeMap.map_fst_toList_eq_keys, List.map_map, List.map_map]
  refine List.map_congr_left ?_
  rintro ⟨bucketName, bucket⟩ hpair
  have hbucket := Std.ExtTreeMap.mem_toList_iff_getElem?_eq_some.1 hpair
  have hinfo : buckets.bucketInfo? bucketName = some bucket.info := by
    simp [bucketInfo?, hbucket]
  rw [Function.comp_apply, Function.comp_apply, ← (h.bucket hinfo).resourceId,
    h.lookup_bucket hbucket]

/-- The objects of a bucket lie under the names that their infos bear. -/
theorem object_of_mem (h : buckets.WellFormed) {bucket : StoredBucket}
    (hbucket : buckets[bucketName]? = some bucket) {pair : String × StoredObject}
    (hpair : pair ∈ bucket.objects.toList) :
    buckets.object? (.object bucketName pair.1) = some pair.2 ∧
      pair.2.info.resourceId = .object bucketName pair.1 := by
  have hobject : buckets.object? (.object bucketName pair.1) = some pair.2 := by
    simpa [object?, ResourceId.object, hbucket] using
      Std.ExtTreeMap.mem_toList_iff_getElem?_eq_some.1 hpair
  exact ⟨hobject, (h.object hobject).resourceId⟩

/-- A listing that leaves nothing out shows the names of the objects. -/
theorem listed_names (h : buckets.WellFormed) (hwhole : options.Whole) :
    (buckets.entries bucketName options).map (·.name) = buckets.objectNames bucketName := by
  unfold Buckets.entries objectNames
  cases hbucket : buckets[bucketName]? with
  | none => rfl
  | some bucket =>
    simp only [Option.map_some, Option.getD_some]
    rw [hwhole.entries, ← Std.ExtTreeMap.map_fst_toList_eq_keys, List.map_map]
    refine List.map_congr_left fun pair hpair => ?_
    simp [Listed.name, (h.object_of_mem hbucket hpair).2, ResourceId.object]

/-- A listing that leaves nothing out shows what lookups of the objects answer. -/
theorem listed_infos (h : buckets.WellFormed) (hwhole : options.Whole) :
    (buckets.entries bucketName options).map (·.info bucketName) =
      ((buckets.objectNames bucketName).map (.object bucketName ·)).map buckets.lookup := by
  unfold Buckets.entries objectNames
  cases hbucket : buckets[bucketName]? with
  | none => rfl
  | some bucket =>
    simp only [Option.map_some, Option.getD_some]
    rw [hwhole.entries, ← Std.ExtTreeMap.map_fst_toList_eq_keys, List.map_map, List.map_map,
      List.map_map]
    refine List.map_congr_left fun pair hpair => ?_
    exact (lookup_of_object? (h.object_of_mem hbucket hpair).1).symm

end WellFormed

end Buckets

namespace Store

/-- Says that a lookup of several ids answers with one info for each of them, about that id, which
is what a lookup of it by itself answers. -/
def LookupsAgree (store : Store) (ids : List ResourceId) : Prop :=
  ∃ infos, (store.run (.getItemInfos ids)).1 = .ok infos ∧ infos.map (·.resourceId) = ids ∧
    ids.map (fun id => (store.run (.getItemInfo id)).1) = infos.map .ok

/-- Says that all views of the buckets show those with these names. -/
structure BucketsAgree (store : Store) (bucketNames : List String) : Prop where
  names : (store.run .listBucketNames).1 = .ok bucketNames
  sorted : bucketNames.Pairwise (· < ·)
  infos : (store.run .listBucketInfo).1 =
    (store.run (.getItemInfos (bucketNames.map .bucket))).1
  count : store.bucketCount = .ok bucketNames.length

/-- Says that an object is reported as found exactly when its name is one of these, and exactly when
it can be read, and that its info is about the content that is read. -/
def ObjectAgrees (store : Store) (objectNames : List String) (bucketName name : String) : Prop :=
  ∃ info, (store.run (.getItemInfo (.object bucketName name))).1 = .ok info ∧
    (info.found = true ↔ name ∈ objectNames) ∧
    (name ∈ objectNames ↔
      ∃ content, (store.run (.readObject (.object bucketName name))).1 = .ok content) ∧
    ∀ content, (store.run (.readObject (.object bucketName name))).1 = .ok content →
      info.size = content.length ∧ info.contentHash = some (Bytes.sha256 content)

/-- Says that all views of a bucket show the objects with these names. -/
structure ObjectsAgree (store : Store) (bucketNames : List String) (bucketName : String)
    (options : ListOptions) (objectNames : List String) : Prop where
  names : (store.run (.listObjectNames bucketName options)).1 = .ok objectNames
  infos : (store.run (.listObjectInfo bucketName options)).1 =
    (store.run (.getItemInfos (objectNames.map (.object bucketName ·)))).1
  count : bucketName ∈ bucketNames → store.objectCount bucketName = .ok objectNames.length
  emptied : (store.run (.waitForBucketEmpty bucketName)).1 = .ok () ↔
    bucketName ∈ bucketNames ∧ objectNames = []
  object : ∀ name, store.ObjectAgrees objectNames bucketName name

/-- Says that lookups, listings, counts and contents agree with each other. -/
structure ViewsAgree (store : Store) : Prop where
  lookups : ∀ ids, store.LookupsAgree ids
  listings : ∃ bucketNames, store.BucketsAgree bucketNames ∧
    ∀ bucketName options, options.Whole →
      ∃ objectNames, store.ObjectsAgree bucketNames bucketName options objectNames

/-- Says that every read and every count is refused because the lock is poisoned. -/
structure RefusesReads (store : Store) : Prop where
  reads : ∀ {α : Type} {operation : Operation α}, operation.isRead = true →
    (store.run operation).1 = .failed StorageError.lockPoisoned
  bucketCount : store.bucketCount = .failed StorageError.lockPoisoned
  objectCount : ∀ bucketName, store.objectCount bucketName = .failed StorageError.lockPoisoned

variable {α : Type} {store : Store}

/-- A question is answered by a store that is available, from its buckets. -/
theorem read_fst_eq_ok {question : Buckets → Except Error α} {answer : α}
    (havailable : store.available = .ok ()) :
    (store.read question).1 = .ok answer ↔ question store.buckets = .ok answer := by
  constructor
  · intro h
    exact (read_eq_ok.1 (Prod.ext h rfl)).2.1
  · intro h
    exact congrArg (·.1) (read_eq_ok.2 ⟨havailable, h, rfl⟩)

/-- A lookup of several ids looks them up. -/
theorem run_getItemInfos (havailable : store.available = .ok ()) (ids : List ResourceId) :
    (store.run (.getItemInfos ids)).1 = .ok (ids.map store.buckets.lookup) :=
  (read_fst_eq_ok havailable).2 rfl

/-- Lookups of several ids agree with lookups of one. -/
theorem lookupsAgree (hwf : store.buckets.WellFormed) (havailable : store.available = .ok ())
    (ids : List ResourceId) : store.LookupsAgree ids := by
  refine ⟨_, run_getItemInfos havailable ids, ?_, ?_⟩
  · rw [List.map_map]
    exact (List.map_congr_left fun id _ => hwf.lookup_resourceId).trans (List.map_id _)
  · rw [List.map_map]
    exact List.map_congr_left fun id _ => (read_fst_eq_ok havailable).2 rfl

/-- The views of the buckets show their names. -/
theorem bucketsAgree (hwf : store.buckets.WellFormed) (havailable : store.available = .ok ()) :
    store.BucketsAgree store.buckets.keys where
  names := (read_fst_eq_ok havailable).2 rfl
  sorted := store.buckets.sorted_keys
  infos := by
    rw [run_getItemInfos havailable, ← hwf.bucketInfos]
    exact (read_fst_eq_ok havailable).2 rfl
  count := by
    rw [Std.ExtTreeMap.length_keys]
    exact (read_fst_eq_ok havailable).2 rfl

/-- What is reported about an object fits what is read of it. -/
theorem objectAgrees (hwf : store.buckets.WellFormed) (havailable : store.available = .ok ())
    (bucketName name : String) :
    store.ObjectAgrees (store.buckets.objectNames bucketName) bucketName name := by
  have hread : ∀ content, (store.run (.readObject (.object bucketName name))).1 = .ok content ↔
      ∃ object, store.buckets.object? (.object bucketName name) = some object ∧
        object.content = content := by
    intro content
    rw [run, read_fst_eq_ok havailable, bind_eq_ok_iff]
    simp only [Buckets.requireObject_eq_ok, pure, Except.pure, Except.ok.injEq]
  refine ⟨_, (read_fst_eq_ok havailable).2 rfl, ?_, ?_, ?_⟩
  · rw [hwf.lookup_found (by simp [ResourceId.isRoot, ResourceId.object]),
      Buckets.mem_objectNames]
    exact Buckets.holds_object
  · rw [Buckets.mem_objectNames, Option.isSome_iff_exists]
    simp only [hread, exists_comm, exists_eq_right']
  · intro content hcontent
    obtain ⟨object, hobject, rfl⟩ := (hread content).1 hcontent
    rw [Buckets.lookup_of_object? hobject]
    exact ⟨(hwf.object hobject).size, (hwf.object hobject).contentHash⟩

/-- The views of a bucket show the names of its objects. -/
theorem objectsAgree (hwf : store.buckets.WellFormed) (havailable : store.available = .ok ())
    (bucketName : String) {options : ListOptions} (hwhole : options.Whole) :
    store.ObjectsAgree store.buckets.keys bucketName options
      (store.buckets.objectNames bucketName) where
  names := by
    rw [run, ← hwf.listed_names hwhole]
    exact (read_fst_eq_ok havailable).2 rfl
  infos := by
    rw [run_getItemInfos havailable, ← hwf.listed_infos hwhole, run]
    exact (read_fst_eq_ok havailable).2 rfl
  count hmem := by
    obtain ⟨bucket, hbucket⟩ : ∃ bucket, store.buckets[bucketName]? = some bucket :=
      Option.isSome_iff_exists.1 (by simpa using hmem)
    rw [objectCount, read_fst_eq_ok havailable, bind_eq_ok_iff]
    refine ⟨bucket, Buckets.require_eq_ok.2 hbucket, ?_⟩
    simp [Buckets.objectNames, hbucket, pure, Except.pure]
  emptied := by
    rw [run, read_fst_eq_ok havailable, bind_eq_ok_iff]
    simp only [Buckets.require_eq_ok, Std.ExtTreeMap.mem_keys]
    cases hbucket : store.buckets[bucketName]? with
    | none => simp [Std.ExtTreeMap.mem_iff_isSome_getElem?, hbucket]
    | some bucket =>
      have hmem : bucketName ∈ store.buckets :=
        Std.ExtTreeMap.mem_iff_isSome_getElem?.2 (by simp [hbucket])
      simp only [Option.some.injEq, exists_eq_left', hmem, true_and]
      simp [Buckets.objectNames, hbucket]
  object := objectAgrees hwf havailable bucketName

/-- The views of an available store with well-formed buckets agree. -/
theorem viewsAgree (hwf : store.buckets.WellFormed) (havailable : store.available = .ok ()) :
    store.ViewsAgree where
  lookups := lookupsAgree hwf havailable
  listings := ⟨_, bucketsAgree hwf havailable, fun bucketName _ hwhole =>
    ⟨_, objectsAgree hwf havailable bucketName hwhole⟩⟩

/-- Reads are neither closings nor judged by their arguments alone. -/
theorem demand_of_isRead {operation : Operation α} (hread : operation.isRead = true) :
    operation.isClose = false ∧ demand operation = .ok () := by
  cases operation <;> first | exact ⟨rfl, rfl⟩ | cases hread

/-- All views of an open store that operations lead to agree, if no panic has poisoned its lock; a
poisoned lock refuses all of them. -/
theorem views_agree {clock : Clock} (hreach : Reachable clock store)
    (hopen : store.closed = false) :
    (store.poisoned = false → store.ViewsAgree) ∧
      (store.poisoned = true → store.RefusesReads) := by
  constructor
  · intro hsound
    exact viewsAgree hreach.wellFormed (available_eq_ok.2 ⟨hopen, hsound⟩)
  · intro hpoisoned
    have hrefused : store.available = .error StorageError.lockPoisoned := by
      simp [available, hopen, hpoisoned]
    refine ⟨fun hread => ?_, ?_, fun bucketName => ?_⟩
    · obtain ⟨hclose, hdemand⟩ := demand_of_isRead hread
      rw [run_of_refused hclose hdemand hrefused]
    · rw [bucketCount, read_of_refused hrefused]
    · rw [objectCount, read_of_refused hrefused]

/-- The views of a store with two objects in one of its two buckets agree. -/
theorem two_buckets_agree :
    let store := ((((empty (.fixed .epoch)).run (.createBucket "media" {})).2.run
      (.createBucket "archive" {})).2.run
        (.createEmptyObjects [.object "media" "b", .object "media" "a"] {})).2
    Reachable (.fixed .epoch) store ∧ store.closed = false ∧ store.poisoned = false ∧
      store.ViewsAgree := by
  intro store
  have hreach : Reachable (.fixed .epoch) store := .run _ (.run _ (.run _ .empty))
  have hopen : store.closed = false := by decide +kernel
  have hsound : store.poisoned = false := by decide +kernel
  exact ⟨hreach, hopen, hsound, (views_agree hreach hopen).1 hsound⟩

/-- The views of an open store need not agree: once its clock has panicked under the lock, a lookup
of several ids has no answer for any of them. -/
theorem poisoned_views_disagree :
    let store := ((empty (Clock.fixed .epoch).panicNext).run (.createBucket "media" {})).2
    Reachable (Clock.fixed .epoch).panicNext store ∧ store.closed = false ∧
      (store.run (.getItemInfos [.root])).1 = .failed StorageError.lockPoisoned ∧
      ¬ store.ViewsAgree := by
  intro store
  have hfails : (store.run (.getItemInfos [.root])).1 = .failed StorageError.lockPoisoned := by
    rw [run_of_refused rfl rfl rfl]
  refine ⟨.run _ .empty, by decide +kernel, hfails, ?_⟩
  intro hagree
  obtain ⟨infos, hinfos, -⟩ := hagree.lookups [.root]
  rw [hfails] at hinfos
  cases hinfos

end Store

end ObjectStorage
