import ObjectStorage.Proofs.Store.Footprint

/-!
# Independent changes commute

`Store.Independent` says of two changes that they name no object in common, and
that neither makes or drops a bucket which the other names. Each of them then
finds what it looks at as the other has left it, so by `Store.run_alike` it answers
and does the same in either order; `Edits.commute` says that what they do leads to
the same buckets. `Store.independent_commute` puts the two together.
-/

namespace ObjectStorage

namespace Buckets

variable {buckets other : Buckets} {id : ResourceId}

/-- Only ids of objects lead to one. -/
theorem object?_eq_none_of_not_isObject (h : id.isObject = false) : buckets.object? id = none := by
  obtain ⟨bucketName, objectName⟩ := id
  cases objectName with
  | none => rfl
  | some name => simp [ResourceId.isObject] at h

/-- Buckets are equal when the same is reported about them and the same objects lie in them. -/
theorem eq_of_views (hinfo : ∀ name, other.bucketInfo? name = buckets.bucketInfo? name)
    (hobject : ∀ id, other.object? id = buckets.object? id) : other = buckets := by
  refine Std.ExtTreeMap.ext_getElem? fun bucketName => ?_
  have hreported := hinfo bucketName
  rcases getElem?_cases hreported with ⟨hbucket, hfound⟩ | ⟨bucket, found, hbucket, hfound⟩
  · rw [hbucket, hfound]
  · have hobjects : found.objects = bucket.objects := by
      refine Std.ExtTreeMap.ext_getElem? fun name => ?_
      simpa [object?, ResourceId.object, hbucket, hfound] using hobject (.object bucketName name)
    have hsame : found.info = bucket.info := by
      simpa [bucketInfo?, hbucket, hfound] using hreported
    obtain ⟨info, objects⟩ := found
    obtain rfl := hsame
    obtain rfl := hobjects
    rw [hbucket, hfound]

end Buckets

namespace Edits

variable {first second : List Edit} {before firstOnly secondOnly firstLast secondLast : Buckets}
  {id : ResourceId} {bucketName : String}

/-- Some edits change only what is reported about the buckets that they add or drop. -/
theorem bucketInfo?_eq (h : Edits first before firstOnly)
    (hchange : ∀ edit ∈ first, ¬ edit.AddsOrDrops bucketName) :
    firstOnly.bucketInfo? bucketName = before.bucketInfo? bucketName := by
  induction h with
  | nil => rfl
  | cons _ _ ih =>
    rw [ih fun edit hedit => hchange edit (.tail _ hedit),
      Edit.bucketInfo?_eq (hchange _ (.head _))]

/-- Edits that do not touch an object can be made before or after others, as far as it goes. -/
theorem object?_commute (hfirst : Edits first before firstOnly)
    (hsecond : Edits second before secondOnly) (hthen : Edits second firstOnly secondLast)
    (hlast : Edits first secondOnly firstLast) (hobject : id.isObject = true)
    (hapart : ∀ edit ∈ first, ¬ edit.Touches id) :
    secondLast.object? id = firstLast.object? id := by
  have hroot := ResourceId.isRoot_of_isObject hobject
  calc secondLast.object? id
      = secondOnly.object? id := hsecond.object?_congr hthen (hfirst.object?_eq hapart hroot)
    _ = firstLast.object? id := (hlast.object?_eq hapart hroot).symm

/-- Edits that neither add nor drop a bucket can be made before or after others, as far as it
goes. -/
theorem bucketInfo?_commute (hfirst : Edits first before firstOnly)
    (hsecond : Edits second before secondOnly) (hthen : Edits second firstOnly secondLast)
    (hlast : Edits first secondOnly firstLast)
    (hapart : ∀ edit ∈ first, ¬ edit.AddsOrDrops bucketName) :
    secondLast.bucketInfo? bucketName = firstLast.bucketInfo? bucketName :=
  calc secondLast.bucketInfo? bucketName
      = secondOnly.bucketInfo? bucketName :=
        hsecond.bucketInfo?_congr hthen (hfirst.bucketInfo?_eq hapart)
    _ = firstLast.bucketInfo? bucketName := (hlast.bucketInfo?_eq hapart).symm

/-- Two series of edits of which at most one is about any object, and at most one about any bucket,
lead to the same buckets in either order. -/
theorem commute (hfirst : Edits first before firstOnly) (hsecond : Edits second before secondOnly)
    (hthen : Edits second firstOnly secondLast) (hlast : Edits first secondOnly firstLast)
    (hobjects : ∀ id : ResourceId, id.isObject = true →
      (∀ edit ∈ first, ¬ edit.Touches id) ∨ ∀ edit ∈ second, ¬ edit.Touches id)
    (hbuckets : ∀ name, (∀ edit ∈ first, ¬ edit.AddsOrDrops name) ∨
      ∀ edit ∈ second, ¬ edit.AddsOrDrops name) : secondLast = firstLast := by
  refine Buckets.eq_of_views (fun name => ?_) fun id => ?_
  · rcases hbuckets name with hapart | hapart
    · exact bucketInfo?_commute hfirst hsecond hthen hlast hapart
    · exact (bucketInfo?_commute hsecond hfirst hlast hthen hapart).symm
  · cases hobject : id.isObject with
    | false =>
      rw [Buckets.object?_eq_none_of_not_isObject hobject,
        Buckets.object?_eq_none_of_not_isObject hobject]
    | true =>
      rcases hobjects id hobject with hapart | hapart
      · exact object?_commute hfirst hsecond hthen hlast hobject hapart
      · exact (object?_commute hsecond hfirst hlast hthen hobject hapart).symm

end Edits

namespace Operation.Permits

variable {α : Type} {operation : Operation α} {edit : Edit} {id : ResourceId} {bucketName : String}

/-- An operation adds and drops only buckets that it names. -/
theorem mem_names_of_addsOrDrops (hpermit : operation.Permits edit)
    (hchange : edit.AddsOrDrops bucketName) : .bucket bucketName ∈ operation.names := by
  cases edit with
  | addBucket other options now =>
    obtain rfl : other = bucketName := hchange
    cases operation <;> first | exact hpermit.elim | skip
    case createBucket named _ =>
      obtain ⟨rfl, -⟩ := hpermit
      exact .head _
  | dropBucket other =>
    obtain rfl : other = bucketName := hchange
    cases operation <;> first | exact hpermit.elim | exact List.mem_map_of_mem hpermit
  | store | patch | remove => exact hchange.elim

/-- An operation touches only objects that it names, and those of buckets that it drops. -/
theorem mem_names_of_touches (hpermit : operation.Permits edit) (hobject : id.isObject = true)
    (htouch : edit.Touches id) : id ∈ operation.names ∨ edit.AddsOrDrops id.bucketName := by
  cases edit with
  | addBucket other options now =>
    obtain rfl : id = .bucket other := htouch
    cases hobject
  | dropBucket other =>
    simp only [Edit.Touches, ResourceId.belongsTo, Bool.and_eq_true, beq_iff_eq] at htouch
    exact .inr htouch.2.symm
  | store other content contentType metadata overwrite now =>
    obtain rfl : id = other := htouch
    refine .inl ?_
    cases operation <;> first | exact hpermit.elim | skip
    case createEmptyObject named _ =>
      obtain ⟨rfl, -⟩ := hpermit
      exact .head _
    case createEmptyObjects ids _ => exact hpermit.1
    case writeObject named _ _ =>
      obtain ⟨rfl, -⟩ := hpermit
      exact .head _
    case copy sourceBucket sources targetBucket targets =>
      obtain ⟨⟨name, hname, rfl⟩, -⟩ := hpermit
      exact target_mem_names hname
    case composeObjects sources target _ =>
      obtain ⟨rfl, -⟩ := hpermit
      exact .head _
  | patch update now =>
    obtain rfl : id = update.resourceId := htouch
    cases operation <;> first | exact hpermit.elim | exact .inl (List.mem_map_of_mem hpermit)
  | remove other =>
    obtain rfl : id = other := htouch
    cases operation <;> first | exact hpermit.elim | exact .inl hpermit

/-- An operation that touches an object names something in its bucket. -/
theorem exists_name (hpermit : operation.Permits edit) (hobject : id.isObject = true)
    (htouch : edit.Touches id) : ∃ name ∈ operation.names, name.bucketName = id.bucketName := by
  rcases hpermit.mem_names_of_touches hobject htouch with hnamed | hchange
  · exact ⟨id, hnamed, rfl⟩
  · exact ⟨_, hpermit.mem_names_of_addsOrDrops hchange, rfl⟩

end Operation.Permits

namespace Store

variable {α β : Type} {operation first : Operation α} {second : Operation β} {store : Store}
  {edit : Edit} {id : ResourceId} {bucketName : String}

/-- A bucket is left after erasing some exactly when it was there and is none of those. -/
theorem mem_foldl_erase {bucketNames : List String} {buckets : Buckets} :
    bucketName ∈ bucketNames.foldl (·.erase ·) buckets ↔
      bucketName ∈ buckets ∧ bucketName ∉ bucketNames := by
  induction bucketNames generalizing buckets with
  | nil => simp
  | cons first rest ih =>
    rw [List.foldl_cons, ih, Std.ExtTreeMap.mem_erase, ne_eq,
      Std.LawfulEqCmp.compare_eq_iff_eq, List.mem_cons]
    simp only [not_or, eq_comm, and_assoc, and_left_comm]

/-- A bucket that is made was not there before, and is there afterwards. -/
theorem mem_run_createBucket {options : BucketOptions}
    (hedit : .edit edit ∈ store.deeds (.createBucket bucketName options)) :
    bucketName ∉ store.buckets ∧
      bucketName ∈ (store.run (.createBucket bucketName options)).2.buckets := by
  obtain ⟨_, hname, hedit⟩ := mem_granted.1 hedit
  obtain ⟨_, havailable, hedit⟩ := mem_granted.1 hedit
  dsimp only [demand] at hname
  simp only [lockedDeeds, createBucketDeeds] at hedit
  split at hedit
  · cases hedit
  · next hfree =>
    unfold stampedDeeds at hedit
    cases hnow : store.clock.now with
    | panic => simp [hnow] at hedit
    | time now =>
      refine ⟨hfree, ?_⟩
      rw [run]
      unfold checked
      rw [hname]
      dsimp only
      rw [write, havailable, createBucket, if_neg hfree, stamp, hnow]
      exact Std.ExtTreeMap.mem_insert_self

/-- A bucket that is dropped was there before, and is not there afterwards. -/
theorem mem_run_deleteBuckets {bucketNames : List String} (hname : bucketName ∈ bucketNames)
    (hedit : .edit edit ∈ store.deeds (.deleteBuckets bucketNames)) :
    bucketName ∈ store.buckets ∧
      bucketName ∉ (store.run (.deleteBuckets bucketNames)).2.buckets := by
  obtain ⟨_, -, hedit⟩ := mem_granted.1 hedit
  obtain ⟨_, havailable, hedit⟩ := mem_granted.1 hedit
  obtain ⟨_, hcheck, -⟩ := mem_granted.1 hedit
  constructor
  · obtain ⟨bucket, hbucket⟩ := discard_eq_ok_iff.1 (forM_eq_ok_iff.1 hcheck _ hname)
    rw [Buckets.require_eq_ok] at hbucket
    exact Std.ExtTreeMap.mem_iff_isSome_getElem?.2 (by simp [hbucket])
  · rw [run, write, havailable, deleteBuckets, hcheck]
    exact fun hmem => (mem_foldl_erase.1 hmem).2 hname

/-- An operation that adds or drops a bucket makes a difference: the bucket is there before it or
after it, but not both. -/
theorem mem_run_of_addsOrDrops (hedit : .edit edit ∈ store.deeds operation)
    (hchange : edit.AddsOrDrops bucketName) :
    ¬ (bucketName ∈ (store.run operation).2.buckets ↔ bucketName ∈ store.buckets) := by
  have hpermit := permits_of_mem_deeds hedit
  cases edit with
  | addBucket other options now =>
    obtain rfl : other = bucketName := hchange
    cases operation <;> first | exact hpermit.elim | skip
    case createBucket named _ =>
      obtain ⟨rfl, -⟩ := hpermit
      obtain ⟨hbefore, hafter⟩ := mem_run_createBucket hedit
      exact fun hsame => hbefore (hsame.1 hafter)
  | dropBucket other =>
    obtain rfl : other = bucketName := hchange
    cases operation <;> first | exact hpermit.elim | skip
    case deleteBuckets bucketNames =>
      obtain ⟨hbefore, hafter⟩ := mem_run_deleteBuckets hpermit hedit
      exact fun hsame => hafter (hsame.2 hbefore)
  | store | patch | remove => exact hchange.elim

/-- Says that the buckets in which the named ids lie are there after an operation exactly when they
were there before it. -/
def KeepsBuckets (store : Store) (operation : Operation α) (names : List ResourceId) : Prop :=
  ∀ id ∈ names, id.bucketName ∈ (store.run operation).2.buckets ↔ id.bucketName ∈ store.buckets

instance {names : List ResourceId} : Decidable (store.KeepsBuckets operation names) :=
  inferInstanceAs (Decidable (∀ id ∈ names, _ ↔ _))

/-- Says that two operations are changes which name no object in common, and that neither makes or
drops a bucket that the other names. -/
structure Independent (store : Store) (first : Operation α) (second : Operation β) : Prop where
  reads : first.isRead = false ∧ second.isRead = false
  closes : first.isClose = false ∧ second.isClose = false
  objects : ∀ id ∈ first.names, id.isObject = true → id ∉ second.names
  firstKeeps : store.KeepsBuckets first second.names
  secondKeeps : store.KeepsBuckets second first.names

namespace Independent

/-- Independence has no order. -/
theorem symm (h : store.Independent first second) : store.Independent second first where
  reads := h.reads.symm
  closes := h.closes.symm
  objects id hsecond hobject hfirst := h.objects id hfirst hobject hsecond
  firstKeeps := h.secondKeeps
  secondKeeps := h.firstKeeps

/-- The second operation does not touch the objects that the first one names. -/
theorem not_touches (h : store.Independent first second) (hid : id ∈ first.names)
    (hobject : id.isObject = true) (hedit : edit ∈ editsOf (store.deeds second)) :
    ¬ edit.Touches id := by
  intro htouch
  have hdeed := mem_editsOf.1 hedit
  rcases (permits_of_mem_deeds hdeed).mem_names_of_touches hobject htouch with hnamed | hchange
  · exact h.objects id hid hobject hnamed
  · exact mem_run_of_addsOrDrops hdeed hchange (h.secondKeeps id hid)

/-- The second operation neither adds nor drops a bucket in which the first one names something. -/
theorem not_addsOrDrops (h : store.Independent first second) (hid : id ∈ first.names)
    (hedit : edit ∈ editsOf (store.deeds second)) : ¬ edit.AddsOrDrops id.bucketName :=
  fun hchange => mem_run_of_addsOrDrops (mem_editsOf.1 hedit) hchange (h.secondKeeps id hid)

/-- The first operation finds what it names as the second one has left it. -/
theorem agreeOn (h : store.Independent first second)
    (hclock : (store.run second).2.clock = store.clock) :
    AgreeOn first.names store (store.run second).2 := by
  obtain ⟨_, hdeeds⟩ := run_records second store none
  refine ⟨hclock, fun id hid => ⟨?_, ?_⟩⟩
  · cases hobject : id.isObject with
    | false =>
      rw [Buckets.object?_eq_none_of_not_isObject hobject,
        Buckets.object?_eq_none_of_not_isObject hobject]
    | true =>
      exact hdeeds.edits.object?_eq (fun edit hedit => h.not_touches hid hobject hedit)
        (ResourceId.isRoot_of_isObject hobject)
  · exact hdeeds.edits.bucketInfo?_eq fun edit hedit => h.not_addsOrDrops hid hedit

/-- At most one of the two operations touches any object. -/
theorem touches_apart (h : store.Independent first second) (hobject : id.isObject = true) :
    (∀ edit ∈ editsOf (store.deeds first), ¬ edit.Touches id) ∨
      ∀ edit ∈ editsOf (store.deeds second), ¬ edit.Touches id := by
  by_cases hsecond : ∃ edit ∈ editsOf (store.deeds second), edit.Touches id
  · obtain ⟨other, hother, htouched⟩ := hsecond
    obtain ⟨name, hname, hbucket⟩ :=
      (permits_of_mem_deeds (mem_editsOf.1 hother)).exists_name hobject htouched
    refine .inl fun edit hedit htouch => ?_
    rcases (permits_of_mem_deeds (mem_editsOf.1 hedit)).mem_names_of_touches hobject htouch with
      hnamed | hchange
    · exact h.not_touches hnamed hobject hother htouched
    · -- The first operation would drop a bucket in which the second one names something.
      exact h.symm.not_addsOrDrops hname hedit (hbucket ▸ hchange)
  · exact .inr fun edit hedit htouch => hsecond ⟨edit, hedit, htouch⟩

/-- At most one of the two operations adds or drops any bucket. -/
theorem addsOrDrops_apart (h : store.Independent first second) (bucketName : String) :
    (∀ edit ∈ editsOf (store.deeds first), ¬ edit.AddsOrDrops bucketName) ∨
      ∀ edit ∈ editsOf (store.deeds second), ¬ edit.AddsOrDrops bucketName := by
  by_cases hsecond : ∃ edit ∈ editsOf (store.deeds second), edit.AddsOrDrops bucketName
  · obtain ⟨other, hother, hchanged⟩ := hsecond
    have hname :=
      (permits_of_mem_deeds (mem_editsOf.1 hother)).mem_names_of_addsOrDrops hchanged
    exact .inl fun edit hedit => h.symm.not_addsOrDrops hname hedit
  · exact .inr fun edit hedit hchange => hsecond ⟨edit, hedit, hchange⟩

end Independent

attribute [ext] Store

section FixedClock

variable {time : Timestamp}

/-- A store with a fixed clock keeps it. -/
theorem clock_run (hclock : store.clock = .fixed time) :
    (store.run operation).2.clock = .fixed time := by
  obtain ⟨ticks, hticks⟩ := (run_carried operation store).clock
  funext n
  rw [hticks, hclock]
  rfl

/-- A fixed clock does not panic, so no operation poisons the lock. -/
theorem poisoned_run (hclock : store.clock = .fixed time) :
    (store.run operation).2.poisoned = store.poisoned := by
  have hcarried := run_carried operation store
  have hsteady : store.clock.NeverPanics := fun n => ⟨time, congrFun hclock n⟩
  rw [hcarried.poisoned, hcarried.steady hsteady, Bool.or_false]

/-- A change does not close a store. -/
theorem closed_run (hclose : operation.isClose = false) :
    (store.run operation).2.closed = store.closed := by
  rw [(run_carried operation store).closed, hclose, Bool.or_false]

/-- A change of a store with a fixed clock leaves it as available as it was. -/
theorem available_run (hclock : store.clock = .fixed time) (hclose : operation.isClose = false) :
    (store.run operation).2.available = store.available := by
  rw [available, available, closed_run hclose, poisoned_run hclock]

/-- The first of two independent operations answers and does the same before and after the
second. -/
theorem Independent.alike (h : store.Independent first second)
    (hclock : store.clock = .fixed time) :
    Alike (run first) (deeds first) store (store.run second).2 :=
  run_alike h.reads.1 h.closes.1 (available_run hclock h.closes.2)
    (h.agreeOn ((clock_run hclock).trans hclock.symm))

/-- Independent changes of a store with a fixed clock have the same answers and lead to the same
store in either order, also where they fail or stop halfway. -/
theorem independent_commute (hclock : store.clock = .fixed time)
    (h : store.Independent first second) :
    ((store.run second).2.run first).1 = (store.run first).1 ∧
      ((store.run first).2.run second).1 = (store.run second).1 ∧
      ((store.run first).2.run second).2 = ((store.run second).2.run first).2 := by
  have hfirst := h.alike hclock
  have hsecond := h.symm.alike hclock
  refine ⟨hfirst.answer, hsecond.answer, Store.ext ?_ ?_ ?_ ?_⟩
  · obtain ⟨_, hfirstDone⟩ := run_records first store none
    obtain ⟨_, hsecondDone⟩ := run_records second store none
    obtain ⟨_, hthen⟩ := run_records second (store.run first).2 none
    obtain ⟨_, hlast⟩ := run_records first (store.run second).2 none
    -- What each of them does is the same in either order.
    rw [hsecond.deeds] at hthen
    rw [hfirst.deeds] at hlast
    exact hfirstDone.edits.commute hsecondDone.edits hthen.edits hlast.edits
      (fun _ hobject => h.touches_apart hobject) h.addsOrDrops_apart
  · rw [clock_run (clock_run hclock), clock_run (clock_run hclock)]
  · rw [poisoned_run (clock_run hclock), poisoned_run hclock, poisoned_run (clock_run hclock),
      poisoned_run hclock]
  · rw [closed_run h.closes.2, closed_run h.closes.1, closed_run h.closes.1, closed_run h.closes.2]

end FixedClock

/-- A batch that fails at its second object and a deletion in the same bucket commute. -/
theorem batch_and_deletion_commute :
    let store := (((empty (.fixed .epoch)).run (.createBucket "media" {})).2.run
      (.createEmptyObject (.object "media" "a") {})).2
    let first := Operation.createEmptyObjects [.object "media" "b", .object "archive" "c"] {}
    let second := Operation.deleteObjects [.object "media" "a"]
    Reachable (.fixed .epoch) store ∧ store.clock = .fixed .epoch ∧
      store.Independent first second ∧
      (store.run first).1 = .failed (StorageError.notFound (.bucket "archive")) ∧
      (store.run first).2.buckets ≠ store.buckets ∧
      ((store.run first).2.run second).2 = ((store.run second).2.run first).2 := by
  intro store first second
  have hreach : Reachable (.fixed .epoch) store := .run _ (.run _ .empty)
  have hindependent : store.Independent first second := by
    constructor <;> decide +kernel
  exact ⟨hreach, rfl, hindependent, rfl, by decide +kernel,
    (independent_commute rfl hindependent).2.2⟩

end Store

end ObjectStorage
