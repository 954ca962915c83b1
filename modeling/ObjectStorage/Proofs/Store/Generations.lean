import Mathlib.Data.List.DropRight
import Mathlib.Data.List.Induction
import ObjectStorage.Proofs.Store.Journal

/-!
# Generations count versions

Storing an object raises its content generation and starts its meta generation
anew, and a patch raises its meta generation. `Edit.version_apply` says so of one
edit, `foldl_revise` counts the stores and the patches of a series, and
`Store.journal_not_removes` says that a run through which an object stays makes no
edit that takes it away. `Store.generations_count` puts them together.
-/

namespace ObjectStorage

/-- The content generation and the meta generation of the object at an id; zero when there is
none. -/
def Buckets.version (buckets : Buckets) (id : ResourceId) : Int × Int :=
  match buckets.object? id with
  | some object => (object.info.contentGeneration, object.info.metaGeneration)
  | none => (0, 0)

namespace Buckets

variable {buckets : Buckets} {id : ResourceId} {object : StoredObject}

/-- The generations of an object that is there. -/
theorem version_of_object? (h : buckets.object? id = some object) :
    buckets.version id = (object.info.contentGeneration, object.info.metaGeneration) := by
  rw [version, h]

/-- The generations of an object that is put. -/
theorem version_put (hbucket : id.bucketName ∈ buckets) (hobject : id.isObject = true) :
    (buckets.put id object).version id =
      (object.info.contentGeneration, object.info.metaGeneration) :=
  version_of_object? (by rw [object?_put hbucket hobject, if_pos rfl])

/-- The content generation comes first. -/
theorem version_fst : (buckets.version id).1 = buckets.generation id := by
  rw [version, generation]
  cases buckets.object? id <;> rfl

end Buckets

namespace Edit

variable {edit : Edit} {buckets : Buckets} {id : ResourceId}

/-- Says that an edit stores the object at an id. -/
def stores (edit : Edit) (id : ResourceId) : Bool :=
  match edit with
  | store other _ _ _ _ _ => other = id
  | _ => false

/-- Says that an edit patches the object at an id. -/
def patches (edit : Edit) (id : ResourceId) : Bool :=
  match edit with
  | patch update _ => update.resourceId = id
  | _ => false

/-- The generations of an object after an edit that does not take it away. -/
def revise (edit : Edit) (id : ResourceId) (version : Int × Int) : Int × Int :=
  if edit.stores id then (version.1 + 1, 1)
  else if edit.patches id then (version.1, version.2 + 1)
  else version

/-- An edit that touches an object stores it, patches it or takes it away. -/
theorem not_touches (hobject : id.isObject = true) (hstore : edit.stores id = false)
    (hpatch : edit.patches id = false) (hremove : ¬ edit.Removes id) : ¬ edit.Touches id := by
  intro htouch
  cases edit with
  | addBucket bucketName options now =>
    obtain rfl : id = .bucket bucketName := htouch
    cases hobject
  | store other content contentType metadata overwrite now =>
    obtain rfl : id = other := htouch
    simp [stores] at hstore
  | patch update now =>
    obtain rfl : id = update.resourceId := htouch
    simp [patches] at hpatch
  | remove other => exact hremove htouch
  | dropBucket bucketName =>
    simp only [Touches, ResourceId.belongsTo, Bool.and_eq_true, beq_iff_eq] at htouch
    exact hremove htouch.2

/-- An edit that does not take an object away revises its generations. -/
theorem version_apply (hadm : edit.Admissible buckets) (hobject : id.isObject = true)
    (hremove : ¬ edit.Removes id) :
    (edit.apply buckets).version id = edit.revise id (buckets.version id) := by
  by_cases hstore : edit.stores id = true
  · cases edit with
    | store other content contentType metadata overwrite now =>
      obtain rfl : other = id := of_decide_eq_true hstore
      rw [revise, if_pos hstore, apply, Buckets.version_put hadm.2.2.1 hadm.1,
        Buckets.version_fst]
      rfl
    | addBucket | patch | remove | dropBucket => cases hstore
  · by_cases hpatch : edit.patches id = true
    · cases edit with
      | patch update now =>
        obtain rfl : update.resourceId = id := of_decide_eq_true hpatch
        obtain ⟨object, hfound⟩ := hadm
        rw [revise, if_neg hstore, if_pos hpatch, Buckets.version_of_object? hfound]
        simp only [apply, hfound]
        exact Buckets.version_put (Buckets.mem_of_object? hfound) hobject
      | addBucket | store | remove | dropBucket => cases hpatch
    · -- The edit is about something else.
      have htouch := not_touches hobject (by simpa using hstore) (by simpa using hpatch) hremove
      rw [revise, if_neg hstore, if_neg hpatch, Buckets.version,
        object?_apply hadm htouch (ResourceId.isRoot_of_isObject hobject)]
      rfl

/-- An edit that stores no object where none is leaves none there. -/
theorem object?_apply_eq_none (hadm : edit.Admissible buckets) (hstore : edit.stores id = false)
    (hnone : buckets.object? id = none) : (edit.apply buckets).object? id = none := by
  rw [Option.eq_none_iff_forall_ne_some]
  intro object hobject
  rcases object_origin hadm hobject with hbefore |
      ⟨content, contentType, metadata, overwrite, now, rfl, -⟩ | ⟨update, now, old, -, -, hold, -⟩
  · rw [hnone] at hbefore
    cases hbefore
  · simp [stores] at hstore
  · rw [hnone] at hold
    cases hold

/-- An edit that takes an object away leaves none. -/
theorem object?_apply_of_removes (hremove : edit.Removes id) :
    (edit.apply buckets).object? id = none := by
  cases edit with
  | remove other => rw [apply, Buckets.object?_remove, if_pos hremove.symm]
  | dropBucket bucketName => rw [apply, Buckets.object?_erase, if_pos hremove.symm]
  | addBucket | store | patch => exact hremove.elim

end Edit

/-- How many of some edits store the object at an id. -/
def storesAt (id : ResourceId) (edits : List Edit) : Nat := edits.countP (·.stores id)

/-- How many of some edits patch the object at an id after it was stored for the last time. -/
def patchesSinceStore (id : ResourceId) (edits : List Edit) : Nat :=
  (edits.rtakeWhile fun edit => !edit.stores id).countP (·.patches id)

/-- Revised generations count: the first one all stores, the second one the patches since the last
of them. -/
theorem foldl_revise (id : ResourceId) (edits : List Edit) (version : Int × Int) :
    edits.foldl (fun version edit => edit.revise id version) version =
      (version.1 + storesAt id edits,
        (if storesAt id edits = 0 then version.2 else 1) + patchesSinceStore id edits) := by
  -- The induction goes by the last edit: a store there starts the count of patches anew.
  induction edits using List.reverseRecOn with
  | nil => simp [storesAt, patchesSinceStore]
  | append_singleton edits edit ih =>
    rw [List.foldl_append, ih]
    cases hstore : edit.stores id with
    | true =>
      simp [Edit.revise, storesAt, patchesSinceStore, hstore, Int.add_assoc]
    | false =>
      cases hpatch : edit.patches id <;>
        simp [Edit.revise, storesAt, patchesSinceStore, hstore, hpatch, Int.add_assoc]

/-- No stores are counted when no edit is one. -/
theorem storesAt_eq_zero {id : ResourceId} {edits : List Edit} :
    storesAt id edits = 0 ↔ ∀ edit ∈ edits, edit.stores id = false := by
  simp [storesAt]

/-- Among edits without a store, no patches are counted only when none is one. -/
theorem patchesSinceStore_eq_zero {id : ResourceId} {edits : List Edit}
    (hstore : ∀ edit ∈ edits, edit.stores id = false) (h : patchesSinceStore id edits = 0) :
    ∀ edit ∈ edits, edit.patches id = false := by
  have hall : (edits.rtakeWhile fun edit => !edit.stores id) = edits :=
    List.rtakeWhile_eq_self_iff.2 fun edit hedit => by simp [hstore edit hedit]
  rw [patchesSinceStore, hall, List.countP_eq_zero] at h
  intro edit hedit
  simpa using h edit hedit

namespace Edits

variable {edits : List Edit} {before after : Buckets} {id : ResourceId}

/-- A series that does not take an object away revises its generations. -/
theorem version_eq (h : Edits edits before after) (hobject : id.isObject = true)
    (hremove : ∀ edit ∈ edits, ¬ edit.Removes id) :
    after.version id =
      edits.foldl (fun version edit => edit.revise id version) (before.version id) := by
  induction h with
  | nil => rfl
  | cons hadm _ ih =>
    rw [ih fun edit hedit => hremove edit (.tail _ hedit),
      Edit.version_apply hadm hobject (hremove _ (.head _)), List.foldl_cons]

/-- A series that leaves the generations of an object as they are leaves the object as it is. -/
theorem object?_eq_of_version_eq (h : Edits edits before after) (hobject : id.isObject = true)
    (hremove : ∀ edit ∈ edits, ¬ edit.Removes id)
    (hversion : after.version id = before.version id) :
    after.object? id = before.object? id := by
  rw [h.version_eq hobject hremove, foldl_revise] at hversion
  obtain ⟨hfirst, hsecond⟩ := Prod.ext_iff.1 hversion
  have hcount : storesAt id edits = 0 := by
    dsimp only at hfirst
    omega
  have hstore := storesAt_eq_zero.1 hcount
  -- Without a store the patches behind the last one are all of them.
  have hpatch : ∀ edit ∈ edits, edit.patches id = false := by
    refine patchesSinceStore_eq_zero hstore ?_
    rw [hcount, if_pos rfl] at hsecond
    dsimp only at hsecond
    omega
  refine h.object?_eq ?_ (ResourceId.isRoot_of_isObject hobject)
  intro edit hedit
  exact Edit.not_touches hobject (hstore edit hedit) (hpatch edit hedit) (hremove edit hedit)

/-- A series that stores no object where none is leaves none there. -/
theorem object?_eq_none (h : Edits edits before after)
    (hstore : ∀ edit ∈ edits, edit.stores id = false) (hnone : before.object? id = none) :
    after.object? id = none := by
  induction h with
  | nil => exact hnone
  | cons hadm _ ih =>
    exact ih (fun edit hedit => hstore edit (.tail _ hedit))
      (Edit.object?_apply_eq_none hadm (hstore _ (.head _)) hnone)

/-- A series that takes an object away and stores none there leaves none there. -/
theorem object?_eq_none_of_removes (h : Edits edits before after)
    (hstore : ∀ edit ∈ edits, edit.stores id = false) {edit : Edit} (hedit : edit ∈ edits)
    (hremove : edit.Removes id) : after.object? id = none := by
  induction h with
  | nil => cases hedit
  | @cons first rest before after hadm hrest ih =>
    have hlater : ∀ edit ∈ rest, edit.stores id = false := fun edit hedit =>
      hstore edit (.tail _ hedit)
    cases hedit with
    | head => exact hrest.object?_eq_none hlater (Edit.object?_apply_of_removes hremove)
    | tail _ hedit => exact ih hlater hedit

end Edits

/-- What an operation that takes something away does stores nothing. -/
theorem Operation.Permits.not_stores {α : Type} {operation : Operation α} {edit other : Edit}
    {id : ResourceId} (hpermit : operation.Permits edit) (hremove : edit.Removes id)
    (hother : operation.Permits other) : other.stores id = false := by
  cases edit with
  | addBucket | store | patch => exact hremove.elim
  | remove | dropBucket =>
    cases operation <;> cases other <;>
      first | rfl | exact hpermit.elim | exact hother.elim

/-- A property that holds at the end of a list but not at its start holds from some entry on. -/
theorem exists_last_start {β : Type*} (p : List β → Prop) {entries : List β} (hstart : ¬ p [])
    (hend : p entries) :
    ∃ earlier entry later, entries = earlier ++ entry :: later ∧ ¬ p earlier ∧
      ∀ taken, taken <+: later → p (earlier ++ entry :: taken) := by
  induction entries using List.reverseRecOn with
  | nil => exact (hstart hend).elim
  | append_singleton entries last ih =>
    by_cases hbefore : p entries
    · obtain ⟨earlier, entry, later, rfl, hnot, hlater⟩ := ih hbefore
      refine ⟨earlier, entry, later ++ [last], by simp, hnot, ?_⟩
      intro taken htaken
      rcases List.prefix_concat_iff.1 htaken with rfl | htaken
      · simpa using hend
      · exact hlater taken htaken
    · refine ⟨entries, last, [], rfl, hbefore, ?_⟩
      intro taken htaken
      obtain rfl := List.prefix_nil.1 htaken
      exact hend

namespace Store

variable {store : Store} {id : ResourceId} {requests : List Request}

/-- The store after two runs, one after the other. -/
theorem runAll_append (requests later : List Request) (store : Store) :
    store.runAll (requests ++ later) = (store.runAll requests).runAll later :=
  List.foldl_append

/-- An operation behind which there is an object has not taken it away. -/
theorem deeds_not_removes {α : Type} {operation : Operation α}
    (hpresent : (store.run operation).2.buckets.object? id ≠ none) :
    ∀ edit ∈ editsOf (store.deeds operation), ¬ edit.Removes id := by
  intro edit hedit hremove
  obtain ⟨last, hdeeds⟩ := run_records operation store none
  have hpermit := permits_of_mem_deeds (mem_editsOf.1 hedit)
  refine hpresent (hdeeds.edits.object?_eq_none_of_removes ?_ hedit hremove)
  intro other hother
  exact hpermit.not_stores hremove (permits_of_mem_deeds (mem_editsOf.1 hother))

/-- A run through which an object stays does not take it away. -/
theorem journal_not_removes
    (hpresent : ∀ request taken, request :: taken <+: requests →
      (store.runAll (request :: taken)).buckets.object? id ≠ none) :
    ∀ edit ∈ editsOf (store.journal requests), ¬ edit.Removes id := by
  induction requests generalizing store with
  | nil => exact fun _ hedit => (List.not_mem_nil hedit).elim
  | cons request rest ih =>
    intro edit hedit
    rw [journal, editsOf_append, List.mem_append] at hedit
    rcases hedit with hfirst | hlater
    · exact deeds_not_removes (hpresent request [] (by simp)) edit hfirst
    · refine ih (fun next taken htaken => ?_) edit hlater
      exact hpresent request (next :: taken) (List.prefix_cons_inj request |>.2 htaken)

/-- A run through which an object stays revises its generations by its edits. -/
theorem runAll_version (requests : List Request) (store : Store) (hobject : id.isObject = true)
    (hpresent : ∀ request taken, request :: taken <+: requests →
      (store.runAll (request :: taken)).buckets.object? id ≠ none) :
    (store.runAll requests).buckets.version id =
      (editsOf (store.journal requests)).foldl (fun version edit => edit.revise id version)
        (store.buckets.version id) := by
  obtain ⟨last, hdeeds⟩ := runAll_records requests store none
  exact hdeeds.edits.version_eq hobject (journal_not_removes hpresent)

/-- A run from a moment without an object through moments with one counts its versions. -/
theorem runAll_counts {request : Request} {later : List Request} {object : StoredObject}
    (hwf : (store.runAll (request :: later)).buckets.WellFormed)
    (habsent : store.buckets.object? id = none)
    (hpresent : ∀ taken, taken <+: later →
      (store.runAll (request :: taken)).buckets.object? id ≠ none)
    (hobject : (store.runAll (request :: later)).buckets.object? id = some object) :
    object.info.contentGeneration = storesAt id (editsOf (store.journal (request :: later))) ∧
      object.info.metaGeneration =
        1 + patchesSinceStore id (editsOf (store.journal (request :: later))) := by
  have hversion := runAll_version (request :: later) store (Buckets.isObject_of_object? hobject)
    fun first taken htaken => by
      obtain ⟨rfl, hlater⟩ := List.cons_prefix_cons.1 htaken
      exact hpresent taken hlater
  rw [foldl_revise, Buckets.version_of_object? hobject, Buckets.version, habsent] at hversion
  obtain ⟨hcontent, hmeta⟩ := Prod.ext_iff.1 hversion
  dsimp only at hcontent hmeta
  -- The object was stored, as its content generation is not zero.
  have hstored := (hwf.object hobject).contentGeneration
  rw [if_neg (by omega)] at hmeta
  exact ⟨by omega, hmeta⟩

/-- A run through which an object stays and at the end of which it has the same generations leaves
it as it is. -/
theorem runAll_object?_eq (hobject : id.isObject = true)
    (hpresent : ∀ taken, taken <+: requests → (store.runAll taken).buckets.object? id ≠ none)
    (hversion : (store.runAll requests).buckets.version id = store.buckets.version id) :
    (store.runAll requests).buckets.object? id = store.buckets.object? id := by
  obtain ⟨last, hdeeds⟩ := runAll_records requests store none
  refine hdeeds.edits.object?_eq_of_version_eq hobject (journal_not_removes ?_) hversion
  exact fun request taken htaken => hpresent (request :: taken) htaken

/-- In every run of an empty store the generations of an object count versions. The content
generation of an object that is there at the end is the number of times that it was stored since it
was last absent, and its meta generation is one more than the number of patches since it was last
stored. At two moments between which it was never absent, the same generations mean the same
object. -/
theorem generations_count (clock : Clock) (requests : List Request) (id : ResourceId) :
    (∀ object, ((empty clock).runAll requests).buckets.object? id = some object →
      ∃ earlier request later, requests = earlier ++ request :: later ∧
        ((empty clock).runAll earlier).buckets.object? id = none ∧
        (∀ taken, taken <+: later →
          ((empty clock).runAll (earlier ++ request :: taken)).buckets.object? id ≠ none) ∧
        let edits := editsOf (((empty clock).runAll earlier).journal (request :: later))
        object.info.contentGeneration = storesAt id edits ∧
          object.info.metaGeneration = 1 + patchesSinceStore id edits) ∧
    (∀ earlier between, earlier ++ between <+: requests →
      (∀ taken, taken <+: between →
        ((empty clock).runAll (earlier ++ taken)).buckets.object? id ≠ none) →
      ∀ first last, ((empty clock).runAll earlier).buckets.object? id = some first →
        ((empty clock).runAll (earlier ++ between)).buckets.object? id = some last →
        first.info.contentGeneration = last.info.contentGeneration →
        first.info.metaGeneration = last.info.metaGeneration → first = last) := by
  constructor
  · intro object hobject
    have hend : ((empty clock).runAll requests).buckets.object? id ≠ none := by simp [hobject]
    have hstart : ¬ ((empty clock).runAll []).buckets.object? id ≠ none :=
      not_not_intro Buckets.object?_empty
    obtain ⟨earlier, request, later, rfl, habsent, hpresent⟩ :=
      exists_last_start (fun taken => ((empty clock).runAll taken).buckets.object? id ≠ none)
        hstart hend
    refine ⟨earlier, request, later, rfl, not_not.1 habsent, hpresent, ?_⟩
    obtain ⟨last, hdeeds⟩ := runAll_records (earlier ++ request :: later) (empty clock) none
    have hwf := hdeeds.edits.wellFormed .empty
    simp only [runAll_append] at hwf hobject hpresent
    exact runAll_counts hwf (not_not.1 habsent) hpresent hobject
  · intro earlier between _ hpresent first last hfirst hlast hcontent hmeta
    have hname := Buckets.isObject_of_object? hfirst
    simp only [runAll_append] at hpresent hlast
    have hsame := runAll_object?_eq hname hpresent <| by
      rw [Buckets.version_of_object? hfirst, Buckets.version_of_object? hlast, hcontent, hmeta]
    rw [hfirst, hlast] at hsame
    exact (Option.some.inj hsame).symm

/-- A run that creates an object, patches it twice, overwrites it and patches it again. -/
def revisions (id : ResourceId) : List Request :=
  [⟨.createBucket id.bucketName {}⟩, ⟨.createEmptyObject id {}⟩,
    ⟨.updateItems [⟨id, ∅⟩, ⟨id, ∅⟩]⟩, ⟨.writeObject id [1] {}⟩, ⟨.updateItems [⟨id, ∅⟩]⟩]

/-- An object that was overwritten once and then patched once. -/
theorem revisions_count :
    let id := .object "media" "a"
    let store := (empty (.fixed .epoch)).runAll (revisions id)
    store.buckets.version id = (2, 2) ∧ ∃ earlier request later,
      revisions id = earlier ++ request :: later ∧
        let edits := editsOf (((empty (.fixed .epoch)).runAll earlier).journal (request :: later))
        storesAt id edits = 2 ∧ patchesSinceStore id edits = 1 := by
  intro id store
  have hversion : store.buckets.version id = (2, 2) := by decide +kernel
  have hfound : (store.buckets.object? id).isSome = true := by decide +kernel
  obtain ⟨object, hobject⟩ := Option.isSome_iff_exists.1 hfound
  obtain ⟨earlier, request, later, hsplit, -, -, hcontent, hmeta⟩ :=
    (generations_count (.fixed .epoch) (revisions id) id).1 object hobject
  rw [Buckets.version_of_object? hobject] at hversion
  obtain ⟨hfirst, hsecond⟩ := Prod.ext_iff.1 hversion
  dsimp only at hfirst hsecond
  exact ⟨Buckets.version_of_object? hobject ▸ hversion, earlier, request, later, hsplit, by omega,
    by omega⟩

end Store

end ObjectStorage
