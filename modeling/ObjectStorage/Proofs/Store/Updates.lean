import ObjectStorage.Proofs.Store.Failure
import ObjectStorage.Proofs.Store.Refusal
import ObjectStorage.Proofs.Store.Reports

/-!
# Updates in order

Updating items patches the metadata of objects one after another, with one reading of
the clock for all. `Metadata.getElem?_patch` says what a patch leaves under a key, and
`Store.Revises` what a series of patches makes of a store: under each key of an object
there is what the last patch that mentions it says. `Store.updates_in_order` adds that
each info is reported as it is right after its patch, that a series of updates can be
made in parts, and that patches of one object can be merged.
-/

namespace ObjectStorage

namespace Metadata

/-- Metadata after a change of one key: a value is set, or the key is removed. -/
def change (metadata : Metadata) (key : String) : Option Bytes → Metadata
  | some value => metadata.insert key value
  | none => metadata.erase key

/-- A change leaves what it says under its own key and the rest as it is. -/
theorem getElem?_change (metadata : Metadata) (key other : String) (value? : Option Bytes) :
    (metadata.change key value?)[other]? = if key = other then value? else metadata[other]? := by
  cases value? with
  | none => simp [change, Std.ExtTreeMap.getElem?_erase]
  | some value => simp [change, Std.ExtTreeMap.getElem?_insert]

/-- Changes of different keys leave what they say under those, and the rest as it is. -/
theorem getElem?_foldl_change {entries : List (String × Option Bytes)}
    (hdistinct : entries.Pairwise fun a b => a.1 ≠ b.1) (metadata : Metadata) (key : String) :
    (entries.foldl (fun result entry => result.change entry.1 entry.2) metadata)[key]? =
      ((entries.find? (·.1 = key)).map (·.2)).getD metadata[key]? := by
  induction entries generalizing metadata with
  | nil => rfl
  | cons entry rest ih =>
    obtain ⟨hfirst, hrest⟩ := List.pairwise_cons.1 hdistinct
    rw [List.foldl_cons, ih hrest, getElem?_change]
    by_cases hkey : entry.1 = key
    · have hnone : rest.find? (·.1 = key) = none := by
        rw [List.find?_eq_none]
        intro other hother
        simpa [hkey] using Ne.symm (hfirst other hother)
      simp [hkey, hnone]
    · simp [hkey]

/-- A patch leaves what it says under the keys that it mentions, and the rest as it is. -/
theorem getElem?_patch (metadata : Metadata) (changes : MetadataPatch) (key : String) :
    (metadata.patch changes)[key]? = changes[key]?.getD metadata[key]? := by
  have hpatch : metadata.patch changes =
      changes.toList.foldl (fun result entry => result.change entry.1 entry.2) metadata :=
    Std.ExtTreeMap.foldl_eq_foldl_toList
  have hdistinct : changes.toList.Pairwise fun a b => a.1 ≠ b.1 :=
    Std.ExtTreeMap.distinct_keys_toList.imp fun hne heq => hne (by simp [heq])
  have hfind : (changes.toList.find? (·.1 = key)).map (·.2) = changes[key]? := by
    cases hfound : changes.toList.find? (·.1 = key) with
    | none =>
      rw [Option.map_none, eq_comm, Option.eq_none_iff_forall_ne_some]
      intro value? hvalue
      have hmem := Std.ExtTreeMap.mem_toList_iff_getElem?_eq_some.2 hvalue
      simpa using List.find?_eq_none.1 hfound _ hmem
    | some entry =>
      obtain rfl : entry.1 = key := by simpa using List.find?_some hfound
      have hmem := List.mem_of_find?_eq_some hfound
      exact (Std.ExtTreeMap.mem_toList_iff_getElem?_eq_some.1 hmem).symm
  rw [hpatch, getElem?_foldl_change hdistinct, hfind]

end Metadata

namespace ItemUpdate

variable {updates rest : List ItemUpdate} {update : ItemUpdate} {id other : ResourceId}
  {key : String}

/-- What the patches of an object say about a key, in order. -/
def changesOf (updates : List ItemUpdate) (id : ResourceId) (key : String) : List (Option Bytes) :=
  updates.filterMap fun update => if update.resourceId = id then update.metadata[key]? else none

/-- The patch of an object comes before the others. -/
theorem changesOf_cons_self :
    changesOf (update :: rest) update.resourceId key =
      update.metadata[key]?.toList ++ changesOf rest update.resourceId key := by
  cases hkey : update.metadata[key]? <;> simp [changesOf, hkey]

/-- The patch of another object says nothing. -/
theorem changesOf_cons_of_ne (h : update.resourceId ≠ id) :
    changesOf (update :: rest) id key = changesOf rest id key := by
  simp [changesOf, h]

/-- What two series of patches say. -/
theorem changesOf_append (updates later : List ItemUpdate) (id : ResourceId) (key : String) :
    changesOf (updates ++ later) id key = changesOf updates id key ++ changesOf later id key :=
  List.filterMap_append

/-- One patch of an object in place of several, in which the later ones win. -/
def merge (id : ResourceId) (updates : List ItemUpdate) : ItemUpdate where
  resourceId := id
  metadata := updates.foldl (fun merged update => merged ∪ update.metadata) ∅

/-- A merged patch says about a key what the last patch says that mentions it. -/
theorem getElem?_merge (id : ResourceId) (updates : List ItemUpdate) (key : String) :
    (merge id updates).metadata[key]? = (updates.filterMap (·.metadata[key]?)).getLast? := by
  suffices h : ∀ merged : MetadataPatch,
      (updates.foldl (fun merged update => merged ∪ update.metadata) merged)[key]? =
        (updates.filterMap (·.metadata[key]?)).getLast?.or merged[key]? by
    rw [merge, h ∅, Std.ExtTreeMap.getElem?_empty, Option.or_none]
  induction updates with
  | nil => exact fun _ => rfl
  | cons update rest ih =>
    intro merged
    rw [List.foldl_cons, ih, Std.ExtTreeMap.getElem?_union, List.filterMap_cons]
    cases hkey : update.metadata[key]? with
    | none => rfl
    | some value? => simp [List.getLast?_cons, Option.or_some]

/-- The patches of a series with those of one object merged into one behind the others. -/
def condense (id : ResourceId) (updates : List ItemUpdate) : List ItemUpdate :=
  updates.filter (·.resourceId ≠ id) ++ [merge id (updates.filter (·.resourceId = id))]

/-- Merging patches of one object keeps what is said last about a key. -/
theorem getLast?_changesOf_condense (id other : ResourceId) (updates : List ItemUpdate)
    (key : String) :
    (changesOf (condense id updates) other key).getLast? =
      (changesOf updates other key).getLast? := by
  rw [condense, changesOf_append]
  by_cases hid : id = other
  · subst hid
    have hothers : changesOf (updates.filter (·.resourceId ≠ id)) id key = [] := by
      rw [changesOf, List.filterMap_eq_nil_iff]
      intro update hupdate
      exact if_neg (of_decide_eq_true (List.mem_filter.1 hupdate).2)
    have hown : (updates.filter (·.resourceId = id)).filterMap (·.metadata[key]?) =
        changesOf updates id key := by
      rw [changesOf, List.filterMap_filter]
      simp
    have hmerged := getElem?_merge id (updates.filter (·.resourceId = id)) key
    rw [hown] at hmerged
    have hsaid : changesOf [merge id (updates.filter (·.resourceId = id))] id key =
        (changesOf updates id key).getLast?.toList := by
      rw [← hmerged]
      exact changesOf_cons_self.trans (List.append_nil _)
    rw [hothers, List.nil_append, hsaid]
    cases (changesOf updates id key).getLast? <;> rfl
  · have hothers : changesOf (updates.filter (·.resourceId ≠ id)) other key =
        changesOf updates other key := by
      rw [changesOf, List.filterMap_filter, changesOf]
      congr 1
      funext update
      by_cases hupdate : update.resourceId = other
      · simp [hupdate, Ne.symm hid]
      · simp [hupdate]
    have hnone : changesOf [merge id (updates.filter (·.resourceId = id))] other key = [] :=
      changesOf_cons_of_ne hid
    rw [hothers, hnone, List.append_nil]

end ItemUpdate

/-- Says that an object is what patches at one time make of another one, which lies at this id. -/
structure StoredObject.IsRevision (revised original : StoredObject) (id : ResourceId)
    (updates : List ItemUpdate) (now : Timestamp) : Prop where
  metadata : ∀ key, revised.info.metadata[key]? =
    (ItemUpdate.changesOf updates id key).getLast?.getD original.info.metadata[key]?
  metaGeneration : revised.info.metaGeneration =
    original.info.metaGeneration + (updates.map (·.resourceId)).count id
  modificationTime : revised.info.modificationTime =
    if id ∈ updates.map (·.resourceId) then some now else original.info.modificationTime
  rest : revised = { original with info := { original.info with
    metadata := revised.info.metadata
    metaGeneration := revised.info.metaGeneration
    modificationTime := revised.info.modificationTime } }

namespace StoredObject.IsRevision

variable {revised original : StoredObject} {id : ResourceId} {update : ItemUpdate}
  {updates : List ItemUpdate} {now : Timestamp}

/-- Without patches an object stays as it is. -/
theorem nil (object : StoredObject) (id : ResourceId) (now : Timestamp) :
    object.IsRevision object id [] now where
  metadata _ := rfl
  metaGeneration := by simp
  modificationTime := by simp
  rest := rfl

/-- A patch of the object before the others. -/
theorem cons_self
    (h : revised.IsRevision (original.patched update now) update.resourceId updates now) :
    revised.IsRevision original update.resourceId (update :: updates) now where
  metadata key := by
    rw [h.metadata key, ItemUpdate.changesOf_cons_self, List.getLast?_append]
    simp only [StoredObject.patched, Metadata.getElem?_patch]
    cases (ItemUpdate.changesOf updates update.resourceId key).getLast? <;>
      cases update.metadata[key]? <;> rfl
  metaGeneration := by
    rw [h.metaGeneration, List.map_cons, List.count_cons_self]
    simp only [StoredObject.patched]
    omega
  modificationTime := by
    rw [h.modificationTime, List.map_cons, if_pos List.mem_cons_self]
    exact ite_self _
  rest := h.rest

/-- A patch of another object before the others. -/
theorem cons_of_ne (hne : update.resourceId ≠ id) (h : revised.IsRevision original id updates now) :
    revised.IsRevision original id (update :: updates) now where
  metadata key := by rw [h.metadata key, ItemUpdate.changesOf_cons_of_ne hne]
  metaGeneration := by rw [h.metaGeneration, List.map_cons, List.count_cons_of_ne hne]
  modificationTime := by
    rw [h.modificationTime, List.map_cons]
    simp only [List.mem_cons, Ne.symm hne, false_or]
  rest := h.rest

end StoredObject.IsRevision

namespace Store

variable {store middle after : Store} {update : ItemUpdate} {updates first later : List ItemUpdate}
  {infos reported : List ItemInfo} {now : Timestamp}

/-- What a series of patches at one time makes of a store. -/
structure Revises (updates : List ItemUpdate) (now : Timestamp) (store after : Store) : Prop where
  object : ∀ {id original}, store.buckets.object? id = some original →
    ∃ revised, after.buckets.object? id = some revised ∧
      revised.IsRevision original id updates now
  other : ∀ {id}, id ∉ updates.map (·.resourceId) →
    after.buckets.object? id = store.buckets.object? id
  bucket : ∀ bucketName, after.buckets.bucketInfo? bucketName = store.buckets.bucketInfo? bucketName
  rest : after = { store with buckets := after.buckets }

/-- One patch before others. -/
theorem Revises.cons {object : StoredObject}
    (hobject : store.buckets.object? update.resourceId = some object)
    (h : Revises updates now { store with
      buckets := store.buckets.put update.resourceId (object.patched update now) } after) :
    Revises (update :: updates) now store after where
  object {id original} horiginal := by
    have hput : (store.buckets.put update.resourceId (object.patched update now)).object? id =
        if update.resourceId = id then some (object.patched update now)
        else store.buckets.object? id :=
      Buckets.object?_put_over hobject
    by_cases hid : update.resourceId = id
    · subst hid
      obtain rfl := Option.some.inj (hobject.symm.trans horiginal)
      rw [if_pos rfl] at hput
      obtain ⟨revised, hrevised, hrevision⟩ := h.object hput
      exact ⟨revised, hrevised, hrevision.cons_self⟩
    · rw [if_neg hid, horiginal] at hput
      obtain ⟨revised, hrevised, hrevision⟩ := h.object hput
      exact ⟨revised, hrevised, hrevision.cons_of_ne hid⟩
  other {id} hid := by
    obtain ⟨hfirst, hlater⟩ := not_or.1 (mt List.mem_cons.2 hid)
    rw [h.other hlater, Buckets.object?_put_over hobject, if_neg (Ne.symm hfirst)]
  bucket bucketName := (h.bucket bucketName).trans Buckets.bucketInfo?_put
  rest := h.rest

/-- Patches that succeed revise the store. -/
theorem patchItems_revises (h : store.patchItems now updates = (.ok infos, after)) :
    Revises updates now store after := by
  induction updates generalizing store infos with
  | nil =>
    cases h
    exact ⟨fun hobject => ⟨_, hobject, .nil _ _ _⟩, fun _ => rfl, fun _ => rfl, rfl⟩
  | cons update rest ih =>
    obtain ⟨object, others, hobject, hrest, -⟩ := patchItems_cons_eq_ok h
    exact .cons hobject (ih hrest)

/-- Patches behind others go on where those have ended. -/
theorem patchItems_append (hfirst : store.patchItems now first = (.ok infos, middle))
    (hlater : middle.patchItems now later = (.ok reported, after)) :
    store.patchItems now (first ++ later) = (.ok (infos ++ reported), after) := by
  induction first generalizing store infos with
  | nil =>
    cases hfirst
    exact hlater
  | cons update rest ih =>
    obtain ⟨object, others, hobject, hrest, rfl⟩ := patchItems_cons_eq_ok hfirst
    rw [List.cons_append, patchItems_cons hobject, ih hrest]
    rfl

/-- One info is reported for each patch. -/
theorem patchItems_length (h : store.patchItems now updates = (.ok infos, after)) :
    infos.length = updates.length := by
  induction updates generalizing store infos with
  | nil =>
    cases h
    rfl
  | cons update rest ih =>
    obtain ⟨object, others, -, hrest, rfl⟩ := patchItems_cons_eq_ok h
    rw [List.length_cons, List.length_cons, ih hrest]

/-- The info that is reported for a patch is what a lookup answers when no patch behind it has been
made. -/
theorem patchItems_info (h : store.patchItems now updates = (.ok infos, after)) {i : Nat}
    (hupdate : updates[i]? = some update) :
    ∃ info prior, infos[i]? = some info ∧
      store.patchItems now (updates.take (i + 1)) = (.ok (infos.take (i + 1)), prior) ∧
      prior.buckets.lookup update.resourceId = info := by
  induction updates generalizing store infos i with
  | nil => cases hupdate
  | cons first rest ih =>
    obtain ⟨object, others, hobject, hrest, rfl⟩ := patchItems_cons_eq_ok h
    rw [List.take_succ_cons, List.take_succ_cons, patchItems_cons hobject]
    cases i with
    | zero =>
      obtain rfl := Option.some.inj hupdate
      rw [List.take_zero, List.take_zero, patchItems]
      refine ⟨_, _, rfl, rfl, Buckets.lookup_of_object? ?_⟩
      rw [Buckets.object?_put_over hobject, if_pos rfl]
    | succ i =>
      obtain ⟨info, prior, hinfo, hprior, hlookup⟩ := ih hrest hupdate
      refine ⟨info, prior, hinfo, ?_, hlookup⟩
      rw [hprior]
      rfl

/-- Objects that are patched alike, but for what is said before the last word, end with the same
metadata. -/
theorem Revises.metadata_eq {others : List ItemUpdate} {last : Store}
    (h : Revises updates now store after) (hother : Revises others now store last)
    (hsame : ∀ id key, (ItemUpdate.changesOf others id key).getLast? =
      (ItemUpdate.changesOf updates id key).getLast?) {id : ResourceId} {original : StoredObject}
    (horiginal : store.buckets.object? id = some original) :
    ∃ revised merged, after.buckets.object? id = some revised ∧
      last.buckets.object? id = some merged ∧ merged.info.metadata = revised.info.metadata := by
  obtain ⟨revised, hrevised, hrevision⟩ := h.object horiginal
  obtain ⟨merged, hmerged, hmerging⟩ := hother.object horiginal
  refine ⟨revised, merged, hrevised, hmerged, Std.ExtTreeMap.ext_getElem? fun key => ?_⟩
  rw [hmerging.metadata, hrevision.metadata, hsame]

/-- A store that is open and sound, with a clock that shows a time, makes the patches of objects
that are all there at that time. -/
theorem run_updateItems (havailable : store.available = .ok ())
    (hnow : store.clock.now = .time now)
    (hnamed : ∀ update ∈ updates, ∃ object, store.buckets.object? update.resourceId = some object) :
    ∃ infos after, store.run (.updateItems updates) = (.ok infos, after) ∧
      patchItems now updates { store with clock := store.clock.tick } = (.ok infos, after) := by
  obtain ⟨infos, hinfos⟩ := patchItems_ok now { store with clock := store.clock.tick } hnamed
  rcases hpatch : patchItems now updates { store with clock := store.clock.tick } with
    ⟨outcome, after⟩
  rw [hpatch] at hinfos
  obtain rfl : outcome = .ok infos := hinfos
  refine ⟨infos, after, ?_, rfl⟩
  have hchange : store.updateItems updates = (.ok infos, after) := by
    rw [updateItems, Buckets.forM_requireObject (u := ()) |>.2 hnamed]
    simp only [stamp, hnow, hpatch]
  -- The patches leave the lock as sound as it was.
  have hsound : after.poisoned = false := by
    rw [(patchItems_revises hpatch).rest]
    exact (available_eq_ok.1 havailable).2
  rw [run, write, havailable]
  simp only [hchange, Outcome.isPanic, ← hsound]

/-- Says that a store makes patches in order, at one time: each info is reported as it is when no
patch behind it has been made, and the store is left as the patches revise it. -/
structure UpdatesInOrder (store : Store) (updates : List ItemUpdate) (now : Timestamp)
    (infos : List ItemInfo) (after : Store) : Prop where
  run : store.run (.updateItems updates) = (.ok infos, after)
  length : infos.length = updates.length
  info : ∀ {i update}, updates[i]? = some update → ∃ info prior, infos[i]? = some info ∧
    store.run (.updateItems (updates.take (i + 1))) = (.ok (infos.take (i + 1)), prior) ∧
    (prior.run (.getItemInfo update.resourceId)).1 = .ok info
  revises : Revises updates now { store with clock := store.clock.tick } after

/-- Patches of objects that are all there are made in order. -/
theorem updatesInOrder (havailable : store.available = .ok ())
    (hnow : store.clock.now = .time now)
    (hnamed : ∀ update ∈ updates, ∃ object, store.buckets.object? update.resourceId = some object) :
    ∃ infos after, store.UpdatesInOrder updates now infos after := by
  obtain ⟨infos, after, hrun, hpatch⟩ := run_updateItems havailable hnow hnamed
  refine ⟨infos, after, hrun, patchItems_length hpatch, ?_, patchItems_revises hpatch⟩
  intro i update hupdate
  obtain ⟨info, prior, hinfo, hprior, hlookup⟩ := patchItems_info hpatch hupdate
  obtain ⟨taken, left, hrun', hpatch'⟩ := run_updateItems havailable hnow
    fun other hother => hnamed other (List.mem_of_mem_take (i := i + 1) hother)
  rw [hprior] at hpatch'
  cases hpatch'
  have hstill : prior.available = .ok () := by
    rw [(patchItems_revises hprior).rest]
    exact havailable
  refine ⟨info, prior, hinfo, hrun', ?_⟩
  rw [Store.run, read_of_available hstill, hlookup]

/-- Says that two updates, one after the other, answer and leave the same as one with the patches of
both. -/
def UpdatesInParts (store : Store) (first later : List ItemUpdate) : Prop :=
  ∃ infos middle reported after, store.run (.updateItems first) = (.ok infos, middle) ∧
    middle.run (.updateItems later) = (.ok reported, after) ∧
    store.run (.updateItems (first ++ later)) = (.ok (infos ++ reported), after)

/-- With a clock that stands still, a series of patches can be made in two parts. -/
theorem updatesInParts (havailable : store.available = .ok ())
    (hclock : store.clock = .fixed now)
    (hnamed : ∀ update ∈ first ++ later,
      ∃ object, store.buckets.object? update.resourceId = some object) :
    store.UpdatesInParts first later := by
  have hstill : ∀ other : Store, other.clock = .fixed now →
      other.clock.now = .time now ∧ { other with clock := other.clock.tick } = other := by
    rintro ⟨buckets, clock, poisoned, closed⟩ rfl
    exact ⟨rfl, rfl⟩
  obtain ⟨hnow, hsame⟩ := hstill store hclock
  obtain ⟨infos, middle, hfirst, hpatch⟩ := run_updateItems havailable hnow
    fun update hupdate => hnamed update (List.mem_append_left _ hupdate)
  have hrevises := patchItems_revises hpatch
  have hmiddle : middle.available = .ok () ∧ middle.clock = .fixed now := by
    rw [hrevises.rest]
    exact ⟨havailable, by rw [hsame, hclock]⟩
  obtain ⟨hnow', hsame'⟩ := hstill middle hmiddle.2
  have hnamed' : ∀ update ∈ later, ∃ object,
      middle.buckets.object? update.resourceId = some object := by
    intro update hupdate
    obtain ⟨object, hobject⟩ := hnamed update (List.mem_append_right _ hupdate)
    obtain ⟨revised, hrevised, -⟩ := hrevises.object hobject
    exact ⟨revised, hrevised⟩
  obtain ⟨reported, after, hlater, hpatch'⟩ := run_updateItems hmiddle.1 hnow' hnamed'
  obtain ⟨all, last, hall, hpatchAll⟩ := run_updateItems havailable hnow hnamed
  rw [hsame'] at hpatch'
  rw [patchItems_append hpatch hpatch'] at hpatchAll
  cases hpatchAll
  exact ⟨infos, middle, reported, after, hfirst, hlater, hall⟩

/-- Says that an update succeeds and leaves every object of a store with the metadata that it has in
another one. -/
def LeavesMetadataOf (store : Store) (updates : List ItemUpdate) (after : Store) : Prop :=
  ∃ infos last, store.run (.updateItems updates) = (.ok infos, last) ∧
    ∀ {id original}, store.buckets.object? id = some original →
      ∃ revised merged, after.buckets.object? id = some revised ∧
        last.buckets.object? id = some merged ∧ merged.info.metadata = revised.info.metadata

/-- Patches of one object among others can be merged into one. -/
theorem leavesMetadataOf_condense {earlier block : List ItemUpdate} {id : ResourceId}
    (havailable : store.available = .ok ()) (hnow : store.clock.now = .time now)
    (hnamed : ∀ update ∈ earlier ++ block ++ later,
      ∃ object, store.buckets.object? update.resourceId = some object)
    (hid : ∃ update ∈ block, update.resourceId = id)
    (hrevises : Revises (earlier ++ block ++ later) now { store with clock := store.clock.tick }
      after) :
    store.LeavesMetadataOf (earlier ++ ItemUpdate.condense id block ++ later) after := by
  have hblock : ∀ update ∈ ItemUpdate.condense id block, ∃ other ∈ block,
      update.resourceId = other.resourceId := by
    intro update hupdate
    rcases List.mem_append.1 hupdate with hother | hmerged
    · exact ⟨update, (List.mem_filter.1 hother).1, rfl⟩
    · obtain rfl := List.mem_singleton.1 hmerged
      obtain ⟨own, hown, hsame⟩ := hid
      exact ⟨own, hown, hsame.symm⟩
  have hcondensed : ∀ update ∈ earlier ++ ItemUpdate.condense id block ++ later,
      ∃ object, store.buckets.object? update.resourceId = some object := by
    intro update hupdate
    simp only [List.mem_append, or_assoc] at hupdate hnamed
    rcases hupdate with hearlier | hmiddle | hlater
    · exact hnamed update (.inl hearlier)
    · obtain ⟨other, hother, hsame⟩ := hblock update hmiddle
      exact hsame ▸ hnamed other (.inr (.inl hother))
    · exact hnamed update (.inr (.inr hlater))
  obtain ⟨reported, last, hrun, hpatch⟩ := run_updateItems havailable hnow hcondensed
  refine ⟨reported, last, hrun, fun {other original} horiginal => ?_⟩
  refine hrevises.metadata_eq (patchItems_revises hpatch) ?_ horiginal
  intro about key
  simp only [ItemUpdate.changesOf_append, List.getLast?_append,
    ItemUpdate.getLast?_changesOf_condense]

/-- An open store makes patches of objects that are all there in order, at the time that its clock
shows, unless its lock is poisoned or the clock panics. With a clock that stands still they can be
made in two parts, and the patches of one object that stand among them can be merged into one in
which the later ones win. -/
theorem updates_in_order (hopen : store.closed = false)
    (hnamed : ∀ update ∈ updates, ∃ object, store.buckets.object? update.resourceId = some object) :
    (store.poisoned = true →
      store.run (.updateItems updates) = (.failed StorageError.lockPoisoned, store)) ∧
    (store.poisoned = false → store.clock.now = .panic →
      store.run (.updateItems updates) =
        (.panicked .clock, { store with clock := store.clock.tick, poisoned := true })) ∧
    (store.poisoned = false → ∀ now, store.clock.now = .time now →
      ∃ infos after, store.UpdatesInOrder updates now infos after ∧
        (∀ first later, updates = first ++ later → store.clock = .fixed now →
          store.UpdatesInParts first later) ∧
        ∀ earlier block later id, updates = earlier ++ block ++ later →
          (∃ update ∈ block, update.resourceId = id) →
          store.LeavesMetadataOf (earlier ++ ItemUpdate.condense id block ++ later) after) := by
  refine ⟨fun hpoisoned => ?_, fun hsound hpanic => ?_, fun hsound now hnow => ?_⟩
  · exact run_of_refused rfl rfl (available_of_poisoned hopen hpoisoned)
  · have havailable : store.available = .ok () := available_eq_ok.2 ⟨hopen, hsound⟩
    have hchange : store.updateItems updates =
        (.panicked .clock, { store with clock := store.clock.tick }) := by
      rw [updateItems, Buckets.forM_requireObject (u := ()) |>.2 hnamed]
      simp only [stamp, hpanic]
    rw [run, write, havailable]
    simp only [hchange]
    rfl
  · have havailable : store.available = .ok () := available_eq_ok.2 ⟨hopen, hsound⟩
    obtain ⟨infos, after, hupdates⟩ := updatesInOrder havailable hnow hnamed
    refine ⟨infos, after, hupdates, ?_, ?_⟩
    · rintro first later rfl hclock
      exact updatesInParts havailable hclock hnamed
    · rintro earlier block later id rfl hid
      exact leavesMetadataOf_condense havailable hnow hnamed hid hupdates.revises

/-- A key that is set and removed again, with a patch of another object in between. -/
def patchAndRevoke : List ItemUpdate :=
  let patch : MetadataPatch := ∅
  [⟨.object "media" "a", (patch.insert "k" (some [1])).insert "l" (some [2])⟩,
    ⟨.object "media" "b", patch⟩, ⟨.object "media" "a", patch.insert "k" none⟩]

/-- A key is set and removed again in one update, whose first and last patch can be merged. -/
theorem revoked_patch_in_order :
    let store := (((empty (.fixed .epoch)).run (.createBucket "media" {})).2.run
      (.createEmptyObjects [.object "media" "a", .object "media" "b"] {})).2
    store.closed = false ∧
    (∀ update ∈ patchAndRevoke,
      ∃ object, store.buckets.object? update.resourceId = some object) ∧
    ∃ infos after, store.UpdatesInOrder patchAndRevoke .epoch infos after ∧
      store.UpdatesInParts (patchAndRevoke.take 1) (patchAndRevoke.drop 1) ∧
      store.LeavesMetadataOf (ItemUpdate.condense (.object "media" "a") patchAndRevoke) after := by
  intro store
  have hopen : store.closed = false := by decide +kernel
  have hsound : store.poisoned = false := by decide +kernel
  have hfound : ∀ update ∈ patchAndRevoke,
      (store.buckets.object? update.resourceId).isSome = true := by decide +kernel
  have hnamed : ∀ update ∈ patchAndRevoke,
      ∃ object, store.buckets.object? update.resourceId = some object :=
    fun update hupdate => Option.isSome_iff_exists.1 (hfound update hupdate)
  obtain ⟨infos, after, hupdates, hparts, hmerged⟩ :=
    (updates_in_order hopen hnamed).2.2 hsound .epoch rfl
  refine ⟨hopen, hnamed, infos, after, hupdates,
    hparts _ _ (List.take_append_drop 1 _).symm rfl, ?_⟩
  have hcondensed := hmerged [] patchAndRevoke [] (.object "media" "a") rfl
    ⟨_, List.mem_cons_self, rfl⟩
  rwa [List.nil_append, List.append_nil] at hcondensed

/-- An open store does not update objects that are there once its clock has panicked under the
lock. -/
theorem poisoned_update_refused :
    let clock : Clock := fun n => if n = 2 then .panic else .time .epoch
    let store := ((((empty clock).run (.createBucket "media" {})).2.run
      (.writeObject (.object "media" "a") [1] {})).2.run (.createBucket "archive" {})).2
    let patch : MetadataPatch := ∅
    let updates : List ItemUpdate := [⟨.object "media" "a", patch.insert "k" (some [1])⟩]
    Reachable clock store ∧ store.closed = false ∧
    (∀ update ∈ updates, ∃ object, store.buckets.object? update.resourceId = some object) ∧
      ¬ ∃ now infos after, store.UpdatesInOrder updates now infos after := by
  intro clock store patch updates
  have hopen : store.closed = false := by decide +kernel
  have hpoisoned : store.poisoned = true := by decide +kernel
  have hfound : ∀ update ∈ updates, (store.buckets.object? update.resourceId).isSome = true := by
    decide +kernel
  refine ⟨.run _ (.run _ (.run _ .empty)), hopen,
    fun update hupdate => Option.isSome_iff_exists.1 (hfound update hupdate), ?_⟩
  rintro ⟨now, infos, after, hupdates⟩
  have hrun := hupdates.run
  rw [run_of_refused rfl rfl (available_of_poisoned hopen hpoisoned)] at hrun
  cases hrun

end Store

end ObjectStorage
