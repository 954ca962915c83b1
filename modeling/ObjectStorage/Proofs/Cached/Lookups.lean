import ObjectStorage.Proofs.Cached.Effect

/-!
# Lookups of several ids and of one

`Cached.lookUpEach` looks ids up one after another, where `Cached.getItemInfos` probes all
of them before it asks for any. `Cached.reply` and `Cached.recalled` say what either
way answers and remembers; for the single lookups this is kept from one to the
next. `Cached.lookups_agree` concludes that the two ways differ neither in their
answer nor in what they leave, as long as the cache loses nothing.
-/

namespace ObjectStorage

/-- What is remembered of lookups of some ids about each of them. -/
theorem Buckets.WellFormed.lastKept_lookups {buckets : Buckets} (h : buckets.WellFormed)
    (ids : List ResourceId) (id : ResourceId) :
    ItemInfo.lastKept (ids.map buckets.lookup) id =
      if id ∈ ids ∧ (buckets.lookup id).isKept = true then some (buckets.lookup id) else none := by
  induction ids with
  | nil => simp
  | cons first rest ih =>
    rw [List.map_cons, ItemInfo.lastKept_cons, ih, h.lookup_resourceId]
    by_cases hfirst : first = id
    · subst hfirst
      by_cases hlater : first ∈ rest <;> simp [hlater]
    · simp [hfirst, Ne.symm hfirst]

/-- A cache with the same entries has the same room, and room for fewer. -/
theorem ItemCache.HasRoomFor.of_eq {cache other : ItemCache} {count fewer : Nat}
    (h : cache.HasRoomFor count) (hentries : other.entries = cache.entries)
    (hpolicy : other.policy = cache.policy) (hfewer : fewer ≤ count) : other.HasRoomFor fewer := by
  intro size hsize
  rw [hentries] at hsize
  rw [hpolicy]
  exact h size (by omega)

/-- A lossless cache with room stays so when one info is reported to it. -/
theorem ItemCache.Lossless.populate_singleton {cache : ItemCache} {count : Nat} (h : cache.Lossless)
    (hroom : cache.HasRoomFor (count + 1)) (info : ItemInfo) :
    (cache.populate [info]).Lossless ∧ (cache.populate [info]).HasRoomFor count := by
  have hpopulate : cache.populate [info] =
      if info.isKept = true then cache.put info.resourceId info else cache := rfl
  rw [hpopulate]
  split
  · rw [h.put_eq hroom]
    refine ⟨⟨h.losses, h.retains⟩, fun size hsize => hroom size ?_⟩
    have hgrow : (cache.entries.insert info.resourceId info).size ≤ cache.entries.size + 1 :=
      Std.ExtTreeMap.size_insert_le
    dsimp only at hsize
    omega
  · exact ⟨h, hroom.of_eq rfl rfl (Nat.le_succ count)⟩

namespace Cached

variable {σ : Type}

/-- Looks ids up one after another, until a lookup fails. -/
def lookUpEach (delegate : Backend σ) :
    List ResourceId → Cached σ → Outcome (List ItemInfo) × Cached σ
  | [], state => (.ok [], state)
  | id :: rest, state =>
    match state.run delegate (.getItemInfo id) with
    | (.ok info, after) =>
      let others := lookUpEach delegate rest after
      (others.1.map (info :: ·), others.2)
    | (.error failure, after) => (.error failure, after)

variable {state after : Cached Store} {ids rest : List ResourceId} {id : ResourceId}
  {result : Outcome (List ItemInfo) × Cached Store}

/-- What a lookup is answered: what is remembered, or else what the store reports. -/
def reply (state : Cached Store) (id : ResourceId) : ItemInfo :=
  state.cache.entries[id]?.getD (state.delegate.buckets.lookup id)

/-- What is remembered about an id when some ids have been looked up: an entry stays as it is, and
what the store has is added. -/
def recalled (state : Cached Store) (ids : List ResourceId) (id : ResourceId) : Option ItemInfo :=
  let info := state.delegate.buckets.lookup id
  state.cache.entries[id]?.or (if id ∈ ids ∧ info.isKept = true then some info else none)

/-- Says that a cache remembers all of some ids. -/
def Knows (state : Cached Store) (ids : List ResourceId) : Prop :=
  ∀ id ∈ ids, id ∈ state.cache.entries

/-- Says that lookups of some ids can be answered: the store is available, or all ids are known. -/
def Ready (state : Cached Store) (ids : List ResourceId) : Prop :=
  state.delegate.available = .ok () ∨ state.Knows ids

/-- When the store is not available, lookups can be answered only if all ids are known. -/
theorem ready_iff_knows {cause : Error} (h : state.delegate.available = .error cause) :
    state.Ready ids ↔ state.Knows ids := by
  rw [Ready, h]
  simp

/-- What lookups of some ids can come to: they are answered when they can be, and otherwise they
are refused with the lock, and nothing new is remembered. -/
inductive Resolves (state : Cached Store) (ids : List ResourceId) :
    Outcome (List ItemInfo) × Cached Store → Prop where
  | answered {cache : ItemCache}
      (hready : state.Ready ids)
      (hentries : ∀ id, cache.entries[id]? = state.recalled ids id) :
      Resolves state ids (.ok (ids.map state.reply), ⟨cache, state.delegate⟩)
  | refused {cache : ItemCache} {cause : Error}
      (havailable : state.delegate.available = .error cause) (hunready : ¬ state.Ready ids)
      (hentries : cache.entries = state.cache.entries) :
      Resolves state ids (.failed cause, ⟨cache, state.delegate⟩)

/-- Lookups come to one answer, and to one content of the cache. -/
theorem Resolves.agree {other : Outcome (List ItemInfo) × Cached Store}
    (h : Resolves state ids result) (hother : Resolves state ids other) :
    result.1 = other.1 ∧ result.2.cache.entries = other.2.cache.entries := by
  cases h with
  | answered hready hentries =>
    cases hother with
    | answered _ hentries' =>
      exact ⟨rfl, Std.ExtTreeMap.ext_getElem? fun id => (hentries id).trans (hentries' id).symm⟩
    | refused _ hunready => exact (hunready hready).elim
  | refused havailable hunready hentries =>
    cases hother with
    | answered hready => exact (hunready hready).elim
    | refused havailable' _ hentries' =>
      obtain rfl := Except.error.inj (havailable.symm.trans havailable')
      exact ⟨rfl, hentries.trans hentries'.symm⟩

/-- Lookups leave the store as it is. -/
theorem Resolves.delegate_eq (h : Resolves state ids result) :
    result.2.delegate = state.delegate := by
  cases h <;> rfl

/-- Lookups are answered when the store is available. -/
theorem Resolves.fst_eq (h : Resolves state ids result)
    (havailable : state.delegate.available = .ok ()) : result.1 = .ok (ids.map state.reply) := by
  cases h with
  | answered => rfl
  | refused _ hunready => exact (hunready (.inl havailable)).elim

/-- Nothing is added to what is remembered when all ids are known. -/
theorem recalled_of_knows (h : state.Knows ids) :
    state.recalled ids id = state.cache.entries[id]? := by
  unfold recalled
  dsimp only
  by_cases hid : id ∈ ids
  · rw [Std.ExtTreeMap.getElem?_eq_some_getElem (h id hid), Option.some_or]
  · simp [hid]

/-- The entries stay as they are when all ids are known. -/
theorem entries_eq_of_knows (h : state.Knows ids)
    (hentries : ∀ id, after.cache.entries[id]? = state.recalled ids id) :
    after.cache.entries = state.cache.entries :=
  Std.ExtTreeMap.ext_getElem? fun id => (hentries id).trans (recalled_of_knows h)

/-- Nothing is missing when all ids are known. -/
theorem missing_eq_nil :
    missing (ids.zip (ids.map (state.cache.entries[·]?))) = [] ↔ state.Knows ids := by
  rw [missing_zip, List.filter_eq_nil_iff]
  simp [Knows]

/-- What a cache with the old entries remembers, once what the store reports about the missing ids
has been reported to it, is what is recalled. -/
theorem entries_populate_missing {cache : ItemCache} (hwf : state.delegate.buckets.WellFormed)
    (hlossless : cache.Lossless) (hroom : cache.HasRoomFor ids.length)
    (hentries : cache.entries = state.cache.entries) (id : ResourceId) :
    (cache.populate ((missing (ids.zip (ids.map (state.cache.entries[·]?)))).map
      state.delegate.buckets.lookup)).entries[id]? = state.recalled ids id := by
  rw [missing_zip]
  have hfewer : ((ids.filter fun id => !state.cache.entries.contains id).map
      state.delegate.buckets.lookup).length ≤ ids.length := by
    rw [List.length_map]
    exact List.length_filter_le _ _
  have hmem : id ∈ (ids.filter fun id => !state.cache.entries.contains id) ↔
      id ∈ ids ∧ state.cache.entries[id]? = none := by
    rw [List.mem_filter, Std.ExtTreeMap.contains_eq_isSome_getElem?, Bool.not_eq_true',
      Option.isSome_eq_false_iff, Option.isNone_iff_eq_none]
  rw [hlossless.entries_populate (hroom.of_eq rfl rfl hfewer), hwf.lastKept_lookups, hentries,
    recalled]
  cases hentry : state.cache.entries[id]? <;> simp [hmem, hentry]

/-- A lookup of several ids at once resolves them. -/
theorem getItemInfos_resolves (hwf : state.delegate.buckets.WellFormed)
    (hlossless : state.cache.Lossless) (hroom : state.cache.HasRoomFor ids.length) :
    Resolves state ids (state.run Store.backend (.getItemInfos ids)) := by
  obtain ⟨hfound, hentries, hpolicy, hlast⟩ := hlossless.probeAll_eq ids
  rw [run, getItemInfos_eq]
  dsimp only
  rw [hfound]
  have hreplies (f : ResourceId → ItemInfo) :
      ((ids.zip (ids.map (state.cache.entries[·]?))).map fun place => place.2.getD (f place.1)) =
        ids.map fun id => state.cache.entries[id]?.getD (f id) := by
    rw [← List.map_prod_left_eq_zip, List.map_map]
    rfl
  by_cases hnone : missing (ids.zip (ids.map (state.cache.entries[·]?))) = []
  · have hknows : state.Knows ids := missing_eq_nil.1 hnone
    rw [if_pos hnone, hits_map state.delegate.buckets.lookup hnone, hreplies]
    refine .answered (.inr hknows) fun id => ?_
    rw [recalled_of_knows hknows, hentries]
  · have hunknown : ¬ state.Knows ids := fun hknows => hnone (missing_eq_nil.2 hknows)
    have hask (unknown : List ResourceId) :
        Store.backend.run (.getItemInfos unknown) state.delegate =
          state.delegate.read fun buckets => .ok (unknown.map buckets.lookup) := rfl
    rw [if_neg hnone]
    cases havailable : state.delegate.available with
    | error cause =>
      rw [forward_error ((hask _).trans (Store.read_of_refused havailable _))]
      exact .refused havailable (mt (ready_iff_knows havailable).1 hunknown) hentries
    | ok _ =>
      rw [forward_ok ((hask _).trans (Store.read_of_available havailable _))]
      dsimp only
      rw [Except.map, alignInfos_map, fillMisses_map, hreplies]
      refine .answered (.inl havailable) fun id => ?_
      have hspace := hroom.of_eq hentries hpolicy (Nat.le_refl _)
      exact entries_populate_missing hwf hlast hspace hentries id

/-- Once an id has been looked up, further lookups are answered as before, and leave what is
recalled of all of them. -/
theorem recalled_cons {first : ResourceId} (rest : List ResourceId)
    (hdelegate : after.delegate = state.delegate)
    (hentries : ∀ id, after.cache.entries[id]? = state.recalled [first] id) :
    after.reply = state.reply ∧ after.recalled rest = state.recalled (first :: rest) := by
  constructor
  · funext id
    rw [reply, reply, hentries, recalled, hdelegate]
    cases state.cache.entries[id]? with
    | some info => rfl
    | none =>
      rw [Option.none_or]
      split <;> rfl
  · funext id
    rw [recalled, hentries, hdelegate, recalled, recalled, Option.or_assoc]
    congr 1
    by_cases hid : id = first <;> cases (state.delegate.buckets.lookup id).isKept <;> simp [hid]

/-- Lookups can be answered when they can be answered one after another. -/
theorem ready_cons {first : ResourceId} (rest : List ResourceId)
    (hdelegate : after.delegate = state.delegate)
    (hentries : ∀ id, after.cache.entries[id]? = state.recalled [first] id)
    (hfirst : state.Ready [first]) : state.Ready (first :: rest) ↔ after.Ready rest := by
  rcases hfirst with havailable | hknows
  · exact ⟨fun _ => .inl (hdelegate ▸ havailable), fun _ => .inl havailable⟩
  · rw [Ready, Ready, hdelegate, Knows, Knows, entries_eq_of_knows hknows hentries,
      List.forall_mem_cons, and_iff_right (hknows first (.head _))]

/-- Lookups one after another are resolved when the first one is answered and the others are
resolved behind it. -/
theorem Resolves.cons {first : ResourceId}
    (hrest : Resolves after rest (after.lookUpEach Store.backend rest))
    (hready : state.Ready [first]) (hdelegate : after.delegate = state.delegate)
    (hentries : ∀ id, after.cache.entries[id]? = state.recalled [first] id)
    (hrun : state.run Store.backend (.getItemInfo first) = (.ok (state.reply first), after)) :
    Resolves state (first :: rest) (state.lookUpEach Store.backend (first :: rest)) := by
  obtain ⟨hreply, hrecalled⟩ := recalled_cons rest hdelegate hentries
  have hboth := ready_cons rest hdelegate hentries hready
  rw [lookUpEach, hrun]
  dsimp only
  generalize after.lookUpEach Store.backend rest = result at hrest ⊢
  cases hrest with
  | answered hlater hlast =>
    rw [hreply, hdelegate]
    exact .answered (hboth.2 hlater) fun id => by rw [hlast, hrecalled]
  | refused havailable hunready hlast =>
    rw [hdelegate] at havailable ⊢
    have hknows := (ready_iff_knows havailable).1 hready
    exact .refused havailable (mt hboth.1 hunready)
      (hlast.trans (entries_eq_of_knows hknows hentries))

/-- One id is known when there is an entry for it. -/
theorem knows_singleton : state.Knows [id] ↔ state.cache.entries[id]? ≠ none := by
  simp [Knows]

/-- A lookup of one id through a cache that loses nothing is answered with the entry that there is,
and is else passed on. -/
theorem run_getItemInfo (hlossless : state.cache.Lossless) (id : ResourceId) :
    ∃ cache : ItemCache, cache.entries = state.cache.entries ∧
      cache.policy = state.cache.policy ∧ cache.Lossless ∧
      state.run Store.backend (.getItemInfo id) =
        match state.cache.entries[id]? with
        | some info => (.ok info, ⟨cache, state.delegate⟩)
        | none => forward Store.backend (.getItemInfo id) ⟨cache, state.delegate⟩ := by
  obtain ⟨hfound, hentries, hpolicy, hlast⟩ := hlossless.probe_eq id
  refine ⟨_, hentries, hpolicy, hlast, ?_⟩
  rw [← hfound, run, getItemInfo]
  generalize state.cache.probe id = probed
  obtain ⟨slot | info, cache⟩ := probed <;> rfl

/-- A lookup of one id is answered with what is remembered or with what the store reports, or it is
refused with the lock, and then nothing new is remembered. -/
theorem getItemInfo_resolves {count : Nat} (hwf : state.delegate.buckets.WellFormed)
    (hlossless : state.cache.Lossless) (hroom : state.cache.HasRoomFor (count + 1))
    (id : ResourceId) :
    (∃ cache : ItemCache, cache.Lossless ∧ cache.HasRoomFor count ∧ state.Ready [id] ∧
        (∀ other, cache.entries[other]? = state.recalled [id] other) ∧
        state.run Store.backend (.getItemInfo id) =
          (.ok (state.reply id), ⟨cache, state.delegate⟩)) ∨
      ∃ cache cause, state.delegate.available = .error cause ∧ ¬ state.Ready [id] ∧
        cache.entries = state.cache.entries ∧
        state.run Store.backend (.getItemInfo id) = (.failed cause, ⟨cache, state.delegate⟩) := by
  obtain ⟨cache, hentries, hpolicy, hlast, hrun⟩ := run_getItemInfo hlossless id
  have hspace : cache.HasRoomFor (count + 1) := hroom.of_eq hentries hpolicy (Nat.le_refl _)
  cases hentry : state.cache.entries[id]? with
  | some info =>
    have hknows : state.Knows [id] := knows_singleton.2 (by simp [hentry])
    rw [hentry] at hrun
    refine .inl ⟨cache, hlast, hspace.of_eq rfl rfl (Nat.le_succ count), .inr hknows, ?_, ?_⟩
    · exact fun other => by rw [recalled_of_knows hknows, hentries]
    · rw [hrun, reply, hentry, Option.getD_some]
  | none =>
    have hunknown : ¬ state.Knows [id] := fun hknows => knows_singleton.1 hknows hentry
    have hask : Store.backend.run (.getItemInfo id) state.delegate =
        state.delegate.read fun buckets => .ok (buckets.lookup id) := rfl
    rw [hentry] at hrun
    cases havailable : state.delegate.available with
    | error cause =>
      exact .inr ⟨cache, cause, rfl, mt (ready_iff_knows havailable).1 hunknown, hentries,
        hrun.trans (forward_error (hask.trans (Store.read_of_refused havailable _)))⟩
    | ok _ =>
      obtain ⟨hlossless, hroom⟩ :=
        hlast.populate_singleton hspace (state.delegate.buckets.lookup id)
      refine .inl ⟨_, hlossless, hroom, .inl havailable, fun other => ?_, ?_⟩
      · have hmissing : missing ([id].zip ([id].map (state.cache.entries[·]?))) = [id] := by
          simp [missing, hentry]
        have hone : cache.HasRoomFor [id].length :=
          hspace.of_eq rfl rfl (Nat.succ_le_succ (Nat.zero_le count))
        have hrecalled := entries_populate_missing hwf hlast hone hentries other
        rw [hmissing] at hrecalled
        exact hrecalled
      · rw [hrun, reply, hentry, Option.getD_none]
        exact forward_ok (hask.trans (Store.read_of_available havailable _))

/-- Lookups of ids one after another resolve them. -/
theorem lookUpEach_resolves (hwf : state.delegate.buckets.WellFormed)
    (hlossless : state.cache.Lossless) (hroom : state.cache.HasRoomFor ids.length) :
    Resolves state ids (state.lookUpEach Store.backend ids) := by
  induction ids generalizing state with
  | nil =>
    have hknows : state.Knows [] := by simp [Knows]
    exact .answered (.inr hknows) fun id => (recalled_of_knows hknows).symm
  | cons first rest ih =>
    rcases getItemInfo_resolves hwf hlossless hroom first with
        ⟨cache, hlast, hspace, hready, hentries, hrun⟩ |
        ⟨cache, cause, havailable, hunready, hentries, hrun⟩
    · let next : Cached Store := ⟨cache, state.delegate⟩
      have hrest : Resolves next rest (next.lookUpEach Store.backend rest) := ih hwf hlast hspace
      exact hrest.cons hready rfl hentries hrun
    · rw [lookUpEach, hrun]
      refine .refused havailable (mt (fun hready => ?_) hunready) hentries
      exact hready.imp_right fun hknows id hid => hknows id (List.mem_singleton.1 hid ▸ .head _)

/-- A lookup of several ids at once through a cache that loses nothing, whatever it remembers, is
answered as lookups of these ids one after another, and leaves the same entries and the same store;
a store that is available answers all of them. -/
theorem lookups_agree {clock : Clock} (hreach : Store.Reachable clock state.delegate)
    (hlossless : state.cache.Lossless) (hroom : state.cache.HasRoomFor ids.length) :
    let batch := state.run Store.backend (.getItemInfos ids)
    let each := state.lookUpEach Store.backend ids
    batch.1 = each.1 ∧ batch.2.cache.entries = each.2.cache.entries ∧
      batch.2.delegate = state.delegate ∧ each.2.delegate = state.delegate ∧
      (state.delegate.available = .ok () → each.1 = .ok (ids.map state.reply)) := by
  intro batch each
  have hbatch : Resolves state ids batch :=
    getItemInfos_resolves hreach.wellFormed hlossless hroom
  have heach : Resolves state ids each := lookUpEach_resolves hreach.wellFormed hlossless hroom
  obtain ⟨hanswer, hentries⟩ := hbatch.agree heach
  exact ⟨hanswer, hentries, hbatch.delegate_eq, heach.delegate_eq, heach.fst_eq⟩

/-- An id that is looked up twice, one with an entry about something else, a bucket, a missing
object and the root: a lookup of them all leaves what single lookups leave. -/
theorem nested_lookups_agree :
    let stray : ResourceId := .object "media" "b"
    let state : Cached Store := ⟨{
      policy := .plain
      entries := (∅ : Std.ExtTreeMap ResourceId ItemInfo).insert stray (.inferredDirectory .root)
      }, Store.nested⟩
    let ids : List ResourceId :=
      [.object "media" "a/x", stray, .object "media" "a/x", .bucket "media",
        .object "media" "c", .root]
    Store.Reachable (.fixed .epoch) state.delegate ∧ state.cache.Lossless ∧
      state.cache.HasRoomFor ids.length ∧
      (state.run Store.backend (.getItemInfos ids)).1 = (state.lookUpEach Store.backend ids).1 ∧
      (state.run Store.backend (.getItemInfos ids)).2.cache.entries =
        (state.lookUpEach Store.backend ids).2.cache.entries ∧
      (state.lookUpEach Store.backend ids).2.cache.entries.size = 3 := by
  intro stray state ids
  have hlossless : state.cache.Lossless := ⟨rfl, rfl⟩
  have hroom : state.cache.HasRoomFor ids.length := fun _ _ => rfl
  obtain ⟨hanswer, hentries, -⟩ := lookups_agree Store.reachable_nested hlossless hroom
  exact ⟨Store.reachable_nested, hlossless, hroom, hanswer, hentries, by decide +kernel⟩

end Cached

end ObjectStorage
