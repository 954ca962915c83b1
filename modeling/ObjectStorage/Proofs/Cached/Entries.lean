import ObjectStorage.Cached
import ObjectStorage.Proofs.LastInfo

/-!
# What the entries of a cache stem from

Entries can be lost at every access, so the lemmas say where an entry that is
there comes from. `ItemCache.entries_settle` puts them together: after an
operation, an entry is the last info about its id in the answer, or an older
entry that the answer says nothing about and that the operation does not drop.
The lemmas about probes say that what is found is an entry, and that what is not
found is gone.
-/

namespace ObjectStorage

/-- Says that an operation makes a cache forget an id once it was carried out. -/
def Operation.Drops {α : Type} (operation : Operation α) (id : ResourceId) : Prop :=
  match operation with
  | .copy _ _ targetBucket targets => ∃ name ∈ targets, id = .object targetBucket name
  | .deleteBuckets bucketNames => ∃ name ∈ bucketNames, id.belongsTo name = true
  | .deleteObjects ids => id ∈ ids
  | .close => True
  | _ => False

namespace ItemCache

variable {cache other : ItemCache} {id place : ResourceId} {info found : ItemInfo}

/-- Says that all entries of a cache are entries of another one. -/
def Within (cache other : ItemCache) : Prop :=
  ∀ ⦃id : ResourceId⦄ ⦃info : ItemInfo⦄, cache.entries[id]? = some info →
    other.entries[id]? = some info

/-- A cache is within itself. -/
theorem Within.refl (cache : ItemCache) : cache.Within cache := fun _ _ h => h

/-- A cache within a cache that is within another one. -/
theorem Within.trans {last : ItemCache} (h : cache.Within other) (hlast : other.Within last) :
    cache.Within last := fun _ _ hentry => hlast (h hentry)

/-- What is missing in a cache is missing in every cache within it. -/
theorem Within.eq_none (h : cache.Within other) (hnone : other.entries[id]? = none) :
    cache.entries[id]? = none := by
  cases hentry : cache.entries[id]? with
  | none => rfl
  | some info => rw [← hnone, h hentry]

/-- Erasing ids one after another erases them and no others. -/
theorem getElem?_foldl_erase (ids : List ResourceId)
    (entries : Std.ExtTreeMap ResourceId ItemInfo) :
    (ids.foldl (·.erase ·) entries)[id]? = if id ∈ ids then none else entries[id]? := by
  induction ids generalizing entries with
  | nil => rfl
  | cons first rest ih =>
    rw [List.foldl_cons, ih, Std.ExtTreeMap.getElem?_erase]
    by_cases hfirst : first = id
    · simp [hfirst]
    · simp [hfirst, Ne.symm hfirst]

/-- Erasing ids loses entries only. -/
theorem foldl_erase {ids : List ResourceId} {entries : Std.ExtTreeMap ResourceId ItemInfo}
    (h : (ids.foldl (·.erase ·) entries)[id]? = some info) :
    id ∉ ids ∧ entries[id]? = some info := by
  rw [getElem?_foldl_erase] at h
  split at h
  · cases h
  · next hkeep => exact ⟨hkeep, h⟩

/-- Ageing loses entries only. -/
theorem elapse_within : cache.elapse.Within cache := fun _ _ h => (foldl_erase h).2

/-- Nothing is remembered after everything was forgotten. -/
theorem entries_invalidateAll : cache.invalidateAll.entries[id]? = none := by
  simp [invalidateAll]

/-- After a put, what is remembered under the id is the info that was put. -/
theorem entries_put (h : (cache.put place info).entries[id]? = some found) :
    id = place ∧ found = info ∨ id ≠ place ∧ cache.entries[id]? = some found := by
  unfold put at h
  dsimp only at h
  split at h
  · rw [Std.ExtTreeMap.getElem?_insert] at h
    split at h
    · next hsame => exact .inl ⟨(by simpa using hsame : place = id).symm, (Option.some.inj h).symm⟩
    · next hne => exact .inr ⟨Ne.symm (by simpa using hne), elapse_within h⟩
  · rw [Std.ExtTreeMap.getElem?_erase] at h
    split at h
    · cases h
    · next hne => exact .inr ⟨Ne.symm (by simpa using hne), elapse_within h⟩

/-- After infos were reported, an entry is the last one about its id that is remembered, or an older
entry about which nothing was reported. -/
theorem entries_populate {infos : List ItemInfo}
    (h : (cache.populate infos).entries[id]? = some found) :
    ItemInfo.lastKept infos id = some found ∨
      ItemInfo.lastKept infos id = none ∧ cache.entries[id]? = some found := by
  induction infos generalizing cache with
  | nil => exact .inr ⟨rfl, h⟩
  | cons first rest ih =>
    rw [ItemInfo.lastKept_cons]
    rcases ih h with hrest | ⟨hrest, hentry⟩
    · exact .inl (by rw [hrest, Option.some_or])
    · rw [hrest, Option.none_or]
      dsimp only at hentry
      by_cases hkept : first.isKept = true
      · rw [if_pos (by simpa [ItemInfo.isKept] using hkept)] at hentry
        rcases entries_put hentry with ⟨rfl, rfl⟩ | ⟨hne, hentry⟩
        · exact .inl (if_pos ⟨hkept, rfl⟩)
        · exact .inr ⟨if_neg fun hsame => hne hsame.2.symm, hentry⟩
      · rw [if_neg (by simpa [ItemInfo.isKept] using hkept)] at hentry
        exact .inr ⟨if_neg fun hsame => hkept hsame.1, hentry⟩

/-- Forgetting ids one after another erases them and no others. -/
theorem getElem?_foldl_invalidate {α : Type} (names : List α) (toId : α → ResourceId) :
    (names.foldl (fun cache name => cache.invalidate (toId name)) cache).entries[id]? =
      if id ∈ names.map toId then none else cache.entries[id]? := by
  induction names generalizing cache with
  | nil => rfl
  | cons first rest ih =>
    rw [List.foldl_cons, ih, invalidate, Std.ExtTreeMap.getElem?_erase, List.map_cons]
    by_cases hfirst : toId first = id
    · simp [hfirst]
    · simp [hfirst, Ne.symm hfirst]

/-- Forgetting a bucket erases what belongs to it and no more. -/
theorem getElem?_invalidateBucket {bucketName : String} :
    (cache.invalidateBucket bucketName).entries[id]? =
      if id.belongsTo bucketName = true then none else cache.entries[id]? := by
  rw [invalidateBucket, Std.ExtTreeMap.getElem?_filter']
  cases id.belongsTo bucketName <;> cases cache.entries[id]? <;> rfl

/-- Forgetting buckets one after another erases what belongs to one of them and no more. -/
theorem getElem?_foldl_invalidateBucket (bucketNames : List String) :
    (bucketNames.foldl (fun cache name => cache.invalidateBucket name) cache).entries[id]? =
      if ∃ name ∈ bucketNames, id.belongsTo name = true then none else cache.entries[id]? := by
  induction bucketNames generalizing cache with
  | nil => simp
  | cons first rest ih =>
    rw [List.foldl_cons, ih, getElem?_invalidateBucket]
    by_cases hfirst : id.belongsTo first = true <;> simp [hfirst]

/-- After an operation was carried out, an entry is the last one about its id that is remembered of
the answer, or an older entry about which the answer says nothing and which is not dropped. -/
theorem entries_settle {α : Type} {operation : Operation α} {answer : α}
    (h : (cache.settle operation answer).entries[id]? = some info) :
    ItemInfo.lastKept (operation.reported answer) id = some info ∨
      ItemInfo.lastKept (operation.reported answer) id = none ∧ ¬ operation.Drops id ∧
        cache.entries[id]? = some info := by
  cases operation <;> simp only [settle] at h
  case copy sourceBucket sources targetBucket targets =>
    rw [getElem?_foldl_invalidate] at h
    split at h
    · cases h
    · next hkeep =>
      refine .inr ⟨rfl, ?_, h⟩
      rintro ⟨name, hname, rfl⟩
      exact hkeep (List.mem_map_of_mem hname)
  case deleteBuckets bucketNames =>
    rw [getElem?_foldl_invalidateBucket] at h
    split at h
    · cases h
    · next hkeep => exact .inr ⟨rfl, hkeep, h⟩
  case deleteObjects ids =>
    rw [getElem?_foldl_invalidate ids fun id => id, List.map_id'] at h
    split at h
    · cases h
    · next hkeep => exact .inr ⟨rfl, hkeep, h⟩
  case close =>
    rw [entries_invalidateAll] at h
    cases h
  all_goals
    rcases entries_populate h with hlast | ⟨hnone, hentry⟩
    · exact .inl hlast
    · exact .inr ⟨hnone, not_false, hentry⟩

/-- What a probe finds is an entry. -/
theorem probe_eq_some (h : (cache.probe id).1 = some info) : cache.entries[id]? = some info := by
  unfold probe at h
  dsimp only at h
  split at h
  · next hentry => exact elapse_within (hentry.trans h)
  · cases h

/-- What a probe does not find is not there afterwards. -/
theorem probe_eq_none (h : (cache.probe id).1 = none) :
    (cache.probe id).2.entries[id]? = none := by
  unfold probe at h ⊢
  dsimp only at h ⊢
  split at h
  · cases h
  · next hentry =>
    simp only [hentry]

/-- A probe loses entries only. -/
theorem probe_within : (cache.probe id).2.Within cache := by
  unfold probe
  dsimp only
  split <;> exact elapse_within

/-- Probes lose entries only. -/
theorem probeAll_within {ids : List ResourceId} : (probeAll ids cache).2.Within cache := by
  induction ids generalizing cache with
  | nil => exact .refl cache
  | cons first rest ih => exact ih.trans probe_within

/-- There is one finding for each id that is probed. -/
theorem length_probeAll {ids : List ResourceId} : (probeAll ids cache).1.length = ids.length := by
  induction ids generalizing cache with
  | nil => rfl
  | cons first rest ih => exact congrArg (· + 1) ih

/-- What probes find are entries. -/
theorem probeAll_eq_some {ids : List ResourceId}
    (h : (id, some info) ∈ ids.zip (probeAll ids cache).1) : cache.entries[id]? = some info := by
  induction ids generalizing cache with
  | nil => cases h
  | cons first rest ih =>
    rw [probeAll, List.zip_cons_cons, List.mem_cons] at h
    rcases h with hfirst | hrest
    · obtain ⟨rfl, hinfo⟩ := Prod.mk.inj hfirst
      exact probe_eq_some hinfo.symm
    · exact probe_within (ih hrest)

/-- What one of several probes does not find, a later one for the same id does not find either. -/
theorem probeAll_pairwise {ids : List ResourceId} :
    (ids.zip (probeAll ids cache).1).Pairwise fun earlier later =>
      earlier.1 = later.1 → earlier.2 = none → later.2 = none := by
  induction ids generalizing cache with
  | nil => exact .nil
  | cons first rest ih =>
    rw [probeAll, List.zip_cons_cons]
    refine .cons ?_ ih
    rintro ⟨later, slot⟩ hlater (rfl : first = later) hmissed
    cases slot with
    | none => rfl
    | some info =>
      -- A later probe finds only what the first one has left.
      have hentry := probeAll_eq_some hlater
      rw [probe_eq_none hmissed] at hentry
      cases hentry

/-- What one of several probes does not find is not there afterwards. -/
theorem probeAll_eq_none {ids : List ResourceId}
    (h : (id, none) ∈ ids.zip (probeAll ids cache).1) :
    (probeAll ids cache).2.entries[id]? = none := by
  induction ids generalizing cache with
  | nil => cases h
  | cons first rest ih =>
    rw [probeAll, List.zip_cons_cons, List.mem_cons] at h
    rcases h with hfirst | hrest
    · obtain ⟨rfl, hmissed⟩ := Prod.mk.inj hfirst
      have hlater : (probeAll rest (cache.probe id).2).2.Within (cache.probe id).2 :=
        probeAll_within
      exact hlater.eq_none (probe_eq_none hmissed.symm)
    · exact ih hrest

end ItemCache

end ObjectStorage
