import ObjectStorage.ItemInfo

/-!
# The last info about an id

An answer may hold several infos about one id. `ItemInfo.lastAbout` is the last of
them, and `ItemInfo.lastKept` the last one that a cache remembers: one that is
found and is not about the root.
-/

namespace ObjectStorage.ItemInfo

variable {infos : List ItemInfo} {info : ItemInfo} {id : ResourceId}

/-- The last info about an id. -/
def lastAbout (infos : List ItemInfo) (id : ResourceId) : Option ItemInfo :=
  infos.findRev? fun info => info.resourceId = id

/-- Says that an info is one that a cache remembers. -/
def isKept (info : ItemInfo) : Bool :=
  info.found && !info.resourceId.isRoot

/-- What a cache remembers is found. -/
theorem found_of_isKept (h : info.isKept = true) : info.found = true :=
  (Bool.and_eq_true _ _ ▸ h).1

/-- The last info about an id that a cache remembers. -/
def lastKept (infos : List ItemInfo) (id : ResourceId) : Option ItemInfo :=
  infos.findRev? fun info => info.isKept && info.resourceId = id

@[simp]
theorem lastAbout_nil : lastAbout [] id = none := rfl

/-- A later info about the same id comes first. -/
theorem lastAbout_cons :
    lastAbout (info :: infos) id =
      (lastAbout infos id).or (if info.resourceId = id then some info else none) := by
  simp only [lastAbout, List.findRev?]
  cases infos.findRev? fun info => decide (info.resourceId = id) <;> simp

/-- The last info about an id is one of the infos, and about the id. -/
theorem lastAbout_eq_some (h : lastAbout infos id = some info) :
    info ∈ infos ∧ info.resourceId = id := by
  rw [lastAbout, List.findRev?_eq_find?_reverse] at h
  exact ⟨List.mem_reverse.1 (List.mem_of_find?_eq_some h), by simpa using List.find?_some h⟩

/-- There is no last info about an id exactly when there is none at all. -/
theorem lastAbout_eq_none : lastAbout infos id = none ↔ ∀ info ∈ infos, info.resourceId ≠ id := by
  simp [lastAbout]

@[simp]
theorem lastKept_nil : lastKept [] id = none := rfl

/-- A later info about the same id comes first. -/
theorem lastKept_cons :
    lastKept (info :: infos) id = (lastKept infos id).or
      (if info.isKept = true ∧ info.resourceId = id then some info else none) := by
  simp only [lastKept, List.findRev?]
  cases infos.findRev? fun info => info.isKept && decide (info.resourceId = id) <;> simp

/-- The last info that is remembered about an id is one of the infos, found, and about the id, which
is not the root. -/
theorem lastKept_eq_some (h : lastKept infos id = some info) :
    info ∈ infos ∧ info.resourceId = id ∧ info.found = true ∧ id.isRoot = false := by
  rw [lastKept, List.findRev?_eq_find?_reverse] at h
  have hp := List.find?_some h
  simp only [isKept, Bool.and_eq_true, Bool.not_eq_true', decide_eq_true_eq] at hp
  obtain ⟨⟨hfound, hroot⟩, rfl⟩ := hp
  exact ⟨List.mem_reverse.1 (List.mem_of_find?_eq_some h), rfl, hfound, hroot⟩

/-- Nothing is remembered about an id exactly when all infos about it are refused. -/
theorem lastKept_eq_none :
    lastKept infos id = none ↔ ∀ info ∈ infos, info.resourceId = id → info.isKept = false := by
  simp only [lastKept, List.findRev?_eq_find?_reverse, List.find?_eq_none, List.mem_reverse]
  refine forall₂_congr ?_
  intro info _
  cases info.isKept <;> simp

/-- Where the infos about one id agree on whether it exists, what is remembered is the last info. -/
theorem lastAbout_of_lastKept
    (hagree : ∀ a ∈ infos, ∀ b ∈ infos, a.resourceId = b.resourceId → a.found = b.found)
    (h : lastKept infos id = some info) : lastAbout infos id = some info := by
  induction infos with
  | nil => simp at h
  | cons first rest ih =>
    rw [lastKept_cons] at h
    rw [lastAbout_cons]
    cases hrest : lastKept rest id with
    | some later =>
      rw [hrest, Option.some_or] at h
      obtain rfl := Option.some.inj h
      rw [ih (fun a ha b hb => hagree a (.tail _ ha) b (.tail _ hb)) hrest, Option.some_or]
    | none =>
      rw [hrest, Option.none_or] at h
      split at h
      · next hfirst =>
        obtain rfl := Option.some.inj h
        -- `first` is found, so a later info about the same id would be kept as well.
        have hnone : lastAbout rest id = none := by
          rw [lastAbout_eq_none]
          intro other hother hid
          have hrefused := lastKept_eq_none.1 hrest other hother hid
          have hsame := hagree _ (.head _) other (.tail _ hother) (hfirst.2.trans hid.symm)
          simp only [isKept, hid] at hrefused
          simp [isKept, hfirst.2, hsame, hrefused] at hfirst
        rw [hnone, Option.none_or, if_pos hfirst.2]
      · cases h

end ObjectStorage.ItemInfo
