import Mathlib.Data.List.FinRange
import Mathlib.Data.List.Perm.Basic
import Mathlib.Data.List.Perm.Subperm
import Mathlib.Logic.Equiv.Fin.Basic
import ObjectStorage.Assertion

/-!
# Matching infos in any order

`Assertion.sameInfosInAnyOrder` takes, for each expected info in turn, the first equivalent
that is still there. Infos are equivalent when they have the same `ItemInfo.essence`, so it
does not matter which equivalent is taken: what is left has the same essences.
`Assertion.matching_decides` concludes that the places of two lists are matched whenever
they can be paired at all.
-/

namespace ObjectStorage

namespace ItemInfo

variable {a b : ItemInfo}

/-- What an info says about the decisions of the user, with all that the backend gives left out. -/
def essence (info : ItemInfo) : ItemInfo where
  resourceId := info.resourceId
  location := info.location
  storageClass := info.storageClass
  contentType := info.contentType
  metadata := info.metadata

/-- Infos are equivalent when they have the same essence. -/
theorem isEquivalent_iff : a.isEquivalent b = true ↔ a.essence = b.essence := by
  simp [isEquivalent, metadataEquals, essence, and_assoc]

/-- Says that an info is another one with different values of what does not count. -/
def Alters (a b : ItemInfo) : Prop :=
  b = { a with
    found := b.found
    creationTime := b.creationTime
    modificationTime := b.modificationTime
    size := b.size
    contentGeneration := b.contentGeneration
    metaGeneration := b.metaGeneration
    contentHash := b.contentHash }

/-- What does not count does not touch the essence. -/
theorem Alters.essence_eq (h : Alters a b) : b.essence = a.essence := by
  rw [h]
  rfl

end ItemInfo

namespace Assertion

variable {actual expected unmatched rest : List ItemInfo} {e : ItemInfo}

/-- The entry that is taken out is overwritten by the last one, which is no longer at the end. -/
theorem swapRemove_concat (front : List ItemInfo) (last : ItemInfo) (i : Nat) :
    swapRemove (front ++ [last]) i = front.set i last := by
  rw [swapRemove, List.getLast?_concat]
  simp [List.dropLast_eq_take, List.take_set]

/-- Taking an entry out leaves the others, in some order. -/
theorem perm_swapRemove {infos : List ItemInfo} {i : Nat} (hi : i < infos.length) :
    infos.Perm (infos[i] :: swapRemove infos i) := by
  obtain ⟨front, last, rfl⟩ : ∃ front last, infos = front ++ [last] :=
    ⟨_, _, (List.dropLast_concat_getLast (List.ne_nil_of_length_pos (Nat.zero_lt_of_lt hi))).symm⟩
  rw [swapRemove_concat]
  by_cases hfront : i < front.length
  · rw [List.getElem_append_left hfront]
    calc (front ++ [last]).Perm (last :: front) := List.perm_append_singleton last front
      _ |>.Perm (last :: front[i] :: front.eraseIdx i) :=
        (List.getElem_cons_eraseIdx_perm hfront).symm.cons last
      _ |>.Perm (front[i] :: last :: front.eraseIdx i) := List.Perm.swap ..
      _ |>.Perm (front[i] :: front.set i last) :=
        (List.set_perm_cons_eraseIdx hfront last).symm.cons front[i]
  · -- The last entry itself is taken out, and nothing moves.
    have hlast : i = front.length := by
      rw [List.length_append, List.length_singleton] at hi
      omega
    subst hlast
    rw [List.set_eq_of_length_le (Nat.le_refl _), List.getElem_concat_length rfl]
    exact List.perm_append_singleton last front

/-- The entry that is found has the essence that is looked for, and is taken out. -/
theorem perm_of_findIdx? {i : Nat}
    (h : (unmatched.findIdx? fun a => a.isEquivalent e) = some i) :
    (unmatched.map ItemInfo.essence).Perm
      (e.essence :: (swapRemove unmatched i).map ItemInfo.essence) := by
  obtain ⟨hi, hequivalent, -⟩ := List.findIdx?_eq_some_iff_getElem.1 h
  have hperm := (perm_swapRemove hi).map ItemInfo.essence
  rwa [List.map_cons, ItemInfo.isEquivalent_iff.1 hequivalent] at hperm

/-- When no entry is found, none has the essence that is looked for. -/
theorem notMem_of_findIdx? (h : (unmatched.findIdx? fun a => a.isEquivalent e) = none) :
    e.essence ∉ unmatched.map ItemInfo.essence := by
  intro hmem
  obtain ⟨a, ha, hessence⟩ := List.mem_map.1 hmem
  have hdiffers := List.findIdx?_eq_none_iff.1 h a ha
  rw [ItemInfo.isEquivalent_iff.2 hessence] at hdiffers
  cases hdiffers

/-- The essences of expected infos are found among those of the unmatched ones, each as often as it
is expected. -/
theorem matchAll_iff :
    matchAll unmatched expected = true ↔
      (expected.map ItemInfo.essence).Subperm (unmatched.map ItemInfo.essence) := by
  induction expected generalizing unmatched with
  | nil => simp [matchAll, List.nil_subperm]
  | cons e rest ih =>
    rw [matchAll]
    cases hfind : unmatched.findIdx? fun a => a.isEquivalent e with
    | some i =>
      rw [ih, List.map_cons, (perm_of_findIdx? hfind).subperm_left, List.subperm_cons]
    | none =>
      exact ⟨nofun, fun hsub => (notMem_of_findIdx? hfind (hsub.subset List.mem_cons_self)).elim⟩

/-- Two lists match in any order when their essences are the same, in some order. -/
theorem sameInfosInAnyOrder_iff :
    sameInfosInAnyOrder actual expected = true ↔
      (actual.map ItemInfo.essence).Perm (expected.map ItemInfo.essence) := by
  rw [sameInfosInAnyOrder, Bool.and_eq_true, decide_eq_true_iff, matchAll_iff]
  constructor
  · rintro ⟨hlength, hsub⟩
    refine (hsub.perm_of_length_le ?_).symm
    rw [List.length_map, List.length_map, hlength]
  · intro hperm
    refine ⟨?_, hperm.symm.subperm⟩
    simpa using hperm.length_eq

/-- Says that the places of two lists can be paired, one to one, such that paired infos are
equivalent. -/
def Pairable (actual expected : List ItemInfo) : Prop :=
  ∃ pairing : Fin actual.length ≃ Fin expected.length,
    ∀ i : Fin actual.length, actual[i].isEquivalent expected[pairing i] = true

/-- The places of a list can be paired with those of the list in another order. -/
theorem exists_pairing {α : Type} {first second : List α} (h : first.Perm second) :
    ∃ pairing : Fin first.length ≃ Fin second.length,
      ∀ i : Fin first.length, first[i] = second[pairing i] := by
  induction h with
  | nil => exact ⟨Equiv.refl _, fun i => i.elim0⟩
  | @cons x first second _ ih =>
    obtain ⟨pairing, hpairing⟩ := ih
    -- The first places are paired with each other, and the others as before, one place on.
    refine ⟨(finSuccEquiv _).trans (pairing.optionCongr.trans (finSuccEquiv _).symm), ?_⟩
    intro i
    refine Fin.cases ?_ (fun i => ?_) i
    · rfl
    · exact hpairing i
  | swap x y rest =>
    refine ⟨Equiv.swap 0 1, fun i => ?_⟩
    match i with
    | 0 | 1 | ⟨n + 2, hn⟩ => rfl
  | trans _ _ ih₁ ih₂ =>
    obtain ⟨pairing₁, hpairing₁⟩ := ih₁
    obtain ⟨pairing₂, hpairing₂⟩ := ih₂
    exact ⟨pairing₁.trans pairing₂, fun i => (hpairing₁ i).trans (hpairing₂ _)⟩

/-- Going through the places of a list goes through its entries. -/
theorem map_places {α β : Type} (f : α → β) (entries : List α) :
    ((List.finRange entries.length).map fun i => f entries[i]) = entries.map f := by
  calc ((List.finRange entries.length).map fun i => f entries[i])
      = ((List.finRange entries.length).map entries.get).map f := (List.map_map ..).symm
    _ = entries.map f := by rw [List.map_get_finRange]

/-- A pairing reaches every place, once. -/
theorem perm_pairing {n m : Nat} (pairing : Fin n ≃ Fin m) :
    ((List.finRange n).map pairing).Perm (List.finRange m) := by
  obtain rfl : n = m := Fin.equiv_iff_eq.1 ⟨pairing⟩
  exact Equiv.Perm.map_finRange_perm pairing

/-- The places of two lists can be paired when their essences are the same, in some order. -/
theorem pairable_iff :
    Pairable actual expected ↔
      (actual.map ItemInfo.essence).Perm (expected.map ItemInfo.essence) := by
  constructor
  · rintro ⟨pairing, hpairing⟩
    have hsame : actual.map ItemInfo.essence =
        ((List.finRange _).map pairing).map fun j => expected[j].essence := by
      rw [← map_places, List.map_map]
      exact List.map_congr_left fun i _ => ItemInfo.isEquivalent_iff.1 (hpairing i)
    rw [hsame, ← map_places ItemInfo.essence expected]
    exact (perm_pairing pairing).map _
  · intro hperm
    obtain ⟨pairing, hpairing⟩ := exists_pairing hperm
    refine ⟨((finCongr (List.length_map _).symm).trans pairing).trans
      (finCongr (List.length_map _)), fun i => ItemInfo.isEquivalent_iff.2 ?_⟩
    simpa using hpairing (finCongr (List.length_map _).symm i)

/-- What does not count does not touch the essences of a list. -/
theorem essences_of_alters {altered : List ItemInfo}
    (h : List.Forall₂ ItemInfo.Alters actual altered) :
    altered.map ItemInfo.essence = actual.map ItemInfo.essence := by
  induction h with
  | nil => rfl
  | cons hhead _ ih => rw [List.map_cons, List.map_cons, hhead.essence_eq, ih]

/-- Lists with the same essences, in some order, are judged alike. -/
theorem sameInfosInAnyOrder_congr {actual' expected' : List ItemInfo}
    (hactual : (actual'.map ItemInfo.essence).Perm (actual.map ItemInfo.essence))
    (hexpected : (expected'.map ItemInfo.essence).Perm (expected.map ItemInfo.essence)) :
    sameInfosInAnyOrder actual' expected' = sameInfosInAnyOrder actual expected := by
  rw [Bool.eq_iff_iff, sameInfosInAnyOrder_iff, sameInfosInAnyOrder_iff]
  exact ⟨fun h => (hactual.symm.trans h).trans hexpected,
    fun h => (hactual.trans h).trans hexpected.symm⟩

/-- Taking the first equivalent out never misses a pairing: when there is one, there is an
equivalent of the first expected info, and what is left can still be paired. -/
theorem pairable_swapRemove (h : Pairable unmatched (e :: rest)) :
    ∃ i, (unmatched.findIdx? fun a => a.isEquivalent e) = some i ∧
      Pairable (swapRemove unmatched i) rest := by
  rw [pairable_iff] at h
  cases hfind : unmatched.findIdx? fun a => a.isEquivalent e with
  | some i =>
    refine ⟨i, rfl, pairable_iff.2 ?_⟩
    exact ((perm_of_findIdx? hfind).symm.trans h).cons_inv
  | none => exact (notMem_of_findIdx? hfind (h.symm.subset List.mem_cons_self)).elim

/-- Two lists match in any order exactly when their places can be paired: the greedy choice never
misses a pairing, and neither order, nor exchanging the lists, nor what does not count changes the
verdict. -/
theorem matching_decides (actual expected : List ItemInfo) :
    (sameInfosInAnyOrder actual expected = true ↔ Pairable actual expected) ∧
    (∀ e rest, Pairable actual (e :: rest) →
      ∃ i, (actual.findIdx? fun a => a.isEquivalent e) = some i ∧
        Pairable (swapRemove actual i) rest) ∧
    sameInfosInAnyOrder expected actual = sameInfosInAnyOrder actual expected ∧
    (∀ actual' expected', actual.Perm actual' → expected.Perm expected' →
      sameInfosInAnyOrder actual' expected' = sameInfosInAnyOrder actual expected) ∧
    ∀ actual' expected', List.Forall₂ ItemInfo.Alters actual actual' →
      List.Forall₂ ItemInfo.Alters expected expected' →
        sameInfosInAnyOrder actual' expected' = sameInfosInAnyOrder actual expected := by
  refine ⟨sameInfosInAnyOrder_iff.trans pairable_iff.symm, fun _ _ => pairable_swapRemove,
    ?exchanged, ?permuted, ?altered⟩
  case exchanged =>
    rw [Bool.eq_iff_iff, sameInfosInAnyOrder_iff, sameInfosInAnyOrder_iff]
    exact List.perm_comm
  case permuted =>
    intro actual' expected' hactual hexpected
    exact sameInfosInAnyOrder_congr (hactual.symm.map _) (hexpected.symm.map _)
  case altered =>
    intro actual' expected' hactual hexpected
    exact sameInfosInAnyOrder_congr (.of_eq (essences_of_alters hactual))
      (.of_eq (essences_of_alters hexpected))

/-- Three infos of which two are equivalent are matched in whatever order they come. -/
theorem equivalents_matched :
    let a : ItemInfo := .notFound (.object "media" "a")
    let b : ItemInfo := .notFound (.object "media" "b")
    let stored : ItemInfo := { a with found := true, size := 3 }
    [a, b, a].Perm [b, a, a] ∧ List.Forall₂ ItemInfo.Alters [a, b, a] [stored, b, a] ∧
      Pairable [a, b, a] [b, a, stored] ∧
      (∃ i, ([a, b, a].findIdx? fun info => info.isEquivalent b) = some i ∧
        Pairable (swapRemove [a, b, a] i) [a, stored]) ∧
      sameInfosInAnyOrder [b, a, a] [b, a, stored] = true ∧
      sameInfosInAnyOrder [stored, b, a] [b, a, stored] = true := by
  intro a b stored
  have hperm : [a, b, a].Perm [b, a, a] := by decide +kernel
  have halters : List.Forall₂ ItemInfo.Alters [a, b, a] [stored, b, a] :=
    .cons rfl (.cons rfl (.cons rfl .nil))
  have hkept : List.Forall₂ ItemInfo.Alters [b, a, stored] [b, a, stored] :=
    .cons rfl (.cons rfl (.cons rfl .nil))
  have hverdict : sameInfosInAnyOrder [a, b, a] [b, a, stored] = true := by decide +kernel
  obtain ⟨hdecides, hgreedy, -, hpermuted, haltered⟩ :=
    matching_decides [a, b, a] [b, a, stored]
  have hpairable := hdecides.1 hverdict
  exact ⟨hperm, halters, hpairable, hgreedy _ _ hpairable,
    (hpermuted _ _ hperm (.refl _)).trans hverdict, (haltered _ _ halters hkept).trans hverdict⟩

end Assertion

end ObjectStorage
