import ObjectStorage.Text.Cut

/-!
# Cutting behind the first occurrence

`Text.CutBehindFirst` says, without a search, what it means to cut a text right
behind the first occurrence of a word, and `Text.throughFirst_eq_some_iff` that
`Text.throughFirst` does this. A longer text is cut at the same place, so that
cutting cannot turn the order of two texts around (`Text.lt_of_cut_lt`).
-/

namespace ObjectStorage.Text

variable {word text kept : List Char}

/-- Says that `kept` is a text up to the end of the first occurrence of a word: its shortest start
that ends in the word. -/
structure CutBehindFirst (word text kept : List Char) : Prop where
  start : kept <+: text
  ending : word <:+ kept
  shortest : ∀ other, other <+: text → word <:+ other → kept.length ≤ other.length

namespace CutBehindFirst

/-- There is only one place to cut. -/
theorem unique {other : List Char} (h : CutBehindFirst word text kept)
    (hother : CutBehindFirst word text other) : kept = other := by
  have hlength : kept.length = other.length :=
    Nat.le_antisymm (h.shortest other hother.start hother.ending)
      (hother.shortest kept h.start h.ending)
  have hprefix := List.prefix_of_prefix_length_le h.start hother.start (Nat.le_of_eq hlength)
  exact hprefix.eq_of_length hlength

/-- What follows a text does not change where it is cut. -/
theorem append (h : CutBehindFirst word text kept) (rest : List Char) :
    CutBehindFirst word (text ++ rest) kept where
  start := h.start.trans (List.prefix_append text rest)
  ending := h.ending
  shortest other hstart hending := by
    rcases Nat.le_total kept.length other.length with hle | hge
    · exact hle
    · have hother := List.prefix_of_prefix_length_le hstart
        (h.start.trans (List.prefix_append text rest)) hge
      exact h.shortest other (hother.trans h.start) hending

end CutBehindFirst

/-- What is kept up to a word is no longer than any start that ends in the word. -/
theorem length_throughFirst (h : throughFirst word text = some kept) {earlier later : List Char}
    (hoccurs : text = earlier ++ word ++ later) : kept.length ≤ earlier.length + word.length := by
  induction text generalizing kept earlier with
  | nil =>
    obtain ⟨before, after, rfl, hnil⟩ := throughFirst_eq_some h
    obtain ⟨hkept, -⟩ := List.append_eq_nil_iff.1 hnil.symm
    simp [hkept]
  | cons c rest ih =>
    unfold throughFirst at h
    split at h
    · obtain rfl : word = kept := by simpa using h
      omega
    · next hnot =>
      obtain ⟨first, hrest, rfl⟩ := Option.map_eq_some_iff.1 h
      cases earlier with
      | nil => exact (hnot (List.isPrefixOf_iff_prefix.2 ⟨later, hoccurs.symm⟩)).elim
      | cons d earlier =>
        obtain ⟨-, hoccurs⟩ := List.cons.inj hoccurs
        have hle := ih hrest hoccurs
        simp only [List.length_cons]
        omega

/-- A text in which a word occurs can be cut. -/
theorem exists_throughFirst (h : word <:+: text) : ∃ kept, throughFirst word text = some kept := by
  induction text with
  | nil =>
    obtain rfl := List.infix_nil.1 h
    exact ⟨[], rfl⟩
  | cons c rest ih =>
    unfold throughFirst
    split
    · exact ⟨word, rfl⟩
    · next hnot =>
      rcases List.infix_cons_iff.1 h with hprefix | hrest
      · exact (hnot (List.isPrefixOf_iff_prefix.2 hprefix)).elim
      · obtain ⟨kept, hkept⟩ := ih hrest
        exact ⟨c :: kept, by rw [hkept, Option.map_some]⟩

/-- What is kept up to a word is the text up to the end of its first occurrence. -/
theorem throughFirst_eq_some_iff :
    throughFirst word text = some kept ↔ CutBehindFirst word text kept := by
  have hcut : ∀ {kept}, throughFirst word text = some kept → CutBehindFirst word text kept := by
    intro kept h
    obtain ⟨before, after, hkept, htext⟩ := throughFirst_eq_some h
    refine ⟨⟨after, htext.symm⟩, ⟨before, hkept.symm⟩, ?_⟩
    rintro other ⟨later, hlater⟩ ⟨earlier, rfl⟩
    rw [List.length_append]
    exact length_throughFirst h hlater.symm
  refine ⟨hcut, fun h => ?_⟩
  obtain ⟨other, hother⟩ := exists_throughFirst (h.ending.isInfix.trans h.start.isInfix)
  rw [hother, (hcut hother).unique h]

/-- A text is not cut exactly when the word does not occur in it. -/
theorem throughFirst_eq_none_iff : throughFirst word text = none ↔ ¬ word <:+: text := by
  rw [Option.eq_none_iff_forall_ne_some]
  constructor
  · intro hnone hoccurs
    obtain ⟨kept, hkept⟩ := exists_throughFirst hoccurs
    exact hnone kept hkept
  · intro hnot kept hkept
    have hcut := throughFirst_eq_some_iff.1 hkept
    exact hnot (hcut.ending.isInfix.trans hcut.start.isInfix)

/-- What follows a text that is cut does not change what is kept. -/
theorem throughFirst_append (h : throughFirst word text = some kept) (rest : List Char) :
    throughFirst word (text ++ rest) = some kept :=
  throughFirst_eq_some_iff.2 ((throughFirst_eq_some_iff.1 h).append rest)

/-- A text stays behind another one when it goes on. -/
theorem lt_append {s t : List Char} (hlt : s < t) (rest : List Char) : s < t ++ rest := by
  induction hlt with
  | nil => exact .nil
  | rel h => exact .rel h
  | cons _ ih => exact .cons ih

/-- Texts that differ at some place stay in order when they go on behind it. -/
theorem append_lt_append {s t : List Char} (hlt : s < t) (hdiffer : ¬ s <+: t)
    (rest others : List Char) : s ++ rest < t ++ others := by
  induction hlt with
  | nil => exact (hdiffer List.nil_prefix).elim
  | rel h => exact .rel h
  | cons _ ih => exact .cons (ih fun hprefix => hdiffer (List.cons_prefix_cons.2 ⟨rfl, hprefix⟩))

/-- Texts are in the order of what they are cut to, when that differs. -/
theorem lt_of_cut_lt {s t : List Char}
    (h : (throughFirst word s).getD s < (throughFirst word t).getD t) : s < t := by
  have hstart : ∀ text : List Char, (throughFirst word text).getD text <+: text := by
    intro text
    cases hcut : throughFirst word text with
    | none => exact List.prefix_rfl
    | some kept => exact (throughFirst_eq_some_iff.1 hcut).start
  obtain ⟨rest, hrest⟩ := hstart s
  obtain ⟨others, hothers⟩ := hstart t
  by_cases hprefix : (throughFirst word s).getD s <+: (throughFirst word t).getD t
  · -- If the first text were cut, the second one would be cut at the same place.
    cases hcut : throughFirst word s with
    | none =>
      rw [hcut, Option.getD_none] at h
      rw [← hothers]
      exact lt_append h others
    | some kept =>
      rw [hcut, Option.getD_some] at h hprefix
      obtain ⟨later, hlater⟩ := hprefix.trans (hstart t)
      have hsame := throughFirst_append (throughFirst_self hcut) later
      rw [hlater] at hsame
      rw [hsame, Option.getD_some] at h
      exact (List.lt_irrefl _ h).elim
  · rw [← hrest, ← hothers]
    exact append_lt_append h hprefix rest others

end ObjectStorage.Text
