/-!
# Cutting text at a pattern

`splitFirst` cuts a text at the first occurrence of a character, and
`throughFirst` keeps a text up to the end of the first occurrence of a word.
The small lemmas say that nothing is lost and that the cut is the first one.
-/

namespace ObjectStorage.Text

/-- The text before and after the first occurrence of `c`. -/
def splitFirst (c : Char) : List Char → Option (List Char × List Char)
  | [] => none
  | d :: rest =>
    if d = c then some ([], rest)
    else (splitFirst c rest).map fun (before, after) => (d :: before, after)

/-- The text up to and including the first occurrence of `word`. -/
def throughFirst (word : List Char) : List Char → Option (List Char)
  | [] => if word = [] then some [] else none
  | c :: rest =>
    if word.isPrefixOf (c :: rest) then some word
    else (throughFirst word rest).map (c :: ·)

/-- Cutting at a character loses only that character, and the first part is free of it. -/
theorem splitFirst_eq_some {c : Char} {text before after : List Char}
    (h : splitFirst c text = some (before, after)) :
    text = before ++ c :: after ∧ c ∉ before := by
  induction text generalizing before with
  | nil => simp [splitFirst] at h
  | cons d rest ih =>
    unfold splitFirst at h
    split at h
    · next hd =>
      obtain ⟨rfl, rfl⟩ : [] = before ∧ rest = after := by simpa using h
      simp [hd]
    · next hd =>
      obtain ⟨⟨first, last⟩, hrest, heq⟩ := Option.map_eq_some_iff.1 h
      obtain ⟨rfl, rfl⟩ : d :: first = before ∧ last = after := by simpa using heq
      obtain ⟨rfl, hfree⟩ := ih hrest
      exact ⟨rfl, by simp [hfree, Ne.symm hd]⟩

/-- A text is cut behind a first part that is free of the character. -/
theorem splitFirst_append {c : Char} {before : List Char} (hfree : c ∉ before)
    (after : List Char) : splitFirst c (before ++ c :: after) = some (before, after) := by
  induction before with
  | nil => simp [splitFirst]
  | cons d rest ih =>
    obtain ⟨hd, hrest⟩ := not_or.1 (mt List.mem_cons.2 hfree)
    rw [List.cons_append, splitFirst, if_neg (Ne.symm hd), ih hrest, Option.map_some]

/-- A text cannot be cut exactly when the character does not occur in it. -/
theorem splitFirst_eq_none {c : Char} {text : List Char} :
    splitFirst c text = none ↔ c ∉ text := by
  induction text with
  | nil => simp [splitFirst]
  | cons d rest ih =>
    unfold splitFirst
    split
    · next hd => simp [hd]
    · next hd => simp [ih, Ne.symm hd]

/-- What is kept up to a word is a leading part of the text that ends in that word. -/
theorem throughFirst_eq_some {word text kept : List Char}
    (h : throughFirst word text = some kept) :
    ∃ before after, kept = before ++ word ∧ text = kept ++ after := by
  induction text generalizing kept with
  | nil =>
    by_cases hw : word = []
    · obtain rfl : [] = kept := by simpa [throughFirst, hw] using h
      exact ⟨[], [], by simp [hw], by simp⟩
    · simp [throughFirst, hw] at h
  | cons c rest ih =>
    unfold throughFirst at h
    split at h
    · next hp =>
      obtain rfl : word = kept := by simpa using h
      obtain ⟨after, hafter⟩ := List.isPrefixOf_iff_prefix.1 hp
      exact ⟨[], after, rfl, hafter.symm⟩
    · obtain ⟨first, hrest, rfl⟩ := Option.map_eq_some_iff.1 h
      obtain ⟨before, after, rfl, rfl⟩ := ih hrest
      exact ⟨c :: before, after, by simp, by simp⟩

/-- What is kept up to a word is kept as it is when it is cut once more. -/
theorem throughFirst_self {word text kept : List Char} (h : throughFirst word text = some kept) :
    throughFirst word kept = some kept := by
  induction text generalizing kept with
  | nil =>
    by_cases hw : word = []
    · obtain rfl : [] = kept := by simpa [throughFirst, hw] using h
      simp [throughFirst, hw]
    · simp [throughFirst, hw] at h
  | cons c rest ih =>
    unfold throughFirst at h
    split at h
    · obtain rfl : word = kept := by simpa using h
      cases word <;> simp [throughFirst]
    · next hp =>
      obtain ⟨first, hrest, rfl⟩ := Option.map_eq_some_iff.1 h
      have hnot : word.isPrefixOf (c :: first) = false := by
        obtain ⟨-, after, -, rfl⟩ := throughFirst_eq_some hrest
        have hlonger : c :: first <+: c :: (first ++ after) := List.prefix_append (c :: first) after
        rw [Bool.eq_false_iff]
        intro hshort
        have hprefix := (List.isPrefixOf_iff_prefix.1 hshort).trans hlonger
        exact hp (List.isPrefixOf_iff_prefix.2 hprefix)
      simp [throughFirst, hnot, ih hrest]

end ObjectStorage.Text
