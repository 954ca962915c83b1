import Mathlib.Data.List.TakeWhile
import ObjectStorage.Config.Toml
import ObjectStorage.Proofs.Decimal

/-!
# Written settings are read back

A setting is written as a line of its own: its key, an equals sign and a decimal
number. `Toml.settings?_eq_some` says that a document of such lines is read as the
settings that it was written for, in their order. The document is first cut into its
lines (`Toml.splitLines_of_isDocument`), and each line is then read by itself
(`Toml.line?_settingLine`).
-/

namespace ObjectStorage.Toml

open Text

/-- A setting as a line, without the end of the line. -/
def settingLine (setting : String × Nat) : List Char :=
  setting.1.toList ++ ' ' :: '=' :: ' ' :: decimal setting.2

/-- The document with a line for each setting, in order. -/
def document (settings : List (String × Nat)) : String :=
  String.ofList (settings.flatMap fun setting => settingLine setting ++ ['\n'])

theorem toList_document (settings : List (String × Nat)) :
    (document settings).toList = settings.flatMap fun setting => settingLine setting ++ ['\n'] :=
  String.toList_ofList

/-- Says that a text is the document of some settings; its last line need not be ended. -/
def IsDocument (settings : List (String × Nat)) (source : String) : Prop :=
  source = document settings ∨ source ++ "\n" = document settings

/-- Says that a setting has a key that needs no quotes and a number of 64 bits with a sign. -/
structure Writable (setting : String × Nat) : Prop where
  key_ne_nil : setting.1.toList ≠ []
  bare : ∀ c ∈ setting.1.toList, isBareKeyChar c = true
  fits : (setting.2 : Int) ≤ Word.greatestSigned

/-! ## Numbers -/

/-- The value of a decimal digit. -/
theorem hexValue?_of_isDigit {c : Char} (h : c.isDigit = true) :
    Bytes.hexValue? c = some (c.toNat - '0'.toNat) ∧ c.toNat - '0'.toNat < 10 := by
  obtain ⟨hge, hle⟩ := isDigit_iff.1 h
  have hrange : '0' ≤ c ∧ c ≤ '9' := ⟨hge, hle⟩
  refine ⟨if_pos hrange, ?_⟩
  show c.toNat - 48 < 10
  exact Nat.lt_succ_of_le (Nat.sub_le_of_le_add hle)

/-- Digits without underscores are not grouped. -/
theorem ungroup?_of_forall {isDigit : Char → Bool} {digits : List Char} (hne : digits ≠ [])
    (hdigits : ∀ c ∈ digits, isDigit c = true) (hunderscore : '_' ∉ digits) :
    ungroup? isDigit digits = some digits := by
  induction digits using ungroup?.induct isDigit with
  | case1 => exact (hne rfl).elim
  | case2 c hc => rw [ungroup?, if_pos hc]
  | case3 c hc => exact (hc (hdigits c (.head _))).elim
  | case4 c rest hc ih => exact (hunderscore (.tail _ (.head _))).elim
  | case5 c rest hc => exact (hc (hdigits c (.head _))).elim
  | case6 c rest hrest hgroup hc ih =>
    have hothers := ih hrest (fun c h => hdigits c (.tail _ h)) fun h => hunderscore (.tail _ h)
    rw [ungroup?, if_pos hc, hothers, Option.map_some]
    · exact hrest
    · exact hgroup
  | case7 c rest hrest hgroup hc => exact (hc (hdigits c (.head _))).elim

/-- Decimal digits mean the number that they stand for. -/
theorem digits?_ten {digits : List Char} (hne : digits ≠ [])
    (hdigits : ∀ c ∈ digits, c.isDigit = true) : digits? 10 digits = some (digitsValue digits) := by
  have hungroup : ungroup? (fun c => (Bytes.hexValue? c).any (· < 10)) digits = some digits := by
    refine ungroup?_of_forall hne (fun c hc => ?_) fun h => ?_
    · obtain ⟨hvalue, hlt⟩ := hexValue?_of_isDigit (hdigits c hc)
      rw [hvalue, Option.any_some, decide_eq_true hlt]
    · exact absurd (hdigits '_' h) (by decide)
  have hvalue : digits.foldl (fun n c => 10 * n + (Bytes.hexValue? c).getD 0) 0 =
      digitsValue digits := by
    rw [digitsValue, Nat.ofDigitChars_eq_foldl]
    refine List.foldl_ext _ _ _ fun n c hc => ?_
    rw [(hexValue?_of_isDigit (hdigits c hc)).1, Option.getD_some]
  rw [digits?, hungroup]
  exact congrArg some hvalue

/-- Only zero is written with a zero in front, and then there is nothing behind it. -/
theorem decimal_ne_zero_cons (n : Nat) (c : Char) (rest : List Char) :
    decimal n ≠ '0' :: c :: rest := by
  intro h
  cases n with
  | zero => cases h
  | succ n => exact head?_decimal_ne_zero (Nat.succ_pos n) (congrArg List.head? h)

/-- The decimal digits of a number mean that number. -/
theorem decimal?_decimal (n : Nat) : decimal? (decimal n) = some n := by
  rw [decimal?, digits?_ten (decimal_ne_nil n) fun _ => isDigit_of_mem_decimal, digitsValue_decimal]
  exact fun c rest h => decimal_ne_zero_cons n c rest h

/-- The decimal digits of a number of 64 bits with a sign are read as that number. -/
theorem integer?_decimal {n : Nat} (h : (n : Int) ≤ Word.greatestSigned) :
    integer? (decimal n) = some (n : Int) := by
  have hfits : Word.leastSigned ≤ (n : Int) ∧ (n : Int) ≤ Word.greatestSigned :=
    ⟨Int.le_trans (by decide) (Int.natCast_nonneg n), h⟩
  obtain ⟨first, others, hdecimal, hfirst⟩ := exists_decimal n
  unfold integer?
  -- A prefix of another base follows a zero, and a sign is no digit: neither starts the number.
  split
  · next heq => exact (decimal_ne_zero_cons n _ _ heq).elim
  · next heq => exact (decimal_ne_zero_cons n _ _ heq).elim
  · next heq => exact (decimal_ne_zero_cons n _ _ heq).elim
  · next heq =>
    obtain ⟨rfl, -⟩ := List.cons.inj (hdecimal.symm.trans heq)
    cases hfirst
  · next heq =>
    obtain ⟨rfl, -⟩ := List.cons.inj (hdecimal.symm.trans heq)
    cases hfirst
  · rw [decimal?_decimal]
    exact if_pos hfits

/-! ## Lines -/

theorem isBareKeyChar_of_isDigit {c : Char} (h : c.isDigit = true) : isBareKeyChar c = true := by
  simp [isBareKeyChar, Char.isAlphanum, h]

/-- A character of a line is one of a key, a blank or the equals sign. -/
theorem Writable.mem_settingLine {setting : String × Nat} (h : Writable setting) {c : Char}
    (hc : c ∈ settingLine setting) : isBareKeyChar c = true ∨ c = ' ' ∨ c = '=' := by
  rcases List.mem_append.1 hc with hkey | hvalue
  · exact .inl (h.bare c hkey)
  · simp only [List.mem_cons] at hvalue
    obtain rfl | rfl | rfl | hdigit := hvalue
    · exact .inr (.inl rfl)
    · exact .inr (.inr rfl)
    · exact .inr (.inl rfl)
    · exact .inl (isBareKeyChar_of_isDigit (isDigit_of_mem_decimal hdigit))

/-- A text that does not start with a blank is left as it is. -/
theorem skipBlanks_cons {c : Char} (hc : isBlank c = false) (rest : List Char) :
    skipBlanks (c :: rest) = c :: rest := by
  rw [skipBlanks, List.dropWhile_cons_of_neg (by simp [hc])]

/-- A text that starts with neither a blank nor a comment is no end of a line. -/
theorem isLineEnd_cons {c : Char} (hblank : isBlank c = false) (hcomment : c ≠ '#')
    (rest : List Char) : isLineEnd (c :: rest) = false := by
  unfold isLineEnd
  rw [skipBlanks_cons hblank]
  split
  · next heq => cases heq
  · next heq => exact (hcomment (List.cons.inj heq).1).elim
  · rfl

/-- A character of a key without quotes is no blank and starts neither a comment nor quotes. -/
theorem isBareKeyChar_ne {c : Char} (h : isBareKeyChar c = true) :
    isBlank c = false ∧ c ≠ '#' ∧ c ≠ '"' ∧ c ≠ '\'' := by
  refine ⟨?_, ?_, ?_, ?_⟩
  · cases hblank : isBlank c with
    | false => rfl
    | true =>
      rcases Bool.or_eq_true _ _ ▸ hblank with hc | hc <;> cases LawfulBEq.eq_of_beq hc <;> cases h
  all_goals
    rintro rfl
    cases h

/-- A key without quotes is taken off a text that goes on with a blank. -/
theorem key?_append {key rest : List Char} (hne : key ≠ [])
    (hbare : ∀ c ∈ key, isBareKeyChar c = true) :
    key? (key ++ ' ' :: rest) = some (key, ' ' :: rest) := by
  obtain ⟨first, others, rfl⟩ := List.exists_cons_of_ne_nil hne
  obtain ⟨-, -, hbasic, hliteral⟩ := isBareKeyChar_ne (hbare first (.head _))
  have hstop : ∀ c, (' ' :: rest).head? = some c → isBareKeyChar c = false := by
    rintro c ⟨⟩
    decide
  obtain ⟨htake, hdrop⟩ := takeWhile_dropWhile_append hbare hstop
  rw [key?, htake, hdrop]
  · exact if_neg hne
  · rintro rest ⟨⟩
    exact hbasic rfl
  · rintro rest ⟨⟩
    exact hliteral rfl

/-- A line of a setting is read as that setting. -/
theorem line?_settingLine {setting : String × Nat} (h : Writable setting) :
    line? (settingLine setting) = some (some (setting.1, (setting.2 : Int))) := by
  obtain ⟨first, others, hkey⟩ := List.exists_cons_of_ne_nil h.key_ne_nil
  obtain ⟨hblank, hcomment, -, -⟩ := isBareKeyChar_ne (h.bare first (hkey ▸ .head _))
  have hstart : settingLine setting =
      first :: (others ++ ' ' :: '=' :: ' ' :: decimal setting.2) := by
    rw [settingLine, hkey]
    rfl
  have hend : isLineEnd (settingLine setting) = false := by
    rw [hstart]
    exact isLineEnd_cons hblank hcomment _
  have hread : key? (skipBlanks (settingLine setting)) =
      some (setting.1.toList, ' ' :: '=' :: ' ' :: decimal setting.2) := by
    rw [hstart, skipBlanks_cons hblank, ← hstart]
    exact key?_append h.key_ne_nil h.bare
  have hword : ∀ c ∈ decimal setting.2, (!isBlank c && c != '#') = true := by
    intro c hc
    obtain ⟨hnoBlank, hnoComment, -, -⟩ :=
      isBareKeyChar_ne (isBareKeyChar_of_isDigit (isDigit_of_mem_decimal hc))
    simp [hnoBlank, hnoComment]
  have hvalue : skipBlanks (' ' :: decimal setting.2) = decimal setting.2 := by
    obtain ⟨digit, digits, hdecimal, hdigit⟩ := exists_decimal setting.2
    rw [hdecimal]
    exact skipBlanks_cons (isBareKeyChar_ne (isBareKeyChar_of_isDigit hdigit)).1 digits
  have hequals : skipBlanks (' ' :: '=' :: ' ' :: decimal setting.2) =
      '=' :: ' ' :: decimal setting.2 := rfl
  have hrest : isLineEnd [] = true := rfl
  rw [line?, if_neg (by simp [hend]), hread]
  simp only [Option.bind_eq_bind, Option.bind_some, hequals, hvalue,
    List.takeWhile_eq_self_iff.2 hword, List.dropWhile_eq_nil_iff.2 hword, hrest, if_true,
    integer?_decimal h.fits, String.ofList_toList]

/-! ## Documents -/

/-- A line is cut off a text up to the line feed behind it. -/
theorem splitLines_append {line : List Char} (hline : ∀ c ∈ line, c ≠ '\n' ∧ c ≠ '\r')
    (rest : List Char) : splitLines (line ++ '\n' :: rest) = line :: splitLines rest := by
  induction line with
  | nil => rfl
  | cons c line ih =>
    obtain ⟨⟨hfeed, hreturn⟩, hothers⟩ := List.forall_mem_cons.1 hline
    rw [List.cons_append, splitLines, ih hothers]
    · exact hfeed
    · exact fun _ h _ => hreturn h

/-- A text without line feeds is a line. -/
theorem splitLines_of_forall {line : List Char} (hline : ∀ c ∈ line, c ≠ '\n' ∧ c ≠ '\r') :
    splitLines line = [line] := by
  induction line with
  | nil => rfl
  | cons c line ih =>
    obtain ⟨⟨hfeed, hreturn⟩, hothers⟩ := List.forall_mem_cons.1 hline
    rw [splitLines, ih hothers]
    · exact hfeed
    · exact fun _ h _ => hreturn h

/-- Ended lines and a last one are cut apart. -/
theorem splitLines_lines {lines : List (List Char)} {last : List Char}
    (hlines : ∀ line ∈ lines, ∀ c ∈ line, c ≠ '\n' ∧ c ≠ '\r')
    (hlast : ∀ c ∈ last, c ≠ '\n' ∧ c ≠ '\r') :
    splitLines (lines.flatMap (· ++ ['\n']) ++ last) = lines ++ [last] := by
  induction lines with
  | nil => exact splitLines_of_forall hlast
  | cons line lines ih =>
    obtain ⟨hline, hothers⟩ := List.forall_mem_cons.1 hlines
    rw [List.flatMap_cons, List.append_assoc, List.append_assoc, List.singleton_append,
      splitLines_append hline, ih hothers]
    rfl

/-- A line of a setting does not end within it. -/
theorem Writable.plain {setting : String × Nat} (h : Writable setting) :
    ∀ c ∈ settingLine setting, c ≠ '\n' ∧ c ≠ '\r' := by
  intro c hc
  rcases h.mem_settingLine hc with hbare | rfl | rfl
  · constructor <;> rintro rfl <;> cases hbare
  · decide
  · decide

variable {settings : List (String × Nat)} {source : String}

/-- A document is cut into the lines of its settings, with an empty one behind if the last of them
is ended. -/
theorem splitLines_of_isDocument (hwritable : ∀ setting ∈ settings, Writable setting)
    (h : IsDocument settings source) :
    ∃ blank, (blank = [] ∨ blank = [[]]) ∧
      splitLines source.toList = settings.map settingLine ++ blank := by
  have hplain : ∀ line ∈ settings.map settingLine, ∀ c ∈ line, c ≠ '\n' ∧ c ≠ '\r' := by
    intro line hline
    obtain ⟨setting, hsetting, rfl⟩ := List.mem_map.1 hline
    exact (hwritable setting hsetting).plain
  rcases h with rfl | hlast
  · refine ⟨[[]], .inr rfl, ?_⟩
    have hlines := splitLines_lines hplain (List.forall_mem_nil _)
    rw [List.append_nil, List.flatMap_map] at hlines
    rw [toList_document, hlines]
  · -- The last line is not ended, so it is the last one here and not the empty one behind it.
    refine ⟨[], .inl rfl, ?_⟩
    have htext : source.toList ++ ['\n'] =
        settings.flatMap fun setting => settingLine setting ++ ['\n'] := by
      rw [← toList_document, ← hlast, String.toList_append]
      rfl
    rcases List.eq_nil_or_concat settings with rfl | ⟨front, last, rfl⟩
    · simp at htext
    · rw [List.concat_eq_append] at hplain htext ⊢
      rw [List.flatMap_append, List.flatMap_singleton, ← List.append_assoc,
        List.append_cancel_right_eq] at htext
      rw [List.map_append, List.forall_mem_append] at hplain
      rw [htext, List.map_append, List.map_singleton, List.append_nil,
        ← splitLines_lines hplain.1 (hplain.2 _ (.head _)), List.flatMap_map]

/-- No document starts with a byte order mark. -/
theorem ne_byteOrderMark (hwritable : ∀ setting ∈ settings, Writable setting)
    (h : IsDocument settings source) (rest : List Char) : source.toList ≠ '\ufeff' :: rest := by
  intro hmark
  have hmem : '\ufeff' ∈ (document settings).toList := by
    rcases h with rfl | hlast
    · exact hmark ▸ .head _
    · rw [← hlast, String.toList_append, hmark]
      exact .head _
  rw [toList_document] at hmem
  obtain ⟨setting, hsetting, hline⟩ := List.mem_flatMap.1 hmem
  rcases List.mem_append.1 hline with hc | hc
  · exact absurd ((hwritable setting hsetting).mem_settingLine hc) (by decide)
  · exact absurd hc (by decide)

/-- Lines of settings, with or without an empty one behind, are read one by one. -/
theorem mapM_line? (hwritable : ∀ setting ∈ settings, Writable setting) {blank : List (List Char)}
    (hblank : blank = [] ∨ blank = [[]]) :
    (settings.map settingLine ++ blank).mapM line? =
      some (settings.map (fun setting => some (setting.1, (setting.2 : Int))) ++
        blank.map fun _ => none) := by
  induction settings with
  | nil => rcases hblank with rfl | rfl <;> rfl
  | cons setting settings ih =>
    obtain ⟨hsetting, hothers⟩ := List.forall_mem_cons.1 hwritable
    rw [List.map_cons, List.cons_append, List.mapM_cons, line?_settingLine hsetting, ih hothers]
    rfl

/-- A document is read as the settings that it was written for. -/
theorem settings?_eq_some (hwritable : ∀ setting ∈ settings, Writable setting)
    (h : IsDocument settings source) :
    settings? source = some (settings.map fun setting => (setting.1, (setting.2 : Int))) := by
  obtain ⟨blank, hblank, hlines⟩ := splitLines_of_isDocument hwritable h
  rw [settings?]
  split
  · next rest heq => exact (ne_byteOrderMark hwritable h rest heq).elim
  · rw [hlines, mapM_line? hwritable hblank]
    simp [List.filterMap_map]

end ObjectStorage.Toml
