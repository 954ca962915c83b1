import Mathlib.Data.List.Basic
import ObjectStorage.Json.Literal
import ObjectStorage.Proofs.Decimal

/-!
# Literals are read back

A literal that is written for a text or for an integer means that text or that
integer, and a scanner takes exactly it off the text that it stands in:
`Json.unescape?_escape` and `Json.IsString` for strings, `Json.int?_ofInt` and
`Json.IsNumber` for integers. Texts are gone through character by character.
-/

namespace ObjectStorage.Json

open Text

/-- Says that a text does not go on with a value: it is over, or the value is followed by another
one or by the end of what it is in. -/
def EndsValue (text : List Char) : Prop :=
  ∀ c, text.head? = some c → c = ',' ∨ c = ']' ∨ c = '\x7d'

/-- Says that a literal is taken off the text between two quotes. -/
def IsString (literal : List Char) : Prop :=
  ∀ rest, scanString (literal ++ '"' :: rest) = some (literal, rest)

/-- Says that a literal is that of a number: it starts with a sign or a digit, and it is taken off a
text that ends behind it. -/
structure IsNumber (literal : List Char) : Prop where
  head : ∃ c rest, literal = c :: rest ∧ (c = '-' ∨ c.isDigit = true)
  scan : ∀ rest, EndsValue rest → scanNumber (literal ++ rest) = some (literal, rest)

/-! ## Strings -/

/-- How a character is written. -/
theorem escapeChar_cases (c : Char) :
    (∃ letter, escapeChar c = ['\\', letter] ∧ escapedBy? letter = some c ∧ letter ≠ 'u' ∧
        letter ≠ '/') ∨
      (∃ a b, escapeChar c = ['\\', 'u', '0', '0', a, b] ∧ codeUnit? '0' '0' a b = some c.toNat ∧
        [a, b].all isHexDigit = true ∧ c.toNat < 32) ∨
      escapeChar c = [c] ∧ c ≠ '\\' ∧ c ≠ '"' ∧ 32 ≤ c.toNat := by
  unfold escapeChar
  split
  · next letter h =>
    refine .inl ⟨letter, rfl, escapedBy?_eq_some_iff.2 h, ?_⟩
    unfold escapeLetter? at h
    split at h <;> cases h <;> decide
  · next h =>
    split
    · next hlow =>
      have hall : ∀ n < 32, codeUnit? '0' '0' (n / 16).digitChar (n % 16).digitChar = some n ∧
          [(n / 16).digitChar, (n % 16).digitChar].all isHexDigit = true := by decide
      obtain ⟨hunit, hhex⟩ := hall c.toNat hlow
      exact .inr (.inl ⟨_, _, rfl, hunit, hhex, hlow⟩)
    · next hlow =>
      refine .inr (.inr ⟨rfl, ?_, ?_, Nat.le_of_not_lt hlow⟩)
      · rintro rfl
        cases h
      · rintro rfl
        cases h

/-- A character is read back in front of a literal. -/
theorem unescape?_escapeChar (c : Char) (rest : List Char) :
    unescape? (escapeChar c ++ rest) = (unescape? rest).map (c :: ·) := by
  rcases escapeChar_cases c with ⟨letter, hc, hletter, hu, hslash⟩ | ⟨a, b, hc, hunit, -, hlow⟩ |
    ⟨hc, hback, -, -⟩
  · rw [hc, List.cons_append, List.cons_append, List.nil_append, unescape?]
    · simp only [escapedLetter?, if_neg hslash, hletter]
    · intro _ _ _ _ _ hletterU
      exact (hu hletterU).elim
  · have hnotLow : isLowSurrogate c.toNat = false := by
      simp [isLowSurrogate]
      omega
    have hnotHigh : isHighSurrogate c.toNat = false := by
      simp [isHighSurrogate]
      omega
    rw [hc]
    simp only [List.cons_append, List.nil_append]
    rw [unescape?, hunit]
    simp only [hnotLow, hnotHigh, Bool.false_eq_true, ↓reduceIte, Char.ofNat_toNat]
  · rw [hc, List.cons_append, List.nil_append, unescape?]
    · exact if_neg hback
    · intro _ _ _ _ _ hbackslash
      exact (hback hbackslash).elim
    · intro _ _ hbackslash
      exact (hback hbackslash).elim

/-- The literal of a text means that text. -/
theorem unescape?_escape (text : List Char) : unescape? (escape text) = some text := by
  induction text with
  | nil => simp [escape, unescape?]
  | cons c rest ih =>
    show unescape? (escapeChar c ++ escape rest) = some (c :: rest)
    rw [unescape?_escapeChar, ih, Option.map_some]

/-- A written character is taken off in front of the rest of a literal. -/
theorem scanString_escapeChar (c : Char) (rest : List Char) :
    scanString (escapeChar c ++ rest) =
      (scanString rest).map fun (literal, rest) => (escapeChar c ++ literal, rest) := by
  rcases escapeChar_cases c with ⟨letter, hc, hletter, hu, -⟩ | ⟨a, b, hc, -, hhex, -⟩ |
    ⟨hc, hback, hquote, hlow⟩
  · rw [hc, List.cons_append, List.cons_append, List.nil_append, scanString]
    · rw [hletter, if_pos (.inr rfl)]
      rfl
    · intro _ _ _ _ _ hletterU
      exact (hu hletterU).elim
  · rw [hc]
    simp only [List.cons_append, List.nil_append]
    rw [scanString, if_pos]
    · have hzero : isHexDigit '0' = true := by decide
      simpa [hzero] using hhex
  · rw [hc, List.cons_append, List.nil_append, scanString]
    · rw [if_neg (by simp only [hback, false_or]; omega)]
      rfl
    · intro hq
      exact (hquote hq).elim
    · intro _ _ _ _ _ hbackslash
      exact (hback hbackslash).elim
    · intro _ _ hbackslash
      exact (hback hbackslash).elim

/-- The literal of a text is taken off up to the quote behind it. -/
theorem isString_escape (text : List Char) : IsString (escape text) := by
  intro rest
  induction text with
  | nil => rfl
  | cons c others ih =>
    show scanString (escapeChar c ++ escape others ++ '"' :: rest) = _
    rw [List.append_assoc, scanString_escapeChar, ih, Option.map_some]
    rfl

/-! ## Integers -/

/-- Digits are taken off a text that does not go on with a digit. -/
theorem scanDigits_append {digits rest : List Char} (hdigits : ∀ c ∈ digits, c.isDigit = true)
    (hne : digits ≠ []) (hrest : ∀ c, rest.head? = some c → c.isDigit = false) :
    scanDigits (digits ++ rest) = some (digits, rest) := by
  obtain ⟨htake, hdrop⟩ := takeWhile_dropWhile_append hdigits hrest
  rw [scanDigits, htake, hdrop]
  exact if_neg hne

/-- What ends a value does not continue a number. -/
theorem EndsValue.not_number {text : List Char} (h : EndsValue text) {c : Char}
    (hc : text.head? = some c) : c.isDigit = false ∧ c ≠ '.' ∧ c ≠ 'e' ∧ c ≠ 'E' := by
  rcases h c hc with rfl | rfl | rfl <;> decide

/-- The whole part of a written number is all of it. -/
theorem scanWhole_decimal (n : Nat) {rest : List Char} (hrest : EndsValue rest) :
    scanWhole (decimal n ++ rest) = some (decimal n, rest) := by
  cases n with
  | zero => rfl
  | succ n =>
    have hscan := scanDigits_append (fun _ => isDigit_of_mem_decimal) (decimal_ne_nil (n + 1))
      fun c hc => (hrest.not_number hc).1
    unfold scanWhole
    split
    · next after heq =>
      have hhead := congrArg List.head? heq
      rw [List.head?_append_of_ne_nil _ (decimal_ne_nil _)] at hhead
      exact (head?_decimal_ne_zero (Nat.succ_pos n) hhead).elim
    · exact hscan

/-- There is neither a fraction nor an exponent behind a written number. -/
theorem scanNumber_tail {rest : List Char} (h : EndsValue rest) :
    scanFraction rest = some ([], rest) ∧ scanExponent rest = some ([], rest) := by
  cases rest with
  | nil => exact ⟨rfl, rfl⟩
  | cons c rest =>
    obtain ⟨-, hpoint, he, hE⟩ := h.not_number (c := c) rfl
    refine ⟨?_, by simp [scanExponent, he, hE]⟩
    unfold scanFraction
    split
    · next heq =>
      exact (hpoint (List.cons.inj heq).1).elim
    · rfl

/-- The digits of a number are a number literal. -/
theorem isNumber_decimal (n : Nat) : IsNumber (decimal n) where
  head := by
    obtain ⟨c, rest, hdecimal, hc⟩ := exists_decimal n
    exact ⟨c, rest, hdecimal, .inr hc⟩
  scan rest hrest := by
    obtain ⟨c, others, hdecimal, hc⟩ := exists_decimal n
    have hsign : scanSign (decimal n ++ rest) = ([], decimal n ++ rest) := by
      rw [hdecimal]
      unfold scanSign
      split
      · next heq =>
        obtain ⟨rfl, -⟩ := List.cons.inj heq
        cases hc
      · rfl
    obtain ⟨hfraction, hexponent⟩ := scanNumber_tail hrest
    simp only [scanNumber, hsign, scanWhole_decimal n hrest, hfraction, hexponent,
      Option.bind_eq_bind, Option.bind_some, List.nil_append, List.append_nil]
    rfl

/-- A sign and the digits of a number are a number literal. -/
theorem isNumber_neg (n : Nat) : IsNumber ('-' :: decimal n) where
  head := ⟨'-', decimal n, rfl, .inl rfl⟩
  scan rest hrest := by
    obtain ⟨hfraction, hexponent⟩ := scanNumber_tail hrest
    simp only [scanNumber, List.cons_append, scanSign, scanWhole_decimal n hrest, hfraction,
      hexponent, Option.bind_eq_bind, Option.bind_some, List.append_nil]
    rfl

/-- The digits of a number mean that number. -/
theorem integerLiteral?_decimal (n : Nat) : integerLiteral? (decimal n) = some (n : Int) := by
  obtain ⟨c, rest, hdecimal, hc⟩ := exists_decimal n
  have hall : (decimal n).all Char.isDigit = true :=
    List.all_eq_true.2 fun _ => isDigit_of_mem_decimal
  unfold integerLiteral?
  split
  · next heq =>
    obtain ⟨rfl, -⟩ := List.cons.inj (hdecimal.symm.trans heq)
    cases hc
  · rw [if_pos hall, digitsValue_decimal]

/-- A sign and the digits of a number that is not zero mean the negative number. -/
theorem integerLiteral?_neg {n : Nat} (h : n ≠ 0) :
    integerLiteral? ('-' :: decimal n) = some (-(n : Int)) := by
  have hall : (decimal n).all Char.isDigit = true :=
    List.all_eq_true.2 fun _ => isDigit_of_mem_decimal
  rw [integerLiteral?, digitsValue_decimal, if_pos ⟨hall, h⟩]

/-- An integer between the bounds is read back. -/
theorem int?_ofInt {least greatest n : Int} (hleast : least ≤ n) (hgreatest : n ≤ greatest) :
    (ofInt n).int? least greatest = some n := by
  have hinside : (decide (least ≤ n) && decide (n ≤ greatest)) = true := by
    simp [hleast, hgreatest]
  unfold ofInt
  split
  · next hneg =>
    have hcast : -(n.natAbs : Int) = n := by omega
    rw [int?, integerLiteral?_neg (by omega), hcast, Option.filter_some, if_pos hinside]
  · next hneg =>
    have hcast : (n.natAbs : Int) = n := by omega
    rw [int?, integerLiteral?_decimal, hcast, Option.filter_some, if_pos hinside]

/-- A natural number below the bound is read back. -/
theorem nat?_ofNat {bound n : Nat} (h : n < bound) : (ofNat n).nat? bound = some n := by
  have hint : (ofNat n).int? 0 (bound - 1) = some (n : Int) :=
    int?_ofInt (n := n) (by omega) (by omega)
  rw [nat?, hint, Option.map_some, Int.toNat_natCast]

/-- What is read as an integer lies between the bounds. -/
theorem int?_bounds {value : Json} {least greatest n : Int}
    (h : value.int? least greatest = some n) : least ≤ n ∧ n ≤ greatest := by
  cases value <;> first | cases h | skip
  case number literal =>
    obtain ⟨-, hinside⟩ := Option.filter_eq_some_iff.1 h
    simpa using hinside

/-- What is read as a natural number lies below the bound. -/
theorem nat?_lt {value : Json} {bound n : Nat} (h : value.nat? bound = some n) : n < bound := by
  obtain ⟨m, hint, rfl⟩ := Option.map_eq_some_iff.1 h
  obtain ⟨hge, hle⟩ := int?_bounds hint
  omega

end ObjectStorage.Json
