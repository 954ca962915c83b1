/-!
# Decimal numbers

`decimal` writes a natural number, `padded` writes it in a fixed least width,
and `leadingNumber?` reads the digits at the start of a text.
`leadingNumber?_padded` says that what was written is read back.
-/

namespace ObjectStorage.Text

/-- The decimal digits of `n`, without leading zeros. -/
def decimal (n : Nat) : List Char :=
  Nat.toDigits 10 n

/-- The decimal digits of `n`, with zeros before them up to `width` digits. -/
def padded (width n : Nat) : List Char :=
  List.leftpad width '0' (decimal n)

/-- The number that a row of decimal digits stands for. -/
def digitsValue (digits : List Char) : Nat :=
  Nat.ofDigitChars 10 digits 0

/-- Reads the decimal digits at the start of a text, at least one and at most `width`, and gives
the digits and what follows them. -/
def leadingDigits? (width : Nat) (text : List Char) : Option (List Char × List Char) :=
  let digits := (text.take width).takeWhile Char.isDigit
  if digits = [] then none else some (digits, text.drop digits.length)

/-- Reads the number that starts a text and has at most `width` digits. -/
def leadingNumber? (width : Nat) (text : List Char) : Option (Nat × List Char) :=
  (leadingDigits? width text).map fun (digits, rest) => (digitsValue digits, rest)

/-- A character is a digit when its code point is one of those from zero to nine. -/
theorem isDigit_iff {c : Char} : c.isDigit = true ↔ '0'.toNat ≤ c.toNat ∧ c.toNat ≤ '9'.toNat := by
  simp only [Char.isDigit, Bool.and_eq_true, decide_eq_true_eq, ge_iff_le, UInt32.le_iff_toNat_le]
  rfl

theorem decimal_ne_nil (n : Nat) : decimal n ≠ [] :=
  Nat.toDigits_ne_nil

theorem isDigit_of_mem_decimal {n : Nat} {c : Char} (h : c ∈ decimal n) : c.isDigit = true :=
  Nat.isDigit_of_mem_toDigits (by decide) (by decide) h

theorem padded_ne_nil (width n : Nat) : padded width n ≠ [] := by
  simp [padded, List.leftpad, decimal_ne_nil]

theorem isDigit_of_mem_padded {width n : Nat} {c : Char} (h : c ∈ padded width n) :
    c.isDigit = true := by
  rcases List.mem_append.1 h with h | h
  · rw [List.eq_of_mem_replicate h]
    decide
  · exact isDigit_of_mem_decimal h

/-- A row of digits starts with a digit. -/
theorem exists_cons_of_digits {digits : List Char} (hne : digits ≠ [])
    (hdigits : ∀ c ∈ digits, c.isDigit = true) :
    ∃ c rest, digits = c :: rest ∧ c.isDigit = true := by
  obtain ⟨c, rest, rfl⟩ := List.exists_cons_of_ne_nil hne
  exact ⟨c, rest, rfl, hdigits c (.head _)⟩

@[simp]
theorem digitsValue_decimal (n : Nat) : digitsValue (decimal n) = n :=
  Nat.ofDigitChars_toDigits (by decide) (by decide)

theorem digitsValue_zeros (k : Nat) (digits : List Char) :
    digitsValue (List.replicate k '0' ++ digits) = digitsValue digits := by
  induction k with
  | zero => rfl
  | succ k ih =>
    rw [List.replicate_succ, List.cons_append]
    exact ih

@[simp]
theorem digitsValue_padded (width n : Nat) : digitsValue (padded width n) = n := by
  rw [padded, List.leftpad, digitsValue_zeros, digitsValue_decimal]

/-- A text is cut between the characters that pass a test and those behind them, of which the first
does not. -/
theorem takeWhile_dropWhile_append {p : Char → Bool} {front rest : List Char}
    (hfront : ∀ c ∈ front, p c = true) (hrest : ∀ c, rest.head? = some c → p c = false) :
    (front ++ rest).takeWhile p = front ∧ (front ++ rest).dropWhile p = rest := by
  rw [List.takeWhile_append_of_pos hfront, List.dropWhile_append_of_pos hfront]
  cases rest with
  | nil => exact ⟨List.append_nil front, rfl⟩
  | cons c rest => simp [hrest c rfl]

/-- Digits that are not followed by another digit, and are not too many, are read as they are. -/
theorem leadingDigits?_append {width : Nat} {digits rest : List Char}
    (hdigits : ∀ c ∈ digits, c.isDigit = true) (hne : digits ≠ [])
    (hwidth : digits.length ≤ width) (hrest : ∀ c, rest.head? = some c → c.isDigit = false) :
    leadingDigits? width (digits ++ rest) = some (digits, rest) := by
  -- Cut to what the width still allows, the rest is empty or starts as it did.
  have hstop : ∀ c, (rest.take (width - digits.length)).head? = some c → c.isDigit = false := by
    intro c hc
    rw [List.head?_take] at hc
    split at hc
    · cases hc
    · exact hrest c hc
  have hspan : ((digits ++ rest).take width).takeWhile Char.isDigit = digits := by
    rw [List.take_append, List.take_of_length_le hwidth]
    exact (takeWhile_dropWhile_append hdigits hstop).1
  simp [leadingDigits?, hspan, hne]

/-- What is read as digits are digits, and not too many. -/
theorem leadingDigits?_eq_some {width : Nat} {text digits rest : List Char}
    (h : leadingDigits? width text = some (digits, rest)) :
    (∀ c ∈ digits, c.isDigit = true) ∧ digits.length ≤ width := by
  unfold leadingDigits? at h
  dsimp only at h
  split at h
  · cases h
  · obtain ⟨rfl, -⟩ := Prod.mk.inj (Option.some.inj h)
    refine ⟨List.all_eq_true.1 List.all_takeWhile, ?_⟩
    exact Nat.le_trans (List.takeWhile_prefix _).length_le (List.length_take_le _ _)

/-- A written number is read back, up to the character behind it. -/
theorem leadingNumber?_padded {width least n : Nat} {rest : List Char}
    (hwidth : (padded least n).length ≤ width)
    (hrest : ∀ c, rest.head? = some c → c.isDigit = false) :
    leadingNumber? width (padded least n ++ rest) = some (n, rest) := by
  simp [leadingNumber?, leadingDigits?_append (fun _ => isDigit_of_mem_padded)
    (padded_ne_nil least n) hwidth hrest]

end ObjectStorage.Text
