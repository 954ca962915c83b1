import Mathlib.Algebra.Group.Nat.Defs
import Mathlib.Data.List.Basic
import ObjectStorage.Text.Decimal

/-!
# Widths and powers of ten

A row of decimal digits stands for a number below the power of ten with as many
zeros (`Text.digitsValue_lt`), and a number below that power is written in as many
digits (`Text.length_padded`). Zeros behind the digits multiply the number, and
none is written before them (`Text.head?_decimal_ne_zero`).
-/

namespace ObjectStorage.Text

/-- Zeros behind a row of digits multiply its value. -/
theorem digitsValue_append_zeros (digits : List Char) (k : Nat) :
    digitsValue (digits ++ List.replicate k '0') = digitsValue digits * 10 ^ k := by
  rw [digitsValue, Nat.ofDigitChars_append, Nat.ofDigitChars_replicate_zero, Nat.mul_comm]
  rfl

/-- The value of a row of digits is below the power of ten with as many zeros. -/
theorem digitsValue_lt {digits : List Char} (hdigits : ∀ c ∈ digits, c.isDigit = true) :
    digitsValue digits < 10 ^ digits.length := by
  induction digits with
  | nil => exact Nat.one_pos
  | cons c rest ih =>
    obtain ⟨hc, hrest⟩ := List.forall_mem_cons.1 hdigits
    have hdigit : c.toNat - '0'.toNat ≤ 9 := by
      have hle : c.toNat ≤ '9'.toNat := (isDigit_iff.1 hc).2
      show c.toNat - 48 ≤ 9
      exact Nat.sub_le_of_le_add hle
    calc digitsValue (c :: rest)
        = 10 ^ rest.length * (c.toNat - '0'.toNat) + digitsValue rest := by
          rw [digitsValue, Nat.ofDigitChars_cons, Nat.ofDigitChars_eq_ofDigitChars_zero,
            Nat.mul_zero, Nat.zero_add]
          rfl
      _ < 10 ^ rest.length * (c.toNat - '0'.toNat) + 10 ^ rest.length :=
          Nat.add_lt_add_left (ih hrest) _
      _ = 10 ^ rest.length * (c.toNat - '0'.toNat + 1) := (Nat.mul_succ _ _).symm
      _ ≤ 10 ^ rest.length * 10 := Nat.mul_le_mul_left _ (Nat.succ_le_succ hdigit)
      _ = 10 ^ (c :: rest).length := (Nat.pow_succ ..).symm

/-- A number below a power of ten is written in as many digits as that has zeros. -/
theorem length_padded {width n : Nat} (hwidth : 0 < width) (hn : n < 10 ^ width) :
    (padded width n).length = width := by
  have hle : (decimal n).length ≤ width := (Nat.length_toDigits_le_iff (by decide) hwidth).2 hn
  rw [padded, List.length_leftpad]
  exact Nat.max_eq_left hle

/-- A number that is not zero is written without a zero in front. -/
theorem head?_decimal_ne_zero {n : Nat} (h : 0 < n) : (decimal n).head? ≠ some '0' := by
  induction n using Nat.strongRecOn with
  | _ n ih =>
    unfold decimal
    by_cases hlt : n < 10
    · have hall : ∀ n < 10, 0 < n → n.digitChar ≠ '0' := by decide
      rw [Nat.toDigits_of_lt_base hlt]
      simpa using hall n hlt h
    · rw [Nat.toDigits_of_base_le (by decide) (by omega),
        List.head?_append_of_ne_nil _ Nat.toDigits_ne_nil]
      exact ih (n / 10) (by omega) (by omega)

/-- A written number starts with a digit. -/
theorem exists_decimal (n : Nat) : ∃ c rest, decimal n = c :: rest ∧ c.isDigit = true :=
  exists_cons_of_digits (decimal_ne_nil n) fun _ => isDigit_of_mem_decimal

end ObjectStorage.Text
