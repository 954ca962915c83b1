import ObjectStorage.Bytes
import ObjectStorage.Json
import ObjectStorage.Text.Decimal

/-!
# The meaning of JSON literals

`Json.escape` writes a text as a string literal and `Json.unescape?` reads one;
`Json.ofInt` and `Json.int?` do the same for integers, which have neither a
fraction nor an exponent. A negative zero is not an integer.
-/

namespace ObjectStorage.Json

open Text

/-- One character of a string literal. Only quotes, backslashes and the control characters below
the space are written as escapes, by their letter if they have one. -/
def escapeChar (c : Char) : List Char :=
  match escapeLetter? c with
  | some letter => ['\\', letter]
  | none =>
    if c.toNat < 0x20 then
      '\\' :: 'u' :: '0' :: '0' :: [c.toNat / 16, c.toNat % 16].map Nat.digitChar
    else [c]

/-- The string literal of a text. -/
def escape (text : List Char) : List Char :=
  text.flatMap escapeChar

/-- The code unit that four hexadecimal digits stand for. -/
def codeUnit? (a b c d : Char) : Option Nat := do
  return ((← Bytes.hexValue? a) * 16 + (← Bytes.hexValue? b)) * 256 +
    ((← Bytes.hexValue? c) * 16 + (← Bytes.hexValue? d))

/-- Says that a code unit is the first half of a pair. -/
def isHighSurrogate (unit : Nat) : Bool := 0xd800 ≤ unit && unit < 0xdc00

/-- Says that a code unit is the second half of a pair. -/
def isLowSurrogate (unit : Nat) : Bool := 0xdc00 ≤ unit && unit < 0xe000

/-- The character that a letter stands for behind a backslash; a slash stands for itself. -/
def escapedLetter? (letter : Char) : Option Char :=
  if letter = '/' then some '/' else escapedBy? letter

/-- What follows the second half of a pair, and the code unit of that half. -/
def lowSurrogate? : List Char → Option (Nat × List Char)
  | '\\' :: 'u' :: a :: b :: c :: d :: rest => do
    let unit ← codeUnit? a b c d
    if isLowSurrogate unit then some (unit, rest) else none
  | _ => none

theorem length_lowSurrogate? {text rest : List Char} {unit : Nat}
    (h : lowSurrogate? text = some (unit, rest)) : rest.length < text.length := by
  unfold lowSurrogate? at h
  split at h
  · obtain ⟨_, _, h⟩ := Option.bind_eq_some_iff.1 h
    split at h
    · obtain ⟨rfl, rfl⟩ := Prod.mk.inj (Option.some.inj h)
      simp only [List.length_cons]
      omega
    · cases h
  · cases h

/-- The text that a string literal stands for; half of a surrogate pair stands for none. -/
def unescape? : List Char → Option (List Char)
  | [] => some []
  | '\\' :: 'u' :: a :: b :: c :: d :: rest =>
    match codeUnit? a b c d with
    | none => none
    | some unit =>
      if isLowSurrogate unit then none
      else if isHighSurrogate unit then
        match h : lowSurrogate? rest with
        | none => none
        | some (low, after) =>
          (unescape? after).map
            (Char.ofNat (0x10000 + (unit - 0xd800) * 0x400 + (low - 0xdc00)) :: ·)
      else (unescape? rest).map (Char.ofNat unit :: ·)
  | '\\' :: c :: rest =>
    match escapedLetter? c with
    | none => none
    | some letter => (unescape? rest).map (letter :: ·)
  | c :: rest => if c = '\\' then none else (unescape? rest).map (c :: ·)
termination_by text => text.length
decreasing_by
  all_goals simp only [List.length_cons]
  · have := length_lowSurrogate? h
    omega
  all_goals omega

/-- A text as a value. -/
def ofString (text : String) : Json := string (escape text.toList)

/-- The text that a value is. -/
def string? : Json → Option String
  | string literal => (unescape? literal).map String.ofList
  | _ => none

/-- A natural number as a value. -/
def ofNat (n : Nat) : Json := number (decimal n)

/-- An integer as a value. -/
def ofInt (n : Int) : Json :=
  if n < 0 then number ('-' :: decimal n.natAbs) else number (decimal n.natAbs)

/-- The integer that a number literal stands for, if it is written as one. -/
def integerLiteral? : List Char → Option Int
  | '-' :: digits =>
    if digits.all Char.isDigit ∧ digitsValue digits ≠ 0 then some (-digitsValue digits) else none
  | digits => if digits.all Char.isDigit then some (digitsValue digits) else none

/-- The integer between two bounds that a value is. -/
def int? (least greatest : Int) : Json → Option Int
  | number literal => (integerLiteral? literal).filter fun n => least ≤ n && n ≤ greatest
  | _ => none

/-- The natural number below a bound that a value is. -/
def nat? (bound : Nat) (value : Json) : Option Nat :=
  (value.int? 0 (bound - 1)).map Int.toNat

/-- The truth value that a value is. -/
def bool? : Json → Option Bool
  | bool value => some value
  | _ => none

/-- The items of an array. -/
def items? : Json → Option (List Json)
  | array items => some items
  | _ => none

/-- An object whose keys are texts. -/
def ofFields (fields : List (String × Json)) : Json :=
  object (fields.map fun (key, value) => (escape key.toList, value))

/-- The fields of an object with their keys as texts. -/
def fields? : Json → Option (List (String × Json))
  | object fields => fields.mapM fun (key, value) => do
    return (String.ofList (← unescape? key), value)
  | _ => none

end ObjectStorage.Json
