/-!
# Bytes

Contents and metadata values are finite sequences of bytes. Their text form is
lowercase hexadecimal, two digits for each byte.
-/

namespace ObjectStorage

/-- The content of an object, or a metadata value. -/
abbrev Bytes := List UInt8

namespace Bytes

/-- Two lowercase hexadecimal digits for each byte. -/
def toHex (bytes : Bytes) : String :=
  String.ofList <| bytes.flatMap fun b =>
    [Nat.digitChar (b.toNat / 16), Nat.digitChar (b.toNat % 16)]

/-- The value of a hexadecimal digit of either case. -/
def hexValue? (c : Char) : Option Nat :=
  if '0' ≤ c ∧ c ≤ '9' then some (c.toNat - '0'.toNat)
  else if 'a' ≤ c ∧ c ≤ 'f' then some (c.toNat - 'a'.toNat + 10)
  else if 'A' ≤ c ∧ c ≤ 'F' then some (c.toNat - 'A'.toNat + 10)
  else none

/-- The bytes that an even number of hexadecimal digits stands for, two digits for each. -/
def ofHex? (text : String) : Option Bytes := do
  let digits := (← text.toList.mapM hexValue?).toArray
  if digits.size % 2 = 0 then
    return (List.range (digits.size / 2)).map fun i =>
      UInt8.ofNat (16 * digits.getD (2 * i) 0 + digits.getD (2 * i + 1) 0)
  else none

end Bytes

end ObjectStorage
