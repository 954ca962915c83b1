import ObjectStorage.Text.EscapedRanges

/-!
# Quoted names

Error messages show a name between double quotes. `quoted` writes it: the quote
and the backslash take a backslash, the usual control characters have a letter,
and every other character that would not be seen as itself is written as its
code point in braces.
-/

namespace ObjectStorage.Text

/-- Says that `c` would not be seen as itself in a message. -/
def isEscaped (c : Char) : Bool :=
  escapedRanges.any fun (first, last) => first ≤ c.toNat && c.toNat ≤ last

/-- One character of a quoted name. -/
def quotedChar : Char → List Char
  | '"' => ['\\', '"']
  | '\\' => ['\\', '\\']
  | '\n' => ['\\', 'n']
  | '\r' => ['\\', 'r']
  | '\t' => ['\\', 't']
  | '\x00' => ['\\', '0']
  | c => if isEscaped c then '\\' :: 'u' :: '\x7b' :: Nat.toDigits 16 c.toNat ++ ['\x7d'] else [c]

/-- A name between double quotes, with the characters that need it escaped. -/
def quoted (name : String) : String :=
  String.ofList ('"' :: name.toList.flatMap quotedChar ++ ['"'])

end ObjectStorage.Text
