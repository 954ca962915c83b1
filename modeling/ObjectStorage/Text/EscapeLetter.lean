/-!
# Escape letters

In a quoted text some characters are written as a backslash and a letter.
`escapeLetter?` gives the letter of a character and `escapedBy?` the character
of a letter; `escapedBy?_eq_some_iff` says that the two are inverse.
-/

namespace ObjectStorage.Text

/-- The letter that is written behind a backslash for a character. -/
def escapeLetter? : Char → Option Char
  | '"' => some '"'
  | '\\' => some '\\'
  | '\x08' => some 'b'
  | '\x0c' => some 'f'
  | '\n' => some 'n'
  | '\r' => some 'r'
  | '\t' => some 't'
  | _ => none

/-- The character that a letter stands for behind a backslash. -/
def escapedBy? : Char → Option Char
  | '"' => some '"'
  | '\\' => some '\\'
  | 'b' => some '\x08'
  | 'f' => some '\x0c'
  | 'n' => some '\n'
  | 'r' => some '\r'
  | 't' => some '\t'
  | _ => none

/-- A letter stands for exactly the character that it is written for. -/
theorem escapedBy?_eq_some_iff {letter c : Char} :
    escapedBy? letter = some c ↔ escapeLetter? c = some letter := by
  constructor
  · intro h
    unfold escapedBy? at h
    split at h <;> cases h <;> rfl
  · intro h
    unfold escapeLetter? at h
    split at h <;> cases h <;> rfl

end ObjectStorage.Text
