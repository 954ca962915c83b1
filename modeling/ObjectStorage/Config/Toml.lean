import ObjectStorage.Config
import ObjectStorage.Text.EscapeLetter

/-!
# Configuration documents

A configuration is written as a TOML document of integer settings, one to a
line. `Toml.settings?` reads such a document into its keys and values, and
refuses every other one; `CacheConfig.ofToml` takes the settings of a cache from
it and validates them.
-/

namespace ObjectStorage

namespace Toml

/-- The lines of a document, which end in a line feed with or without a carriage return. -/
def splitLines : List Char → List (List Char)
  | [] => [[]]
  | '\n' :: rest => [] :: splitLines rest
  | '\r' :: '\n' :: rest => [] :: splitLines rest
  | c :: rest =>
    match splitLines rest with
    | [] => [[c]]
    | line :: lines => (c :: line) :: lines

/-- The blanks within a line. -/
def isBlank (c : Char) : Bool :=
  c == ' ' || c == '\t'

/-- The text without the blanks it starts with. -/
def skipBlanks (text : List Char) : List Char :=
  text.dropWhile isBlank

/-- Says that `c` may stand in a comment or between quotes: it is no control character. -/
def isPlain (c : Char) : Bool :=
  c == '\t' || (0x20 ≤ c.toNat && c.toNat != 0x7f)

/-- Says that nothing but a comment is left of a line. -/
def isLineEnd (text : List Char) : Bool :=
  match skipBlanks text with
  | [] => true
  | '#' :: comment => comment.all isPlain
  | _ => false

/-- Says that `c` may stand in a key without quotes. -/
def isBareKeyChar (c : Char) : Bool :=
  c.isAlphanum || c == '_' || c == '-'

/-- The number that hexadecimal digits stand for. -/
def hexNumber? (digits : List Char) : Option Nat :=
  digits.foldlM (fun n c => (Bytes.hexValue? c).map (16 * n + ·)) 0

/-- The character that hexadecimal digits name. -/
def scalar? (digits : List Char) : Option Char :=
  (hexNumber? digits).bind fun n =>
    if n < 0xd800 ∨ 0xdfff < n ∧ n < 0x110000 then some (Char.ofNat n) else none

/-- Reads the rest of a key between double quotes, with its escapes, and the closing quote. -/
def basicKey? : List Char → Option (List Char × List Char)
  | [] => none
  | '"' :: rest => some ([], rest)
  | '\\' :: 'u' :: a :: b :: c :: d :: rest => do
    let character ← scalar? [a, b, c, d]
    let (key, rest) ← basicKey? rest
    return (character :: key, rest)
  | '\\' :: 'U' :: a :: b :: c :: d :: e :: f :: g :: h :: rest => do
    let character ← scalar? [a, b, c, d, e, f, g, h]
    let (key, rest) ← basicKey? rest
    return (character :: key, rest)
  | '\\' :: c :: rest => do
    let character ← Text.escapedBy? c
    let (key, rest) ← basicKey? rest
    return (character :: key, rest)
  | c :: rest =>
    if c ≠ '\\' ∧ isPlain c then (basicKey? rest).map fun (key, rest) => (c :: key, rest)
    else none

/-- Reads the rest of a key between single quotes, which has no escapes, and the closing quote. -/
def literalKey? : List Char → Option (List Char × List Char)
  | [] => none
  | '\'' :: rest => some ([], rest)
  | c :: rest =>
    if isPlain c then (literalKey? rest).map fun (key, rest) => (c :: key, rest) else none

/-- Reads a key, with or without quotes. -/
def key? : List Char → Option (List Char × List Char)
  | '"' :: rest => basicKey? rest
  | '\'' :: rest => literalKey? rest
  | text =>
    let key := text.takeWhile isBareKeyChar
    if key = [] then none else some (key, text.dropWhile isBareKeyChar)

/-- The digits of a number in which single underscores may stand between digits. -/
def ungroup? (isDigit : Char → Bool) : List Char → Option (List Char)
  | [] => none
  | [c] => if isDigit c then some [c] else none
  | c :: '_' :: rest => if isDigit c then (ungroup? isDigit rest).map (c :: ·) else none
  | c :: rest => if isDigit c then (ungroup? isDigit rest).map (c :: ·) else none

/-- The number that grouped digits stand for in a base of at most sixteen. -/
def digits? (base : Nat) (text : List Char) : Option Nat := do
  let isDigit (c : Char) : Bool := (Bytes.hexValue? c).any (· < base)
  let digits ← ungroup? isDigit text
  return digits.foldl (fun n c => base * n + (Bytes.hexValue? c).getD 0) 0

/-- The number that decimal digits stand for; a zero cannot lead other digits. -/
def decimal? : List Char → Option Nat
  | '0' :: _ :: _ => none
  | text => digits? 10 text

/-- The integer that a word stands for: decimal with an optional sign, or hexadecimal, octal or
binary behind its mark. It has to fit into 64 bits with a sign. -/
def integer? (word : List Char) : Option Int := do
  let n : Int ← match word with
    | '0' :: 'x' :: rest => (digits? 16 rest).map Int.ofNat
    | '0' :: 'o' :: rest => (digits? 8 rest).map Int.ofNat
    | '0' :: 'b' :: rest => (digits? 2 rest).map Int.ofNat
    | '+' :: rest => (decimal? rest).map Int.ofNat
    | '-' :: rest => (decimal? rest).map fun n => -(n : Int)
    | rest => (decimal? rest).map Int.ofNat
  if Word.leastSigned ≤ n ∧ n ≤ Word.greatestSigned then some n else none

/-- Reads a line: an integer setting, or nothing at all. -/
def line? (line : List Char) : Option (Option (String × Int)) :=
  if isLineEnd line then some none
  else do
    let (key, rest) ← key? (skipBlanks line)
    match skipBlanks rest with
    | '=' :: rest =>
      let value := skipBlanks rest
      let isWord (c : Char) : Bool := !isBlank c && c != '#'
      let n ← integer? (value.takeWhile isWord)
      if isLineEnd (value.dropWhile isWord) then some (some (String.ofList key, n)) else none
    | _ => none

/-- The settings of a document in order; a byte order mark may lead it. -/
def settings? (source : String) : Option (List (String × Int)) := do
  let text := match source.toList with
    | '\ufeff' :: rest => rest
    | all => all
  return (← (splitLines text).mapM line?).filterMap id

end Toml

namespace CacheConfig

/-- The key of the lifetime of an entry in milliseconds. -/
def maxEntryAgeKey : String := "max_entry_age_ms"

/-- The key of the number of entries. -/
def maxEntriesKey : String := "max_entries"

/-- The value of a setting, which is a natural number and is set at most once; it may be left
out. -/
def setting? (settings : List (String × Int)) (key : String) : Option (Option Nat) :=
  match settings.filter (·.1 = key) with
  | [] => some none
  | [(_, n)] => if 0 ≤ n then some (some n.toNat) else none
  | _ => none

/-- The settings of a cache that a document gives, before they are validated. -/
def ofSettings? (settings : List (String × Int)) : Option CacheConfig := do
  if settings.all fun (key, _) => key = maxEntryAgeKey ∨ key = maxEntriesKey then
    return ofOptions (← setting? settings maxEntryAgeKey) (← setting? settings maxEntriesKey)
  else none

/-- The valid settings of a cache that a document gives. -/
def ofToml (source : String) : Except Error CacheConfig :=
  match (Toml.settings? source).bind ofSettings? with
  | none => .error (ConfigError.parse "not a document of integer settings")
  | some config => config.validate.map fun () => config

end CacheConfig

end ObjectStorage
