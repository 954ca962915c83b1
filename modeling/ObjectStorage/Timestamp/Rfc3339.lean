import ObjectStorage.Text.Decimal
import ObjectStorage.Timestamp
import ObjectStorage.Timestamp.Calendar

/-!
# Timestamps as text

`toRfc3339` writes an instant in universal time with the fewest of no, three,
six or nine fraction digits that are exact; a year outside 0 to 9999 has a sign,
and a leap second is second 60. `ofRfc3339?` also reads other spellings: any
offset, blanks around the parts of the date and the time, one digit for a
month, day, hour, minute or second, and signed years.
-/

namespace ObjectStorage.Timestamp

open Text

/-- A year as four digits, or with a sign and at least four digits when it needs one. -/
def yearText (year : Int) : List Char :=
  if 0 ≤ year ∧ year ≤ 9999 then padded 4 year.toNat
  else (if year < 0 then '-' else '+') :: padded 4 year.natAbs

/-- The fraction of a second, in the fewest of no, three, six or nine digits. -/
def fractionText (nanos : Nat) : List Char :=
  if nanos = 0 then []
  else if nanos % 1000000 = 0 then '.' :: padded 3 (nanos / 1000000)
  else if nanos % 1000 = 0 then '.' :: padded 6 (nanos / 1000)
  else '.' :: padded 9 nanos

/-- A date with dashes. -/
def dateText (date : Date) : List Char :=
  yearText date.year ++ '-' :: padded 2 date.month ++ '-' :: padded 2 date.day

/-- The instant in universal time. -/
def toRfc3339 (t : Timestamp) : String :=
  let date := Date.ofDays (t.seconds / 86400)
  let secondOfDay := (t.seconds % 86400).toNat
  let leap := t.nanos / 1000000000
  String.ofList <|
    dateText date ++ 'T' :: padded 2 (secondOfDay / 3600) ++
      ':' :: padded 2 (secondOfDay / 60 % 60) ++
      ':' :: padded 2 (secondOfDay % 60 + leap) ++
      fractionText (t.nanos % 1000000000) ++ ['Z']

/-- The blanks that may stand between the parts of a date. -/
def isBlank (c : Char) : Bool :=
  c.isWhitespace ||
    [0x0b, 0x0c, 0x85, 0xa0, 0x1680, 0x2028, 0x2029, 0x202f, 0x205f, 0x3000].contains c.toNat ||
    (0x2000 ≤ c.toNat && c.toNat ≤ 0x200a)

/-- The text without the blanks it starts with. -/
def skipBlanks (text : List Char) : List Char :=
  text.dropWhile isBlank

/-- Reads one character. -/
def expect? (c : Char) : List Char → Option (List Char)
  | [] => none
  | d :: rest => if d = c then some rest else none

/-- Reads a number of one or two digits after blanks. -/
def shortNumber? (text : List Char) : Option (Nat × List Char) :=
  leadingNumber? 2 (skipBlanks text)

/-- Reads a year after blanks: at most four digits, or a sign and any number of digits. -/
def year? (text : List Char) : Option (Int × List Char) :=
  match skipBlanks text with
  | '-' :: rest => (leadingNumber? rest.length rest).map fun (n, rest) => (-n, rest)
  | '+' :: rest => (leadingNumber? rest.length rest).map fun (n, rest) => (n, rest)
  | rest => (leadingNumber? 4 rest).map fun (n, rest) => (n, rest)

/-- Reads a date with dashes. -/
def date? (text : List Char) : Option (Date × List Char) := do
  let (year, text) ← year? text
  let text ← expect? '-' (skipBlanks text)
  let (month, text) ← shortNumber? text
  let text ← expect? '-' (skipBlanks text)
  let (day, text) ← shortNumber? text
  return (⟨year, month, day⟩, text)

/-- Reads the fraction of a second if there is one: nine digits count and more are skipped. -/
def fraction? : List Char → Option (Nat × List Char)
  | '.' :: text => do
    let (digits, text) ← leadingDigits? 9 text
    return (digitsValue (digits.rightpad 9 '0'), text.dropWhile Char.isDigit)
  | text => some (0, text)

/-- A time of day with its fraction; second 60 is a leap second. -/
structure TimeOfDay where
  hour : Nat
  minute : Nat
  second : Nat
  nanos : Nat

/-- Says that the time occurs in a day. -/
def TimeOfDay.isValid (t : TimeOfDay) : Bool :=
  t.hour ≤ 23 && t.minute ≤ 59 && t.second ≤ 60

/-- Reads a time of day with colons. -/
def timeOfDay? (text : List Char) : Option (TimeOfDay × List Char) := do
  let (hour, text) ← shortNumber? text
  let text ← expect? ':' (skipBlanks text)
  let (minute, text) ← shortNumber? text
  let text ← expect? ':' (skipBlanks text)
  let (second, text) ← shortNumber? text
  let (nanos, text) ← fraction? text
  return (⟨hour, minute, second, nanos⟩, text)

/-- Reads the two digits of an offset; the tens are at most `tens`. -/
def offsetPart? (tens : Nat) : List Char → Option (Nat × List Char)
  | a :: b :: rest =>
    if a.isDigit && b.isDigit && a.toNat - '0'.toNat ≤ tens then
      some (digitsValue [a, b], rest)
    else none
  | _ => none

/-- Reads an offset from universal time in seconds: a letter, or a sign, hours and minutes with
colons and blanks between them. -/
def offset? (text : List Char) : Option (Int × List Char) :=
  match text with
  | 'Z' :: rest | 'z' :: rest => some (0, rest)
  | sign :: rest => do
    let direction : Int ←
      if sign = '+' then some 1 else if sign = '-' ∨ sign = '\u2212' then some (-1) else none
    let (hours, rest) ← offsetPart? 9 rest
    let (minutes, rest) ← offsetPart? 5 (rest.dropWhile fun c => c == ':' || isBlank c)
    return (direction * (hours * 3600 + minutes * 60 : Nat), rest)
  | [] => none

/-- Reads the name of universal time or an offset, after blanks. -/
def zone? (text : List Char) : Option (Int × List Char) :=
  match skipBlanks text with
  | u :: t :: c :: rest =>
    if [u, t, c].map Char.toUpper = ['U', 'T', 'C'] then some (0, rest)
    else offset? (u :: t :: c :: rest)
  | rest => offset? rest

/-- The instant at which clocks that are `offset` seconds ahead of universal time show this date
and time. The local date has to be in range as well as the instant. -/
def ofLocal? (date : Date) (time : TimeOfDay) (offset : Int) : Option Timestamp :=
  if date.isValid && time.isValid && -262143 ≤ date.year && date.year ≤ 262142 &&
      offset.natAbs < 86400 then
    let second := min time.second 59
    let seconds := date.toDays * 86400 + (time.hour * 3600 + time.minute * 60 + second : Nat)
    ofUnix? (seconds - offset) (time.nanos + (time.second - second) * 1000000000)
  else none

/-- Reads an instant; nothing but blanks may follow it. -/
def ofRfc3339? (text : String) : Option Timestamp := do
  let (date, rest) ← date? text.toList
  let rest ← match rest with
    | 'T' :: rest | 't' :: rest | ' ' :: rest => some rest
    | _ => none
  let (time, rest) ← timeOfDay? rest
  let (offset, rest) ← zone? rest
  if skipBlanks rest = [] then ofLocal? date time offset else none

end ObjectStorage.Timestamp
