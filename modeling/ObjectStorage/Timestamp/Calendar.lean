/-!
# The calendar

`Date.ofDays` and `Date.toDays` turn a count of days since the start of 1970
into a date of the proleptic Gregorian calendar and back. Both count from the
first of March of the year 0: a span of 400 years has 146097 days, and a year
that starts in March has its leap day at the end.
-/

namespace ObjectStorage

/-- A day of the proleptic Gregorian calendar. -/
structure Date where
  year : Int
  month : Nat
  day : Nat
deriving DecidableEq

namespace Date

/-- Says that the year has a leap day. -/
def isLeapYear (year : Int) : Bool :=
  year % 4 == 0 && (year % 100 != 0 || year % 400 == 0)

/-- The number of days of a month. -/
def daysInMonth (year : Int) (month : Nat) : Nat :=
  if month = 2 then (if isLeapYear year then 29 else 28)
  else if month = 4 ∨ month = 6 ∨ month = 9 ∨ month = 11 then 30
  else 31

/-- Says that the day occurs in the calendar. -/
def isValid (d : Date) : Bool :=
  1 ≤ d.month && d.month ≤ 12 && 1 ≤ d.day && d.day ≤ daysInMonth d.year d.month

/-- Days from the first of March to the first of the `m`-th month after March. -/
def daysBeforeMonth (m : Nat) : Nat :=
  (153 * m + 2) / 5

/-- Days from the start of a span of 400 years to the start of its `y`-th year. -/
def daysBeforeYear (y : Nat) : Nat :=
  365 * y + y / 4 - y / 100

/-- The date that lies `days` after the start of 1970. -/
def ofDays (days : Int) : Date :=
  let shifted := days + 719468
  let span := shifted / 146097
  let dayOfSpan := (shifted % 146097).toNat
  let yearOfSpan :=
    (dayOfSpan - dayOfSpan / 1460 + dayOfSpan / 36524 - dayOfSpan / 146096) / 365
  let dayOfYear := dayOfSpan - daysBeforeYear yearOfSpan
  let fromMarch := (5 * dayOfYear + 2) / 153
  { year := span * 400 + yearOfSpan + (if fromMarch < 10 then 0 else 1)
    month := if fromMarch < 10 then fromMarch + 3 else fromMarch - 9
    day := dayOfYear - daysBeforeMonth fromMarch + 1 }

/-- How many days after the start of 1970 the date lies. -/
def toDays (d : Date) : Int :=
  let year := if d.month ≤ 2 then d.year - 1 else d.year
  let fromMarch := if d.month ≤ 2 then d.month + 9 else d.month - 3
  let dayOfYear := daysBeforeMonth fromMarch + d.day - 1
  year / 400 * 146097 + daysBeforeYear (year % 400).toNat + dayOfYear - 719468

end Date

end ObjectStorage
