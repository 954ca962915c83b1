import Mathlib.Tactic.IntervalCases
import ObjectStorage.Timestamp.Calendar

/-!
# Counting days

Every count of days is the day of one date. `Date.toDays_ofDays` says that the
date of a count counts back to it, `Date.isValid_ofDays` that it occurs in the
calendar, and `Date.year_ofDays` in which years the dates of a range of counts lie.
All three go through the year that starts in March: `Date.ofMarch` is the date of
one of its days, and `Date.exists_ofMarch` says that every count has such a day.
-/

namespace ObjectStorage.Date

/-- The date of a day of the year that starts in March of the year `year`. -/
def ofMarch (year : Int) (dayOfYear : Nat) : Date :=
  let fromMarch := (5 * dayOfYear + 2) / 153
  { year := year + (if fromMarch < 10 then 0 else 1)
    month := if fromMarch < 10 then fromMarch + 3 else fromMarch - 9
    day := dayOfYear - daysBeforeMonth fromMarch + 1 }

/-- Says that the year that starts in March of the year `year` has this day; the last one is a leap
day. -/
def InMarchYear (year : Int) (dayOfYear : Nat) : Prop :=
  dayOfYear < 365 ∨ dayOfYear = 365 ∧ isLeapYear (year + 1) = true

/-- Every fourth year has a leap day, but only every fourth of those that end a century. -/
theorem isLeapYear_iff {year : Int} :
    isLeapYear year = true ↔ year % 4 = 0 ∧ (year % 100 ≠ 0 ∨ year % 400 = 0) := by
  simp [isLeapYear]

/-- A day of a span of 400 years lies in a century of the span, in a cycle of four years of the
century and in a year of the cycle. A leap day ends a cycle, and ends a century only if it ends the
span. -/
theorem exists_position {day : Nat} (h : day < 146097) :
    ∃ century cycle year rest, century < 4 ∧ cycle < 25 ∧ year < 4 ∧
      day = 36524 * century + 1461 * cycle + 365 * year + rest ∧
      (rest < 365 ∨ rest = 365 ∧ year = 3 ∧ (cycle = 24 → century = 3)) := by
  let century := min (day / 36524) 3
  let dayOfCentury := day - 36524 * century
  let cycle := min (dayOfCentury / 1461) 24
  let dayOfCycle := dayOfCentury - 1461 * cycle
  let year := min (dayOfCycle / 365) 3
  have hcentury : 36524 * century ≤ day ∧
      (dayOfCentury < 36524 ∨ century = 3 ∧ dayOfCentury = 36524) := by omega
  have hcycle : 1461 * cycle ≤ dayOfCentury ∧ dayOfCycle < 1461 ∧
      (cycle = 24 → dayOfCycle < 1460 ∨ century = 3) := by omega
  refine ⟨century, cycle, year, dayOfCycle - 365 * year, ?_, ?_, ?_, ?_, ?_⟩ <;> omega

/-- The year of a span in which a day lies. -/
theorem yearOfSpan_eq {century cycle year rest : Nat} (hcentury : century < 4) (hcycle : cycle < 25)
    (hyear : year < 4)
    (hrest : rest < 365 ∨ rest = 365 ∧ year = 3 ∧ (cycle = 24 → century = 3)) :
    let day := 36524 * century + 1461 * cycle + 365 * year + rest
    (day - day / 1460 + day / 36524 - day / 146096) / 365 = 100 * century + 4 * cycle + year := by
  intro day
  -- A leap day is the 1461st of its cycle, and one more day is taken off for it.
  have hleapDays : day / 1460 = 25 * century + cycle +
      if 1460 ≤ 24 * century + cycle + 365 * year + rest then 1 else 0 := by
    split <;> omega
  have hcenturies : day / 36524 = century + day / 146096 := by
    by_cases hlast : day = 146096
    · omega
    · have hbefore : day < 146096 ∧ day < 36524 * century + 36524 := by omega
      rw [Nat.div_eq_of_lt hbefore.1]
      omega
  split at hleapDays <;> omega

/-- The days of a span before one of its years. -/
theorem daysBeforeYear_eq (century : Nat) {cycle year : Nat} (hcycle : cycle < 25)
    (hyear : year < 4) :
    daysBeforeYear (100 * century + 4 * cycle + year) =
      36524 * century + 1461 * cycle + 365 * year := by
  unfold daysBeforeYear
  omega

/-- Every count of days falls on a day of a year that starts in March. -/
theorem exists_ofMarch (days : Int) :
    ∃ (year : Int) (dayOfYear : Nat), InMarchYear year dayOfYear ∧
      ofDays days = ofMarch year dayOfYear ∧
      days + 719468 =
        year / 400 * 146097 + daysBeforeYear (year % 400).toNat + dayOfYear := by
  obtain ⟨span, hspan⟩ : ∃ span, span = (days + 719468) / 146097 := ⟨_, rfl⟩
  obtain ⟨day, hday⟩ : ∃ day, day = ((days + 719468) % 146097).toNat := ⟨_, rfl⟩
  have hdays : days + 719468 = span * 146097 + day := by omega
  obtain ⟨century, cycle, year, rest, hcentury, hcycle, hyear, rfl, hrest⟩ :=
    exists_position (show day < 146097 by omega)
  have hyears := yearOfSpan_eq hcentury hcycle hyear hrest
  have hbefore := daysBeforeYear_eq century hcycle hyear
  dsimp only at hyears
  refine ⟨span * 400 + (100 * century + 4 * cycle + year : Nat), rest, ?_, ?_, ?_⟩
  · rcases hrest with hrest | ⟨hrest, hlast, hends⟩
    · exact .inl hrest
    · refine .inr ⟨hrest, ?_⟩
      clear hspan hday hdays hyears hbefore
      rw [isLeapYear_iff]
      omega
  · simp only [ofDays, ofMarch, ← hspan, ← hday, hyears, hbefore, Nat.add_sub_cancel_left]
  · have hmod : ((span * 400 + (100 * century + 4 * cycle + year : Nat)) % 400).toNat =
        100 * century + 4 * cycle + year := by
      clear hspan hday hdays hyears hbefore
      omega
    have hdiv : (span * 400 + (100 * century + 4 * cycle + year : Nat)) / 400 = span := by
      clear hspan hday hdays hyears hbefore hmod
      omega
    rw [hmod, hdiv, hbefore, hdays]
    omega

/-- The month of a day of a year that starts in March, counted from March, and the day in it. -/
theorem exists_month {dayOfYear : Nat} (h : dayOfYear < 366) :
    ∃ fromMarch day, fromMarch < 12 ∧ (5 * dayOfYear + 2) / 153 = fromMarch ∧
      dayOfYear = daysBeforeMonth fromMarch + day ∧
      day < daysBeforeMonth (fromMarch + 1) - daysBeforeMonth fromMarch := by
  unfold daysBeforeMonth
  refine ⟨(5 * dayOfYear + 2) / 153, dayOfYear - (153 * ((5 * dayOfYear + 2) / 153) + 2) / 5,
    ?_, rfl, ?_, ?_⟩ <;> omega

/-- The date of a day counts back to it. -/
theorem toDays_ofMarch {year : Int} {dayOfYear : Nat} (h : dayOfYear < 366) :
    (ofMarch year dayOfYear).toDays =
      year / 400 * 146097 + daysBeforeYear (year % 400).toNat + dayOfYear - 719468 := by
  obtain ⟨fromMarch, day, hmonth, hfrom, rfl, -⟩ := exists_month h
  simp only [ofMarch, hfrom, toDays, Nat.add_sub_cancel_left]
  by_cases hwrap : fromMarch < 10
  · have hlate : ¬ fromMarch + 3 ≤ 2 := by omega
    simp only [hwrap, ↓reduceIte, hlate, Nat.add_sub_cancel, Int.add_zero]
    omega
  · have hearly : fromMarch - 9 ≤ 2 := by omega
    have hback : fromMarch - 9 + 9 = fromMarch := by omega
    simp only [hwrap, ↓reduceIte, hearly, hback, Int.add_sub_cancel]
    omega

/-- A month but February has as many days as there are up to the first of the next one. -/
theorem daysInMonth_ofMarch {year : Int} {fromMarch : Nat} (h : fromMarch < 11) :
    daysInMonth year (if fromMarch < 10 then fromMarch + 3 else fromMarch - 9) =
      daysBeforeMonth (fromMarch + 1) - daysBeforeMonth fromMarch := by
  interval_cases fromMarch <;> rfl

/-- The date of a day of a year occurs in the calendar. -/
theorem isValid_ofMarch {year : Int} {dayOfYear : Nat} (h : InMarchYear year dayOfYear) :
    (ofMarch year dayOfYear).isValid = true := by
  have hlt : dayOfYear < 366 := by
    rcases h with h | ⟨h, -⟩ <;> omega
  obtain ⟨fromMarch, day, hmonth, hfrom, rfl, hday⟩ := exists_month hlt
  have hlast : day + 1 ≤ daysInMonth (year + (if fromMarch < 10 then 0 else 1))
      (if fromMarch < 10 then fromMarch + 3 else fromMarch - 9) := by
    by_cases hshort : fromMarch < 11
    · rw [daysInMonth_ofMarch hshort]
      omega
    · -- February ends with the last day that the year has.
      obtain rfl : fromMarch = 11 := by omega
      show day + 1 ≤ if isLeapYear (year + 1) then 29 else 28
      have hbefore : daysBeforeMonth 11 = 337 := rfl
      rcases h with h | ⟨h, hleap⟩
      · split <;> omega
      · rw [if_pos hleap]
        omega
  simp only [isValid, ofMarch, hfrom, Nat.add_sub_cancel_left, Bool.and_eq_true, decide_eq_true_eq]
  refine ⟨⟨⟨?_, ?_⟩, by omega⟩, hlast⟩ <;> split <;> omega

/-- The date of a count of days counts back to it. -/
theorem toDays_ofDays (days : Int) : (ofDays days).toDays = days := by
  obtain ⟨year, dayOfYear, hin, hdate, hdays⟩ := exists_ofMarch days
  have hlt : dayOfYear < 366 := by
    rcases hin with hin | ⟨hin, -⟩ <;> omega
  rw [hdate, toDays_ofMarch hlt, ← hdays]
  omega

/-- The date of a count of days occurs in the calendar. -/
theorem isValid_ofDays (days : Int) : (ofDays days).isValid = true := by
  obtain ⟨year, dayOfYear, hin, hdate, -⟩ := exists_ofMarch days
  rw [hdate]
  exact isValid_ofMarch hin

/-- A date that occurs in the calendar is written with two digits for its month and for its day. -/
theorem le_of_isValid {date : Date} (h : date.isValid = true) :
    date.month ≤ 12 ∧ date.day ≤ 31 := by
  have hlength : daysInMonth date.year date.month ≤ 31 := by
    unfold daysInMonth
    split
    · split <;> omega
    · split <;> omega
  simp only [isValid, Bool.and_eq_true, decide_eq_true_eq] at h
  obtain ⟨⟨⟨-, hmonth⟩, -⟩, hday⟩ := h
  exact ⟨hmonth, hday.trans hlength⟩

/-- The counts of days from the start of the year -262143 to the end of the year 262142 have dates
in these years. -/
theorem year_ofDays {days : Int} (hleast : -96465292 ≤ days) (hgreatest : days ≤ 95026236) :
    -262143 ≤ (ofDays days).year ∧ (ofDays days).year ≤ 262142 := by
  obtain ⟨year, dayOfYear, hin, hdate, hdays⟩ := exists_ofMarch days
  have hlt : dayOfYear < 366 := by
    rcases hin with hin | ⟨hin, -⟩ <;> omega
  unfold daysBeforeYear at hdays
  have hfirst : -262144 ≤ year := by omega
  have hlast : year ≤ 262142 := by omega
  rw [hdate]
  simp only [ofMarch]
  -- Of the two years at the ends only the days are left that lie in the range.
  split
  · have hend : year ≠ -262144 := by
      rintro rfl
      omega
    omega
  · have hend : year ≠ 262142 := by
      rintro rfl
      omega
    omega

end ObjectStorage.Date
