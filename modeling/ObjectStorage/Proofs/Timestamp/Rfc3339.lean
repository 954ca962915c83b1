import ObjectStorage.Proofs.Decimal
import ObjectStorage.Proofs.Timestamp.Calendar
import ObjectStorage.Timestamp.Rfc3339

/-!
# Timestamps are read back

`Timestamp.ofRfc3339?_toRfc3339` says that the text of an instant is read as that
instant, when it is one that a clock can show: `Timestamp.OnClock` lets a leap
second come only at the end of a minute, where it is second 60. Every instant that
is read is such an instant (`Timestamp.onClock_of_ofRfc3339?`), and another leap
second has the text of the second behind it (`Timestamp.toRfc3339_of_not_onClock`).
The lemmas follow the parts of a text: each says that a written part is read and
what is left.
-/

namespace ObjectStorage.Timestamp

open Text

/-- Says that a clock can show the instant: a leap second is the sixty-first second of a minute. -/
def OnClock (t : Timestamp) : Prop :=
  1000000000 ≤ t.nanos → t.seconds % 60 = 59

/-- Says that a text does not go on with a digit. -/
def StopsDigits (text : List Char) : Prop :=
  ∀ c, text.head? = some c → c.isDigit = false

theorem stopsDigits_cons {c : Char} (h : c.isDigit = false) (rest : List Char) :
    StopsDigits (c :: rest) := by
  rintro d ⟨⟩
  exact h

/-- A digit is no blank. -/
theorem isBlank_of_isDigit {c : Char} (h : c.isDigit = true) : isBlank c = false := by
  have hall : ∀ n < 58, 48 ≤ n → isBlank (Char.ofNat n) = false := by decide
  obtain ⟨hge, hle⟩ := isDigit_iff.1 h
  rw [← Char.ofNat_toNat c]
  exact hall c.toNat (Nat.lt_succ_of_le hle) hge

theorem skipBlanks_cons {c : Char} (h : isBlank c = false) (rest : List Char) :
    skipBlanks (c :: rest) = c :: rest := by
  simp [skipBlanks, h]

/-- A written number starts with a digit. -/
theorem exists_padded (width n : Nat) :
    ∃ c rest, padded width n = c :: rest ∧ c.isDigit = true :=
  exists_cons_of_digits (padded_ne_nil width n) fun _ => isDigit_of_mem_padded

/-- There are no blanks in front of a written number. -/
theorem skipBlanks_padded (width n : Nat) (rest : List Char) :
    skipBlanks (padded width n ++ rest) = padded width n ++ rest := by
  obtain ⟨c, others, hpadded, hc⟩ := exists_padded width n
  rw [hpadded, List.cons_append, skipBlanks_cons (isBlank_of_isDigit hc)]

/-- A number of two digits is read back. -/
theorem shortNumber?_padded {n : Nat} (hn : n < 100) {rest : List Char} (hrest : StopsDigits rest) :
    shortNumber? (padded 2 n ++ rest) = some (n, rest) := by
  have hlength : (padded 2 n).length = 2 := length_padded (by decide) hn
  rw [shortNumber?, skipBlanks_padded, leadingNumber?_padded (Nat.le_of_eq hlength) hrest]

/-- A year is read back. -/
theorem year?_yearText (year : Int) {rest : List Char} (hrest : StopsDigits rest) :
    year? (yearText year ++ rest) = some (year, rest) := by
  have hsigned (n : Nat) : leadingNumber? (padded 4 n ++ rest).length (padded 4 n ++ rest) =
      some (n, rest) :=
    leadingNumber?_padded (by simp) hrest
  unfold yearText
  split
  · next hplain =>
    -- Without a sign the year starts with a digit, which is neither sign.
    have hlength : (padded 4 year.toNat).length = 4 := length_padded (by decide) (by omega)
    have hread : leadingNumber? 4 (padded 4 year.toNat ++ rest) = some (year.toNat, rest) :=
      leadingNumber?_padded (Nat.le_of_eq hlength) hrest
    obtain ⟨c, others, hpadded, hc⟩ := exists_padded 4 year.toNat
    unfold year?
    rw [skipBlanks_padded]
    rw [hpadded] at hread ⊢
    split
    · next h =>
      obtain ⟨rfl, -⟩ := List.cons.inj h
      cases hc
    · next h =>
      obtain ⟨rfl, -⟩ := List.cons.inj h
      cases hc
    · have hcast : (year.toNat : Int) = year := by omega
      simp only [hread, Option.map_some, hcast]
  · by_cases hneg : year < 0
    · have hcast : -(year.natAbs : Int) = year := by omega
      rw [if_pos hneg, List.cons_append, year?, skipBlanks_cons (by decide)]
      simp only [hsigned, Option.map_some, hcast]
    · have hcast : (year.natAbs : Int) = year := by omega
      rw [if_neg hneg, List.cons_append, year?, skipBlanks_cons (by decide)]
      simp only [hsigned, Option.map_some, hcast]

/-- A date is read back. -/
theorem date?_dateText {date : Date} (hmonth : date.month < 100) (hday : date.day < 100)
    {rest : List Char} (hrest : StopsDigits rest) :
    date? (dateText date ++ rest) = some (date, rest) := by
  have hdash (text : List Char) : StopsDigits ('-' :: text) := stopsDigits_cons (by decide) text
  have hskip (text : List Char) : skipBlanks ('-' :: text) = '-' :: text :=
    skipBlanks_cons (by decide) text
  simp only [date?, dateText, List.append_assoc, List.cons_append, year?_yearText _ (hdash _),
    shortNumber?_padded hmonth (hdash _), shortNumber?_padded hday hrest, hskip, expect?,
    Option.bind_eq_bind, Option.bind_some, ↓reduceIte]
  rfl

/-- The digits of a fraction are read back as nanoseconds, and zeros count behind them. -/
theorem fraction?_padded {width n : Nat} (hpositive : 0 < width) (hwidth : width ≤ 9)
    (hn : n < 10 ^ width) {rest : List Char} (hrest : StopsDigits rest) :
    fraction? ('.' :: padded width n ++ rest) = some (n * 10 ^ (9 - width), rest) := by
  have hlength : (padded width n).length = width := length_padded hpositive hn
  have hdigits := leadingDigits?_append (fun _ => isDigit_of_mem_padded) (padded_ne_nil width n)
    (hlength.trans_le hwidth) hrest
  have hstop : rest.dropWhile Char.isDigit = rest :=
    (takeWhile_dropWhile_append (List.forall_mem_nil _) hrest).2
  rw [List.cons_append, fraction?, hdigits]
  simp only [Option.bind_eq_bind, Option.bind_some, List.rightpad, hlength,
    digitsValue_append_zeros, digitsValue_padded, hstop]
  rfl

/-- The fraction of a second is read back. -/
theorem fraction?_fractionText {nanos : Nat} (h : nanos < 1000000000) :
    fraction? (fractionText nanos ++ ['Z']) = some (nanos, ['Z']) := by
  have hend : StopsDigits ['Z'] := stopsDigits_cons (by decide) []
  unfold fractionText
  split
  · next hzero =>
    rw [hzero]
    rfl
  split
  · rw [fraction?_padded (by decide) (by decide) (by omega) hend]
    congr 2
    omega
  split
  · rw [fraction?_padded (by decide) (by decide) (by omega) hend]
    congr 2
    omega
  · rw [fraction?_padded (by decide) (by decide) h hend, Nat.sub_self, Nat.pow_zero, Nat.mul_one]

theorem stopsDigits_fractionText (nanos : Nat) : StopsDigits (fractionText nanos ++ ['Z']) := by
  unfold fractionText
  split
  · exact stopsDigits_cons (by decide) []
  split
  · exact stopsDigits_cons (by decide) _
  split <;> exact stopsDigits_cons (by decide) _

/-- A time of day is read back. -/
theorem timeOfDay?_padded {hour minute second nanos : Nat} (hhour : hour < 100)
    (hminute : minute < 100) (hsecond : second < 100) (hnanos : nanos < 1000000000) :
    timeOfDay? (padded 2 hour ++ ':' :: (padded 2 minute ++ ':' :: (padded 2 second ++
      (fractionText nanos ++ ['Z'])))) = some (⟨hour, minute, second, nanos⟩, ['Z']) := by
  have hcolon (text : List Char) : StopsDigits (':' :: text) := stopsDigits_cons (by decide) text
  have hskip (text : List Char) : skipBlanks (':' :: text) = ':' :: text :=
    skipBlanks_cons (by decide) text
  simp only [timeOfDay?, shortNumber?_padded hhour (hcolon _),
    shortNumber?_padded hminute (hcolon _),
    shortNumber?_padded hsecond (stopsDigits_fractionText nanos), fraction?_fractionText hnanos,
    hskip, expect?, Option.bind_eq_bind, Option.bind_some, ↓reduceIte]
  rfl

/-- The date and the time that a text shows are those of the instant. -/
theorem ofLocal?_ofDays {t : Timestamp} (h : t.OnClock) :
    ofLocal? (Date.ofDays (t.seconds / 86400))
      ⟨(t.seconds % 86400).toNat / 3600, (t.seconds % 86400).toNat / 60 % 60,
        (t.seconds % 86400).toNat % 60 + t.nanos / 1000000000, t.nanos % 1000000000⟩ 0 =
      some t := by
  have hnanos := t.nanos_lt
  obtain ⟨hfirst, hlast⟩ : -262143 ≤ (Date.ofDays (t.seconds / 86400)).year ∧
      (Date.ofDays (t.seconds / 86400)).year ≤ 262142 := by
    have hleast := t.seconds_ge
    have hgreatest := t.seconds_le
    exact Date.year_ofDays (by omega) (by omega)
  obtain ⟨second, hsecond⟩ : ∃ second, second = (t.seconds % 86400).toNat := ⟨_, rfl⟩
  have hday : second < 86400 ∧ t.seconds = t.seconds / 86400 * 86400 + second := by omega
  have hclock : 1000000000 ≤ t.nanos → second % 60 = 59 := by
    intro hleap
    have := h hleap
    omega
  rw [← hsecond]
  have hvalid : TimeOfDay.isValid ⟨second / 3600, second / 60 % 60,
      second % 60 + t.nanos / 1000000000, t.nanos % 1000000000⟩ = true := by
    simp only [TimeOfDay.isValid, Bool.and_eq_true, decide_eq_true_eq]
    omega
  have hseconds : t.seconds / 86400 * 86400 + ((second / 3600 * 3600 + second / 60 % 60 * 60 +
      min (second % 60 + t.nanos / 1000000000) 59 : Nat) : Int) - 0 = t.seconds := by
    omega
  have hfraction : t.nanos % 1000000000 + (second % 60 + t.nanos / 1000000000 -
      min (second % 60 + t.nanos / 1000000000) 59) * 1000000000 = t.nanos := by
    omega
  unfold ofLocal?
  rw [if_pos (by simp [Date.isValid_ofDays, hvalid, hfirst, hlast])]
  simp only [Date.toDays_ofDays, hseconds, hfraction, ofUnix?_self]

/-- The text of an instant that a clock can show is read as that instant. -/
theorem ofRfc3339?_toRfc3339 {t : Timestamp} (h : t.OnClock) :
    ofRfc3339? t.toRfc3339 = some t := by
  have hnanos := t.nanos_lt
  obtain ⟨hmonth, hday⟩ := Date.le_of_isValid (Date.isValid_ofDays (t.seconds / 86400))
  have hseparator (text : List Char) : StopsDigits ('T' :: text) :=
    stopsDigits_cons (by decide) text
  have htime := timeOfDay?_padded (show (t.seconds % 86400).toNat / 3600 < 100 by omega)
    (show (t.seconds % 86400).toNat / 60 % 60 < 100 by omega)
    (show (t.seconds % 86400).toNat % 60 + t.nanos / 1000000000 < 100 by omega)
    (show t.nanos % 1000000000 < 1000000000 by omega)
  have hzone : zone? ['Z'] = some (0, []) := by decide
  have hlocal := ofLocal?_ofDays h
  simp only [ofRfc3339?, toRfc3339, String.toList_ofList, List.append_assoc, List.cons_append,
    date?_dateText (Nat.lt_of_le_of_lt hmonth (by decide))
      (Nat.lt_of_le_of_lt hday (by decide)) (hseparator _), htime, hzone, hlocal,
    Option.bind_eq_bind, Option.bind_some]
  rfl

/-- A leap second within a minute is written as the second behind it. -/
theorem toRfc3339_of_not_onClock {t next : Timestamp} (h : ¬ t.OnClock)
    (hseconds : next.seconds = t.seconds + 1) (hnanos : next.nanos + 1000000000 = t.nanos) :
    t.toRfc3339 = next.toRfc3339 := by
  obtain ⟨hleap, hwithin⟩ : 1000000000 ≤ t.nanos ∧ t.seconds % 60 ≠ 59 := by
    simpa [OnClock] using h
  have hbound := t.nanos_lt
  obtain ⟨second, hsecond⟩ : ∃ second, second = (t.seconds % 86400).toNat := ⟨_, rfl⟩
  -- The second behind it is in the same minute, so only the shown second could differ.
  have hday : next.seconds / 86400 = t.seconds / 86400 := by omega
  have hfollowing : (next.seconds % 86400).toNat = second + 1 := by omega
  have hhour : (second + 1) / 3600 = second / 3600 := by omega
  have hminute : (second + 1) / 60 % 60 = second / 60 % 60 := by omega
  have hshown : (second + 1) % 60 + next.nanos / 1000000000 =
      second % 60 + t.nanos / 1000000000 := by omega
  have hfraction : next.nanos % 1000000000 = t.nanos % 1000000000 := by omega
  simp only [toRfc3339, hday, hfollowing, ← hsecond, hhour, hminute, hshown, hfraction]

/-- A fraction is less than a second. -/
theorem fraction?_lt {text rest : List Char} {nanos : Nat}
    (h : fraction? text = some (nanos, rest)) : nanos < 1000000000 := by
  unfold fraction? at h
  split at h
  · obtain ⟨⟨digits, after⟩, hread, h⟩ := Option.bind_eq_some_iff.1 h
    obtain ⟨rfl, -⟩ := Prod.mk.inj (Option.some.inj h)
    obtain ⟨hdigits, hlength⟩ := leadingDigits?_eq_some hread
    rw [List.rightpad, digitsValue_append_zeros]
    calc digitsValue digits * 10 ^ (9 - digits.length)
        < 10 ^ digits.length * 10 ^ (9 - digits.length) :=
          Nat.mul_lt_mul_of_pos_right (digitsValue_lt hdigits) (Nat.pow_pos (by decide))
      _ = 10 ^ 9 := by rw [← Nat.pow_add, Nat.add_sub_cancel' hlength]
  · obtain ⟨rfl, -⟩ := Prod.mk.inj (Option.some.inj h)
    decide

/-- The fraction of a time of day is less than a second. -/
theorem timeOfDay?_nanos_lt {text rest : List Char} {time : TimeOfDay}
    (h : timeOfDay? text = some (time, rest)) : time.nanos < 1000000000 := by
  simp only [timeOfDay?, Option.bind_eq_bind, Option.bind_eq_some_iff] at h
  obtain ⟨_, -, _, -, _, -, _, -, _, -, ⟨nanos, after⟩, hfraction, h⟩ := h
  obtain ⟨rfl, -⟩ := Prod.mk.inj (Option.some.inj h)
  exact fraction?_lt hfraction

/-- An offset is a whole number of minutes. -/
theorem offset?_emod {text rest : List Char} {offset : Int}
    (h : offset? text = some (offset, rest)) : offset % 60 = 0 := by
  unfold offset? at h
  split at h
  · obtain ⟨rfl, -⟩ := Prod.mk.inj (Option.some.inj h)
    rfl
  · obtain ⟨rfl, -⟩ := Prod.mk.inj (Option.some.inj h)
    rfl
  · next sign digits _ _ =>
    have hread (direction : Int) (hparts : ((offsetPart? 9 digits).bind fun hours =>
        (offsetPart? 5 (hours.2.dropWhile fun c => c == ':' || isBlank c)).bind fun minutes =>
          some (direction * (hours.1 * 3600 + minutes.1 * 60 : Nat), minutes.2)) =
        some (offset, rest)) : offset % 60 = 0 := by
      simp only [Option.bind_eq_some_iff] at hparts
      obtain ⟨⟨hours, _⟩, -, ⟨minutes, _⟩, -, hsum⟩ := hparts
      obtain ⟨rfl, -⟩ := Prod.mk.inj (Option.some.inj hsum)
      have hminutes : hours * 3600 + minutes * 60 = (hours * 60 + minutes) * 60 := by omega
      dsimp only
      rw [hminutes, Nat.cast_mul, ← Int.mul_assoc]
      exact Int.mul_emod_left _ _
    split at h
    · exact hread 1 h
    · split at h
      · exact hread (-1) h
      · cases h
  · cases h

/-- The offset of a zone is a whole number of minutes. -/
theorem zone?_emod {text rest : List Char} {offset : Int}
    (h : zone? text = some (offset, rest)) : offset % 60 = 0 := by
  unfold zone? at h
  split at h
  · split at h
    · obtain ⟨rfl, -⟩ := Prod.mk.inj (Option.some.inj h)
      rfl
    · exact offset?_emod h
  · exact offset?_emod h

/-- The instant of a local time is one that a clock can show. -/
theorem onClock_of_ofLocal? {date : Date} {time : TimeOfDay} {offset : Int} {t : Timestamp}
    (h : ofLocal? date time offset = some t) (hnanos : time.nanos < 1000000000)
    (hoffset : offset % 60 = 0) : t.OnClock := by
  unfold ofLocal? at h
  split at h
  · next hvalid =>
    unfold ofUnix? at h
    dsimp only at h
    split at h
    · obtain rfl := Option.some.inj h
      intro hleap
      have hsecond : time.second ≤ 60 := by
        simp only [TimeOfDay.isValid, Bool.and_eq_true, decide_eq_true_eq] at hvalid
        exact hvalid.1.1.1.2.2
      dsimp only at hleap ⊢
      have hlast : time.second = 60 := by omega
      rw [hlast]
      omega
    · cases h
  · cases h

/-- What is read as an instant is one that a clock can show. -/
theorem onClock_of_ofRfc3339? {text : String} {t : Timestamp} (h : ofRfc3339? text = some t) :
    t.OnClock := by
  have hread (date : Date) (text : List Char) (hbehind : ((timeOfDay? text).bind fun time =>
      (zone? time.2).bind fun zone =>
        if skipBlanks zone.2 = [] then ofLocal? date time.1 zone.1 else none) = some t) :
      t.OnClock := by
    simp only [Option.bind_eq_some_iff] at hbehind
    obtain ⟨⟨time, _⟩, htime, ⟨offset, _⟩, hzone, hlocal⟩ := hbehind
    split at hlocal
    · exact onClock_of_ofLocal? hlocal (timeOfDay?_nanos_lt htime) (zone?_emod hzone)
    · cases hlocal
  obtain ⟨⟨date, text⟩, -, h⟩ := Option.bind_eq_some_iff.1 h
  dsimp only at h
  split at h
  · exact hread date _ h
  · exact hread date _ h
  · exact hread date _ h
  · cases h

end ObjectStorage.Timestamp
