/-
An instant is read back from its RFC 3339 text.

The text is a row of numbers of a fixed width with a mark behind each. Reading
a width of digits undoes filling up to it (`digits_padded`), whatever follows;
the fraction alone takes digits as long as they last, and is ended by the mark
of universal time. What the numbers mean is left to the calendar: the date of a
day is valid and leads back to the day.
-/
import Intake.Proofs.Time.Calendar
import Intake.Time.Instant
import Mathlib.Algebra.Group.Nat.Defs
import Mathlib.Data.List.TakeWhile

namespace Intake.Instant

-- ====================================================== digits

/-- A digit is read as its value. -/
theorem digit?_eq {c : Char} (h : c.isDigit = true) :
    digit? c = some (c.toNat - '0'.toNat) := by
  rw [digit?, if_pos]
  exact Char.isDigit_iff_toNat.mp h

/-- Digits are read to the number they spell, whatever follows them. -/
theorem digits_append {ds : List Char} (h : ∀ c ∈ ds, c.isDigit = true)
    (rest : List Char) :
    digits ds.length (ds ++ rest) = some (Nat.ofDigitChars 10 ds 0, rest) := by
  induction ds with
  | nil => rfl
  | cons c ds ih =>
      obtain ⟨hc, hds⟩ := List.forall_mem_cons.mp h
      rw [Nat.ofDigitChars_cons, Nat.ofDigitChars_eq_ofDigitChars_zero]
      simp only [List.length_cons, List.cons_append, digits, digit?_eq hc,
        ih hds, Option.bind_eq_bind, Option.bind_some]
      rw [Nat.pow_eq, Nat.mul_zero, Nat.zero_add, Nat.mul_comm]

section Padded

variable {width n : Nat} (hwidth : 0 < width) (h : n < 10 ^ width)
include hwidth h

/-- A padded number has the width that it was given. -/
theorem padded_length : (padded width n).length = width := by
  have hle := (Nat.length_toDigits_le_iff (b := 10) (by decide) hwidth).mpr h
  rw [padded, List.length_append, List.length_replicate,
    Nat.sub_add_cancel hle]

omit hwidth h in
/-- A padded number is made of digits. -/
theorem isDigit_padded : ∀ c ∈ padded width n, c.isDigit = true := by
  intro c hc
  rcases List.mem_append.mp hc with hzero | hdigit
  · rw [List.eq_of_mem_replicate hzero]
    rfl
  · exact Nat.isDigit_of_mem_toDigits (by decide) (by decide) hdigit

omit hwidth h in
/-- The digits of a padded number have its value. -/
theorem ofDigitChars_padded : Nat.ofDigitChars 10 (padded width n) 0 = n := by
  rw [padded, Nat.ofDigitChars_append, Nat.ofDigitChars_replicate_zero,
    Nat.mul_zero, Nat.ofDigitChars_ten_toDigits]

/-- A padded number is read back, and what is behind it is left. -/
theorem digits_padded (rest : List Char) :
    digits width (padded width n ++ rest) = some (n, rest) := by
  have hread := digits_append (@isDigit_padded width n) rest
  rwa [padded_length hwidth h, ofDigitChars_padded] at hread

/-- A fraction of at most nine digits in front of the mark of universal
time. -/
theorem fraction_padded (hle : width ≤ 9) :
    fraction (padded width n ++ ['Z'])
      = some (n * 10 ^ (9 - width), ['Z']) := by
  have hlength := padded_length hwidth h
  have hrun : (padded width n ++ ['Z']).takeWhile (fun c => (digit? c).isSome)
      = padded width n := by
    rw [List.takeWhile_append_of_pos]
    · rw [List.takeWhile_cons_of_neg (by decide), List.append_nil]
    · intro c hc
      rw [digit?_eq (isDigit_padded c hc)]
      rfl
  have hkept : (padded width n).take 9 = padded width n :=
    List.take_of_length_le (hlength.trans_le hle)
  have hsome : (padded width n).isEmpty = false := by
    rw [List.isEmpty_eq_false_iff, ← List.length_pos_iff, hlength]
    exact hwidth
  have hread := digits_padded hwidth h []
  rw [List.append_nil] at hread
  simp only [fraction, hrun, hkept, hsome, hlength, hread, Option.bind_eq_bind,
    Option.bind_some, Bool.false_eq_true, if_false, List.drop_left' hlength,
    Nat.pow_eq]

end Padded

-- ====================================================== the parts of the text

/-- A character that is expected is passed. -/
theorem expect_self (c : Char) (rest : List Char) :
    expect c (c :: rest) = some rest :=
  if_pos rfl

/-- Reading goes on behind a part that was read. -/
theorem bind_of_eq_some {α β : Type} {part : Option α} {a : α}
    (h : part = some a) (next : α → Option β) : (part >>= next) = next a := by
  rw [h]
  rfl

/-- The text of a fraction of a second is empty, or a point and what is read
back to the fraction. -/
theorem fractionText_cases {nanos : Nat} (h : nanos < fullSecond) :
    (nanos = 0 ∧ fractionText nanos = []) ∨
      ∃ cs, fractionText nanos = '.' :: cs
        ∧ fraction (cs ++ ['Z']) = some (nanos, ['Z']) := by
  rw [fullSecond] at h
  rw [fractionText]
  split_ifs with hzero hmilli hmicro
  · exact .inl ⟨hzero, rfl⟩
  · have hback : nanos / 1000000 * 10 ^ 6 = nanos := by omega
    refine .inr ⟨_, rfl, ?_⟩
    rw [fraction_padded (by decide) (by omega) (by decide), hback]
  · have hback : nanos / 1000 * 10 ^ 3 = nanos := by omega
    refine .inr ⟨_, rfl, ?_⟩
    rw [fraction_padded (by decide) (by omega) (by decide), hback]
  · refine .inr ⟨_, rfl, ?_⟩
    rw [fraction_padded (by decide) h (by decide), Nat.sub_self, Nat.pow_zero,
      Nat.mul_one]

/-- Two digits are enough for the month and the day of a date. -/
theorem lt_of_isValid {d : Date} (h : d.isValid = true) :
    d.month < 10 ^ 2 ∧ d.day < 10 ^ 2 := by
  have hlength : Date.monthLength d.year d.month ≤ 31 := by
    rw [Date.monthLength]
    split_ifs <;> decide
  simp only [Date.isValid, decide_eq_true_eq] at h
  omega

/-- A text made of the numbers of a moment is read to the moment they name; the
second 60 to one more full second in its nanoseconds. -/
theorem read_parts {year month day hour minute second nanos : Nat}
    (hyear : year < 10000) (hvalid : (Date.mk year month day).isValid = true)
    (hhour : hour < 24) (hminute : minute < 60) (hsecond : second ≤ 60)
    (hnanos : nanos < fullSecond) :
    read (padded 4 year ++ '-' :: padded 2 month ++ '-' :: padded 2 day
        ++ 'T' :: padded 2 hour ++ ':' :: padded 2 minute
        ++ ':' :: padded 2 second
        ++ fractionText nanos ++ ['Z'])
      = some ⟨(Date.mk year month day).dayNumber * secondsPerDay
            + (hour * 3600 + minute * 60
                + (if second = 60 then 59 else second : Nat)),
          if second = 60 then nanos + fullSecond else nanos⟩ := by
  obtain ⟨hmonth, hday⟩ := lt_of_isValid hvalid
  have hsound :
      ((Date.mk year month day).isValid && hour < 24 && minute < 60
        && second ≤ 60 && (0 : Int).natAbs < secondsPerDay.natAbs
        && ([] : List Char).isEmpty) = true := by
    rw [hvalid, decide_eq_true hhour, decide_eq_true hminute,
      decide_eq_true hsecond]
    rfl
  have htwo : 0 < 2 := by decide
  simp only [List.append_assoc, List.cons_append]
  rw [read]
  -- the text is taken from the front, a number and the mark behind it at a
  -- time
  refine
    (bind_of_eq_some (digits_padded (by decide : 0 < 4) hyear _) _).trans ?_
  refine (bind_of_eq_some (expect_self '-' _) _).trans ?_
  refine (bind_of_eq_some (digits_padded htwo hmonth _) _).trans ?_
  refine (bind_of_eq_some (expect_self '-' _) _).trans ?_
  refine (bind_of_eq_some (digits_padded htwo hday _) _).trans ?_
  refine (bind_of_eq_some (expect_self 'T' _) _).trans ?_
  refine (bind_of_eq_some (digits_padded htwo (hhour.trans (by decide)) _)
    _).trans ?_
  refine (bind_of_eq_some (expect_self ':' _) _).trans ?_
  refine (bind_of_eq_some (digits_padded htwo (hminute.trans (by decide)) _)
    _).trans ?_
  refine (bind_of_eq_some (expect_self ':' _) _).trans ?_
  refine (bind_of_eq_some (digits_padded htwo (hsecond.trans_lt (by decide)) _)
    _).trans ?_
  dsimp only
  rcases fractionText_cases hnanos with ⟨rfl, hnone⟩ | ⟨cs, hpoint, hfraction⟩
  · rw [hnone]
    refine (if_pos hsound).trans ?_
    rw [Int.sub_zero]
  · rw [hpoint]
    refine (bind_of_eq_some hfraction _).trans ?_
    refine (if_pos hsound).trans ?_
    rw [Int.sub_zero]

-- ====================================================== reading back

/-- The year of an instant in universal time. -/
def year (t : Instant) : Int :=
  (Date.ofDayNumber (t.seconds / secondsPerDay)).year

/-- The nanoseconds stay within two full seconds, and the second of them is
taken only behind the last second of a minute. -/
structure Sound (t : Instant) : Prop where
  nanos_lt : t.nanos < 2 * fullSecond
  leap : fullSecond ≤ t.nanos → t.seconds % 60 = 59

/-- The seconds of an instant by its day and the seconds of the day. -/
theorem day_add (seconds : Int) :
    seconds / secondsPerDay * secondsPerDay
      + ((seconds % secondsPerDay).toNat : Int) = seconds := by
  rw [secondsPerDay]
  omega

/-- A day has 86400 seconds. -/
theorem inDay_lt (seconds : Int) :
    (seconds % secondsPerDay).toNat < 86400 := by
  rw [secondsPerDay]
  omega

/-- The second in its minute is the same, counted from the day or from the
epoch. -/
theorem inDay_mod (seconds : Int) :
    (((seconds % secondsPerDay).toNat % 60 : Nat) : Int) = seconds % 60 := by
  rw [secondsPerDay]
  omega

/-- An instant of a year of four digits is read back from its text. -/
theorem read_write {t : Instant} (hsound : t.Sound) (hfirst : 0 ≤ t.year)
    (hlast : t.year ≤ 9999) :
    read t.write = some t := by
  obtain ⟨seconds, nanos⟩ := t
  obtain ⟨hnanos, hleap⟩ := hsound
  have hvalid := Date.isValid_ofDayNumber (seconds / secondsPerDay)
  have hnumber := Date.dayNumber_ofDayNumber (seconds / secondsPerDay)
  have hseconds := day_add seconds
  have hinDay := inDay_lt seconds
  have hminute := inDay_mod seconds
  rw [year] at hfirst hlast
  simp only [write] at hnanos hleap ⊢
  generalize Date.ofDayNumber (seconds / secondsPerDay) = date at *
  generalize (seconds % secondsPerDay).toNat = inDay at *
  generalize seconds / secondsPerDay = day at *
  obtain ⟨year, month, dayOfMonth⟩ := date
  obtain ⟨year, rfl⟩ := Int.eq_ofNat_of_zero_le hfirst
  simp only [yearText, if_pos (And.intro hfirst hlast), Int.toNat_natCast]
  have hyear : (year : Int) ≤ 9999 := hlast
  by_cases hfull : fullSecond ≤ nanos
  · -- a leap second is written as second 60 of a minute that has 59 seconds
    -- behind it
    have hlate : inDay % 60 = 59 := by
      have := hleap hfull
      omega
    simp only [if_pos hfull, hlate, Nat.one_mul]
    rw [read_parts (by omega) hvalid (by omega) (by omega)
      (by decide) (by omega), hnumber]
    simp only [if_true, Nat.sub_add_cancel hfull, Option.some.injEq, mk.injEq,
      and_true]
    omega
  · simp only [if_neg hfull, Nat.zero_mul, Nat.add_zero, Nat.sub_zero]
    rw [read_parts (by omega) hvalid (by omega) (by omega)
      (by omega) (by omega), hnumber]
    have hbefore : inDay % 60 ≠ 60 := by omega
    simp only [if_neg hbefore, Option.some.injEq, mk.injEq, and_true]
    omega

/-- An instant is read back from its text, if it is sound and its year has four
digits. -/
theorem parse_render {t : Instant} (hsound : t.Sound) (hfirst : 0 ≤ t.year)
    (hlast : t.year ≤ 9999) : parse t.render = some t := by
  rw [parse, render, String.toList_ofList]
  exact read_write hsound hfirst hlast

example : parse "2016-12-31T23:59:60.500Z" = some ⟨1483228799, 1500000000⟩ :=
  by decide

end Intake.Instant
