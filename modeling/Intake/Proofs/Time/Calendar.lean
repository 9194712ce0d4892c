/-
Every day has a date, and its number is that of the date.

An era of four hundred years is taken apart from the large to the small: four
centuries, of which the last is a day longer, twenty-five spans of four years
each, of which the last of a century may lack its leap day, and four years, of
which the last may have one (`Parts`). Year and day of the year are read off
from these parts (`Parts.year_eq`, `Parts.day_eq`), month and day of the month
are checked for one year.
-/
import Intake.Time.Calendar

namespace Intake.Date

-- ====================================================== the parts of an era

/-- A day of an era in its century, its span of four years, its year and its
place there. A year has a 366th day only if it is the last of its span, and in
the last span of a century only if the century is the last one. -/
structure Parts (d : Nat) where
  century : Nat
  span : Nat
  year : Nat
  day : Nat
  century_le : century ≤ 3
  span_le : span ≤ 24
  year_le : year ≤ 3
  day_le : day ≤ 365
  leap : day = 365 → year = 3 ∧ (span = 24 → century = 3)
  eq : d = 36524 * century + 1461 * span + 365 * year + day

/-- The number of a year in its era. -/
def Parts.yearOfEra {d : Nat} (p : Parts d) : Nat :=
  100 * p.century + 4 * p.span + p.year

/-- The parts of a day. The last day of the era, and the last one of any span
that has a leap day, are counted into the year before them. -/
def parts {d : Nat} (h : d < 146097) : Parts d :=
  if hlast : d = 146096 then
    ⟨3, 24, 3, 365, by omega, by omega, by omega, by omega, by omega, by omega⟩
  else
    let r := d % 36524
    if hleap : r % 1461 = 1460 then
      ⟨d / 36524, r / 1461, 3, 365,
        by omega, by omega, by omega, by omega, by omega, by omega⟩
    else
      ⟨d / 36524, r / 1461, r % 1461 / 365, r % 1461 % 365,
        by omega, by omega, by omega, by omega, by omega, by omega⟩

variable {d : Nat} (p : Parts d)

namespace Parts

/-- An era has four hundred years. -/
theorem year_lt : p.yearOfEra < 400 := by
  have := p.century_le
  have := p.span_le
  have := p.year_le
  rw [yearOfEra]
  omega

/-- The days in front of the year. -/
theorem start_add_day :
    365 * p.yearOfEra + p.yearOfEra / 4 - p.yearOfEra / 100 + p.day = d := by
  obtain ⟨c, s, y, k, hc, hs, hy, hk, hleap, rfl⟩ := p
  simp only [yearOfEra]
  have hspans : (100 * c + 4 * s + y) / 4 = 25 * c + s := by omega
  have hcenturies : (100 * c + 4 * s + y) / 100 = c := by omega
  omega

/-- The day in its year is what is left behind the days in front of the
year. -/
theorem day_eq :
    d - (365 * p.yearOfEra + p.yearOfEra / 4 - p.yearOfEra / 100) = p.day := by
  have := p.start_add_day
  omega

/-- The year of a day in its era: leap days are taken out, so that all years
are of one length. -/
theorem year_eq :
    (d - d / 1460 + d / 36524 - d / 146096) / 365 = p.yearOfEra := by
  obtain ⟨c, s, y, k, hc, hs, hy, hk, hleap, rfl⟩ := p
  simp only [yearOfEra]
  -- the last day of the era is the only one that the last two terms both count
  by_cases hlast : s = 24 ∧ y = 3 ∧ k = 365
  · obtain ⟨rfl, rfl, rfl⟩ := hlast
    obtain rfl : c = 3 := (hleap rfl).2 rfl
    rfl
  · generalize hd : 36524 * c + 1461 * s + 365 * y + k = d
    have hcenturies : d / 36524 = c := by omega
    have hera : d / 146096 = 0 := by omega
    have hspans : d / 1460 = 25 * c + s
        ∨ d / 1460 = 25 * c + s + 1 ∧ 1364 ≤ 365 * y + k := by omega
    rw [hcenturies, hera]
    rcases hspans with hspans | ⟨hspans, hlate⟩
    · rw [hspans]
      omega
    · rw [hspans]
      omega

end Parts

-- ====================================================== months

/-- The month, counted from March, of a day of the year. -/
def monthFromMarch (day : Nat) : Nat := (5 * day + 2) / 153

/-- The month of a day of the year, counted from January. -/
def monthOf (day : Nat) : Nat :=
  if monthFromMarch day < 10 then monthFromMarch day + 3
  else monthFromMarch day - 9

/-- The place of a day in its month, from one on. -/
def dayOfMonth (day : Nat) : Nat :=
  day - (153 * monthFromMarch day + 2) / 5 + 1

/-- The length of a month in a leap year and in another. -/
def lengthIn (leap : Bool) (month : Nat) : Nat :=
  if month = 2 then (if leap then 29 else 28)
  else if month = 4 ∨ month = 6 ∨ month = 9 ∨ month = 11 then 30
  else 31

/-- A day of a year has a month and a place in it; the 366th day has them in a
leap year. -/
theorem month_sound : ∀ day < 366, ∀ leap, (day = 365 → leap = true) →
    1 ≤ monthOf day ∧ monthOf day ≤ 12 ∧ 1 ≤ dayOfMonth day
      ∧ dayOfMonth day ≤ lengthIn leap (monthOf day) := by
  decide +kernel

/-- Month and place lead back to the day. -/
theorem month_inverse : ∀ day < 366,
    (153 * ((monthOf day + 9) % 12) + 2) / 5 + dayOfMonth day - 1 = day := by
  decide +kernel

-- ====================================================== dates

/-- The era of a day and its place there. -/
theorem era_add (n : Int) :
    (n + epochOffset) / 146097 * 146097 + ((n + epochOffset) % 146097).toNat
      - epochOffset = n := by
  omega

/-- The date of a day by the parts of its era. -/
theorem ofDayNumber_eq (n : Int)
    (p : Parts ((n + epochOffset) % 146097).toNat) :
    ofDayNumber n
      = ⟨(n + epochOffset) / 146097 * 400 + p.yearOfEra
          + (if monthOf p.day ≤ 2 then 1 else 0),
          monthOf p.day, dayOfMonth p.day⟩ := by
  have hday := p.day_eq
  have hyear := p.year_eq
  rw [ofDayNumber]
  simp only [hyear, hday]
  show Date.mk (if monthOf p.day ≤ 2 then _ else _) _ _ = _
  split
  · rfl
  · rw [Int.add_zero]
    rfl

/-- Every day has its parts, and they lead back to its place in the era. -/
theorem exists_parts (n : Int) :
    ∃ p : Parts ((n + epochOffset) % 146097).toNat,
    365 * p.yearOfEra + p.yearOfEra / 4 - p.yearOfEra / 100 + p.day
      = ((n + epochOffset) % 146097).toNat := by
  have hlt : ((n + epochOffset) % 146097).toNat < 146097 := by omega
  exact ⟨parts hlt, (parts hlt).start_add_day⟩

/-- Every day has a valid date. -/
theorem isValid_ofDayNumber (n : Int) : (ofDayNumber n).isValid = true := by
  obtain ⟨p, -⟩ := exists_parts n
  have hleap :
      p.day = 365 → isLeapYear ((n + epochOffset) / 146097 * 400 + p.yearOfEra
        + (if monthOf p.day ≤ 2 then 1 else 0)) = true := by
    intro h
    obtain ⟨hyear, hcentury⟩ := p.leap h
    have hspan := p.span_le
    have hlast := p.century_le
    have hmonth : monthOf p.day ≤ 2 := by rw [h]; decide
    rw [if_pos hmonth, isLeapYear, Parts.yearOfEra, hyear, decide_eq_true_eq]
    omega
  obtain ⟨hlow, hhigh, hfirst, hlength⟩ :=
    month_sound p.day (Nat.lt_succ_of_le p.day_le) _ hleap
  rw [ofDayNumber_eq n p, isValid, decide_eq_true_eq]
  exact ⟨hlow, hhigh, hfirst, hlength⟩

/-- The number of the date of a day is the number of the day. -/
theorem dayNumber_ofDayNumber (n : Int) : (ofDayNumber n).dayNumber = n := by
  obtain ⟨p, hstart⟩ := exists_parts n
  have hyear := p.year_lt
  have hmonth := month_inverse p.day (Nat.lt_succ_of_le p.day_le)
  have hera := era_add n
  rw [ofDayNumber_eq n p, dayNumber]
  generalize (n + epochOffset) / 146097 = era at hera
  generalize p.yearOfEra = year at hstart hyear
  have hbegin : (if monthOf p.day ≤ 2
      then era * 400 + year + (if monthOf p.day ≤ 2 then 1 else 0) - 1
      else era * 400 + year + (if monthOf p.day ≤ 2 then 1 else 0))
          = era * 400 + (year : Int) := by
    split <;> omega
  simp only [hbegin, hmonth]
  have hquotient : (era * 400 + (year : Int)) / 400 = era := by omega
  have hrest : (era * 400 + (year : Int)) % 400 = year := by omega
  rw [hquotient, hrest]
  omega

end Intake.Date
