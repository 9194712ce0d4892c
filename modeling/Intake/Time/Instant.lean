/-
Instants in universal time and their RFC 3339 text.

An instant counts seconds from 1970-01-01T00:00:00Z and nanoseconds
within the second; nanoseconds from one to two thousand million stand for
a leap second, written as second 60. The text drops a zero fraction and
otherwise takes three, six or nine digits of it.
-/
import Intake.Time.Calendar

namespace Intake

/-- A point in time, with room for leap seconds in its nanoseconds. -/
structure Instant where
  seconds : Int
  nanos : Nat
deriving DecidableEq, Repr, Inhabited

namespace Instant

/-- The seconds of a day, leap seconds apart. -/
def secondsPerDay : Int := 86400

/-- A full second in nanoseconds. -/
def fullSecond : Nat := 1000000000

-- ====================================================== writing

/-- Decimal digits, filled up with zeros on the left to a width. -/
def padded (width n : Nat) : List Char :=
  let digits := Nat.toDigits 10 n
  List.replicate (width - digits.length) '0' ++ digits

/-- Four digits; a year outside 0 to 9999 has its sign in front. -/
def yearText (year : Int) : List Char :=
  if 0 ≤ year ∧ year ≤ 9999 then padded 4 year.toNat
  else (if year < 0 then '-' else '+') :: padded 4 year.natAbs

/-- The fraction of a second with as many groups of three digits as needed. -/
def fractionText (nanos : Nat) : List Char :=
  if nanos = 0 then []
  else if nanos % 1000000 = 0 then '.' :: padded 3 (nanos / 1000000)
  else if nanos % 1000 = 0 then '.' :: padded 6 (nanos / 1000)
  else '.' :: padded 9 nanos

/-- The RFC 3339 text of an instant. -/
def write (t : Instant) : List Char :=
  let date := Date.ofDayNumber (t.seconds / secondsPerDay)
  let inDay := (t.seconds % secondsPerDay).toNat
  let leap := if fullSecond ≤ t.nanos then 1 else 0
  yearText date.year ++ '-' :: padded 2 date.month ++ '-' :: padded 2 date.day
    ++ 'T' :: padded 2 (inDay / 3600) ++ ':' :: padded 2 (inDay / 60 % 60)
    ++ ':' :: padded 2 (inDay % 60 + leap)
    ++ fractionText (t.nanos - leap * fullSecond) ++ ['Z']

/-- The text of an instant. -/
def render (t : Instant) : String := String.ofList t.write

-- ====================================================== reading

/-- The value of a decimal digit. -/
def digit? (c : Char) : Option Nat :=
  if '0' ≤ c ∧ c ≤ '9' then some (c.toNat - '0'.toNat) else none

/-- Exactly `count` digits. -/
def digits : Nat → List Char → Option (Nat × List Char)
  | 0, cs => some (0, cs)
  | _ + 1, [] => none
  | count + 1, c :: rest => do
    let d ← digit? c
    let (value, rest) ← digits count rest
    some (d * Nat.pow 10 count + value, rest)

/-- The text behind a character that has to come first. -/
def expect (wanted : Char) : List Char → Option (List Char)
  | [] => none
  | c :: rest => if c = wanted then some rest else none

/-- A fraction of a second after its point: nine digits count, more are
passed over. -/
def fraction (cs : List Char) : Option (Nat × List Char) :=
  let run := cs.takeWhile fun c => (digit? c).isSome
  let kept := run.take 9
  if kept.isEmpty then none
  else do
    let (value, _) ← digits kept.length kept
    some (value * Nat.pow 10 (9 - kept.length), cs.drop run.length)

/-- The distance from universal time in seconds: `Z`, or a sign (also the
minus sign U+2212) with hours and minutes. -/
def zone (cs : List Char) : Option (Int × List Char) :=
  match cs with
  | 'Z' :: rest | 'z' :: rest => some (0, rest)
  | c :: rest => do
    let sign : Int ←
      if c = '+' then some 1 else if c = '-' ∨ c = '\u2212' then some (-1)
      else none
    let (hours, rest) ← digits 2 rest
    let rest ← expect ':' rest
    let (minutes, rest) ← digits 2 rest
    if minutes < 60 then some (sign * (hours * 3600 + minutes * 60), rest)
    else none
  | [] => none

/-- The instant an RFC 3339 text names. Date and time are divided by `T`,
`t` or a space; zones lie less than a day from universal time. -/
def read (cs : List Char) : Option Instant := do
  let (year, cs) ← digits 4 cs
  let cs ← expect '-' cs
  let (month, cs) ← digits 2 cs
  let cs ← expect '-' cs
  let (day, cs) ← digits 2 cs
  let cs ← expect 'T' cs <|> expect 't' cs <|> expect ' ' cs
  let (hour, cs) ← digits 2 cs
  let cs ← expect ':' cs
  let (minute, cs) ← digits 2 cs
  let cs ← expect ':' cs
  let (second, cs) ← digits 2 cs
  let (nanos, cs) ← match cs with
    | '.' :: rest => fraction rest
    | _ => some (0, cs)
  let (offset, cs) ← zone cs
  let date : Date := ⟨year, month, day⟩
  let sound := date.isValid && hour < 24 && minute < 60 && second ≤ 60
    && offset.natAbs < secondsPerDay.natAbs && cs.isEmpty
  if sound then
    let leap := second = 60
    let inDay : Int :=
      hour * 3600 + minute * 60 + (if leap then 59 else second)
    some ⟨date.dayNumber * secondsPerDay + inDay - offset,
      if leap then nanos + fullSecond else nanos⟩
  else none

/-- The instant of a text, which has to be all of it. -/
def parse (s : String) : Option Instant := read s.toList

end Instant

end Intake
