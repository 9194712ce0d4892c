/-
The decimal text of a double-precision number: the fewest digits that
read back as the number, and the layouts in which they are written.

`Binary64.shortest` works on exact naturals. The reals that round to a
number form an interval around it, whose ends belong to it exactly when
the significand is even; the digits are those of the coarsest power of
ten that has a multiple in that interval. `Layout` holds the decisions
that one written form takes differently from another.
-/
import Intake.Number.Binary64

namespace Intake

/-- The number `digits * 10 ^ exponent`. -/
structure Decimal where
  digits : Nat
  exponent : Int
deriving DecidableEq, Repr

/-- Which of two equally near digits is written. -/
inductive Tie where
  | toEven
  | up
deriving DecidableEq, Repr

namespace Binary64

-- ====================================================== the interval

/-- A quarter of a significand unit is the finest step of the interval:
its lower end, middle and upper end are naturals in quarters. -/
structure Rounding where
  lower : Nat
  middle : Nat
  upper : Nat
  unit : Int
  closed : Bool

/-- The reals that round to a finite number other than zero. Below a
power of two the numbers lie twice as dense, so the lower half is shorter. -/
def rounding (x : Binary64) : Rounding :=
  let m := x.significand
  let narrow := x.fractionField == 0 && 1 < x.exponentField
  { lower := 4 * m - (if narrow then 1 else 2)
    middle := 4 * m
    upper := 4 * m + 2
    unit := x.exponent - 2
    closed := m % 2 == 0 }

/-- Quarters are compared with multiples of `10 ^ k` after both are
scaled to naturals: quarters by the first factor, multiples by the second. -/
def scales (unit k : Int) : Nat × Nat :=
  (Nat.pow 2 unit.toNat * Nat.pow 10 (-k).toNat,
    Nat.pow 2 (-unit).toNat * Nat.pow 10 k.toNat)

/-- The multiple of `10 ^ k` nearest to the middle, if one lies in the
interval. -/
def nearestMultiple (tie : Tie) (r : Rounding) (k : Int) : Option Nat :=
  let (p, q) := scales r.unit k
  let inside (c : Nat) : Bool :=
    if r.closed then r.lower * p ≤ c * q && c * q ≤ r.upper * p
    else r.lower * p < c * q && c * q < r.upper * p
  let below := r.middle * p / q
  let above := below + 1
  match 0 < below && inside below, inside above with
  | false, false => none
  | true, false => some below
  | false, true => some above
  | true, true =>
    let down := r.middle * p - below * q
    let rise := above * q - r.middle * p
    if down < rise then some below
    else if rise < down then some above
    else match tie with
      | .up => some above
      | .toEven => if below % 2 = 0 then some below else some above

/-- Tries `10 ^ k`, then finer powers, `fuel` of them. -/
def searchDown (tie : Tie) (r : Rounding) : Nat → Int → Decimal
  | 0, k => ⟨0, k⟩
  | fuel + 1, k =>
    match nearestMultiple tie r k with
    | some d => ⟨d, k⟩
    | none => searchDown tie r fuel (k - 1)

/-- The fewest digits that read back as the finite number `x`, and among
those the nearest. The search starts above the number and ends within
twenty-four powers, since seventeen digits always suffice. -/
def shortest (tie : Tie) (x : Binary64) : Decimal :=
  if x.significand = 0 then ⟨0, 0⟩
  else
    let top : Int := x.significand.log2 + 1 + x.exponent
    searchDown tie x.rounding 24 (top * 30103 / 100000 + 2)

end Binary64

-- ====================================================== layouts

/-- How a finite number is laid out as text. -/
structure Layout where
  /-- the digit taken of two equally near ones -/
  tie : Tie
  /-- the decimal exponents written without an exponent part; all of them if
  absent -/
  positional : Option (Int × Int)
  /-- a number without a fraction is written with `.0` -/
  keepsPoint : Bool
deriving Repr

namespace Layout

/-- Zeros in a row. -/
def zeros (n : Nat) : String := String.ofList (List.replicate n '0')

/-- Digits with the point after the digit that counts ones. -/
def positionalText (layout : Layout) (digits : List Char) (exponent : Int) :
    String :=
  let count : Int := digits.length
  if 0 ≤ exponent then
    String.ofList digits ++ zeros exponent.toNat
      ++ (if layout.keepsPoint then ".0" else "")
  else if 0 < count + exponent then
    let whole := (count + exponent).toNat
    String.ofList (digits.take whole) ++ "."
      ++ String.ofList (digits.drop whole)
  else
    "0." ++ zeros (-(count + exponent)).toNat ++ String.ofList digits

/-- One digit, the others behind a point, and the signed exponent. -/
def scientificText (digits : List Char) (leading : Int) : String :=
  let tail := digits.drop 1
  String.ofList (digits.take 1)
    ++ (if tail.isEmpty then "" else "." ++ String.ofList tail)
    ++ "e" ++ (if leading < 0 then "-" else "+") ++ toString leading.natAbs

/-- The text of a finite number. -/
def render (layout : Layout) (x : Binary64) : String :=
  let decimal := x.shortest layout.tie
  let digits := Nat.toDigits 10 decimal.digits
  let leading := decimal.exponent + digits.length - 1
  let fits := match layout.positional with
    | none => true
    | some (least, greatest) => least ≤ leading && leading ≤ greatest
  (if x.isNegative then "-" else "")
    ++ (if fits then layout.positionalText digits decimal.exponent
        else scientificText digits leading)

end Layout

end Intake
