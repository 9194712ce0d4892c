/-
Double-precision numbers as the 64 bits that hold them, with exact
arithmetic on the naturals behind every conversion.

A number is kept by its bits because two numbers of a record are the
same number only when their bits are: the sign of a zero and the payload
of a not-a-number survive being stored. The conversions into the format
all go through `ofRatio`, the nearest number to a quotient of naturals.
-/
namespace Intake

/-- A double-precision number, as its sign bit, eleven exponent bits and
fifty-two fraction bits. -/
structure Binary64 where
  bits : UInt64
deriving DecidableEq, Repr, Inhabited

namespace Binary64

-- ====================================================== the three parts

/-- The magnitude beyond all magnitudes: the sign bit alone. -/
def signBit : Nat := 0x8000000000000000

/-- The leading bit of a significand, beyond the fraction. -/
def leadingBit : Nat := 0x10000000000000

/-- The magnitude of infinity. -/
def infiniteMagnitude : Nat := 0x7FF0000000000000

/-- The sign bit is set. -/
def isNegative (x : Binary64) : Bool := x.bits.toNat / signBit == 1

/-- The biased exponent, between 0 and 2047. -/
def exponentField (x : Binary64) : Nat := x.bits.toNat / leadingBit % 2048

/-- The trailing fifty-two bits. -/
def fractionField (x : Binary64) : Nat := x.bits.toNat % leadingBit

/-- Neither infinite nor something that is no number. -/
def isFinite (x : Binary64) : Bool := x.exponentField != 2047

/-- One of the patterns that stand for no number. -/
def isNaN (x : Binary64) : Bool :=
  x.exponentField == 2047 && x.fractionField != 0

/-- Zero of either sign. -/
def isZero (x : Binary64) : Bool :=
  x.exponentField == 0 && x.fractionField == 0

/-- The significand of a finite number: its magnitude is
`significand * 2 ^ exponent`. -/
def significand (x : Binary64) : Nat :=
  if x.exponentField = 0 then x.fractionField else leadingBit + x.fractionField

/-- The power of two that one unit of the significand stands for. -/
def exponent (x : Binary64) : Int :=
  if x.exponentField = 0 then -1074 else (x.exponentField : Int) - 1075

/-- Numeric equality of finite numbers: a zero equals the other zero. -/
def sameNumber (x y : Binary64) : Bool := x == y || x.isZero && y.isZero

-- ====================================================== rounding

/-- The natural nearest to `num / den`, a half going to the even one. -/
def roundHalfEven (num den : Nat) : Nat :=
  let q := num / den
  let r := num % den
  if 2 * r < den then q
  else if den < 2 * r then q + 1
  else q + q % 2

/-- Zero with its sign bit set. -/
def negativeZero : Binary64 := ⟨0x8000000000000000⟩

/-- Sets the sign of a number given by its magnitude. -/
def withSign (negative : Bool) (magnitude : Nat) : Binary64 :=
  ⟨UInt64.ofNat (if negative then signBit + magnitude else magnitude)⟩

/-- A quotient as a fraction in units of `2 ^ e`. -/
def inUnits (num den : Nat) (e : Int) : Nat × Nat :=
  if 0 ≤ e then (num, den * Nat.pow 2 e.toNat)
  else (num * Nat.pow 2 (-e).toNat, den)

/-- The number nearest to `num / den`, a half going to the even
significand and an overflow to infinity. -/
def ofRatio (negative : Bool) (num den : Nat) : Binary64 :=
  if num = 0 then withSign negative 0
  else
    let low : Int := (num.log2 : Int) - den.log2 - 53
    let (n, d) := inUnits num den low
    let unit := max (if n / d < 2 * leadingBit then low else low + 1) (-1074)
    let (n, d) := inUnits num den unit
    let m := roundHalfEven n d
    let magnitude :=
      if m < leadingBit then m
      else (unit + 1075).toNat * leadingBit + (m - leadingBit)
    withSign negative (min magnitude infiniteMagnitude)

/-- The number nearest to an integer. -/
def ofInt (i : Int) : Binary64 := ofRatio (i < 0) i.natAbs 1

/-- The number nearest to `digits * 10 ^ exponent`. -/
def ofDecimal (negative : Bool) (digits : Nat) (exponent : Int) : Binary64 :=
  if 0 ≤ exponent then ofRatio negative (digits * Nat.pow 10 exponent.toNat) 1
  else ofRatio negative digits (Nat.pow 10 (-exponent).toNat)

-- ====================================================== product and quotient

/-- A finite magnitude as a quotient of naturals. -/
def ratio (x : Binary64) : Nat × Nat :=
  if 0 ≤ x.exponent then (x.significand * Nat.pow 2 x.exponent.toNat, 1)
  else (x.significand, Nat.pow 2 (-x.exponent).toNat)

/-- The product of two finite numbers, rounded once. -/
def mul (x y : Binary64) : Binary64 :=
  let (a, b) := x.ratio
  let (c, d) := y.ratio
  ofRatio (x.isNegative != y.isNegative) (a * c) (b * d)

/-- The quotient of two finite numbers of which the second is not zero,
rounded once. -/
def div (x y : Binary64) : Binary64 :=
  let (a, b) := x.ratio
  let (c, d) := y.ratio
  ofRatio (x.isNegative != y.isNegative) (a * d) (b * c)

end Binary64

end Intake
