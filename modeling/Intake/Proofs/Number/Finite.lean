/-
Integers of 64 bits as doubles are finite.

The double nearest to a natural is found in units that leave a significand
of at most fifty-four bits, so its exponent is about the length of the
natural. Sixty-four bits are far from the largest exponent.
-/
import Intake.Json.Basic
import Mathlib.Algebra.Ring.Nat

namespace Intake.Binary64

/-- A magnitude below infinity gives a finite number. -/
theorem isFinite_withSign {magnitude : Nat} (negative : Bool)
    (h : magnitude < infiniteMagnitude) :
    (withSign negative magnitude).isFinite = true := by
  have hsmall : magnitude < 0x7FF0000000000000 := h
  have hfield : (withSign negative magnitude).exponentField
      = magnitude / leadingBit := by
    rw [exponentField, withSign, UInt64.toNat_ofNat']
    cases negative with
    | false =>
        simp only [Bool.false_eq_true, if_false, leadingBit]
        omega
    | true =>
        simp only [if_true, signBit, leadingBit]
        omega
  rw [isFinite, hfield, bne_iff_ne, leadingBit]
  omega

/-- Rounding takes a quotient up by one at most. -/
theorem roundHalfEven_le (num den : Nat) :
    roundHalfEven num den ≤ num / den + 1 := by
  rw [roundHalfEven]
  split
  · omega
  · split
    · omega
    · have := Nat.mod_lt (num / den) (by decide : 2 > 0)
      omega

/-- In units that are no finer than fifty-three places below its leading bit
a natural has at most fifty-four bits. -/
theorem quotient_inUnits_lt {n : Nat} {e : Int} (hn : n ≠ 0)
    (h : (n.log2 : Int) - 53 ≤ e) :
    (inUnits n 1 e).1 / (inUnits n 1 e).2 < 2 ^ 54 := by
  have hlog : n < 2 ^ (n.log2 + 1) := (Nat.log2_lt hn).mp (Nat.lt_succ_self _)
  by_cases he : 0 ≤ e
  · rw [inUnits, if_pos he, Nat.one_mul]
    refine Nat.div_lt_of_lt_mul (Nat.lt_of_lt_of_le hlog ?_)
    rw [Nat.pow_eq, ← Nat.pow_add]
    exact Nat.pow_le_pow_right (by decide) (by omega)
  · rw [inUnits, if_neg he, Nat.div_one, Nat.pow_eq]
    calc n * 2 ^ (-e).toNat
        < 2 ^ (n.log2 + 1) * 2 ^ (-e).toNat :=
          Nat.mul_lt_mul_of_pos_right hlog (Nat.two_pow_pos _)
      _ = 2 ^ (n.log2 + 1 + (-e).toNat) := (Nat.pow_add _ _ _).symm
      _ ≤ 2 ^ 54 := Nat.pow_le_pow_right (by decide) (by omega)

/-- A significand of fifty-four bits and an exponent well below the largest
one make a magnitude below infinity. -/
theorem magnitude_lt {m e : Nat} (hm : m ≤ 2 ^ 54) (he : e ≤ 1087) :
    (if m < leadingBit then m else e * leadingBit + (m - leadingBit))
      < infiniteMagnitude := by
  have hscaled := Nat.mul_le_mul_right leadingBit he
  by_cases hsmall : m < leadingBit
  · rw [if_pos hsmall]
    exact Nat.lt_trans hsmall (by decide)
  · rw [if_neg hsmall]
    simp only [leadingBit, infiniteMagnitude] at hscaled ⊢
    omega

/-- An integer of up to 65 bits is finite as a double. -/
theorem isFinite_ofRatio_one {n : Nat} (negative : Bool) (h : n < 2 ^ 65) :
    (ofRatio negative n 1).isFinite = true := by
  rw [ofRatio]
  split
  · exact isFinite_withSign negative (by decide)
  · next hn =>
      have hlog : n.log2 < 65 := (Nat.log2_lt hn).mpr h
      have hone : Nat.log2 1 = 0 := by decide
      dsimp only
      rw [hone]
      generalize hlow : ((n.log2 : Int) - ((0 : Nat) : Int) - 53) = low
      generalize hunit :
        max (if (inUnits n 1 low).1 / (inUnits n 1 low).2 < 2 * leadingBit
          then low else low + 1) (-1074) = unit
      have hbounds : low ≤ unit ∧ unit ≤ 12 := by
        split at hunit
        · omega
        · omega
      have hquotient := quotient_inUnits_lt (e := unit) hn (by omega)
      have hround := roundHalfEven_le (inUnits n 1 unit).1 (inUnits n 1 unit).2
      have hmagnitude := magnitude_lt (m := roundHalfEven (inUnits n 1 unit).1
        (inUnits n 1 unit).2) (e := (unit + 1075).toNat) (by omega) (by omega)
      exact isFinite_withSign negative
        (Nat.lt_of_le_of_lt (Nat.min_le_left _ _) hmagnitude)

/-- The double nearest to an integer that a document can hold is finite. -/
theorem isFinite_ofInt {i : Int} (h : Json.fitsInteger i) :
    (ofInt i).isFinite = true := by
  refine isFinite_ofRatio_one _ ?_
  unfold Json.fitsInteger at h
  omega

end Intake.Binary64

namespace Intake.Json.Number

/-- Every number of a document is finite as a double. -/
theorem isFinite_toDouble (n : Number) : n.toDouble.isFinite = true := by
  cases n with
  | int i fits => exact Binary64.isFinite_ofInt fits
  | float x finite => exact finite

end Intake.Json.Number
