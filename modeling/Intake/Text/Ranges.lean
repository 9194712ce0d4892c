/-
Sets of characters given as ranges of code points.

A table lists disjoint ranges in ascending order, each by its first and
its last code point, so a search ends at the first range that begins
behind the character.
-/
namespace Intake.Text

/-- Ranges of code points, each with its first and its last one. -/
abbrev Ranges := List (Nat × Nat)

/-- The code point lies in one of the ascending ranges. -/
def Ranges.hasCode : Ranges → Nat → Bool
  | [], _ => false
  | (first, last) :: rest, code =>
    if code < first then false else code ≤ last || Ranges.hasCode rest code

/-- The character lies in one of the ranges. -/
def Ranges.has (ranges : Ranges) (c : Char) : Bool := ranges.hasCode c.toNat

end Intake.Text
