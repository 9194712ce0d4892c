/-
Sets of characters as patterns name them.

A set is the ascending list of its ranges of code points, no two of which
overlap or touch. Code points from D800 to DFFF are no characters; a range
may reach across them, but none begins or ends there.
-/
import Intake.Text.Ranges

namespace Intake.Pattern

/-- A set of characters as ranges of their codes, in ascending order with gaps
between them. -/
structure CharSet where
  ranges : Text.Ranges
deriving Repr, DecidableEq, Inhabited

namespace CharSet

/-- The set has a character. -/
def has (s : CharSet) (c : Char) : Bool := s.ranges.has c

/-- The empty set. -/
def nothing : CharSet := ⟨[]⟩

/-- All characters. -/
def all : CharSet := ⟨[(0, 0x10FFFF)]⟩

/-- The characters below 128. -/
def ascii : CharSet := ⟨[(0, 0x7F)]⟩

/-- The set of one character. -/
def single (c : Char) : CharSet := ⟨[(c.toNat, c.toNat)]⟩

/-- The set has no characters. -/
def isEmpty (s : CharSet) : Bool := s.ranges.isEmpty

/-- The only character of a set that has just one. -/
def only? (s : CharSet) : Option Char :=
  match s.ranges with
  | [(first, last)] => if first = last then some (Char.ofNat first) else none
  | _ => none

/-- All characters of the set are below 128. -/
def isAscii (s : CharSet) : Bool := s.ranges.all fun (_, last) => last < 0x80

/-- The code point of the next character. -/
def nextCode (code : Nat) : Nat := if code = 0xD7FF then 0xE000 else code + 1

/-- The code point of the previous character. -/
def previousCode (code : Nat) : Nat :=
  if code = 0xE000 then 0xD7FF else code - 1

-- ====================================================== union

/-- Joins ranges in ascending order of their first code points where they
overlap or touch, beginning with a given one. -/
def joinFrom : Nat × Nat → Text.Ranges → Text.Ranges
  | range, [] => [range]
  | (a, b), (c, d) :: rest =>
    if c ≤ b + 1 then joinFrom (a, max b d) rest
    else (a, b) :: joinFrom (c, d) rest

/-- Ascending ranges made into ranges with gaps between them. -/
def join : Text.Ranges → Text.Ranges
  | [] => []
  | range :: rest => joinFrom range rest

/-- The set of ranges in any order. -/
def ofRanges (ranges : Text.Ranges) : CharSet :=
  ⟨join (ranges.mergeSort fun r s => r.1 ≤ s.1)⟩

/-- The characters of any of the sets. -/
def unions (sets : List CharSet) : CharSet :=
  ofRanges (sets.flatMap CharSet.ranges)

/-- The characters of either set. -/
def union (s t : CharSet) : CharSet :=
  ⟨join (s.ranges.merge t.ranges fun r s => r.1 ≤ s.1)⟩

-- ====================================================== complement

/-- A range between two code points in either order. -/
def rangeBetween (code other : Nat) : Nat × Nat :=
  (min code other, max code other)

/-- The gaps behind a code point. Where nothing but code points that are no
characters lies between two ranges, the characters on both sides stand for
the gap. -/
def gapsBehind (last : Nat) : Text.Ranges → Text.Ranges
  | [] => if last < 0x10FFFF then [(nextCode last, 0x10FFFF)] else []
  | (a, b) :: rest =>
      rangeBetween (nextCode last) (previousCode a) :: gapsBehind b rest

/-- The characters that are not in the set. -/
def complement (s : CharSet) : CharSet :=
  match s.ranges with
  | [] => all
  | (a, b) :: rest =>
      ⟨(if 0 < a then [(0, previousCode a)] else []) ++ gapsBehind b rest⟩

/-- The set or what is not in it. -/
def negateIf (negated : Bool) (s : CharSet) : CharSet :=
  if negated then s.complement else s

-- ====================================================== common parts

/-- The common parts of two lists of ranges. -/
def common : Text.Ranges → Text.Ranges → Text.Ranges
  | [], _ => []
  | _, [] => []
  | (a, b) :: s, (c, d) :: t =>
    let rest :=
      if b < d then common s ((c, d) :: t) else common ((a, b) :: s) t
    if max a c ≤ min b d then (max a c, min b d) :: rest else rest
termination_by s t => s.length + t.length

/-- The characters of both sets. -/
def inter (s t : CharSet) : CharSet := ⟨common s.ranges t.ranges⟩

/-- What the second list of ranges leaves of the first one. -/
def without : Text.Ranges → Text.Ranges → Text.Ranges
  | [], _ => []
  | s, [] => s
  | (a, b) :: s, (c, d) :: t =>
    if d < a then without ((a, b) :: s) t
    else if b < c then (a, b) :: without s ((c, d) :: t)
    else
      (if a < c then [(a, previousCode c)] else []) ++
        (if d < b then without ((nextCode d, b) :: s) t
          else without s ((c, d) :: t))
termination_by s t => s.length + t.length

/-- The characters of the first set that are not in the second. -/
def difference (s t : CharSet) : CharSet := ⟨without s.ranges t.ranges⟩

/-- The characters of exactly one of two sets. -/
def symmetricDifference (s t : CharSet) : CharSet :=
  (s.union t).difference (s.inter t)

end CharSet

end Intake.Pattern
