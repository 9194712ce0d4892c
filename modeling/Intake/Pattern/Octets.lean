/-
Ranges of characters as sequences of octet ranges in UTF-8.

A range of code points is cut until the characters of every piece have
equally many octets and each octet runs through a range of its own. The
pieces come in ascending order.
-/
import Intake.Pattern.CharSet
import Intake.Text.Utf8

namespace Intake.Pattern.Octets

/-- Where a range has to be cut because its characters share the octets
behind one place: the last code point in front of the cut. -/
def alignedCut (first last block : Nat) : Option Nat :=
  if first / block = last / block then none
  else if first % block ≠ 0 then some (first / block * block + (block - 1))
  else if last % block ≠ block - 1 then some (last / block * block - 1)
  else none

/-- Where a range has to be cut: the last code point in front of the cut. -/
def cut (first last : Nat) : Option Nat :=
  match [0x7F, 0x7FF, 0xFFFF].find? fun limit =>
    first ≤ limit ∧ limit < last with
  | some limit => some limit
  | none =>
    if last < 0x80 then none
    else [0x40, 0x1000, 0x40000].findSome? (alignedCut first last)

/-- The pieces of a range. A range is cut at three lengths and at both ends
of three kinds of blocks, and so at most nine times in a row. -/
def pieces : Nat → Nat → Nat → List (Nat × Nat)
  | 0, first, last => [(first, last)]
  | fuel + 1, first, last =>
    match cut first last with
    | some limit => pieces fuel first limit ++ pieces fuel (limit + 1) last
    | none => [(first, last)]

/-- The octet ranges of a piece. -/
def octetRanges (first last : Nat) : List (Nat × Nat) :=
  let octets (code : Nat) :=
    (Utf8.encodeChar (Char.ofNat code)).map UInt8.toNat
  (octets first).zip (octets last)

/-- A range without the code points that are no characters. -/
def characterRanges (first last : Nat) : List (Nat × Nat) :=
  if first < 0xE000 ∧ 0xD7FF < last then [(first, 0xD7FF), (0xE000, last)]
  else [(first, last)]

/-- The sequences of octet ranges for the characters of a set. -/
def ofSet (s : CharSet) : List (List (Nat × Nat)) :=
  (s.ranges.flatMap fun (a, b) => characterRanges a b).flatMap fun (a, b) =>
    (pieces 16 a b).map fun (c, d) => octetRanges c d

end Intake.Pattern.Octets
