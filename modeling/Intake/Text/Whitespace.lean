/-
White space by the Unicode property White_Space, and cutting it off.
-/
namespace Intake.Text

/-- The white space of all scripts, line breaks included. -/
def isWhitespace (c : Char) : Bool :=
  let n := c.toNat
  (0x09 ≤ n && n ≤ 0x0D) || n == 0x20 || n == 0x85 || n == 0xA0 || n == 0x1680
    || (0x2000 ≤ n && n ≤ 0x200A) || n == 0x2028 || n == 0x2029 || n == 0x202F
    || n == 0x205F || n == 0x3000

/-- Characters without the white space in front. -/
def trimLeft (cs : List Char) : List Char := cs.dropWhile isWhitespace

/-- Characters without the white space behind. -/
def trimRight (cs : List Char) : List Char :=
  (cs.reverse.dropWhile isWhitespace).reverse

/-- The text without white space at either end. -/
def trim (cs : List Char) : List Char := trimRight (trimLeft cs)

/-- Characters other than white space are missing. -/
def isBlank (cs : List Char) : Bool := cs.all isWhitespace

end Intake.Text
