/-
Cutting text into pieces by size and by paragraph.

Pieces of one size follow each other without gap. Paragraphs are divided
by runs of spaces, tabs and line breaks that hold at least two line
breaks, a carriage return with its line feed counting as one; the whole
run is left out.
-/
import Intake.Text.Whitespace

namespace Intake.Chunk

-- ====================================================== by size

/-- Consecutive groups of `size` items, the last one possibly shorter. -/
def groupsOf {α : Type} (size : Nat) (items : List α) : List (List α) :=
  match items with
  | [] => []
  | x :: xs => (x :: xs.take (size - 1)) :: groupsOf size (xs.drop (size - 1))
termination_by items.length
decreasing_by
  simp only [List.length_drop, List.length_cons]
  omega

-- ====================================================== by paragraph

/-- Line feed, vertical tab, form feed, carriage return, next line, line
separator and paragraph separator. -/
def isLineBreak (c : Char) : Bool :=
  c == '\n' || c == '\x0b' || c == '\x0c' || c == '\r' || c == '\u0085'
    || c == '\u2028'
    || c == '\u2029'

/-- White space that is looked at when chunks are cleaned: blanks, tabs and
line breaks. -/
def isSeparator (c : Char) : Bool := c == ' ' || c == '\t' || isLineBreak c

/-- The number of line breaks, a carriage return with its line feed being
one. -/
def countBreaks : List Char → Nat
  | [] => 0
  | '\r' :: '\n' :: rest => countBreaks rest + 1
  | c :: rest => (if isLineBreak c then 1 else 0) + countBreaks rest

/-- The pieces of a text whose current piece began with the reversed
characters. -/
def paragraphsFrom (reversed : List Char) : List Char → List (List Char)
  | [] => [reversed.reverse]
  | c :: cs =>
    if isSeparator c then
      let run := c :: cs.takeWhile isSeparator
      let rest := cs.dropWhile isSeparator
      if 2 ≤ countBreaks run then reversed.reverse :: paragraphsFrom [] rest
      else paragraphsFrom (run.reverse ++ reversed) rest
    else paragraphsFrom (c :: reversed) cs
termination_by cs => cs.length
decreasing_by
  all_goals have := (List.dropWhile_sublist (l := cs) isSeparator).length_le
  all_goals simp only [List.length_cons]
  all_goals omega

/-- Pieces without the empty ones at the end. -/
def dropTrailingEmpty (pieces : List (List Char)) : List (List Char) :=
  (pieces.reverse.dropWhile List.isEmpty).reverse

/-- The pieces of a text between its blank lines. -/
def paragraphs (text : List Char) : List (List Char) :=
  dropTrailingEmpty (paragraphsFrom [] text)

end Intake.Chunk
