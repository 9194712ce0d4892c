/-
Line breaks inside a chunk, taken out with the ASCII blanks around them.

A break is replaced together with the run of ASCII blanks before and after
it by one space. The breaks beyond ASCII are no blanks themselves, so two
of them in a row are two breaks and leave two spaces.
-/
import Intake.Chunk.Split

namespace Intake.Chunk

/-- Space, tab and the line breaks of ASCII. -/
def isAsciiBlank (c : Char) : Bool :=
  c == ' ' || c == '\t' || c == '\n' || c == '\x0b' || c == '\x0c' || c == '\r'

/-- A line break that is no ASCII blank comes next. -/
def startsWide : List Char → Bool
  | [] => false
  | c :: _ => isLineBreak c && !isAsciiBlank c

/-- Each line break and the ASCII blanks around it replaced by a space. -/
def joinLines : List Char → List Char
  | [] => []
  | c :: cs =>
    if isAsciiBlank c then
      let run := c :: cs.takeWhile isAsciiBlank
      let rest := cs.dropWhile isAsciiBlank
      if startsWide rest then
        ' ' :: joinLines ((rest.drop 1).dropWhile isAsciiBlank)
      else (if run.any isLineBreak then [' '] else run) ++ joinLines rest
    else if isLineBreak c then ' ' :: joinLines (cs.dropWhile isAsciiBlank)
    else c :: joinLines cs
termination_by cs => cs.length
decreasing_by
  all_goals have before :=
    (List.dropWhile_sublist (l := cs) isAsciiBlank).length_le
  all_goals simp only [List.length_cons]
  · have dropped := (List.dropWhile_sublist
      (l := (cs.dropWhile isAsciiBlank).drop 1) isAsciiBlank).length_le
    have := (List.drop_sublist 1 (cs.dropWhile isAsciiBlank)).length_le
    omega
  all_goals omega

/-- A chunk on one line, trimmed. -/
def clean (chunk : List Char) : List Char := Text.trim (joinLines chunk)

end Intake.Chunk
