/-
Sentence boundaries by rule.

A sentence ends after a run of full stops, exclamation and question marks
with the closing quotes and brackets behind it, if white space or the end
of the text comes next. A run that begins with a full stop ends no
sentence behind a known abbreviation, behind the single letter of an
initial, or before a word that begins in lower case.
-/
import Intake.Text.Whitespace
import Intake.Text.Alphanumeric
import Intake.Text.Lowercase

namespace Intake.Sentence

open Intake.Text

/-- Words behind which a period does not end a sentence, without that
period. -/
def abbreviations : List String :=
  ["mr", "mrs", "ms", "dr", "prof", "sr", "jr", "st", "mt", "ft", "vs", "etc",
   "e.g", "i.e", "cf", "al", "approx", "dept", "est", "fig", "inc", "ltd",
   "co", "corp", "no", "vol", "pp", "jan", "feb", "mar", "apr", "jun", "jul",
   "aug", "sep", "sept", "oct", "nov", "dec", "u.s", "u.k", "gen", "gov",
   "sen", "rep", "rev", "capt", "col", "lt", "sgt"]

/-- The marks that end sentences. -/
def isTerminator (c : Char) : Bool := c == '.' || c == '!' || c == '?'

/-- The quotation marks and brackets that may stand between the marks that end
a sentence and the white space behind it. -/
def closers : List Char := ['"', '\'', ')', ']', '\x7d', '\u201D', '\u2019']

/-- A character that closes a quotation or a bracket. -/
def isCloser (c : Char) : Bool := closers.contains c

-- ====================================================== suppression

/-- The last word of a text given in reverse, from its first letter or number
on. -/
def lastWord (reversed : List Char) : List Char :=
  (reversed.takeWhile fun c => !isWhitespace c).reverse.dropWhile fun c =>
    !isAlphanumeric c

/-- One alphabetic character. -/
def isInitial (word : List Char) : Bool :=
  match word with
  | [c] => isAlphabetic c
  | _ => false

/-- A word, in any case, behind which a period ends no sentence. -/
def isAbbreviation (word : List Char) : Bool :=
  abbreviations.contains (lowercase (String.ofList word))

/-- The text goes on in lower case after its white space. -/
def continuesLow (rest : List Char) : Bool :=
  (((trimLeft rest).head?).map isLowercase).getD false

/-- A run beginning with `first` ends no sentence between these texts. -/
def isSuppressed (reversed : List Char) (first : Char) (rest : List Char) :
    Bool :=
  first == '.'
    && (isAbbreviation (lastWord reversed) || isInitial (lastWord reversed)
        || continuesLow rest)

-- ====================================================== splitting

/-- The characters at the front that end a sentence or close behind its end. -/
def splitRun (cs : List Char) : List Char × List Char :=
  let marks := cs.takeWhile isTerminator
  let rest := cs.dropWhile isTerminator
  (marks ++ rest.takeWhile isCloser, rest.dropWhile isCloser)

/-- Splitting off a run leaves no more text than there was, so the detector
gets on. -/
theorem length_splitRun (cs : List Char) :
    (splitRun cs).2.length ≤ cs.length := by
  have inner := (List.dropWhile_sublist (l := cs) isTerminator).length_le
  have outer :=
    (List.dropWhile_sublist (l := cs.dropWhile isTerminator)
      isCloser).length_le
  simp only [splitRun]
  omega

/-- White space or the end comes next. -/
def atBoundary : List Char → Bool
  | [] => true
  | c :: _ => isWhitespace c

/-- The trimmed text, unless nothing is left of it. -/
def trimmed (cs : List Char) : List (List Char) :=
  if isBlank cs then [] else [trim cs]

/-- The sentences of a text whose current sentence began with the reversed
characters. -/
def detectFrom (reversed : List Char) : List Char → List (List Char)
  | [] => trimmed reversed.reverse
  | c :: cs =>
    if isTerminator c then
      let run := splitRun cs
      let reversed' := run.1.reverse ++ c :: reversed
      if atBoundary run.2 && !isSuppressed reversed c run.2 then
        trimmed reversed'.reverse ++ detectFrom [] run.2
      else detectFrom reversed' run.2
    else detectFrom (c :: reversed) cs
termination_by cs => cs.length
decreasing_by
  all_goals have := length_splitRun cs
  all_goals simp only [List.length_cons]
  all_goals omega

/-- The trimmed sentences of a text; none is empty. -/
def detect (text : List Char) : List (List Char) := detectFrom [] text

end Intake.Sentence
