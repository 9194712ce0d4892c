/-
The flags of a pattern, and what they change about reading it: blanks in
verbose patterns, and the case variants of characters.

A reader takes the characters still unread and gives back what it read
with the characters that follow.
-/
import Intake.Pattern.Folding
import Intake.Text.Whitespace

namespace Intake.Pattern

/-- The switches that are on in a part of a pattern. -/
structure Flags where
  ignoreCase : Bool := false
  multiLine : Bool := false
  dotAll : Bool := false
  reluctant : Bool := false
  unicode : Bool := true
  anyLineEnd : Bool := false
  verbose : Bool := false
deriving Repr, DecidableEq

-- ====================================================== blanks

/-- Characters behind white space and comments, from within a comment or
not. -/
def skipVerbose : Bool → List Char → List Char
  | _, [] => []
  | true, c :: rest => skipVerbose (c != '\n') rest
  | false, c :: rest =>
    if Text.isWhitespace c then skipVerbose false rest
    else if c = '#' then skipVerbose true rest
    else c :: rest

/-- In verbose patterns white space and comments are passed over. -/
def skip (flags : Flags) (cs : List Char) : List Char :=
  if flags.verbose then skipVerbose false cs else cs

/-- The characters in a row that satisfy a condition. In verbose patterns
white space and comments are passed over between them and behind. -/
def spread (flags : Flags) (p : Char → Bool) :
    Bool → List Char → List Char × List Char
  | _, [] => ([], [])
  | true, c :: rest => spread flags p (c != '\n') rest
  | false, c :: rest =>
    if flags.verbose && Text.isWhitespace c then spread flags p false rest
    else if flags.verbose && c == '#' then spread flags p true rest
    else if p c then
      let (taken, rest) := spread flags p false rest
      (c :: taken, rest)
    else ([], c :: rest)

/-- Characters up to a closing brace. -/
def untilBrace (flags : Flags) (cs : List Char) :
    Option (List Char × List Char) :=
  match spread flags (· != '\x7d') false cs with
  | (inside, _ :: rest) => some (inside, rest)
  | (_, []) => none

/-- The first character behind one that need not be passed over. The mark of
a comment is passed over, but not the comment. -/
def peek (flags : Flags) (rest : List Char) : Option Char :=
  if !flags.verbose then rest.head?
  else
    let visible := match rest.dropWhile Text.isWhitespace with
      | '#' :: comment => comment.dropWhile Text.isWhitespace
      | cs => cs
    visible.head?.or rest.head?

-- ====================================================== case

/-- A set with its case variants where case is ignored. Without Unicode
only ASCII letters have any. -/
def Flags.fold (flags : Flags) (s : CharSet) : CharSet :=
  if !flags.ignoreCase then s else if flags.unicode then s.folded
  else s.foldedAscii

/-- A set or its complement. Without Unicode a complement would hold octets
that are no characters and is refused. -/
def Flags.negate? (flags : Flags) (negated : Bool) (s : CharSet) :
    Option CharSet :=
  if negated && !flags.unicode then none else some (s.negateIf negated)

/-- The case variants of a character where case is ignored. -/
def Flags.variants (flags : Flags) (c : Char) : CharSet :=
  if flags.ignoreCase && flags.unicode then CharSet.variants c
  else flags.fold (.single c)

end Intake.Pattern
