/-
What stands behind a backslash in a pattern.
-/
import Intake.Pattern.Flags
import Intake.Pattern.Syntax
import Intake.Json.Parser

namespace Intake.Pattern

/-- What an escape stands for. -/
inductive Escape where
  | literal (c : Char)
  | set (characters : CharSet)
  | look (condition : Look)

/-- The characters that stand for themselves behind a backslash. -/
def isMeta (c : Char) : Bool := "\\.+*?()|[]\x7b\x7d^$#&-~".toList.contains c

/-- ASCII characters that stand for themselves behind a backslash. -/
def isEscapable (c : Char) : Bool :=
  isMeta c || (c.toNat < 0x80 && !c.isAlphanum && c != '<' && c != '>')

-- ====================================================== code points

/-- The character of a code point. -/
def scalar? (n : Nat) : Option Char :=
  if n.isValidChar then some (Char.ofNat n) else none

/-- The value of hexadecimal digits. -/
def hexDigits? (digits : List Char) : Option Nat :=
  digits.foldlM (fun n c => (Json.hexDigit? c).map (n * 16 + ·)) 0

/-- The value of a given number of hexadecimal digits behind another value. -/
def fixedHex (flags : Flags) : Nat → Nat → List Char → Option (Nat × List Char)
  | 0, value, cs => some (value, cs)
  | _ + 1, _, [] => none
  | count + 1, value, c :: rest => do
    let d ← Json.hexDigit? c
    fixedHex flags count (value * 16 + d) (skip flags rest)

/-- The character of hexadecimal digits in braces or in a fixed number.
Without Unicode two digits beyond ASCII stand for an octet that is no
character, and are refused. -/
def hexEscape (flags : Flags) (count : Nat) (cs : List Char) :
    Option (Escape × List Char) :=
  match skip flags cs with
  | '\x7b' :: rest => do
    let (digits, rest) ← untilBrace flags rest
    if digits.isEmpty then none
    else return (.literal (← scalar? (← hexDigits? digits)), rest)
  | cs => do
    let (value, rest) ← fixedHex flags count 0 cs
    if count = 2 ∧ 0x80 ≤ value ∧ !flags.unicode then none
    else return (.literal (← scalar? value), rest)

-- ====================================================== properties

/-- The parts of a text around the first place where another stands. -/
def splitAt? (mark : List Char) : List Char → Option (List Char × List Char)
  | [] => none
  | c :: rest =>
    if mark.isPrefixOf (c :: rest) then some ([], (c :: rest).drop mark.length)
    else (splitAt? mark rest).map fun (before, after) => (c :: before, after)

/-- The set of what stands between braces, and whether it is the complement
that is meant. -/
def propertySet? (inside : List Char) : Option (CharSet × Bool) :=
  match splitAt? ['!', '='] inside with
  | some (property, value) => (CharSet.valued? property value).map (·, true)
  | none =>
    match (splitAt? [':'] inside).or (splitAt? ['='] inside) with
    | some (property, value) => (CharSet.valued? property value).map (·, false)
    | none => (CharSet.named? inside).map (·, false)

/-- The set that is named after a `p`, and whether the complement is meant. -/
def readProperty (flags : Flags) (cs : List Char) :
    Option ((CharSet × Bool) × List Char) :=
  match skip flags cs with
  | [] => none
  | '\x7b' :: rest => do
    let (inside, rest) ← untilBrace flags rest
    return (← propertySet? inside, rest)
  | c :: rest => if c = '\\' then none else (CharSet.named? [c]).map fun set =>
      ((set, false), rest)

/-- A property escape after its `p`. -/
def propertyEscape (flags : Flags) (negated : Bool) (cs : List Char) :
    Option (Escape × List Char) :=
  if !flags.unicode then none
  else (readProperty flags cs).map fun ((set, inverse), rest) =>
    (.set ((flags.fold set).negateIf (negated != inverse)), rest)

/-- The set of a one-letter class. -/
def classEscape (flags : Flags) (negated : Bool) (set : Bool → CharSet)
    (rest : List Char) : Option (Escape × List Char) :=
  (flags.negate? negated (set flags.unicode)).map fun set => (.set set, rest)

-- ====================================================== words

/-- A character of the name of a boundary. -/
def isBoundaryNameChar (c : Char) : Bool := c.isAlpha || c == '-'

/-- The boundary with a name. -/
def namedBoundary? (name : String) (unicode : Bool) : Option Look :=
  match name with
  | "start" => some (.wordStart unicode)
  | "end" => some (.wordEnd unicode)
  | "start-half" => some (.wordStartHalf unicode)
  | "end-half" => some (.wordEndHalf unicode)
  | _ => none

/-- A condition on words after its `\b`, which may be named in braces. -/
def boundaryEscape (flags : Flags) (cs : List Char) :
    Option (Escape × List Char) :=
  let plain : Option (Escape × List Char) :=
    some (.look (.wordBoundary flags.unicode), cs)
  match cs with
  | '\x7b' :: rest =>
    match skip flags rest with
    | [] => none
    | c :: _ =>
      if !isBoundaryNameChar c then plain
      else do
        let (name, rest) ← untilBrace flags rest
        return (.look (← namedBoundary? (String.ofList name) flags.unicode),
          rest)
  | _ => plain

-- ====================================================== all escapes

/-- An escape after its backslash. -/
def readEscape (flags : Flags) : List Char → Option (Escape × List Char)
  | [] => none
  | c :: rest =>
    match c with
    | 'x' => hexEscape flags 2 rest
    | 'u' => hexEscape flags 4 rest
    | 'U' => hexEscape flags 8 rest
    | 'p' => propertyEscape flags false rest
    | 'P' => propertyEscape flags true rest
    | 'd' => classEscape flags false CharSet.digits rest
    | 'D' => classEscape flags true CharSet.digits rest
    | 's' => classEscape flags false CharSet.blanks rest
    | 'S' => classEscape flags true CharSet.blanks rest
    | 'w' => classEscape flags false CharSet.word rest
    | 'W' => classEscape flags true CharSet.word rest
    | 'a' => some (.literal '\x07', rest)
    | 'f' => some (.literal '\x0c', rest)
    | 't' => some (.literal '\t', rest)
    | 'n' => some (.literal '\n', rest)
    | 'r' => some (.literal '\r', rest)
    | 'v' => some (.literal '\x0b', rest)
    | 'A' => some (.look .textStart, rest)
    | 'z' => some (.look .textEnd, rest)
    | 'b' => boundaryEscape flags rest
    | 'B' => some (.look (.notWordBoundary flags.unicode), rest)
    | '<' => some (.look (.wordStart flags.unicode), rest)
    | '>' => some (.look (.wordEnd flags.unicode), rest)
    | c => if isEscapable c then some (.literal c, rest) else none

end Intake.Pattern
