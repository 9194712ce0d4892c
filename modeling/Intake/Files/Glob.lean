/-
Patterns for relative paths.

A star stands for any octets and a question mark for one, slashes
included. Two stars that fill a step of the path stand for any number of
steps, possibly none. A bracket stands for one octet of a set, braces for
one of several patterns of which empty ones do not count, and a backslash
takes the next character as it is. Case matters.

Matching keeps the endings of the path that are still to be matched, and
takes each token from all of them to all endings behind it.
-/
import Intake.Text.Utf8
import Intake.Failure

namespace Intake

/-- The parts of a pattern. -/
inductive Glob.Token where
  | literal (c : Char)
  | one
  | many
  /-- directories in front, or nothing -/
  | leading
  /-- a slash and everything behind it -/
  | trailing
  /-- directories in between, or a slash alone -/
  | between
  | oneOf (negated : Bool) (ranges : List (UInt8 × UInt8))
  | either (branches : List (List Glob.Token))
deriving Repr, Inhabited

/-- A pattern for paths that was read. -/
structure Glob where
  tokens : List Glob.Token
deriving Repr

namespace Glob

-- ====================================================== brackets

/-- The octets of a character. -/
def octetsOf (c : Char) : List UInt8 := Utf8.ofText (String.singleton c)

/-- The octets for a range of characters: between octets of several, the
last one of the first character and the first one of the last character
make the range, and all others stand for themselves. -/
def octetRanges (first last : Char) : List (UInt8 × UInt8) :=
  let same (b : UInt8) := (b, b)
  let low := octetsOf first
  let high := octetsOf last
  if first = last then low.map same
  else low.dropLast.map same ++ (low.getLastD 0, high.headD 0)
    :: high.tail.map same

/-- The ranges of characters between brackets, behind some in reverse. A
hyphen makes a range between two characters and stands for itself at
either end. -/
def classRanges : List (Char × Char) → List Char → Option (List (Char × Char))
  | ranges, [] => some ranges.reverse
  | [], c :: rest => classRanges [(c, c)] rest
  | ranges, ['-'] => some (('-', '-') :: ranges).reverse
  | (first, _) :: ranges, '-' :: c :: rest =>
    if c < first then none else classRanges ((first, c) :: ranges) rest
  | ranges, c :: rest => classRanges ((c, c) :: ranges) rest

/-- A bracket after its opening, which holds at least one character. -/
def readClass (cs : List Char) : Option (Token × List Char) :=
  let (negated, cs) := match cs with
    | '!' :: rest => (true, rest)
    | '^' :: rest => (true, rest)
    | _ => (false, cs)
  match cs with
  | [] => none
  | first :: rest =>
    match rest.dropWhile (· != ']') with
    | [] => none
    | _ :: after =>
      (classRanges [] (first :: rest.takeWhile (· != ']'))).map fun ranges =>
        (.oneOf negated (ranges.flatMap fun (a, b) => octetRanges a b), after)

-- ====================================================== reading

/-- Braces that are still open: the tokens in front of them and their
finished branches, both in reverse. -/
structure Frame where
  outer : List Token
  branches : List (List Token)

/-- What two stars do: the tokens in reverse, and whether the slash behind
the stars belongs to them. They fill a step if a slash or nothing is in
front of them, and a slash or the end of the pattern behind. -/
def doubleStar (inBraces : Bool) (before : Option Char) (tokens : List Token)
    (rest : List Char) : List Token × Bool :=
  let next := rest.head?
  let plain := (Token.many :: Token.many :: tokens, false)
  match tokens with
  | [] =>
      if next = none ∨ next = some '/' then ([.leading], next = some '/')
      else plain
  | previous :: others =>
    let opened := inBraces && (before == some ',' || before == some '\x7b')
    let atEnd :=
      next == none || (inBraces && (next == some ',' || next == some '\x7d'))
    if before ≠ some '/' ∧ !opened then plain
    else if !atEnd ∧ next ≠ some '/' then plain
    else match previous with
      | .leading => (.leading :: others, !atEnd)
      | .trailing => (.trailing :: others, !atEnd)
      | _ => ((if atEnd then .trailing else .between) :: others, !atEnd)

/-- Reads tokens behind a character, within open braces. Every step takes
at least one character. -/
def readTokens :
    Nat → Option Char → List Frame → List Token → List Char
      → Option (List Token)
  | 0, _, _, _, _ => none
  | _ + 1, _, [], tokens, [] => some tokens.reverse
  | _ + 1, _, _ :: _, _, [] => none
  | fuel + 1, before, frames, tokens, c :: rest =>
    match c with
    | '?' => readTokens fuel (some c) frames (.one :: tokens) rest
    | '*' =>
      match rest with
      | '*' :: rest =>
        let (tokens, takesSlash) :=
          doubleStar (!frames.isEmpty) before tokens rest
        if takesSlash then
          readTokens fuel (some '/') frames tokens (rest.drop 1)
        else readTokens fuel (some '*') frames tokens rest
      | _ => readTokens fuel (some c) frames (.many :: tokens) rest
    | '[' =>
      match readClass rest with
      | some (token, rest) =>
          readTokens fuel (some ']') frames (token :: tokens) rest
      | none => none
    | '\x7b' => readTokens fuel (some c) (⟨tokens, []⟩ :: frames) [] rest
    | '\x7d' =>
      match frames with
      | [] => none
      | ⟨outer, branches⟩ :: frames =>
        let token := Token.either (tokens.reverse :: branches).reverse
        readTokens fuel (some c) frames (token :: outer) rest
    | ',' =>
      match frames with
      | [] => readTokens fuel (some c) [] (.literal c :: tokens) rest
      | ⟨outer, branches⟩ :: frames =>
        readTokens fuel (some c)
          (⟨outer, tokens.reverse :: branches⟩ :: frames) [] rest
    | '\\' =>
      match rest with
      | [] => none
      | escaped :: rest =>
          readTokens fuel (some escaped) frames
            (.literal escaped :: tokens) rest
    | _ => readTokens fuel (some c) frames (.literal c :: tokens) rest

/-- The pattern of a text, if it can be read. -/
def parse (s : String) : Option Glob :=
  let cs := s.toList
  (readTokens (cs.length + 1) none [] [] cs).map Glob.mk

-- ====================================================== matching

/-- An end of a path. -/
abbrev Ending := List UInt8

/-- The octet between the steps of a path. -/
def slash : UInt8 := 0x2F

/-- The text behind given octets, if it begins with them. -/
def behind : List UInt8 → Ending → Option Ending
  | [], ending => some ending
  | _ :: _, [] => none
  | b :: bs, c :: ending => if b = c then behind bs ending else none

/-- The endings of a text, the text itself first. -/
def endings : Ending → List Ending
  | [] => [[]]
  | b :: rest => (b :: rest) :: endings rest

/-- The endings behind a slash. -/
def behindSlashes : Ending → List Ending
  | [] => []
  | b :: rest =>
      if b = slash then rest :: behindSlashes rest else behindSlashes rest

/-- An octet within one of the ranges of a bracket. -/
def inRanges (ranges : List (UInt8 × UInt8)) (b : UInt8) : Bool :=
  ranges.any fun (first, last) => first ≤ b && b ≤ last

mutual

/-- The token stands for nothing at all. -/
def Token.isVoid : Token → Bool
  | .either branches => allVoid branches
  | _ => false

/-- All tokens of a branch stand for nothing. -/
def isVoidBranch : List Token → Bool
  | [] => true
  | token :: tokens => token.isVoid && isVoidBranch tokens

/-- All branches of braces stand for nothing. -/
def allVoid : List (List Token) → Bool
  | [] => true
  | branch :: branches => isVoidBranch branch && allVoid branches

end

mutual

/-- The endings behind what a token stands for. -/
def Token.reach : Token → List Ending → List Ending
  | .literal c, from_ => from_.filterMap (behind (octetsOf c))
  | .one, from_ => from_.filterMap List.tail?
  | .many, from_ => (from_.flatMap endings).eraseDups
  | .leading, from_ => (from_.flatMap fun e => e :: behindSlashes e).eraseDups
  | .trailing, from_ =>
      ((from_.filterMap (behind [slash])).flatMap endings).eraseDups
  | .between, from_ =>
    ((from_.filterMap (behind [slash])).flatMap fun e =>
      e :: behindSlashes e).eraseDups
  | .oneOf negated ranges, from_ => from_.filterMap fun
    | [] => none
    | b :: rest => if inRanges ranges b != negated then some rest else none
  | .either branches, from_ =>
    if allVoid branches then from_ else (reachAny branches from_).eraseDups

/-- The endings behind a sequence of tokens. -/
def reachAll : List Token → List Ending → List Ending
  | [], from_ => from_
  | token :: tokens, from_ => reachAll tokens (token.reach from_)

/-- The endings behind any branch that stands for something. -/
def reachAny : List (List Token) → List Ending → List Ending
  | [], _ => []
  | branch :: branches, from_ =>
    (if isVoidBranch branch then [] else reachAll branch from_)
      ++ reachAny branches from_

end

/-- The pattern matches a whole path. Two stars alone match every path. -/
def isMatch (g : Glob) (path : String) : Bool :=
  match g.tokens with
  | [.leading] => true
  | tokens => (reachAll tokens [Utf8.ofText path]).any List.isEmpty

-- ====================================================== depth

/-- How many things next to each other a token stands for. -/
def Token.width : Token → Nat
  | .literal c => (octetsOf c).length
  | .trailing => 2
  | .either branches => if allVoid branches then 0 else 1
  | _ => 1

/-- How many things next to each other a sequence of tokens stands for. -/
def width : List Token → Nat
  | [] => 0
  | token :: tokens => token.width + width tokens

/-- Several things next to each other are one level above each of them. -/
def sequenceLevel (tokens : List Token) : Nat :=
  if 2 ≤ width tokens then 1 else 0

/-- Several branches that stand for something are one level above each of
them. -/
def choiceLevel (branches : List (List Token)) : Nat :=
  if 2 ≤ (branches.filter fun tokens => !isVoidBranch tokens).length then 1
  else 0

mutual

/-- How many levels lie within a token. Repetitions, braces and brackets
are levels, and so are the choices that stars for steps stand for. -/
def Token.depth : Token → Nat
  | .literal _ | .one => 0
  | .many | .trailing => 1
  | .leading | .between => 4
  | .oneOf _ ranges => if 2 ≤ ranges.length then 2 else 1
  | .either branches =>
    if allVoid branches then 0
    else 1 + choiceLevel branches + deepestBranch branches

/-- The levels within the deepest token. -/
def deepest : List Token → Nat
  | [] => 0
  | token :: tokens => max token.depth (deepest tokens)

/-- The levels within the deepest branch. -/
def deepestBranch : List (List Token) → Nat
  | [] => 0
  | tokens :: branches =>
      max (sequenceLevel tokens + deepest tokens) (deepestBranch branches)

end

/-- The levels of a whole pattern, itself the outermost one. -/
def depth (g : Glob) : Nat := 1 + deepest g.tokens

/-- The most levels that a pattern may have. -/
def depthLimit : Nat := 250

-- ====================================================== sets

/-- The patterns of texts, if all of them can be read. -/
def parseAll : List String → Except Failure (List Glob)
  | [] => .ok []
  | s :: rest =>
    match parse s with
    | none => .error (.external ("Invalid glob: " ++ s))
    | some g => (parseAll rest).map (g :: ·)

/-- The patterns of texts, if none of them is too deep either. -/
def readAll (texts : List String) : Except Failure (List Glob) := do
  let globs ← parseAll texts
  if globs.all fun g => g.depth ≤ depthLimit then return globs
  throw .unexplained

/-- Some pattern of a set matches a whole path. -/
def anyMatch (globs : List Glob) (path : String) : Bool :=
  globs.any fun g => g.isMatch path

end Glob

end Intake
