/-
Reading a pattern from text.

The syntax has literals and escapes, classes in brackets with nesting and
set operations, groups, alternatives, greedy and reluctant repetitions,
conditions on the place, and flags that hold to the end of their group.
There are no back references and no conditions on text further ahead or
behind. Groups that are still open are kept in a list, the innermost
first.
-/
import Intake.Pattern.Beginning
import Intake.Pattern.Class
import Intake.Pattern.Simplify
import Intake.Pattern.Size
import Intake.Text.Alphanumeric

namespace Intake.Pattern

-- ====================================================== parts

/-- A part of a pattern that has been read, how deep its syntax nests, and
whether it can be repeated. -/
structure Part where
  pattern : Pattern
  depth : Nat
  repeatable : Bool

/-- How deep the syntax of a pattern may nest. -/
def nestingLimit : Nat := 250

/-- Several parts nest one level deeper than a single one. -/
def depthOf (parts : List Part) : Nat :=
  match parts with
  | [] => 0
  | [part] => part.depth
  | parts => parts.foldl (fun depth part => max depth part.depth) 0 + 1

/-- A group that is open, or the whole pattern: the flags in force, its
number if it is counted, the finished branches and the parts of the branch
being read, the latest first. -/
structure Level where
  flags : Flags
  number : Option Nat
  branches : List Part
  parts : List Part

/-- The branch of a level that is being read. -/
def Level.branch (level : Level) : Part :=
  ⟨sequence (level.parts.reverse.map Part.pattern), depthOf level.parts, true⟩

/-- All branches of a level. -/
def Level.body (level : Level) : Part :=
  match level.branches with
  | [] => level.branch
  | branches =>
    let branches := level.branch :: branches
    ⟨alternatives (branches.reverse.map Part.pattern), depthOf branches, true⟩

/-- The group with its closing parenthesis. -/
def Level.close (level : Level) : Option Part :=
  let body := level.body
  if body.depth < nestingLimit then
    let pattern := match level.number with
      | some number => .group number body.pattern
      | none => body.pattern
    some ⟨pattern, body.depth + 1, true⟩
  else none

/-- One more part of the branch that is being read. -/
def Level.add (level : Level) (part : Part) : Level :=
  { level with parts := part :: level.parts }

-- ====================================================== flags and groups

/-- Sets one flag by its letter. -/
def setFlag (flags : Flags) (on : Bool) (c : Char) : Option Flags :=
  match c with
  | 'i' => some { flags with ignoreCase := on }
  | 'm' => some { flags with multiLine := on }
  | 's' => some { flags with dotAll := on }
  | 'U' => some { flags with reluctant := on }
  | 'u' => some { flags with unicode := on }
  | 'R' => some { flags with anyLineEnd := on }
  | 'x' => some { flags with verbose := on }
  | _ => none

/-- Flag letters up to a colon or a closing parenthesis, and the letters
seen; those behind a hyphen are turned off, and no letter occurs twice. -/
def readFlags (flags : Flags) (on : Bool) (seen : List Char) :
    List Char → Option ((Flags × List Char) × List Char)
  | [] => none
  | c :: rest =>
    if c = ':' ∨ c = ')' then
      if seen.head? = some '-' then none else some ((flags, seen), c :: rest)
    else if seen.contains c then none
    else if c = '-' then readFlags flags false (c :: seen) rest
    else match setFlag flags on c with
      | some flags => readFlags flags on (c :: seen) rest
      | none => none

/-- A character of the name of a group, as its first one or behind that. -/
def isNameChar (first : Bool) (c : Char) : Bool :=
  if first then c == '_' || Text.isAlphabetic c
  else c == '_' || c == '.' || c == '[' || c == ']' || Text.isAlphanumeric c

/-- The name of a group after its opening angle. -/
def groupName (cs : List Char) : Option (List Char × List Char) :=
  match cs.takeWhile (· != '>'), cs.dropWhile (· != '>') with
  | c :: tail, _ :: rest =>
    if isNameChar true c && tail.all (isNameChar false) then
      some (c :: tail, rest) else none
  | _, _ => none

/-- What an opening parenthesis begins. -/
inductive Opening where
  /-- flags that hold to the end of the group around them -/
  | flags (flags : Flags)
  /-- a group that is counted, with its name if it has one -/
  | counted (name : Option (List Char))
  /-- a group that is not counted, with its flags -/
  | plain (flags : Flags)

/-- What stands behind an opening parenthesis. -/
def readOpening (flags : Flags) (cs : List Char) :
    Option (Opening × List Char) :=
  match skip flags cs with
  | '?' :: '=' :: _ | '?' :: '!' :: _
  | '?' :: '<' :: '=' :: _ | '?' :: '<' :: '!' :: _ => none
  | '?' :: 'P' :: '<' :: rest | '?' :: '<' :: rest =>
    (groupName rest).map fun (name, rest) => (.counted (some name), rest)
  | '?' :: rest =>
    match readFlags flags true [] rest with
    | some ((inner, seen), ')' :: rest) =>
      if seen.isEmpty then none else some (.flags inner, rest)
    | some ((inner, _), _ :: rest) => some (.plain inner, rest)
    | _ => none
  | rest => some (.counted none, rest)

-- ====================================================== repetitions

/-- Counts of repetitions lie below this. -/
def countLimit : Nat := UInt32.size

/-- A decimal number of 32 bits. White space around it is passed over in
every pattern. -/
def readCount (flags : Flags) (cs : List Char) : Option (Nat × List Char) :=
  let (digits, rest) := spread flags Char.isDigit false
    ((skip flags cs).dropWhile Text.isWhitespace)
  let value := digits.foldl (fun n c => n * 10 + (c.toNat - '0'.toNat)) 0
  if digits.isEmpty ∨ countLimit ≤ value then none
  else some (value, rest.dropWhile Text.isWhitespace)

/-- The counts of a repetition after its opening brace. -/
def readCounts (flags : Flags) (cs : List Char) :
    Option ((Nat × Option Nat) × List Char) := do
  let (least, rest) ← readCount flags cs
  match rest with
  | '\x7d' :: rest => some ((least, some least), rest)
  | ',' :: rest =>
    match skip flags rest with
    | '\x7d' :: rest => some ((least, none), rest)
    | rest =>
      let (most, rest) ← readCount flags rest
      match rest with
      | '\x7d' :: rest =>
          if least ≤ most then some ((least, some most), rest) else none
      | _ => none
  | _ => none

/-- Repeats the latest part of a level. A question mark behind turns the
preference around. -/
def Level.repeat (level : Level) (least : Nat) (most : Option Nat)
    (rest : List Char) : Option (Level × List Char) :=
  match level.parts with
  | [] => none
  | part :: parts =>
    if !part.repeatable || nestingLimit ≤ part.depth then none
    else
      let (greedy, rest) := match rest with
        | '?' :: rest => (level.flags.reluctant, rest)
        | _ => (!level.flags.reluctant, rest)
      let part :=
        ⟨repeated part.pattern least most greedy, part.depth + 1, true⟩
      some ({ level with parts := part :: parts }, rest)

-- ====================================================== patterns

/-- A literal with its case variants where case is ignored. -/
def literal (flags : Flags) (c : Char) : Pattern :=
  ofSet flags.unicode (flags.variants c)

/-- What a dot reads: every character, or all but those that end lines. It
stands for no pattern where characters beyond ASCII are out of reach. -/
def dot (flags : Flags) : Option Pattern :=
  if !flags.unicode then none
  else if flags.dotAll then some (.oneOf .all true)
  else if flags.anyLineEnd then
    some (.oneOf (CharSet.complement ⟨[(0x0A, 0x0A), (0x0D, 0x0D)]⟩) true)
  else some (.oneOf (CharSet.single '\n').complement true)

/-- What a caret asks for: the start of the text, or of a line. -/
def lineStart (flags : Flags) : Look :=
  if !flags.multiLine then .textStart
  else if flags.anyLineEnd then .anyLineStart else .lineStart

/-- What a dollar sign asks for: the end of the text, or of a line. -/
def lineEnd (flags : Flags) : Look :=
  if !flags.multiLine then .textEnd else if flags.anyLineEnd then .anyLineEnd
  else .lineEnd

/-- What an escape outside a class matches. -/
def ofEscape (flags : Flags) : Escape → Pattern
  | .literal c => literal flags c
  | .set s => ofSet flags.unicode s
  | .look l => .look l

/-- A single part that begins with a character. -/
def readPart (flags : Flags) (c : Char) (rest : List Char) :
    Option (Part × List Char) :=
  let simple (pattern : Pattern) (rest : List Char) :
      Option (Part × List Char) :=
    some (⟨pattern, 0, true⟩, rest)
  match c with
  | '[' => (readClass flags rest).map fun (part, rest) =>
    (⟨ofSet flags.unicode part.set, part.depth, true⟩, rest)
  | '\\' => do
    let (escape, rest) ← readEscape flags rest
    simple (ofEscape flags escape) rest
  | '.' => do simple (← dot flags) rest
  | '^' => simple (.look (lineStart flags)) rest
  | '$' => simple (.look (lineEnd flags)) rest
  | c => simple (literal flags c) rest

/-- The rest of the levels that are open, given the names of groups and the
number of counted ones so far. Every step reads a character. -/
def readLevels :
    Nat → List (List Char) → Nat → Level → List Level → List Char → Option Part
  | 0, _, _, _, _, _ => none
  | fuel + 1, names, count, level, outer, cs =>
    match skip level.flags cs with
    | [] => if outer.isEmpty then some level.body else none
    | '(' :: rest =>
      match readOpening level.flags rest with
      | none => none
      | some (.flags flags, rest) =>
        readLevels fuel names count
          ({ level with flags }.add ⟨.empty, 0, false⟩) outer rest
      | some (.plain flags, rest) =>
        readLevels fuel names count ⟨flags, none, [], []⟩ (level :: outer) rest
      | some (.counted name, rest) =>
        if name.any names.contains then none
        else readLevels fuel (name.toList ++ names) (count + 1)
          ⟨level.flags, some (count + 1), [], []⟩ (level :: outer) rest
    | ')' :: rest =>
      match level.close, outer with
      | some part, next :: outer =>
          readLevels fuel names count (next.add part) outer rest
      | _, _ => none
    | '|' :: rest =>
      readLevels fuel names count
        { level with branches := level.branch :: level.branches, parts := [] }
        outer rest
    | c :: rest =>
      let repetition : Option ((Nat × Option Nat) × List Char) :=
        match c with
        | '*' => some ((0, none), rest)
        | '+' => some ((1, none), rest)
        | '?' => some ((0, some 1), rest)
        | _ => (readCounts level.flags rest).map fun (counts, rest) =>
          (counts, skip level.flags rest)
      if c = '*' ∨ c = '+' ∨ c = '?' ∨ c = '\x7b' then
        match repetition with
        | none => none
        | some ((least, most), rest) =>
          match level.repeat least most rest with
          | some (level, rest) => readLevels fuel names count level outer rest
          | none => none
      else match readPart level.flags c rest with
        | some (part, rest) =>
            readLevels fuel names count (level.add part) outer rest
        | none => none

/-- The pattern a text stands for, if it stands for one that neither nests
too deep nor is too large. A choice of texts is never too large. -/
def parse (s : String) : Option Pattern :=
  let cs := s.toList
  match readLevels (cs.length + 1) [] 0 ⟨{}, none, [], []⟩ [] cs with
  | some part =>
    let searchable := part.pattern.fits || part.pattern.isChoiceOfTexts
    if part.depth ≤ nestingLimit && searchable then some part.pattern else none
  | none => none

end Intake.Pattern
