/-
Patterns in their plain form.

Sequences and alternatives stand in no other of their kind, characters in
a row are one text, and a set of one character is a text. Alternatives of
single characters or of sets become one set, and the parts that all
alternatives begin with stand in front of them. What is repeated and never
takes a character is repeated once.
-/
import Intake.Pattern.Syntax

namespace Intake.Pattern

/-- Nothing matches. -/
def never : Pattern := .oneOf .nothing false

/-- One character of a set, named under the Unicode flag or without it. -/
def ofSet (unicode : Bool) (s : CharSet) : Pattern :=
  match s.only? with
  | some c => .text [c]
  | none => if s.isEmpty then never else .oneOf s unicode

-- ====================================================== sequences

/-- The parts that a pattern contributes to a sequence. -/
def partsOf : Pattern → List Pattern
  | .empty => []
  | .seq parts => parts
  | p => [p]

/-- Puts a part in front of others. -/
def prepend : Pattern → List Pattern → List Pattern
  | .text cs, .text ds :: rest => .text (cs ++ ds) :: rest
  | p, rest => p :: rest

/-- Patterns one behind the other, with sequences among them opened and texts
next to each other joined. -/
def sequence (patterns : List Pattern) : Pattern :=
  match (patterns.flatMap partsOf).foldr prepend [] with
  | [] => .empty
  | [p] => p
  | parts => .seq parts

-- ====================================================== alternatives

/-- The branches of a choice; any other pattern is its own only branch. -/
def branchesOf : Pattern → List Pattern
  | .alt branches => branches
  | p => [p]

/-- The character of a text of one. -/
def singleChar? : Pattern → Option Char
  | .text [c] => some c
  | _ => none

/-- The set of a pattern that reads one character. -/
def set? : Pattern → Option CharSet
  | .oneOf s _ => some s
  | _ => none

/-- The parts of a sequence. -/
def parts? : Pattern → Option (List Pattern)
  | .seq parts => some parts
  | _ => none

/-- The number of parts two sequences begin with alike. -/
def sharedLength : List Pattern → List Pattern → Nat
  | p :: ps, q :: qs => if same p q then sharedLength ps qs + 1 else 0
  | _, _ => 0

/-- The number of parts that all sequences begin with alike. -/
def sharedByAll (first : List Pattern) (others : List (List Pattern)) : Nat :=
  others.foldl (fun n parts => min n (sharedLength first parts)) first.length

/-- Alternatives of patterns. What they begin with alike is taken out as
often as it can be, at most a given number of times. -/
def alternativesWithin : Nat → List Pattern → Pattern
  | fuel, patterns =>
    match patterns.flatMap branchesOf with
    | [] => never
    | [p] => p
    | branches =>
      match branches.mapM singleChar? with
      | some cs => ofSet true (CharSet.unions (cs.map CharSet.single))
      | none =>
        match branches.mapM set? with
        | some sets => ofSet true (CharSet.unions sets)
        | none =>
          match fuel, branches.mapM parts? with
          | fuel + 1, some (first :: others) =>
            match sharedByAll first others with
            | 0 => .alt branches
            | count =>
              sequence (first.take count ++ [alternativesWithin fuel
                ((first :: others).map fun parts =>
                  sequence (parts.drop count))])
          | _, _ => .alt branches

/-- The most parts of a pattern that is a sequence. -/
def partCount (p : Pattern) : Nat := (partsOf p).length

/-- Alternatives of patterns. Every common beginning makes the shortest
branch shorter. -/
def alternatives (patterns : List Pattern) : Pattern :=
  alternativesWithin
    ((patterns.flatMap branchesOf).foldl (fun n p => n + partCount p) 0)
    patterns

-- ====================================================== repetitions

/-- Rounds of a pattern. A body that reads nothing is gone through once at
most. -/
def repeated (body : Pattern) (least : Nat) (most : Option Nat)
    (greedy : Bool) : Pattern :=
  let idle := body.greatestLength == some 0
  let least := if idle then min least 1 else least
  let most := if idle then some (min (most.getD 1) 1) else most
  if most = some 0 then .empty
  else if least = 1 ∧ most = some 1 then body
  else .rounds body least most greedy

end Intake.Pattern
