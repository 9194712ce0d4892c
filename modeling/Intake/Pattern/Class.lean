/-
Reading a class in brackets.

A class holds characters, ranges, named sets and classes, and operations
between what stands in front of them and what follows. Classes that are
still open are kept in a list, the innermost first.
-/
import Intake.Pattern.Escape

namespace Intake.Pattern

/-- The operations on sets between items of a class. -/
inductive SetOperation where
  | inter
  | difference
  | symmetricDifference

/-- What an operation makes of the class in front of it and the one behind
it. -/
def SetOperation.apply (a b : CharSet) : SetOperation → CharSet
  | .inter => a.inter b
  | .difference => a.difference b
  | .symmetricDifference => a.symmetricDifference b

/-- A set that has been read, and how deep its syntax nests. -/
structure ClassPart where
  set : CharSet
  depth : Nat

/-- Items in a row: their union, their number and the deepest of them. -/
structure ClassItems where
  set : CharSet
  count : Nat
  deepest : Nat

/-- A class in which nothing was read yet. -/
def noItems : ClassItems := ⟨.nothing, 0, 0⟩

/-- One more item, of which the deepest one tells how deep the class is. -/
def ClassItems.add (items : ClassItems) (item : ClassPart) : ClassItems :=
  ⟨items.set.union item.set, items.count + 1, max items.deepest item.depth⟩

/-- Several items nest one level deeper than a single one. -/
def ClassItems.part (items : ClassItems) : ClassPart :=
  ⟨items.set, if items.count ≤ 1 then items.deepest else items.deepest + 1⟩

/-- A class that is still open, with what its last operation is applied to. -/
structure OpenClass where
  negated : Bool
  left : Option (SetOperation × ClassPart)
  items : ClassItems

/-- What has been read of a class up to here. -/
def OpenClass.part (flags : Flags) (c : OpenClass) : ClassPart :=
  let right := c.items.part
  match c.left with
  | none => right
  | some (operation, left) =>
    ⟨operation.apply (flags.fold left.set) (flags.fold right.set),
      max left.depth right.depth + 1⟩

/-- The class with its closing bracket. -/
def OpenClass.close (flags : Flags) (c : OpenClass) : Option ClassPart :=
  let part := c.part flags
  (flags.negate? c.negated (flags.fold part.set)).map fun set =>
    ⟨set, part.depth + 1⟩

-- ====================================================== items

/-- An ASCII class `[:name:]` after its bracket: its set and whether the
complement is meant. -/
def posixClass (cs : List Char) : Option ((CharSet × Bool) × List Char) :=
  match cs with
  | ':' :: rest =>
    let (negated, rest) := match rest with
      | '^' :: rest => (true, rest)
      | _ => (false, rest)
    match rest.dropWhile (· != ':') with
    | ':' :: ']' :: after =>
      (CharSet.posix? (String.ofList (rest.takeWhile (· != ':')))).map
        fun set =>
        ((set, negated), after)
    | _ => none
  | _ => none

/-- One item of a class, which may turn out to begin a range. -/
def classItem (flags : Flags) (cs : List Char) :
    Option ((Char ⊕ CharSet) × List Char) :=
  match cs with
  | [] => none
  | '\\' :: rest =>
    match readEscape flags rest with
    | some (.literal c, rest) => some (.inl c, rest)
    | some (.set s, rest) => some (.inr s, rest)
    | _ => none
  | c :: rest => some (.inl c, rest)

/-- Characters beyond ASCII need Unicode. -/
def classLiteral (flags : Flags) (c : Char) : Option Char :=
  if flags.unicode || c.toNat < 0x80 then some c else none

/-- An item or a range of a class. -/
def classRange (flags : Flags) (cs : List Char) :
    Option (CharSet × List Char) := do
  let (first, rest) ← classItem flags cs
  let rest := skip flags rest
  let single : Option (CharSet × List Char) :=
    match first with
    | .inl c => (classLiteral flags c).map fun c => (.single c, rest)
    | .inr s => some (s, rest)
  match rest with
  | [] => none
  | '-' :: after =>
    if peek flags after = some ']' ∨ peek flags after = some '-' then single
    else do
      let (second, rest) ← classItem flags (skip flags after)
      match first, second with
      | .inl a, .inl b => do
        let a ← classLiteral flags a
        let b ← classLiteral flags b
        if a ≤ b then some (⟨[(a.toNat, b.toNat)]⟩, rest) else none
      | _, _ => none
  | _ => single

-- ====================================================== classes

/-- Hyphens at the start of a class stand for themselves. -/
def leadingHyphens (flags : Flags) :
    Nat → ClassItems → List Char → ClassItems × List Char
  | fuel + 1, items, '-' :: rest =>
    leadingHyphens flags fuel (items.add ⟨.single '-', 0⟩) (skip flags rest)
  | _, items, cs => (items, cs)

/-- A class after its opening bracket, up to its first item. A closing
bracket in this place stands for itself. -/
def openClass (flags : Flags) (cs : List Char) : OpenClass × List Char :=
  let cs := skip flags cs
  let (negated, cs) := match cs with
    | '^' :: rest => (true, skip flags rest)
    | _ => (false, cs)
  let (items, cs) := leadingHyphens flags cs.length noItems cs
  match items.count, cs with
  | 0, ']' :: rest =>
      (⟨negated, none, items.add ⟨.single ']', 0⟩⟩, skip flags rest)
  | _, _ => (⟨negated, none, items⟩, cs)

/-- The rest of the classes that are open. Every step reads a character. -/
def readClasses (flags : Flags) :
    Nat → OpenClass → List OpenClass → List Char →
    Option (ClassPart × List Char)
  | 0, _, _, _ => none
  | fuel + 1, inner, outer, cs =>
    let operate (operation : SetOperation) (rest : List Char) :=
      readClasses flags fuel ⟨inner.negated,
        some (operation, inner.part flags), noItems⟩ outer rest
    let add (item : ClassPart) (rest : List Char) :=
      readClasses flags fuel { inner with items := inner.items.add item }
        outer rest
    match skip flags cs with
    | [] => none
    | '[' :: rest =>
      match posixClass rest with
      | some ((set, negated), rest) =>
        match flags.negate? negated (flags.fold set) with
        | some set => add ⟨set, 0⟩ rest
        | none => none
      | none =>
        let (opened, rest) := openClass flags rest
        readClasses flags fuel opened (inner :: outer) rest
    | ']' :: rest =>
      match inner.close flags, outer with
      | none, _ => none
      | some part, [] => some (part, rest)
      | some part, next :: outer =>
        readClasses flags fuel { next with items := next.items.add part }
          outer rest
    | '&' :: '&' :: rest => operate .inter rest
    | '-' :: '-' :: rest => operate .difference rest
    | '~' :: '~' :: rest => operate .symmetricDifference rest
    | cs =>
      match classRange flags cs with
      | some (set, rest) => add ⟨set, 0⟩ rest
      | none => none

/-- A class after its opening bracket. -/
def readClass (flags : Flags) (cs : List Char) :
    Option (ClassPart × List Char) :=
  let (opened, rest) := openClass flags cs
  readClasses flags (rest.length + 1) opened [] rest

end Intake.Pattern
