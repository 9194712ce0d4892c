/-
Reading a TOML document from text.

A document is a list of lines: headers, keys with their values, and lines
that hold nothing. Arrays may run over several lines, inline tables may
not. Whatever is wrong with a document, it is refused as a whole.
-/
import Intake.Toml.Scalar

namespace Intake.Toml

-- ====================================================== values

/-- A value that holds no others. -/
def readScalar (cs : List Char) : Option (Toml × List Char) :=
  match cs with
  | '"' :: rest => (readString '"' rest).map fun (s, rest) => (.text s, rest)
  | '\'' :: rest => (readString '\'' rest).map fun (s, rest) => (.text s, rest)
  | 't' :: rest => (Json.expect ['r', 'u', 'e'] rest).map (.bool true, ·)
  | 'f' :: rest => (Json.expect ['a', 'l', 's', 'e'] rest).map (.bool false, ·)
  | _ =>
      if beginsDate cs || beginsClock cs then readMoment cs else readNumber cs

/-- A key and the sign behind it. -/
def readAssignment (cs : List Char) :
    Option ((List String × String) × List Char) := do
  let ((path, key), rest) ← readKey nestingLimit cs
  if nestingLimit ≤ path.length + 1 then none
  else
    let rest ← expect '=' rest
    some ((path, key), skipBlanks rest)

mutual

/-- A value, which may open `depth` more arrays and inline tables. -/
def readValue : Nat → Nat → List Char → Option (Toml × List Char)
  | 0, _, _ => none
  | fuel + 1, depth, cs =>
    match cs with
    | '[' :: rest =>
      match depth with
      | 0 => none
      | depth + 1 =>
          (readItems fuel depth (skipTrivia false rest)).map
            fun (items, rest) =>
          (.array false items, rest)
    | '\x7b' :: rest =>
      match depth with
      | 0 => none
      | depth + 1 =>
        match skipBlanks rest with
        | '\x7d' :: rest => some (.table .inline [], rest)
        | rest => do
          let (entries, rest) ← readEntries fuel depth rest
          let members ← assignAll entries []
          some (.table .inline members, rest)
    | _ => readScalar cs

/-- The items of an array and its closing bracket; a comma may stand behind
the last one. -/
def readItems : Nat → Nat → List Char → Option (List Toml × List Char)
  | 0, _, _ => none
  | fuel + 1, depth, cs =>
    match cs with
    | ']' :: rest => some ([], rest)
    | _ => do
      let (item, rest) ← readValue fuel depth cs
      match skipTrivia false rest with
      | ',' :: rest =>
        let (items, rest) ← readItems fuel depth (skipTrivia false rest)
        some (item :: items, rest)
      | ']' :: rest => some ([item], rest)
      | _ => none

/-- The entries of an inline table and its closing brace. -/
def readEntries : Nat → Nat → List Char → Option (List Entry × List Char)
  | 0, _, _ => none
  | fuel + 1, depth, cs => do
    let ((path, key), rest) ← readAssignment cs
    let (value, rest) ← readValue fuel depth rest
    match skipBlanks rest with
    | ',' :: rest =>
      let (entries, rest) ← readEntries fuel depth rest
      some (⟨path, key, value⟩ :: entries, rest)
    | '\x7d' :: rest => some ([⟨path, key, value⟩], rest)
    | _ => none

end

-- ====================================================== lines

/-- The key of a header up to its closing brackets. -/
def readHeader (close : List Char) (cs : List Char) :
    Option ((List String × String) × List Char) := do
  let ((path, key), rest) ← readKey nestingLimit cs
  if nestingLimit ≤ path.length + 1 then none
  else
    let rest ← Json.expect close rest
    some ((path, key), ← afterLine rest)

/-- A section with one more entry at its end. -/
def Section.add (s : Section) (e : Entry) : Section :=
  { s with entries := s.entries ++ [e] }

/-- The sections of lines behind a section that is not finished. Every line
takes at least one character, and a value at most as much fuel as twice
the characters left. -/
def readLines : Nat → Section → List Char → Option (List Section)
  | 0, _, _ => none
  | fuel + 1, current, cs =>
    match skipBlanks cs with
    | [] => some [current]
    | '#' :: rest => do readLines fuel current (← afterLine ('#' :: rest))
    | '\n' :: rest => readLines fuel current rest
    | '\r' :: '\n' :: rest => readLines fuel current rest
    | '[' :: '[' :: rest => do
      let ((path, key), rest) ← readHeader [']', ']'] rest
      (readLines fuel ⟨.item path key, []⟩ rest).map (current :: ·)
    | '[' :: rest => do
      let ((path, key), rest) ← readHeader [']'] rest
      (readLines fuel ⟨.table path key, []⟩ rest).map (current :: ·)
    | rest => do
      let ((path, key), rest) ← readAssignment rest
      let (value, rest) ← readValue (2 * rest.length + 2)
        (nestingLimit - 1) rest
      readLines fuel (current.add ⟨path, key, value⟩) (← afterLine rest)

/-- Text without the mark of its encoding at the start. -/
def withoutMark : List Char → List Char
  | '\ufeff' :: rest => rest
  | cs => cs

/-- The members of the document that a text holds. -/
def parse (s : String) : Option Members :=
  let cs := withoutMark s.toList
  (readLines (cs.length + 1) ⟨.top, []⟩ cs).bind ofSections

end Intake.Toml
