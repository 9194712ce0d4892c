/-
TOML documents: values, tables that remember how they were written, and
the rules by which keys and headers add to tables.

A table written inline or under its own header is closed to dotted keys;
one that a dotted key created is closed to headers; one that is only
implied by a longer header is open to both. A header of an array adds one
more table to the array that such headers alone have made. A date or a
time is kept as its text.
-/
import Intake.Json.Basic

namespace Intake

/-- How a table came to be. -/
inductive Toml.Origin where
  | inline
  | header
  | implied
  | dotted
deriving DecidableEq, Repr

/-- A value. Dates and times stay as they were written. -/
inductive Toml where
  | text (value : String)
  | integer (value : Int64)
  | float (value : Binary64)
  | bool (value : Bool)
  | time (written : String)
  /-- an array, made by headers or written out -/
  | array (headed : Bool) (items : List Toml)
  | table (origin : Toml.Origin) (members : List (String × Toml))
deriving Repr, Inhabited

namespace Toml

/-- The members of a table in the order of their keys. -/
abbrev Members := List (String × Toml)

/-- The value under a key. -/
def lookup (key : String) : Members → Option Toml
  | [] => none
  | (k, v) :: rest => if k = key then some v else lookup key rest

/-- Puts another value under a key that is there. -/
def replace (key : String) (value : Toml) (members : Members) : Members :=
  members.map fun (k, v) => if k = key then (k, value) else (k, v)

/-- The members without one key. -/
def remove (key : String) (members : Members) : Members :=
  members.filter fun (k, _) => k != key

-- ====================================================== dotted keys

/-- Puts a new value where a path of keys and a last key lead. -/
def assign (key : String) (value : Toml) :
    List String → Members → Option Members
  | [], members =>
    match lookup key members with
    | none => some (members ++ [(key, value)])
    | some _ => none
  | step :: rest, members =>
    match lookup step members with
    | none => (assign key value rest []).map fun inner =>
        members ++ [(step, .table .dotted inner)]
    | some (.table .dotted inner) =>
      (assign key value rest inner).map fun inner =>
        replace step (.table .dotted inner) members
    | some (.table .implied inner) =>
      if rest.isEmpty then none
      else (assign key value rest inner).map fun inner =>
        replace step (.table .implied inner) members
    | some (.array true items) =>
      match rest, items.getLast? with
      | _ :: _, some (.table origin inner) =>
        (assign key value rest inner).map fun inner =>
          replace step (.array true (items.dropLast ++ [.table origin inner]))
            members
      | _, _ => none
    | some _ => none

-- ====================================================== headers

/-- Changes the table that the path of a header leads to, and answers
something about it. Missing tables on the way are implied; an array of
tables stands for its last one. -/
def within {α : Type} (change : Members → Option (α × Members)) :
    List String → Members → Option (α × Members)
  | [], members => change members
  | step :: rest, members =>
    match lookup step members with
    | none => (within change rest []).map fun (answer, inner) =>
        (answer, members ++ [(step, .table .implied inner)])
    | some (.table .inline _) => none
    | some (.table origin inner) =>
      (within change rest inner).map fun (answer, inner) =>
        (answer, replace step (.table origin inner) members)
    | some (.array true items) =>
      match items.getLast? with
      | some (.table origin inner) =>
        (within change rest inner).map fun (answer, inner) =>
          (answer, replace step
            (.array true (items.dropLast ++ [.table origin inner])) members)
      | _ => none
    | some _ => none

/-- Where the keys under a header go. -/
inductive Header where
  | top
  | table (path : List String) (key : String)
  | item (path : List String) (key : String)
deriving Repr

/-- Takes an implied table out of its parent, to be closed under its own
header with what it holds already. -/
def takeImplied (key : String) (members : Members) :
    Option (Members × Members) :=
  match lookup key members with
  | none => some ([], members)
  | some (.table .implied inner) => some (inner, remove key members)
  | some _ => none

/-- Makes sure that a key holds an array made by headers. -/
def ensureItems (key : String) (members : Members) :
    Option (Members × Members) :=
  match lookup key members with
  | none => some ([], members ++ [(key, .array true [])])
  | some (.array true _) => some ([], members)
  | some _ => none

/-- What the table of a header holds before its keys, and the document
without that table. -/
def openHeader (root : Members) : Header → Option (Members × Members)
  | .top => some (root, [])
  | .table path key => within (takeImplied key) path root
  | .item path key => within (ensureItems key) path root

/-- Adds a table to the array under a key. -/
def addItem (key : String) (body members : Members) :
    Option (Unit × Members) :=
  match lookup key members with
  | some (.array true items) =>
    some ((), replace key (.array true (items ++ [.table .header body]))
      members)
  | _ => none

/-- The document with the finished table of a header. -/
def closeHeader (root body : Members) : Header → Option Members
  | .top => some body
  | .table path key =>
    (within (fun members => some ((), members ++ [(key, .table .header body)]))
      path root).map (·.2)
  | .item path key => (within (addItem key body) path root).map (·.2)

-- ====================================================== sections

/-- A key with its path and its value. -/
structure Entry where
  path : List String
  key : String
  value : Toml
deriving Repr

/-- Adds the entries below a header to its table. Nothing comes of it if two of
them clash. -/
def assignAll (entries : List Entry) (members : Members) : Option Members :=
  entries.foldlM (fun members e => assign e.key e.value e.path members) members

/-- A header with the entries under it. -/
structure Section where
  header : Header
  entries : List Entry
deriving Repr

/-- Adds what stands under a header, and closes the table behind it. -/
def addSection (root : Members) (s : Section) : Option Members := do
  let (start, root) ← openHeader root s.header
  let body ← assignAll s.entries start
  closeHeader root body s.header

/-- The document that sections make, if none of them clashes with another. -/
def ofSections (sections : List Section) : Option Members :=
  sections.foldlM addSection []

-- ====================================================== JSON

/-- The key that marks a date or a time in a JSON document. -/
def timeKey : String := "$__toml_private_datetime"

mutual

/-- The JSON document of a value; infinities and not-a-numbers become null. -/
def toJson : Toml → Json
  | .text s => .text s
  | .integer i => Json.ofLong i
  | .float x => Json.ofDouble x
  | .bool b => .bool b
  | .time s => .object [(timeKey, .text s)]
  | .array _ items => .array (itemsToJson items)
  | .table _ members => .object (membersToJson members)

/-- The documents of the items, in their order. -/
def itemsToJson : List Toml → List Json
  | [] => []
  | x :: xs => toJson x :: itemsToJson xs

/-- The documents of the members, under their keys. -/
def membersToJson : List (String × Toml) → List (String × Json)
  | [] => []
  | (k, v) :: rest => (k, toJson v) :: membersToJson rest

end

end Toml

end Intake
