/-
The JSON form of a record and its reading.

Fields are members in order, many values an array, children the member
`.children`. A single document that would read back as several values, or
as the wrapper itself, is written inside the wrapper `.json`. The mark
that suppresses delivery is not written. Reading relabels every id of the
tree by a function; the plain reading leaves ids as they are.
-/
import Intake.Record.Basic
import Intake.Json.Parser

namespace Intake.Record

/-- The key of the wrapper around a single document. -/
def wrapperKey : String := ".json"

/-- A document that looks like the wrapper around another one. -/
def isWrapper : Json → Bool
  | .object [(key, _)] => key == wrapperKey
  | _ => false

-- ====================================================== writing

/-- A value or a null as a document. -/
def valueToJson (v : Option Value) : Json := (v.map Value.toJson).getD .null

/-- The form of a single value. -/
def singleToJson (v : Option Value) : Json :=
  match v with
  | some (.json j) =>
      if j.isArray || isWrapper j then .object [(wrapperKey, j)] else j
  | _ => valueToJson v

/-- A slot as a document. One for many values is an array, also of one. -/
def slotToJson : Slot → Json
  | .single v => singleToJson v
  | .multi vs => .array (vs.map valueToJson)

mutual

/-- The document of a record with all its descendants. -/
def toJson : Record → Json
  | ⟨id, runId, fields, children, _⟩ =>
    let head := Json.insert idField (.text id) []
    let head := match runId with
      | some runId => Json.insert runIdField (.text runId) head
      | none => head
    let members := fields.fields.foldl
      (fun members f => Json.insert f.name (slotToJson f.slot) members) head
    .object (match childrenToJson children with
      | [] => members
      | documents => Json.insert childrenField (.array documents) members)

/-- The documents of children in their order. -/
def childrenToJson : List Record → List Json
  | [] => []
  | r :: rs => toJson r :: childrenToJson rs

end

/-- The document of a record as it is printed. -/
def toJsonText (r : Record) : String := r.toJson.render

-- ====================================================== reading

/-- The value of a member that is not an array. -/
def singleOfJson (j : Json) : Option Value :=
  match j with
  | .object [(key, inner)] =>
      if key = wrapperKey then some (.json inner) else Value.ofJson j
  | _ => Value.ofJson j

/-- The error descriptions of a member: text as it is, other documents as
their text, nulls left out. -/
def errorTexts (j : Json) : List String :=
  let items := match j with
    | .array items => items
    | other => [other]
  (items.filter fun item => !item.isNull).map fun item =>
    item.text?.getD item.render

/-- The id of the document of a record. -/
def idOfMembers (members : List (String × Json)) : Except FieldError String :=
  match Json.lookup idField members with
  | some (.text id) => if id.isEmpty then
      .error (.invalidRecord "missing string `id`") else .ok id
  | _ => .error (.invalidRecord "missing string `id`")

/-- Writes a member that is neither the id, the run nor the children. -/
def readMember (r : Record) (name : String) (j : Json) :
    Except FieldError Record :=
  if name = errorsField then .ok ((errorTexts j).foldl logError r)
  else
    let written := match j with
      | .array items => r.onFields (·.putMany name (items.map Value.ofJson))
      | other => r.onFields (·.putOne name (singleOfJson other))
    written.result.map fun _ => written.state

mutual

/-- The record of a document, with every id of the tree relabelled. -/
def ofJsonWith (relabel : String → String) : Json → Except FieldError Record
  | .object members => do
    let id ← idOfMembers members
    readMembers relabel (new (relabel id)) members
  | _ => .error (.invalidRecord "expected a JSON object")

/-- Reads members into a record in order, until one is refused. -/
def readMembers (relabel : String → String) (r : Record) :
    List (String × Json) → Except FieldError Record
  | [] => .ok r
  | (name, j) :: rest =>
    if name = idField then readMembers relabel r rest
    else if name = runIdField then
      match j with
      | .text runId => readMembers relabel { r with runId := some runId } rest
      | .null => readMembers relabel r rest
      | _ => .error (.invalidRecord "`run_id` must be a string")
    else if name = childrenField then
      match j with
      | .array documents => do
        let children ← readChildren relabel documents
        readMembers relabel { r with children := r.children ++ children } rest
      | _ => .error (.invalidRecord "`.children` must be an array")
    else do
      readMembers relabel (← readMember r name j) rest

/-- Records read from documents, in their order. The first that fails stops the
rest. -/
def readChildren (relabel : String → String) :
    List Json → Except FieldError (List Record)
  | [] => .ok []
  | j :: rest => do
    let child ← ofJsonWith relabel j
    let children ← readChildren relabel rest
    .ok (child :: children)

end

/-- The record of a document, with the ids that stand there. -/
def ofJson (j : Json) : Except FieldError Record := ofJsonWith (fun s => s) j

/-- The record of a JSON text; a text that holds no document is refused
with the given reason. -/
def ofJsonText (unreadable : String) (s : String) : Except FieldError Record :=
  match Json.parse s with
  | some j => ofJson j
  | none => .error (.invalidRecord unreadable)

end Intake.Record
