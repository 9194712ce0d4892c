/-
Records: an id, a run, typed fields, owned child records, and a mark that
suppresses delivery.

The names `id`, `run_id`, `errors` and `.children` are reserved: the
general setters refuse them. The list of errors is the field `errors` and
is written only by `logError`; the run is joined at most once until it is
cleared. Every operation that can fail gives back the record it leaves
behind, since some of them fail halfway.
-/
import Intake.Field.Store

namespace Intake

/-- What flows through a pipeline: an id, perhaps a run, fields, and records
below it. A dropped record is not delivered. -/
structure Record where
  id : String
  runId : Option String
  fields : FieldStore
  children : List Record
  dropped : Bool
deriving Repr

/-- How a write treats a field that already exists. -/
inductive UpdateMode where
  | overwrite
  | append
  | skip
deriving DecidableEq, Repr, Inhabited

namespace UpdateMode

/-- ASCII letters in lower case; other characters as they are. -/
def lowerAscii (s : String) : String :=
  String.ofList (s.toList.map Char.toLower)

/-- The mode that a text names in any case of its letters. -/
def parse (s : String) : Except String UpdateMode :=
  let lowered := lowerAscii s
  if lowered = "overwrite" then .ok .overwrite
  else if lowered = "append" then .ok .append
  else if lowered = "skip" then .ok .skip
  else .error ("unknown update mode '" ++ lowered
    ++ "': expected overwrite, append, or skip")

end UpdateMode

namespace Record

/-- What becomes of a record by an operation that gives an answer or is
refused. -/
abbrev Change (α : Type) := Outcome FieldError Record α

-- ====================================================== reserved names

/-- The name under which the id is read. -/
def idField : String := "id"

/-- The name under which the run is read. -/
def runIdField : String := "run_id"

/-- The field to which errors are logged. -/
def errorsField : String := "errors"

/-- The name of the children in documents. -/
def childrenField : String := ".children"

/-- A name that no operation on fields may write to. -/
def isReserved (name : String) : Bool :=
  name == idField || name == runIdField || name == errorsField
    || name == childrenField

-- ====================================================== construction and run

/-- A record with an id and nothing else. -/
def new (id : String) : Record := ⟨id, none, FieldStore.empty, [], false⟩

/-- A record that has joined a run. -/
def withRunId (id runId : String) : Record :=
  { new id with runId := some runId }

instance : Inhabited Record := ⟨new ""⟩

/-- Joins a run, unless the record has joined one. -/
def initializeRunId (r : Record) (runId : String) : Change Unit :=
  match r.runId with
  | some _ => .fail r (.runIdAlreadySet r.id)
  | none => .ok { r with runId := some runId } ()

/-- Leaves the run, if the record is in one. -/
def clearRunId (r : Record) : Record := { r with runId := none }

/-- Joins a run if the record is in none. -/
def inheritRunId (runId : String) (r : Record) : Record :=
  { r with runId := r.runId <|> some runId }

/-- Joins the run of another record, if that is in one and this is not. -/
def inheritRun (runId : Option String) (r : Record) : Record :=
  { r with runId := r.runId <|> runId }

-- ====================================================== reading

/-- The record has something under a name, be it null. -/
def has (r : Record) (name : String) : Bool :=
  if name = idField then true
  else if name = runIdField then r.runId.isSome
  else if name = childrenField then !r.children.isEmpty
  else r.fields.contains name

/-- The field of a name is one for many values. -/
def isMultiValued (r : Record) (name : String) : Bool :=
  r.fields.isMultiValued name

/-- The declared type of a field. -/
def valueType (r : Record) (name : String) : Option ValueType :=
  r.fields.valueType name

/-- The number of values of a field. -/
def length (r : Record) (name : String) : Except FieldError Nat :=
  r.fields.length name

/-- The names of the fields in their order. -/
def fieldNames (r : Record) : List String := r.fields.names

/-- The first value of a field, if it is not null. -/
def getOne (r : Record) (name : String) : Option Value := r.fields.getOne name

/-- The values of a field, nulls included. -/
def getMany (r : Record) (name : String) : Option (List (Option Value)) :=
  r.fields.getMany name

/-- The first value of a field is not null. -/
def hasNonNull (r : Record) (name : String) : Bool := (r.getOne name).isSome

/-- The text under a name, id and run included. -/
def getText (r : Record) (name : String) : Option String :=
  if name = idField then some r.id
  else if name = runIdField then r.runId
  else (r.getOne name).bind Value.text?

/-- Every non-null value of a field as plain text. -/
def getStrings (r : Record) (name : String) : List String :=
  ((r.getMany name).getD []).filterMap fun v => v.map Value.toText

/-- The value of a field as an integer of 32 bits. -/
def getInt (r : Record) (name : String) : Option Int32 :=
  (r.getOne name).bind Value.int?

/-- The value of a field as an integer of 64 bits. -/
def getLong (r : Record) (name : String) : Option Int64 :=
  (r.getOne name).bind Value.long?

/-- The value of a field as a double. -/
def getFloat (r : Record) (name : String) : Option Binary64 :=
  (r.getOne name).bind Value.float?

/-- The value of a field as a truth value. -/
def getBool (r : Record) (name : String) : Option Bool :=
  (r.getOne name).bind Value.bool?

/-- The value of a field as an instant. -/
def getTimestamp (r : Record) (name : String) : Option Instant :=
  (r.getOne name).bind Value.timestamp?

/-- The value of a field as octets. -/
def getBytes (r : Record) (name : String) : Option (List UInt8) :=
  (r.getOne name).bind Value.bytes?

/-- The value of a field as a document. -/
def getJson (r : Record) (name : String) : Option Json :=
  (r.getOne name).bind Value.json?

/-- The errors that were logged, the first one first. -/
def errors (r : Record) : List String := r.getStrings errorsField

-- ====================================================== writing one field

/-- Carries out a change of the fields. -/
def onFields {α : Type} (r : Record)
    (change : FieldStore → FieldStore.Change α) : Change α :=
  (change r.fields).within fun fields => { r with fields }

/-- Carries out a change of a field that is not reserved. -/
def onWritable {α : Type} (r : Record) (name : String)
    (change : FieldStore → FieldStore.Change α) : Change α :=
  if isReserved name then .fail r (.reservedField name) else r.onFields change

/-- Makes a field single-valued with a value. -/
def setField (r : Record) (name : String) (value : Value) : Change Unit :=
  r.onWritable name (·.putOne name (some value))

/-- Makes a field single-valued with a null. -/
def setNull (r : Record) (name : String) : Change Unit :=
  r.onWritable name (·.putOne name none)

/-- Makes a field multi-valued with values of one type. -/
def setValues (r : Record) (name : String) (values : List (Option Value)) :
    Change Unit :=
  r.onWritable name (·.putMany name values)

/-- Adds a value to a field that exists. -/
def addToField (r : Record) (name : String) (value : Value) : Change Unit :=
  r.onWritable name (·.add name (some value))

/-- Sets a field that does not exist and adds to one that does. -/
def setOrAdd (r : Record) (name : String) (value : Value) : Change Unit :=
  r.onWritable name (·.setOrAdd name (some value))

/-- Removes a field. -/
def removeField (r : Record) (name : String) : Change Unit :=
  r.onWritable name fun fields => (fields.remove name).discard

/-- Removes a value of a multi-valued field and answers with it. -/
def removeFromArray (r : Record) (name : String) (index : Nat) :
    Change (Option Value) :=
  r.onWritable name (·.removeAt name index)

/-- A single value is written single-valued, several are written
multi-valued. -/
def putAll (fields : FieldStore) (name : String) :
    List Value → FieldStore.Change Unit
  | [v] => fields.putOne name (some v)
  | values => fields.putMany name (values.map some)

/-- Writes values into a field; the field is created whatever the mode, and
no values change nothing. -/
def update (r : Record) (name : String) (mode : UpdateMode)
    (values : List Value) : Change Unit :=
  r.onWritable name fun fields =>
    if values.isEmpty then .ok fields ()
    else match mode with
      | .append =>
          Outcome.each (fun fields v => fields.setOrAdd name (some v))
            fields values
      | .overwrite => putAll fields name values
      | .skip =>
          if fields.contains name then .ok fields ()
          else putAll fields name values

-- ================================================== writing from other fields

/-- Copies a field of another record behind the values this record has
under that name. -/
def setOrAddFrom (r : Record) (name : String) (other : Record) : Change Unit :=
  r.onWritable name fun fields =>
    match other.fields.slot? name with
    | none => .fail fields (.notFound name)
    | some slot =>
      if fields.contains name then
        Outcome.each (fun fields v => fields.add name v) fields slot.values
      else match slot with
        | .single v => fields.putOne name v
        | .multi vs => fields.putMany name vs

/-- Copies every field of another record that is not reserved. -/
def setOrAddAll (r : Record) (other : Record) : Change Unit :=
  Outcome.each (fun r name => r.setOrAddFrom name other) r
    (other.fieldNames.filter fun name => !isReserved name)

/-- Moves the values of a field behind those of an existing one; declared
types that differ are refused before anything moves. -/
def moveBehind (fields : FieldStore) (old new : String) :
    FieldStore.Change Unit :=
  let move : FieldStore.Change Unit :=
    (fields.remove old).andThen fun fields values =>
      Outcome.each (fun fields v => fields.add new v) fields values
  match fields.valueType old, fields.valueType new with
  | some found, some declared =>
    if found = declared then move
    else .fail fields (.invalidType new found (some declared))
  | _, _ => move

/-- Renames a field if it exists; the mode settles what becomes of an
existing field with the new name. -/
def renameField (r : Record) (old new : String) (mode : UpdateMode) :
    Change Unit :=
  if isReserved old then .fail r (.reservedField old)
  else r.onWritable new fun fields =>
    if !fields.contains old || old == new then .ok fields ()
    else if !fields.contains new then fields.rename old new
    else match mode with
      | .overwrite =>
          (fields.remove new).andThen fun fields _ => fields.rename old new
      | .append => moveBehind fields old new
      | .skip => (fields.remove old).discard

/-- Writes the distinct values of a field into a target, or into the field
itself when the target is absent. A missing field is left alone. -/
def removeDuplicateValues (r : Record) (name : String)
    (target : Option String) : Change Unit :=
  if isReserved name then .fail r (.reservedField name)
  else
    let target := target.getD name
    r.onWritable target fun fields =>
      match fields.slot? name with
      | none => .ok fields ()
      | some slot =>
        if target = name then
          if slot.isMulti then fields.dedup name else .ok fields ()
        else match slot with
          | .single v => fields.putOne target v
          | .multi vs => (fields.putMany target vs).andThen fun fields _ =>
              fields.dedup target

-- ====================================================== errors and children

/-- Adds a description to the list of errors. -/
def logError (r : Record) (description : String) : Record :=
  { r with
    fields := (r.fields.add errorsField (some (.text description))).state }

/-- Adds a record below, behind the others. -/
def addChild (r : Record) (child : Record) : Record :=
  { r with children := r.children ++ [child] }

/-- There are records below. -/
def hasChildren (r : Record) : Bool := !r.children.isEmpty

/-- The record without its children. -/
def withoutChildren (r : Record) : Record := { r with children := [] }

/-- The record is not delivered, whatever stages come. -/
def markDropped (r : Record) : Record := { r with dropped := true }

-- ====================================================== equality

mutual

/-- Equality of records with all their descendants. -/
def same : Record → Record → Bool
  | ⟨id, runId, fields, children, dropped⟩, other =>
    id == other.id && runId == other.runId && fields == other.fields
      && sameChildren children other.children && dropped == other.dropped

/-- Children are the same one by one. -/
def sameChildren : List Record → List Record → Bool
  | [], [] => true
  | r :: rs, s :: ss => same r s && sameChildren rs ss
  | _, _ => false

end

instance : BEq Record := ⟨same⟩

mutual

/-- What identifies a record. -/
def digest : Record → List Json.Mark
  | ⟨id, runId, fields, children, dropped⟩ =>
    .word id :: (match runId with
      | none => [.tag 0]
      | some runId => [.tag 1, .word runId])
      ++ fields.digest ++ .count children.length :: digestChildren children
      ++ [.truth dropped]

/-- What is hashed of the children, in their order. -/
def digestChildren : List Record → List Json.Mark
  | [] => []
  | r :: rs => digest r ++ digestChildren rs

end

end Record

end Intake
