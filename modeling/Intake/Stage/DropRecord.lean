/-
The stage that drops records: all of them, or those whose field holds one
of a list of values.
-/
import Intake.Stage.Basic

namespace Intake

/-- Drops all records, or those that have one of some values in a field. -/
structure DropRecord where
  name : String
  filter : Option (String × List String)
deriving Repr

namespace DropRecord

/-- The options of the stage. -/
def spec : StageSpec := { required := [], optional := ["field", "values"] }

/-- Reads and checks the options. A field without values is refused, as are
values without a field. -/
def new (o : StageOptions) : Except StageError DropRecord := do
  spec.validate o
  let name := o.label "drop_record"
  match ← o.getText "field", ← o.getTextList "values" with
  | some field, some values => return { name, filter := some (field, values) }
  | none, none => return { name, filter := none }
  | _, _ => throw (.config name "field and values must be given together")

/-- The values under a name as text, id and run included. -/
def textsOf (r : Record) (field : String) : List String :=
  if field = Record.idField ∨ field = Record.runIdField then
    (r.getText field).toList
  else r.getStrings field

/-- A record that the stage drops. -/
def isDropped (stage : DropRecord) (r : Record) : Bool :=
  match stage.filter with
  | none => true
  | some (field, values) => (textsOf r field).any values.contains

/-- Marks a record that is dropped; any other passes. -/
def process (stage : DropRecord) (r : Record) : StageResult :=
  .unchanged (if stage.isDropped r then r.markDropped else r)

instance : Stage DropRecord where
  name := DropRecord.name
  start _ stage := .ok stage ()
  process _ := process
  stop stage := .ok stage ()

end DropRecord

end Intake
