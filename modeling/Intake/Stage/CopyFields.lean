/-
The stage that copies the values of fields, the id and the run included.
-/
import Intake.Stage.Basic

namespace Intake

/-- Copies fields under other names. -/
structure CopyFields where
  name : String
  mapping : List (String × String)
  mode : UpdateMode
deriving Repr

namespace CopyFields

/-- The options of the stage. -/
def spec : StageSpec :=
  { required := ["field_mapping"], optional := ["update_mode"] }

/-- Reads and checks the options. An empty mapping is refused here, not on
starting. -/
def new (o : StageOptions) : Except StageError CopyFields := do
  spec.validate o
  let name := o.label "copy_fields"
  let mapping := (← o.getTextTable "field_mapping").getD []
  if mapping.isEmpty then throw (.config name "field_mapping is empty")
  let mode ← o.updateMode
  return { name, mapping, mode }

/-- The non-null values under a name, if there is something under it. -/
def sourceValues (r : Record) (source : String) : Option (List Value) :=
  match r.getMany source with
  | some values => some (values.filterMap fun v => v)
  | none => (r.getText source).map fun s => [.text s]

/-- Copies one field after the other, so later pairs see what earlier ones
wrote. A failure stops the rest. -/
def process (stage : CopyFields) (r : Record) : StageResult :=
  .ofChange <| Outcome.each
    (fun r (pair : String × String) =>
      match sourceValues r pair.1 with
      | some values => r.update pair.2 stage.mode values
      | none => .ok r ())
    r stage.mapping

instance : Stage CopyFields where
  name := CopyFields.name
  start _ stage := .ok stage ()
  process _ := process
  stop stage := .ok stage ()

end CopyFields

end Intake
