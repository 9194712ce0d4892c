/-
The stage that renames fields by a table of old and new names.
-/
import Intake.Stage.Basic

namespace Intake

/-- Gives fields other names. -/
structure RenameFields where
  name : String
  mapping : List (String × String)
  mode : UpdateMode
deriving Repr

namespace RenameFields

/-- The options of the stage. -/
def spec : StageSpec :=
  { required := ["field_mapping"], optional := ["update_mode"] }

/-- Reads and checks the options. -/
def new (o : StageOptions) : Except StageError RenameFields := do
  spec.validate o
  let mapping := (← o.getTextTable "field_mapping").getD []
  let mode ← o.updateMode
  return { name := o.label "rename_fields", mapping, mode }

/-- Refuses an empty mapping, which the options are read with. -/
def start (stage : RenameFields) : Outcome StageError RenameFields Unit :=
  if stage.mapping.isEmpty then
    .fail stage (.start stage.name "field_mapping is empty")
  else .ok stage ()

/-- Renames the fields that the record has, in the order of the table. -/
def process (stage : RenameFields) (r : Record) : StageResult :=
  .ofChange <| Outcome.each
    (fun r (pair : String × String) =>
      if r.has pair.1 then r.renameField pair.1 pair.2 stage.mode
      else .ok r ())
    r stage.mapping

instance : Stage RenameFields where
  name := RenameFields.name
  start _ := start
  process _ := process
  stop stage := .ok stage ()

end RenameFields

end Intake
