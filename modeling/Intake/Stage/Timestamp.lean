/-
The stage that writes the time into a field.
-/
import Intake.Stage.Basic

namespace Intake

/-- Writes the time of processing into a field. -/
structure Timestamp where
  name : String
  dest : String
deriving Repr

namespace Timestamp

/-- The options of the stage. -/
def spec : StageSpec := { required := ["dest_field"], optional := [] }

/-- Reads and checks the options. -/
def new (o : StageOptions) : Except StageError Timestamp := do
  spec.validate o
  let dest ← o.requireText "dest_field"
  return { name := o.label "timestamp", dest }

/-- Sets the field to the present time of the environment. -/
def process (environment : Environment) (stage : Timestamp) (r : Record) :
    StageResult :=
  .ofChange (r.setField stage.dest (.timestamp environment.now))

instance : Stage Timestamp where
  name := Timestamp.name
  start _ stage := .ok stage ()
  process := process
  stop stage := .ok stage ()

end Timestamp

end Intake
