/-
The stage that sends the children of a record on as records of their own,
and may drop the record they came from.
-/
import Intake.Stage.Basic

namespace Intake

/-- Makes children records of their own, with their parent or in its place. -/
structure EmitNestedChildren where
  name : String
  dropParent : Bool
deriving Repr

namespace EmitNestedChildren

/-- The options of the stage. -/
def spec : StageSpec := { required := [], optional := ["drop_parent"] }

/-- Reads and checks the options. -/
def new (o : StageOptions) : Except StageError EmitNestedChildren := do
  spec.validate o
  let dropParent := (← o.getBool "drop_parent").getD false
  return { name := o.label "emit_nested_children", dropParent }

/-- Takes the children off a record and passes them on behind it. They join its
run if they are in none. -/
def process (stage : EmitNestedChildren) (r : Record) : StageResult :=
  let r := if stage.dropParent then r.markDropped else r
  if r.hasChildren then
    .ok r.withoutChildren (some (r.children.map (Record.inheritRun r.runId)))
  else .unchanged r

instance : Stage EmitNestedChildren where
  name := EmitNestedChildren.name
  start _ stage := .ok stage ()
  process _ := process
  stop stage := .ok stage ()

end EmitNestedChildren

end Intake
