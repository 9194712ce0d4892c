/-
What a stage is: a named step that is started once, changes records one
at a time, and is stopped.

Starting and stopping may change the stage; processing reads it only. A
record that processing changes may come with further records, which then
go through the stages behind. What a stage sees of the world besides its
records is its environment.
-/
import Intake.Stage.Options
import Intake.Environment

namespace Intake

/-- The record after a stage, and the records that the stage adds, if it
adds any list at all. -/
abbrev StageResult := Outcome StageError Record (Option (List Record))

/-- A type of stages: its name, and what it does when it is started, given a
record and stopped. -/
class Stage (σ : Type) where
  name : σ → String
  start : Environment → σ → Outcome StageError σ Unit
  process : Environment → σ → Record → StageResult
  stop : σ → Outcome StageError σ Unit

namespace StageResult

/-- The record as it is, with no further records. -/
def unchanged (r : Record) : StageResult := .ok r none

/-- A change of the record, with no further records. -/
def ofChange (change : Record.Change Unit) : StageResult :=
  (change.mapError StageError.field).andThen fun r _ => .ok r none

end StageResult

end Intake
