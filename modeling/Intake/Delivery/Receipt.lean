/-
Receipts: what became of a record of a run in the end.
-/
import Intake.Json.Printer

namespace Intake

/-- What is told of a record that was delivered or given up. -/
structure Receipt where
  recordId : String
  runId : String
  /-- why the record failed, if it did -/
  failure : Option String
deriving DecidableEq, Repr

namespace Receipt

/-- The receipt of a delivery that was acknowledged. -/
def succeeded (recordId runId : String) : Receipt := ⟨recordId, runId, none⟩

/-- The receipt of a record that was given up for a reason. -/
def failed (recordId runId reason : String) : Receipt :=
  ⟨recordId, runId, some reason⟩

/-- A receipt that has no failure to tell. -/
def isSuccess (r : Receipt) : Bool := r.failure.isNone

/-- A receipt as a document, in which only failures have a reason. -/
def toJson (r : Receipt) : Json :=
  let status := match r.failure with
    | none => [("status", .text "succeeded")]
    | some reason => [("status", .text "failed"), ("reason", .text reason)]
  .object ([("record_id", .text r.recordId), ("run_id", .text r.runId)]
    ++ status)

end Receipt

end Intake
