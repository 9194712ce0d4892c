/-
The totals of a run and their text.

`delivered` and `failed` count records that the sink acknowledged and
records that a stage or the sink gave up on; every one of either kind that
belongs to a run has a receipt.
-/
import Intake.Delivery.Receipt

namespace Intake

/-- What became of records behind the queue. -/
structure Tally where
  delivered : Nat
  failed : Nat
  receipts : List Receipt
deriving DecidableEq, Repr

namespace Tally

/-- The tally of nothing. -/
def empty : Tally := ⟨0, 0, []⟩

/-- One tally behind another. -/
def append (a b : Tally) : Tally :=
  ⟨a.delivered + b.delivered, a.failed + b.failed, a.receipts ++ b.receipts⟩

instance : Append Tally := ⟨append⟩

/-- The tally of one record that was given up. -/
def ofFailure (recordId : String) (runId : Option String) (reason : String) :
    Tally :=
  ⟨0, 1, (runId.map fun runId => Receipt.failed recordId runId reason).toList⟩

/-- The tally of one record that was acknowledged. -/
def ofSuccess (recordId : String) (runId : Option String) : Tally :=
  ⟨1, 0, (runId.map fun runId => Receipt.succeeded recordId runId).toList⟩

end Tally

/-- What is told of a run when it is over. -/
structure RunSummary where
  runId : String
  /-- records that the sources published -/
  published : Nat
  tally : Tally
  /-- sources that failed in any phase -/
  sourceFailures : Nat
deriving DecidableEq, Repr

namespace RunSummary

/-- The receipts of a run in the order in which they were given. -/
def receipts (s : RunSummary) : List Receipt := s.tally.receipts

/-- The number of receipts for success. -/
def succeeded (s : RunSummary) : Nat :=
  (s.receipts.filter Receipt.isSuccess).length

/-- The receipts of records that were given up. -/
def receiptFailures (s : RunSummary) : List Receipt :=
  s.receipts.filter fun r => !r.isSuccess

/-- The lines of a summary; source failures are told only if there are any. -/
def lines (s : RunSummary) : List String :=
  ["run " ++ s.runId, "  published: " ++ toString s.published,
    "  delivered: " ++ toString s.tally.delivered,
      "  failed: " ++ toString s.tally.failed]
  ++ (if 0 < s.sourceFailures then
      ["  connector errors: " ++ toString s.sourceFailures] else [])
  ++ (s.receiptFailures.filterMap fun r => r.failure.map fun reason =>
      "  FAILED " ++ r.recordId ++ ": " ++ reason)
  ++ ["ok"]

end RunSummary

end Intake
