/-
Sources of records: what running one comes to, and the ids of what it
finds.

A source gets ready, publishes records until it succeeds or fails, and
ends. What it published before it failed counts. The id of an item is
derived from where the item was found, so it stays the same from run to
run.
-/
import Intake.Digest.Sha256
import Intake.Environment
import Intake.Failure
import Intake.Record.Basic
import Intake.Text.Hex
import Intake.Text.Utf8

namespace Intake

/-- A text in front of the hexadecimal digest of where an item was found. -/
def recordId (lead locator : String) : String :=
  lead ++ String.ofList (Hex.encode (Sha256.digest (Utf8.ofText locator)))

/-- The records that a source publishes before it succeeds or fails. -/
structure Harvest where
  records : List Record
  result : Except Failure Unit

namespace Harvest

/-- All of the records, or none of them if they cannot be had. -/
def ofRecords : Except Failure (List Record) → Harvest
  | .ok records => ⟨records, .ok ()⟩
  | .error e => ⟨[], .error e⟩

end Harvest

/-- What running a source comes to, each phase by itself. -/
structure SourceRun where
  prepared : Except Failure Unit
  harvest : Harvest
  finished : Except Failure Unit

namespace SourceRun

/-- A source that is not ready publishes nothing. -/
def records (run : SourceRun) : List Record :=
  match run.prepared with
  | .ok () => run.harvest.records
  | .error _ => []

/-- The first failure of the phases in order. -/
def result (run : SourceRun) : Except Failure Unit := do
  run.prepared
  run.harvest.result
  run.finished

/-- The source failed in any phase. -/
def failed (run : SourceRun) : Bool := !run.result.isOk

end SourceRun

end Intake
