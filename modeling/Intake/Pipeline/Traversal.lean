/-
How one record goes through a list of steps.

A record that is dropped goes no further; its children surface as records
of their own, a dropped child giving way to its own children. A record
that a step fails on ends as a failure. Otherwise the records that the
step added go through the steps behind it, one after the other and each
with all that it adds in turn, before the record itself goes on. So what a
record gives rise to comes out ahead of it.
-/
import Intake.Stage.Basic

namespace Intake

/-- A named step that may change a record, add records, and fail. -/
structure PipelineStep where
  name : String
  run : Record → StageResult

/-- A record that a step failed on. -/
structure RecordFailure where
  recordId : String
  runId : Option String
  stage : String
  reason : String
deriving DecidableEq, Repr

/-- What became of one record: the records to deliver and the failures, each
in order. -/
@[ext]
structure PipelineOutput where
  records : List Record
  failures : List RecordFailure
deriving Repr

namespace PipelineOutput

/-- The output of nothing. -/
def empty : PipelineOutput := ⟨[], []⟩

/-- One output behind another, records and failures each in their order. -/
def append (a b : PipelineOutput) : PipelineOutput :=
  ⟨a.records ++ b.records, a.failures ++ b.failures⟩

instance : Append PipelineOutput := ⟨append⟩

/-- Adds a record to deliver. -/
def emit (out : PipelineOutput) (r : Record) : PipelineOutput :=
  { out with records := out.records ++ [r] }

/-- Adds a failure. -/
def fail (out : PipelineOutput) (failure : RecordFailure) : PipelineOutput :=
  { out with failures := out.failures ++ [failure] }

end PipelineOutput

-- ====================================================== dropped records

mutual

/-- What surfaces of a child of a dropped record with a given run. -/
def Record.surface (runId : Option String) : Record → List Record
  | ⟨id, own, fields, children, dropped⟩ =>
    let joined := own <|> runId
    if dropped then Record.surfaceAll joined children
    else [⟨id, joined, fields, children, dropped⟩]

/-- The records that surface from each of the dropped records. -/
def Record.surfaceAll (runId : Option String) : List Record → List Record
  | [] => []
  | r :: rs => Record.surface runId r ++ Record.surfaceAll runId rs

end

-- ====================================================== steps

/-- The failure of a record, as the step left it. -/
def PipelineStep.failure (step : PipelineStep) (r : Record) (e : StageError) :
    RecordFailure :=
  ⟨r.id, r.runId, step.name, e.message⟩

/-- What is left of a record that was dropped. -/
def surfaced (r : Record) : PipelineOutput :=
  ⟨Record.surfaceAll r.runId r.children, []⟩

/-- The records that a step added to a record, in the run of the record it
left. -/
def produced (after : Record) (added : Option (List Record)) : List Record :=
  (added.getD []).map (Record.inheritRun after.runId)

/-- Takes a record through steps and adds what comes of it to an output. -/
def drive : List PipelineStep → Record → PipelineOutput → PipelineOutput
  | [], r, out => if r.dropped then out ++ surfaced r else out.emit r
  | step :: rest, r, out =>
    if r.dropped then out ++ surfaced r
    else
      let after := step.run r
      match after.result with
      | .error e => out.fail (step.failure after.state e)
      | .ok added =>
        let out := (produced after.state added).foldl
          (fun out r => drive rest r out) out
        drive rest after.state out

/-- Takes a record into a list of steps at a given place. -/
def driveFrom (steps : List PipelineStep) (first : Nat) (r : Record)
    (out : PipelineOutput) : PipelineOutput :=
  drive (steps.drop first) r out

/-- What becomes of a record in front of a list of steps. -/
def traverse (steps : List PipelineStep) (r : Record) : PipelineOutput :=
  driveFrom steps 0 r .empty

end Intake
