/-
One run: sources publish records, the pipeline processes each of them, and
what it gives goes to the sink.

The pipeline starts before any source runs, so a run that cannot process
records publishes none. Sources run one after the other and a source that
fails does not stop the run. Records are processed in the order in which
they were published, one at a time.
-/
import Intake.Delivery.Queue
import Intake.Delivery.Retry
import Intake.Pipeline.Lifecycle
import Intake.Run.Summary
import Intake.Source.Catalog

namespace Intake

/-- Totals with the sink as it was left. -/
structure Handled (σ : Type) where
  sink : σ
  tally : Tally

namespace Run

variable {σ τ : Type} [Stage σ] [Sink τ]

-- ====================================================== delivery

/-- Delivers records in order. -/
def deliverAll (retries : Nat) (sink : τ) : List Record → Handled τ
  | [] => ⟨sink, .empty⟩
  | r :: rest =>
    let delivery := Delivery.attempt sink r retries
    let tally := match delivery.result with
      | .ok () => Tally.ofSuccess r.id r.runId
      | .error reason => Tally.ofFailure r.id r.runId reason
    let others := deliverAll retries delivery.sink rest
    ⟨others.sink, tally ++ others.tally⟩

/-- The tally of a record that a stage failed on. -/
def tallyOf (f : RecordFailure) : Tally :=
  .ofFailure f.recordId f.runId ("stage " ++ f.stage ++ ": " ++ f.reason)

/-- The tally of all failures of an output. -/
def tallyAll (failures : List RecordFailure) : Tally :=
  failures.foldr (fun f tally => tallyOf f ++ tally) .empty

/-- Processes one record and delivers what it gives. -/
def handle (environment : Environment) (p : Pipeline σ) (retries : Nat)
    (sink : τ) (r : Record) : Handled τ :=
  match p.process environment r with
  | .error e => ⟨sink, .ofFailure r.id r.runId e.message⟩
  | .ok output =>
    let delivered := deliverAll retries sink output.records
    ⟨delivered.sink, tallyAll output.failures ++ delivered.tally⟩

/-- Processes records in order. -/
def handleAll (environment : Environment) (p : Pipeline σ) (retries : Nat)
    (sink : τ) :
    List Record → Handled τ
  | [] => ⟨sink, .empty⟩
  | r :: rest =>
    let first := handle environment p retries sink r
    let others := handleAll environment p retries first.sink rest
    ⟨others.sink, first.tally ++ others.tally⟩

-- ====================================================== runs

/-- The records that sources publish in a run, one source after the other. -/
def published (runId : String) (sources : List SourceRun) : List Record :=
  (sources.flatMap SourceRun.records).map (Record.stamp runId)

/-- Runs sources through a started pipeline into a sink. -/
def drain (environment : Environment) (runId : String)
    (sources : List SourceRun) (p : Pipeline σ) (retries : Nat) (sink : τ) :
    τ × RunSummary :=
  let records := published runId sources
  let handled := handleAll environment p retries sink records
  (handled.sink,
    { runId, published := records.length, tally := handled.tally,
      sourceFailures := (sources.filter SourceRun.failed).length })

/-- Assembles and starts the pipeline of a configuration. -/
def startPipeline (environment : Environment) (config : PipelineConfig)
    (registry : StageRegistry σ) : Except Failure (Pipeline σ) :=
  match Pipeline.assemble config registry with
  | .error e => .error ⟨["Failed to assemble pipeline"], .stage e⟩
  | .ok p =>
    let started := p.start environment
    match started.result with
    | .error e => .error ⟨["Failed to start pipeline"], .stage e⟩
    | .ok () => .ok started.state

/-- Stops the pipeline at the end of a run. -/
def stopPipeline (p : Pipeline σ) : Except Failure Unit :=
  p.stop.result.mapError fun e => ⟨["Failed to stop pipeline"], .stage e⟩

/-- Takes what sources publish through a started pipeline, stops it and closes
the sink. -/
def conduct (environment : Environment) (runId : String)
    (sources : List SourceRun) (p : Pipeline σ) (retries : Nat) (sink : τ) :
    Outcome Failure τ RunSummary :=
  let (sink, summary) := drain environment runId sources p retries sink
  match stopPipeline p with
  | .error e => .fail sink e
  | .ok () =>
    ((Sink.close sink).mapError
      (Failure.during "Failed to close indexer")).andThen fun sink _ =>
      .ok sink summary

/-- Runs chosen sources. The sink comes back as it was left, also when the
run fails behind it. -/
def run (environment : Environment) (runId : String) (config : Config)
    (registry : StageRegistry σ) (sources : List Source)
    (choice : Option String) (sink : τ) : Outcome Failure τ RunSummary :=
  let started : Except Failure (List Source × Pipeline σ) := do
    let chosen ← Source.select sources choice
    let p ← startPipeline environment config.pipeline registry
    return (chosen, p)
  match started with
  | .error e => .fail sink e
  | .ok (chosen, p) =>
    conduct environment runId (chosen.map (Source.run environment))
      p config.sink.maxRetries sink

end Run

end Intake
