/-
Pipelines: a list of stages with a life.

A pipeline is created, started once and stopped once, and takes records
only in between. Starting starts the stages in order until one fails, and
a pipeline that failed to start may be started again. Stopping stops every
stage and tells the first failure.
-/
import Intake.Pipeline.Traversal
import Intake.Stage.Registry

namespace Intake

/-- Where a pipeline is in its life. It never goes back. -/
inductive Phase where
  | created
  | started
  | stopped
deriving DecidableEq, Repr

/-- The stages that records go through, with the name that failures tell. -/
structure Pipeline (σ : Type) where
  name : String
  stages : List σ
  phase : Phase
deriving Repr

/-- The name of a pipeline and the options of its stages. -/
structure PipelineConfig where
  name : String
  stages : List StageOptions
deriving Repr

namespace PipelineConfig

/-- The name of a pipeline that is given none. -/
def defaultName : String := "default"

end PipelineConfig

namespace Pipeline

variable {σ : Type} [Stage σ]

/-- A pipeline before its start. -/
def new (name : String) (stages : List σ) : Pipeline σ :=
  ⟨name, stages, .created⟩

/-- Builds every configured stage; the first that cannot be built stops the
rest. -/
def assemble (config : PipelineConfig) (registry : StageRegistry σ) :
    Except StageError (Pipeline σ) :=
  (config.stages.mapM registry.build).map (new config.name)

/-- The names of the stages in their order. -/
def stageNames (p : Pipeline σ) : List String := p.stages.map Stage.name

/-- Records can be processed. -/
def isStarted (p : Pipeline σ) : Bool := p.phase == .started

-- ====================================================== starting and stopping

/-- Starts stages in order until one fails. -/
def startAll (environment : Environment) :
    List σ → Outcome StageError (List σ) Unit
  | [] => .ok [] ()
  | stage :: rest =>
    let started := Stage.start environment stage
    match started.result with
    | .error e => .fail (started.state :: rest) e
    | .ok () => (startAll environment rest).within (started.state :: ·)

/-- Stops all stages in order; the first failure is the answer. -/
def stopAll : List σ → Outcome StageError (List σ) Unit
  | [] => .ok [] ()
  | stage :: rest =>
    let stopped := Stage.stop stage
    let others := stopAll rest
    ⟨stopped.state :: others.state,
      match stopped.result with
      | .error e => .error e
      | .ok () => others.result⟩

/-- Starts the stages in order. Where one fails, the pipeline is not started,
though the stages in front of it are. -/
def start (environment : Environment) (p : Pipeline σ) :
    Outcome StageError (Pipeline σ) Unit :=
  if p.phase = .created then
    let started := startAll environment p.stages
    match started.result with
    | .error e => .fail { p with stages := started.state } e
    | .ok () => .ok { p with stages := started.state, phase := .started } ()
  else .fail p (.lifecycle p.name "pipeline already started")

/-- Stops every stage of a started pipeline. It is stopped behind this, also if
a stage failed. -/
def stop (p : Pipeline σ) : Outcome StageError (Pipeline σ) Unit :=
  if p.phase = .started then
    (stopAll p.stages).within fun stages =>
      { p with stages, phase := .stopped }
  else .fail p (.lifecycle p.name "pipeline is not running")

-- ====================================================== records

/-- The stages as steps. -/
def steps (environment : Environment) (p : Pipeline σ) : List PipelineStep :=
  p.stages.map fun stage => ⟨Stage.name stage, Stage.process environment stage⟩

/-- What becomes of a record in a started pipeline. -/
def process (environment : Environment) (p : Pipeline σ) (r : Record) :
    Except StageError PipelineOutput :=
  if p.phase = .started then .ok (traverse (p.steps environment) r)
  else .error (.lifecycle p.name "records can only be processed after start()")

end Pipeline

end Intake
