/-
Carrying a command line out: what it prints, how it ends, and the files it
leaves.

Listing the stages needs no configuration; every other command reads it
first. A run prints its records, if they go to the output, and then its
summary; it opens the sink before anything else.
-/
import Intake.Command.Line
import Intake.Config.Reader
import Intake.Run.Basic
import Intake.Stage.Catalog

namespace Intake

/-- How a command ends. -/
inductive Ending where
  | success
  | failure (failure : Failure)
  | misuse
deriving DecidableEq, Repr

/-- The status the caller is told. -/
def Ending.code : Ending → Nat
  | .success => 0
  | .failure _ => 1
  | .misuse => 2

/-- What a call of the program leaves behind: what it printed, how it ended,
and the files. -/
structure Report where
  output : String
  ending : Ending
  files : FileTree
deriving Repr

namespace Report

-- ====================================================== output

/-- Lines of output. -/
def unlines (lines : List String) : String :=
  String.join (lines.map (· ++ "\n"))

/-- A name in a column of some width, and what it stands for. -/
def row (width : Nat) (name description : String) : String :=
  name ++ String.ofList (List.replicate (width - name.length) ' ')
    ++ " " ++ description

/-- A table of the stage types, the known names in the order of the
registry. -/
def stageLines {σ : Type} (registry : StageRegistry σ) : List String :=
  row 24 "STAGE" "DESCRIPTION" :: registry.types.map fun t =>
    row 24 t.name t.description

/-- A table of the configured sources, or a line that says there are none. -/
def sourceLines (sources : List Source) : List String :=
  row 28 "CONNECTOR" "DESCRIPTION" :: sources.map
    (fun s => row 28 s.label s.description)
    ++ if sources.isEmpty then ["(no connectors configured)"] else []

/-- The stages of a pipeline, numbered from one on. -/
def pipelineLines {σ : Type} [Stage σ] (p : Pipeline σ) : List String :=
  ("pipeline " ++ p.name) ::
    p.stageNames.zipIdx.map fun (name, index) =>
      "  " ++ toString (index + 1) ++ ". " ++ name

/-- The lines that tell a failure: its headline, and what lies behind it. -/
def failureLines (f : Failure) : List String :=
  ("Error: " ++ f.headline) :: match f.parts.drop 1 with
    | [] => []
    | [cause] => ["", "Caused by:", "    " ++ cause]
    | causes => ["", "Caused by:"] ++
      causes.zipIdx.map fun (cause, index) =>
        "    " ++ toString index ++ ": " ++ cause

/-- The end that a result brings about. -/
def endingOf {α : Type} : Except Failure α → Ending
  | .ok _ => .success
  | .error e => .failure e

-- ====================================================== commands

/-- Assembles, starts and stops the pipeline without any record. -/
def validate {σ : Type} [Stage σ] (environment : Environment)
    (registry : StageRegistry σ) (config : Config) : Report :=
  match Run.startPipeline environment config.pipeline registry with
  | .error e => ⟨"", .failure e, environment.files⟩
  | .ok p =>
    let stopped := Run.stopPipeline p
    let end' := if stopped.isOk then ["ok"] else []
    ⟨unlines (pipelineLines p ++ end'), endingOf stopped, environment.files⟩

/-- Runs chosen sources into the configured sink. -/
def run {σ : Type} [Stage σ] (environment : Environment)
    (registry : StageRegistry σ) (runId : String) (config : Config)
    (choice : Option String) : Report :=
  match ConfiguredSink.start environment.files config.sink with
  | .error e => ⟨"", .failure e, environment.files⟩
  | .ok sink =>
    let files := sink.filesAfter environment.files
    let outcome :=
      Run.run { environment with files } runId config registry
        config.allSources choice
      sink
    let summary := match outcome.result with
      | .ok summary => unlines summary.lines
      | .error _ => ""
    ⟨outcome.state.printed ++ summary, endingOf outcome.result,
      outcome.state.filesAfter files⟩

/-- Carries out a command with the stages of a registry. -/
def ofCommand {σ : Type} [Stage σ] (environment : Environment)
    (registry : StageRegistry σ) (runId : String) (line : CommandLine) :
    Report :=
  let configured (command : Config → Report) : Report :=
    match Config.load environment.files line.config with
    | .error e => ⟨"", .failure e, environment.files⟩
    | .ok config => command config
  match line.command with
  | .stages => ⟨unlines (stageLines registry), .success, environment.files⟩
  | .sources => configured fun config =>
    ⟨unlines (sourceLines config.allSources), .success, environment.files⟩
  | .validate => configured (validate environment registry)
  | .run => configured fun config =>
      run environment registry runId config line.choice

/-- Carries out the words of a command line. -/
def ofWords (environment : Environment) (runId : String)
    (words : List String) : Report :=
  match CommandLine.read words with
  | .command line => ofCommand environment StageRegistry.catalog runId line
  | .about => ⟨"", .success, environment.files⟩
  | .misuse => ⟨"", .misuse, environment.files⟩

end Report

end Intake
