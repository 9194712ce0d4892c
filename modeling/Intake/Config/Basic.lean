/-
The configuration of a run: its queue and workers, the pipeline, the sink,
and the sources by name.

A configuration that can be run has at least one worker, room for one
record in the queue, stages that all name their type, delimiters that are
one ASCII character, and a path if its sink is a file. Checking tells the
first of these that fails, in this order.
-/
import Intake.Failure
import Intake.Pipeline.Lifecycle

namespace Intake

/-- How many records may wait, and how many workers take them. -/
structure RunnerConfig where
  queueCapacity : Nat := 100
  workers : Nat := 4
deriving DecidableEq, Repr

/-- Where delivered records go. -/
inductive SinkKind where
  | stdout
  | jsonl
deriving DecidableEq, Repr

/-- The sink, and how often and after what pause a rejected record is delivered
again. A path is needed by files only. -/
structure SinkConfig where
  kind : SinkKind := .stdout
  path : Option String := none
  maxRetries : Nat := 3
  retryBackoffMs : Nat := 200
deriving DecidableEq, Repr

/-- A directory whose files become records, chosen by patterns for their
paths. -/
structure FilesystemConfig where
  root : String
  includeGlobs : List String := ["**/*"]
  excludeGlobs : List String := []
  followSymlinks : Bool := false
  idPrefix : String := ""
  contentAsText : Bool := false
deriving DecidableEq, Repr

/-- A file of records that were written one on a line. -/
structure JsonlConfig where
  path : String
  idPrefix : String := ""
deriving DecidableEq, Repr

/-- The first row of the file names the columns. -/
structure CsvConfig where
  path : String
  /-- the column that identifies a row, or else the first -/
  idField : Option String := none
  idPrefix : String := ""
  delimiter : Char := ','
deriving DecidableEq, Repr

/-- Sources of each type by name, in the order of their names. -/
structure SourcesConfig where
  filesystem : List (String × FilesystemConfig) := []
  jsonl : List (String × JsonlConfig) := []
  csv : List (String × CsvConfig) := []
deriving DecidableEq, Repr

/-- A whole configuration, which need not be usable yet: that is checked behind
reading. -/
structure Config where
  runner : RunnerConfig
  pipeline : PipelineConfig
  sink : SinkConfig
  sources : SourcesConfig
deriving Repr

-- ====================================================== checks

/-- Why a document is no usable configuration. -/
inductive ConfigError where
  /-- no document, or one of the wrong shape -/
  | unreadable
  | noWorkers
  | noQueue
  | noStages
  | stageWithoutType (index : Nat)
  | delimiter (source : String)
  | noSinkPath
deriving DecidableEq, Repr

/-- The message for each reason. -/
def ConfigError.failure : ConfigError → Failure
  | .unreadable => .external "Failed to parse config file"
  | .noWorkers => .told "runner.workers must be >= 1"
  | .noQueue => .told "runner.queue_capacity must be >= 1"
  | .noStages => .told "pipeline.stages must list at least one stage"
  | .stageWithoutType index =>
    .told ("pipeline.stages[" ++ toString index
      ++ "] must have a string 'type' option")
  | .delimiter source =>
    .told ("connectors.csv." ++ source
      ++ ".delimiter must be a single ASCII character")
  | .noSinkPath =>
      .told "indexer.path is required when indexer.type is 'jsonl'"

namespace Config

/-- The characters that a delimiter can be. -/
def isAscii (c : Char) : Bool := c.toNat < 0x80

/-- The first source whose delimiter is no ASCII character. -/
def foreignDelimiter? (c : Config) : Option String :=
  (c.sources.csv.find? fun entry => !isAscii entry.2.delimiter).map (·.1)

/-- The checks that a configuration passes before it is used, in their order;
the first that fails is told. -/
def check (c : Config) : Except ConfigError Config :=
  if c.runner.workers = 0 then .error .noWorkers
  else if c.runner.queueCapacity = 0 then .error .noQueue
  else if c.pipeline.stages.isEmpty then .error .noStages
  else match c.pipeline.stages.findIdx? fun o => o.stageType.isNone with
    | some index => .error (.stageWithoutType index)
    | none => match c.foreignDelimiter? with
      | some source => .error (.delimiter source)
      | none =>
        if c.sink.kind = .jsonl ∧ c.sink.path = none then .error .noSinkPath
        else .ok c

end Config

end Intake
