/-
Where finished records go.

A sink acknowledges a record or rejects it with a failure, and is closed
behind the last one. There are sinks that print a line of JSON for each
record, that add such a line to a file, and that keep the records.
-/
import Intake.Config.Basic
import Intake.Outcome
import Intake.Record.Document
import Intake.Text.Utf8

namespace Intake

/-- Something that takes records one at a time. What it answers may depend on
what it was given before, so delivering changes it, also when it rejects. -/
class Sink (σ : Type) where
  name : σ → String
  deliver : σ → Record → Outcome Failure σ Unit
  close : σ → Outcome Failure σ Unit

/-- A record as a line of JSON. -/
def Record.toLine (r : Record) : String := r.toJsonText ++ "\n"

-- ====================================================== memory

/-- A sink that keeps records. -/
structure MemorySink where
  records : List Record

instance : Sink MemorySink where
  name _ := "memory"
  deliver sink r := .ok ⟨sink.records ++ [r]⟩ ()
  close sink := .ok sink ()

-- ====================================================== output and files

/-- A sink that prints records behind what was printed before. -/
structure OutputSink where
  printed : String
deriving Repr

instance : Sink OutputSink where
  name _ := "stdout"
  deliver sink r := .ok ⟨sink.printed ++ r.toLine⟩ ()
  close sink := .ok sink ()

/-- A sink that adds records to the end of a file. -/
structure FileSink where
  files : FileTree
  path : String
deriving Repr

namespace FileSink

/-- Opens the file, creating it and the directories above it. -/
def start (files : FileTree) (path : String) : Except Failure FileSink :=
  let parent := FileTree.parent path
  match
    if parent.isEmpty then some files else files.createDirectories parent with
  | none => .error (.external ("Failed to create " ++ parent))
  | some files =>
    match files.openAppend path with
    | none => .error (.external ("Failed to open " ++ path))
    | some files => .ok ⟨files, path⟩

instance : Sink FileSink where
  name _ := "jsonl"
  deliver sink r :=
    match sink.files.append sink.path (Utf8.ofText r.toLine) with
    | some files => .ok { sink with files } ()
    | none => .fail sink (.external ("Failed to write to " ++ sink.path))
  close sink := .ok sink ()

end FileSink

-- ====================================================== configured sinks

/-- A sink that a configuration can ask for. -/
inductive ConfiguredSink where
  | output (sink : OutputSink)
  | file (sink : FileSink)
deriving Repr

namespace ConfiguredSink

/-- Opens the sink of a configuration. -/
def start (files : FileTree) (config : SinkConfig) :
    Except Failure ConfiguredSink :=
  match config.kind, config.path with
  | .stdout, _ => .ok (.output ⟨""⟩)
  | .jsonl, some path => (FileSink.start files path).map .file
  | .jsonl, none =>
      .error (.told "indexer.path is required for the jsonl indexer")

/-- What the sink has printed. -/
def printed : ConfiguredSink → String
  | .output sink => sink.printed
  | .file _ => ""

/-- The files as the sink has left them. -/
def filesAfter (files : FileTree) : ConfiguredSink → FileTree
  | .output _ => files
  | .file sink => sink.files

instance : Sink ConfiguredSink where
  name
    | .output sink => Sink.name sink
    | .file sink => Sink.name sink
  deliver
    | .output sink, r => (Sink.deliver sink r).within .output
    | .file sink, r => (Sink.deliver sink r).within .file
  close
    | .output sink => (Sink.close sink).within .output
    | .file sink => (Sink.close sink).within .file

end ConfiguredSink

end Intake
