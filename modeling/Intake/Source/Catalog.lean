/-
The sources of a configuration and the choice among them.

A source is known by its label, which joins its type and its name. A
choice names a label, a type, or all of them.
-/
import Intake.Source.Csv
import Intake.Source.Filesystem
import Intake.Source.JsonLines

namespace Intake

/-- The kinds of sources, each with its name and its part of the
configuration. -/
inductive Source where
  | filesystem (name : String) (config : FilesystemConfig)
  | jsonl (name : String) (config : JsonlConfig)
  | csv (name : String) (config : CsvConfig)
deriving Repr

namespace Source

/-- The kind of a source as configurations name it. -/
def type : Source → String
  | .filesystem _ _ => "filesystem"
  | .jsonl _ _ => "jsonl"
  | .csv _ _ => "csv"

/-- The name of a source within its kind. -/
def name : Source → String
  | .filesystem name _ => name
  | .jsonl name _ => name
  | .csv name _ => name

/-- What a kind of source does. -/
def description : Source → String
  | .filesystem _ _ => "Publish files under a local directory"
  | .jsonl _ _ => "Publish records from a JSON Lines file"
  | .csv _ _ => "Publish the rows of a CSV file"

/-- The kind and the name, by which a source is chosen. -/
def label (s : Source) : String := s.type ++ ":" ++ s.name

/-- What a source does in a run. -/
def run (environment : Environment) : Source → SourceRun
  | .filesystem _ config => FilesystemSource.run environment config
  | .jsonl _ config => JsonLinesSource.run environment config
  | .csv _ config => CsvSource.run environment config

end Source

/-- All sources of a configuration, by type and then by name. -/
def Config.allSources (config : Config) : List Source :=
  config.sources.filesystem.map (fun (name, c) => .filesystem name c)
    ++ config.sources.jsonl.map (fun (name, c) => .jsonl name c)
    ++ config.sources.csv.map (fun (name, c) => .csv name c)

namespace Source

/-- The choice that stands for all sources. -/
def everything : String := "all"

/-- The sources that a choice names. -/
def matching (sources : List Source) (choice : Option String) : List Source :=
  match choice with
  | none => sources
  | some s =>
    if s = everything then sources
    else if s.toList.contains ':' then
      (sources.find? fun source => source.label == s).toList
    else sources.filter fun source => source.type == s

/-- The chosen sources; a choice of none is refused. -/
def select (sources : List Source) (choice : Option String) :
    Except Failure (List Source) :=
  match matching sources choice, choice with
  | source :: others, _ => .ok (source :: others)
  | [], none => .error (.told "No connectors configured")
  | [], some s =>
    if s = everything then .error (.told "No connectors configured")
    else .error (.told ("No configured connector matches '" ++ s ++ "'"))

end Source

end Intake
