/-
Records from a file that holds a JSON document on every line.

Ids get a text in front, throughout the tree of a record, and no record of
a tree keeps its run. Blank lines and lines that hold no record are passed
over.
-/
import Intake.Config.Basic
import Intake.Record.Document
import Intake.Source.Basic
import Intake.Text.Whitespace

namespace Intake

mutual

/-- The record and all its descendants without a run. -/
def Record.withoutRuns : Record → Record
  | ⟨id, _, fields, children, dropped⟩ =>
    ⟨id, none, fields, Record.allWithoutRuns children, dropped⟩

/-- The runless copies of records, in their order. -/
def Record.allWithoutRuns : List Record → List Record
  | [] => []
  | r :: rs => Record.withoutRuns r :: Record.allWithoutRuns rs

end

namespace JsonLinesSource

/-- A line without the carriage return in front of its line feed. -/
def withoutReturn (line : List Char) : List Char :=
  if line.getLast? = some '\r' then line.dropLast else line

/-- The lines of a text behind the characters of its current line in
reverse. Only a line that ends in a line feed gives up a carriage return. -/
def linesFrom : List Char → List Char → List (List Char)
  | [], [] => []
  | line, [] => [line.reverse]
  | line, '\n' :: rest => withoutReturn line.reverse :: linesFrom [] rest
  | line, c :: rest => linesFrom (c :: line) rest

/-- The lines of a text. -/
def lines (text : List Char) : List (List Char) := linesFrom [] text

/-- The record on a line. -/
def parseLine (lead : String) (line : String) : Except Failure Record :=
  match Json.parse line with
  | none => .error ⟨[], .external⟩
  | some j =>
    match Record.ofJsonWith (fun id => lead ++ id) j with
    | .ok r => .ok r.withoutRuns
    | .error e => .error ⟨[], .field e⟩

/-- The records on lines. -/
def recordsOf (lead : String) (text : List Char) : List Record :=
  ((lines text).filter fun line => !Text.isBlank line).filterMap fun line =>
    (parseLine lead (String.ofList line)).toOption

/-- The records of a file that is a text. Lines that hold no record are left
out. -/
def records (files : FileTree) (config : JsonlConfig) :
    Except Failure (List Record) :=
  match (files.read config.path).toOption.bind Utf8.decode with
  | none => .error (.external ("Failed to read " ++ config.path))
  | some text => .ok (recordsOf config.idPrefix text)

/-- Opening and closing cannot fail; the file is read for its records. -/
def run (environment : Environment) (config : JsonlConfig) : SourceRun :=
  ⟨.ok (), .ofRecords (records environment.files config), .ok ()⟩

end JsonLinesSource

end Intake
