/-
Rows of a file of comma-separated values as records, one a row.

The first row names the fields. The id of a record comes from the path of
the file and the cell of the id column, or the number of the row's line if
that cell is empty. Columns without a name or with a reserved one are left
out, and a row that is not text is passed over. A field that several
columns name has the last cell.
-/
import Intake.Config.Basic
import Intake.Csv.Reader
import Intake.Source.Basic

namespace Intake.CsvSource

/-- The field for the path of the file. -/
def pathField : String := "file_path"

/-- The field for the line number of the row. -/
def lineField : String := "csv_line_number"

/-- A row of text. -/
structure TextRow where
  line : Nat
  cells : List String
deriving Repr, DecidableEq

/-- A row as texts, if all its cells are. -/
def textRow? (row : Csv.Row) : Option TextRow :=
  row.texts.map fun cells => ⟨row.line, cells.map String.ofList⟩

/-- Cells end at the delimiter of the configuration, and there are no
comments. -/
def format (config : CsvConfig) : Csv.Format :=
  ⟨UInt8.ofNat config.delimiter.toNat, none⟩

/-- The names of the columns and the rows behind them. -/
def table (config : CsvConfig) (octets : List UInt8) :
    Except Failure (List String × List TextRow) :=
  match Csv.rows (format config) octets with
  | [] => .error (.told (config.path ++ " has no header row"))
  | header :: rows =>
    match textRow? header with
    | none => .error (.external ("Failed to read headers of " ++ config.path))
    | some header => .ok (header.cells, rows.filterMap textRow?)

/-- The number of the column that identifies a row. -/
def idColumn (config : CsvConfig) (columns : List String) :
    Except Failure Nat :=
  match config.idField with
  | none => .ok 0
  | some field =>
    match columns.findIdx? fun column => column == field with
    | some index => .ok index
    | none =>
      .error (.told
        ("id_field '" ++ field ++ "' is not a column of " ++ config.path))

/-- What identifies a row in its file. -/
def idValue (idColumn : Nat) (row : TextRow) : String :=
  match row.cells[idColumn]? with
  | some cell => if cell.isEmpty then toString row.line else cell
  | none => toString row.line

/-- A column becomes a field. -/
def isField (column : String) : Bool :=
  !Record.isReserved column && !column.isEmpty

/-- The fields of a row in the order in which they are written. -/
def fieldsOf (config : CsvConfig) (columns : List String) (row : TextRow) :
    List (String × Value) :=
  (pathField, .text config.path) :: (lineField, .long (Int64.ofNat row.line))
    :: ((columns.zip row.cells).filter fun entry => isField entry.1).map
        fun entry => (entry.1, .text entry.2)

/-- The record of a row. -/
def recordOf (config : CsvConfig) (columns : List String) (idColumn : Nat)
    (row : TextRow) : Except Failure Record :=
  let new := Record.new
    (recordId config.idPrefix (config.path ++ ":" ++ idValue idColumn row))
  let written :=
    Outcome.each (fun r (entry : String × Value) => r.setField entry.1 entry.2)
      new
    (fieldsOf config columns row)
  match written.result with
  | .ok () => .ok written.state
  | .error e => .error ⟨[], .field e⟩

/-- The records of a file's octets. -/
def recordsOf (config : CsvConfig) (octets : List UInt8) :
    Except Failure (List Record) := do
  let (columns, rows) ← table config octets
  let idColumn ← idColumn config columns
  rows.mapM (recordOf config columns idColumn)

/-- The records of a file. A file that is missing and one that cannot be read
are told apart. -/
def records (files : FileTree) (config : CsvConfig) :
    Except Failure (List Record) :=
  match files.read config.path with
  | .error .cannotOpen => .error (.external ("Failed to open " ++ config.path))
  | .error .cannotRead =>
      .error (.external ("Failed to read headers of " ++ config.path))
  | .ok octets => recordsOf config octets

/-- Opening and closing cannot fail; the file is read for its records. -/
def run (environment : Environment) (config : CsvConfig) : SourceRun :=
  ⟨.ok (), .ofRecords (records environment.files config), .ok ()⟩

end Intake.CsvSource
