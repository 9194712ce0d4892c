/-
Rows of comma-separated values.

A cell that begins with a quote runs to its closing quote and may hold
delimiters, line ends and doubled quotes; what follows the closing quote
belongs to the cell. Elsewhere quotes stand for themselves. Carriage
return and line feed each end a row, empty lines hold none, and rows need
not be of one length. A row starts where the one before it ended, which is
before the line feed of a two-character line end and before any empty
lines and comments; its line number counts the line feeds up to there.
-/
import Intake.Text.Utf8
import Intake.Text.Whitespace

namespace Intake.Csv

/-- What separates cells, and which lines are comments. -/
structure Format where
  delimiter : UInt8
  /-- what a line that holds no row begins with -/
  comment : Option UInt8
deriving Repr

/-- A row with the number of the line on which its reading began. -/
structure Row where
  line : Nat
  cells : List (List UInt8)
deriving Repr, DecidableEq

/-- Where the reader stands. -/
inductive State where
  | rowStart
  /-- behind a carriage return that ended a row -/
  | afterReturn
  | inComment
  | cellStart
  | inCell
  | inQuotes
  /-- behind a quote inside quotes -/
  | afterQuote
deriving DecidableEq, Repr

/-- What has been read of the current row: the line it began on, the
finished cells and the current one, both in reverse. -/
structure Progress where
  start : Nat
  cells : List (List UInt8)
  cell : List UInt8

/-- The octet that ends lines and is counted. -/
def lineFeed : UInt8 := 0x0A

/-- The octet that ends lines, alone or with a line feed behind it, and is not
counted. -/
def carriageReturn : UInt8 := 0x0D

/-- The octet around cells that hold delimiters or line ends, doubled within
them. -/
def quote : UInt8 := 0x22

/-- An octet at which a row ends outside quotes. -/
def isLineEnd (b : UInt8) : Bool := b == lineFeed || b == carriageReturn

/-- One more octet of the current cell. -/
def Progress.add (p : Progress) (b : UInt8) : Progress :=
  { p with cell := b :: p.cell }

/-- The current cell is complete, and the next one is empty. -/
def Progress.closeCell (p : Progress) : Progress :=
  { p with cells := p.cell.reverse :: p.cells, cell := [] }

/-- The row whose last cell is complete with what has been read. -/
def Progress.row (p : Progress) : Row := ⟨p.start, p.closeCell.cells.reverse⟩

/-- What one octet does: the next state, the row as read so far, and whether
the row has ended. -/
structure Step where
  state : State
  progress : Progress
  ended : Bool

namespace Step

/-- A step within a row, which leads to a state with what has been read. -/
def goes (state : State) (progress : Progress) : Step :=
  ⟨state, progress, false⟩

/-- Ends the row behind an octet that ends lines. -/
def ends (b : UInt8) (progress : Progress) : Step :=
  ⟨if b = carriageReturn then .afterReturn else .rowStart, progress, true⟩

/-- An octet in an unquoted cell or behind a quoted one. -/
def plain (f : Format) (p : Progress) (b : UInt8) : Step :=
  if b = f.delimiter then goes .cellStart p.closeCell
  else if isLineEnd b then ends b p
  else goes .inCell (p.add b)

/-- The first octet of a cell. -/
def first (f : Format) (p : Progress) (b : UInt8) : Step :=
  if b = quote then goes .inQuotes p else plain f p b

/-- An octet where a row may begin. -/
def opening (f : Format) (p : Progress) (b : UInt8) : Step :=
  if isLineEnd b then goes .rowStart p
  else if f.comment = some b then goes .inComment p
  else first f p b

end Step

/-- What the reader does with an octet. The line feed behind a carriage return
belongs to the row end that was read already. -/
def step (f : Format) (p : Progress) (b : UInt8) : State → Step
  | .rowStart => .opening f p b
  | .afterReturn => if b = lineFeed then .goes .rowStart p else .opening f p b
  | .inComment => .goes (if b = lineFeed then .rowStart else .inComment) p
  | .cellStart => .first f p b
  | .inCell => .plain f p b
  | .inQuotes =>
      if b = quote then .goes .afterQuote p else .goes .inQuotes (p.add b)
  | .afterQuote =>
      if b = quote then .goes .inQuotes (p.add b) else .plain f p b

/-- The row left unfinished at the end of the text, if one is. -/
def lastRow (p : Progress) : State → List Row
  | .rowStart | .afterReturn | .inComment => []
  | _ => [p.row]

/-- The rows of octets, from a state and a number of lines on. -/
def rowsFrom (f : Format) (state : State) (line : Nat) (p : Progress) :
    List UInt8 → List Row
  | [] => lastRow p state
  | b :: rest =>
    let line := if b = lineFeed then line + 1 else line
    let s := step f p b state
    if s.ended then
      s.progress.row :: rowsFrom f s.state line ⟨line, [], []⟩ rest
    else rowsFrom f s.state line s.progress rest

/-- Octets without the mark of UTF-8 at their start. -/
def withoutMark : List UInt8 → List UInt8
  | 0xEF :: 0xBB :: 0xBF :: rest => rest
  | octets => octets

/-- The rows of a text, whose first line has the number one. -/
def rows (f : Format) (octets : List UInt8) : List Row :=
  rowsFrom f .rowStart 1 ⟨1, [], []⟩ (withoutMark octets)

/-- The cells of a row as text, if all of them are text. -/
def Row.texts (row : Row) : Option (List (List Char)) :=
  row.cells.mapM Utf8.decode

end Intake.Csv
