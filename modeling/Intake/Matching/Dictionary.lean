/-
Dictionaries: terms with payloads, one entry a line.

The cells of a line are trimmed and empty ones left out; the first is the
term and the others are its payloads. A term without payloads stands for
itself. A table of entries has every term once, with the payloads of all its
entries in their order.
-/
import Intake.Csv.Reader
import Intake.Failure
import Intake.Files.Tree

namespace Intake

/-- A term with what is told of it where it is found. -/
structure DictionaryEntry where
  term : String
  payloads : List String
deriving DecidableEq, Repr

namespace Dictionary

/-- Cells end at commas, and lines that begin with a number sign are
comments. -/
def format : Csv.Format := ⟨0x2C, some 0x23⟩

/-- The cells of a row that are not empty once trimmed. -/
def filledCells (cells : List (List Char)) : List String :=
  ((cells.map Text.trim).filter fun cell => !cell.isEmpty).map String.ofList

/-- The entry of a line's cells, if it has any. -/
def entryOf (cells : List (List Char)) : Option DictionaryEntry :=
  match filledCells cells with
  | [] => none
  | [term] => some ⟨term, [term]⟩
  | term :: payloads => some ⟨term, payloads⟩

/-- The entries of a dictionary's octets, if all of its rows are text. -/
def ofOctets (octets : List UInt8) : Option (List DictionaryEntry) :=
  ((Csv.rows format octets).mapM Csv.Row.texts).map fun rows =>
    rows.filterMap entryOf

/-- The entries of a dictionary file. -/
def load (files : FileTree) (path : String) :
    Except Failure (List DictionaryEntry) :=
  match files.read path with
  | .error .cannotOpen =>
      .error (.external ("Failed to open dictionary " ++ path))
  | .error .cannotRead =>
      .error (.external ("Failed to read dictionary " ++ path))
  | .ok octets =>
    match ofOctets octets with
    | some entries => .ok entries
    | none => .error (.external ("Failed to read dictionary " ++ path))

/-- The entries of several files, in the order of the files. -/
def loadAll (files : FileTree) :
    List String → Except Failure (List DictionaryEntry)
  | [] => .ok []
  | path :: rest => do
    let entries ← load files path
    let more ← loadAll files rest
    return entries ++ more

end Dictionary

-- ====================================================== tables

/-- Payloads by term. -/
structure PayloadTable where
  rows : List (String × List String)
deriving Repr

namespace PayloadTable

/-- Adds payloads behind those that a term has already. -/
def extend (term : String) (payloads : List String) :
    List (String × List String) → List (String × List String)
  | [] => [(term, payloads)]
  | (known, earlier) :: rest =>
    if known = term then (known, earlier ++ payloads) :: rest
    else (known, earlier) :: extend term payloads rest

/-- The table of entries, whose terms are kept as they are compared. -/
def ofEntries (key : String → String) (entries : List DictionaryEntry) :
    PayloadTable :=
  ⟨entries.foldl
    (fun rows entry => extend (key entry.term) entry.payloads rows) []⟩

/-- The payloads of a term, if the table has it. -/
def payloads? (table : PayloadTable) (term : String) : Option (List String) :=
  table.rows.lookup term

end PayloadTable

end Intake
