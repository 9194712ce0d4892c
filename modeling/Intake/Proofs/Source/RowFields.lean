/-
The fields of the records of rows.

Where a file can be loaded every row of text has its record (`records_eq_ok`),
since no field is written that could be refused. The path and the line number
are written before the cells of the columns, and of several fields under one
name the last stays, so a column called like one of them takes its place.
`records_sourced_iff` says that this is the only way in which a record does not
tell its path and the number that the reader gave its row.

That number is the line on which the row stands if a single line feed ends each
line and no line is empty. Behind a line end of two octets and behind empty
lines the reader numbers a row too low (`Loaded.behind`).
-/
import Intake.Proofs.Csv.Lines
import Intake.Proofs.Csv.Numbering
import Intake.Proofs.Files.Append
import Intake.Proofs.Record.LastWrites
import Intake.Source.Csv
import Mathlib.Data.List.Forall2

namespace Intake.CsvSource

variable {files : FileTree} {config : CsvConfig} {octets : List UInt8}
  {columns : List String} {index : Nat} {row : TextRow} {rows : List TextRow}
  {rs : List Record}

-- ====================================================== one row

/-- Where a row comes from, as its record is named after. -/
def locator (config : CsvConfig) (index : Nat) (row : TextRow) : String :=
  config.path ++ ":" ++ idValue index row

/-- The record of a row with all its fields written. -/
def written (config : CsvConfig) (columns : List String) (index : Nat)
    (row : TextRow) : Record :=
  { Record.new (recordId config.idPrefix (locator config index row)) with
    fields := FieldStore.empty.putAll (fieldsOf config columns row) }

/-- No reserved name gets into the fields of a row. -/
theorem not_reserved_of_mem_fieldsOf {entry : String × Value}
    (h : entry ∈ fieldsOf config columns row) : ¬Record.Reserved entry.1 := by
  unfold fieldsOf at h
  rw [List.mem_cons, List.mem_cons] at h
  rcases h with rfl | rfl | h
  · exact (by decide : ¬Record.Reserved pathField)
  · exact (by decide : ¬Record.Reserved lineField)
  · obtain ⟨cell, hcell, rfl⟩ := List.mem_map.mp h
    have hfield := (List.mem_filter.mp hcell).2
    rw [isField, Bool.and_eq_true, Bool.not_eq_true'] at hfield
    exact Bool.not_eq_true _ ▸ hfield.1

/-- The record of a row is written without failing. -/
theorem recordOf_eq (config : CsvConfig) (columns : List String) (index : Nat)
    (row : TextRow) :
    recordOf config columns index row
      = .ok (written config columns index row) := by
  unfold recordOf
  dsimp only
  rw [Record.setFields_putAll rfl fun _ => not_reserved_of_mem_fieldsOf]
  rfl

-- ====================================================== loading

/-- A file as it is loaded: what is in it, the names of its columns, the number
of the one that identifies a row, and the rows of text. -/
structure Loaded (files : FileTree) (config : CsvConfig) (octets : List UInt8)
    (columns : List String) (index : Nat) (rows : List TextRow) : Prop where
  read : files.read config.path = .ok octets
  table : table config octets = .ok (columns, rows)
  column : idColumn config columns = .ok index

/-- A loaded file has one record for each row. -/
theorem Loaded.records_eq (h : Loaded files config octets columns index rows) :
    records files config = .ok (rows.map (written config columns index)) := by
  have hall : rows.mapM (recordOf config columns index)
      = .ok (rows.map (written config columns index)) := by
    rw [funext (recordOf_eq config columns index)]
    exact List.mapM_pure
  unfold records recordsOf
  rw [h.read]
  show (CsvSource.table config octets).bind _ = _
  rw [h.table]
  show (idColumn config columns).bind _ = _
  rw [h.column]
  exact hall

/-- Records come of loaded files alone, one for each row. -/
theorem records_eq_ok :
    records files config = .ok rs
      ↔ ∃ octets columns index rows,
          Loaded files config octets columns index rows
        ∧ rs = rows.map (written config columns index) := by
  constructor
  · intro h
    cases hread : files.read config.path with
    | error e =>
        rw [records, hread] at h
        cases e with
        | cannotOpen => cases h
        | cannotRead => cases h
    | ok octets =>
        have hrecords := h
        rw [records, hread] at hrecords
        obtain ⟨⟨columns, rows⟩, htable, hrest⟩ :=
          Record.bind_eq_ok.mp hrecords
        obtain ⟨index, hcolumn, -⟩ := Record.bind_eq_ok.mp hrest
        have hloaded : Loaded files config octets columns index rows :=
          ⟨hread, htable, hcolumn⟩
        rw [hloaded.records_eq] at h
        exact ⟨octets, columns, index, rows, hloaded, (Except.ok.inj h).symm⟩
  · rintro ⟨octets, columns, index, rows, hloaded, rfl⟩
    exact hloaded.records_eq

/-- The rows are those of the reader behind the header that are text. -/
theorem Loaded.rows_eq (h : Loaded files config octets columns index rows) :
    ∃ header others, Csv.rows (format config) octets = header :: others
      ∧ rows = others.filterMap textRow? := by
  have htable := h.table
  unfold CsvSource.table at htable
  split at htable
  · cases htable
  · next header others hrows =>
      split at htable
      · cases htable
      · cases htable
        exact ⟨header, others, hrows, rfl⟩

/-- Every row of text is one of the reader's, under the number that the reader
gave it. -/
theorem Loaded.numbered (h : Loaded files config octets columns index rows) :
    ∀ row ∈ rows, ∃ read, textRow? read = some row
      ∧ Csv.Numbered (format config) (Csv.withoutMark octets) read := by
  obtain ⟨header, others, hrows, rfl⟩ := h.rows_eq
  intro row hrow
  obtain ⟨read, hread, htext⟩ := List.mem_filterMap.mp hrow
  have hmem : read ∈ Csv.rows (format config) octets :=
    hrows ▸ List.mem_cons_of_mem header hread
  exact ⟨read, htext, Csv.rows_numbered _ _ read hmem⟩

/-- The number of a row of text falls short of the line on which it stands by
the line feeds that were still to be read when it was numbered. -/
theorem Loaded.behind
    (h : Loaded files config octets columns index rows) :
    ∀ row ∈ rows, ∃ read front ends, textRow? read = some row
      ∧ Csv.Behind (format config) (Csv.withoutMark octets) read front ends
      ∧ row.line + ends.count Csv.lineFeed = Csv.lineOf (front ++ ends) := by
  intro row hrow
  obtain ⟨read, htext, hnumbered⟩ := h.numbered row hrow
  obtain ⟨front, ends, hbehind⟩ := hnumbered.behind
  refine ⟨read, front, ends, htext, hbehind, ?_⟩
  obtain ⟨cells, -, rfl⟩ := Option.map_eq_some_iff.mp htext
  exact hbehind.line_add

-- ====================================================== files of text

/-- A row of text as it is read. -/
def TextRow.encoded (row : TextRow) : Csv.Row :=
  ⟨row.line, row.cells.map Utf8.ofText⟩

/-- A row of text that was encoded is read as itself. -/
theorem textRow?_encoded (row : TextRow) :
    textRow? row.encoded = some row := by
  obtain ⟨line, cells⟩ := row
  have htexts : Csv.Row.texts ⟨line, cells.map Utf8.ofText⟩
      = some (cells.map String.toList) := by
    rw [← Csv.texts_encode line, List.map_map]
    rfl
  have hcells : (cells.map String.toList).map String.ofList = cells := by
    rw [List.map_map]
    exact List.map_id'' (fun _ => String.ofList_toList) cells
  unfold textRow? TextRow.encoded
  rw [htexts, Option.map_some, hcells]

/-- A table of text is read as it is. -/
theorem table_eq
    (h : Csv.rows (format config) octets
      = (⟨1, columns⟩ :: rows).map TextRow.encoded) :
    table config octets = .ok (columns, rows) := by
  have hrows : (rows.map TextRow.encoded).filterMap textRow? = rows := by
    rw [List.filterMap_map,
      funext (f := textRow? ∘ TextRow.encoded) textRow?_encoded]
    exact List.filterMap_some
  rw [table, h, List.map_cons]
  dsimp only
  rw [textRow?_encoded, hrows]

/-- A file of a text. -/
def fileOf (text : String) : FileTree := ⟨[(["f"], .file (Utf8.ofText text))]⟩

/-- The file of that name is the one to read. -/
def fileConfig : CsvConfig := { path := "f" }

/-- A file whose shorter row has no cell for the line number. -/
theorem loaded_towns :
    Loaded (fileOf "town,csv_line_number\nYork\nUlm,7\n") fileConfig
      (Utf8.ofText "town,csv_line_number\nYork\nUlm,7\n")
      ["town", "csv_line_number"] 0
      [⟨2, ["York"]⟩, ⟨3, ["Ulm", "7"]⟩] where
  read := FileTree.read_f _
  table := table_eq (by decide +kernel)
  column := rfl

/-- A file whose columns hide both fields of the place. -/
theorem loaded_hiding :
    Loaded (fileOf "csv_line_number,file_path\nten,elsewhere\n") fileConfig
      (Utf8.ofText "csv_line_number,file_path\nten,elsewhere\n")
      ["csv_line_number", "file_path"] 0
      [⟨2, ["ten", "elsewhere"]⟩] where
  read := FileTree.read_f _
  table := table_eq (by decide +kernel)
  column := rfl

-- ====================================================== fields

/-- The last cell of a row in a column of a name. -/
def lastCell? (columns : List String) (row : TextRow) (name : String) :
    Option String :=
  ((columns.zip row.cells).reverse.find? (·.1 == name)).map Prod.snd

/-- The field that a row has from its columns. -/
def cellField? (columns : List String) (row : TextRow) (name : String) :
    Option Field :=
  if isField name then
    (lastCell? columns row name).map fun cell =>
      Field.ofEntry (name, .text cell)
  else none

/-- The field that a row has from its place. -/
def placeField? (config : CsvConfig) (row : TextRow) (name : String) :
    Option Field :=
  if name = pathField then some (Field.ofEntry (pathField, .text config.path))
  else if name = lineField then
    some (Field.ofEntry (lineField, .long (Int64.ofNat row.line)))
  else none

/-- Among the columns that become fields a name is found if it can be a
field. -/
theorem find?_isField (cells : List (String × String)) (name : String) :
    (cells.filter fun entry => isField entry.1).find? (·.1 == name)
      = if isField name then cells.find? (·.1 == name) else none := by
  rw [List.find?_filter]
  by_cases hfield : isField name = true
  · rw [if_pos hfield]
    congr 1
    funext entry
    by_cases hname : entry.1 = name
    · simp [hname, hfield]
    · simp [hname]
  · rw [if_neg hfield, List.find?_eq_none]
    intro entry _ hentry
    obtain ⟨hown, hname⟩ := of_decide_eq_true hentry
    exact hfield (beq_iff_eq.mp hname ▸ hown)

/-- The last of the columns that become fields. -/
theorem find?_columns (columns : List String) (row : TextRow) (name : String) :
    ((((columns.zip row.cells).filter fun entry => isField entry.1).map
        fun entry => (entry.1, Value.text entry.2)).reverse.find?
          (·.1 == name)).map Field.ofEntry
      = cellField? columns row name := by
  unfold cellField? lastCell?
  rw [← List.map_reverse, ← List.filter_reverse, List.find?_map]
  show ((((columns.zip row.cells).reverse.filter fun entry =>
    isField entry.1).find? (·.1 == name)).map _).map _ = _
  rw [find?_isField]
  by_cases hfield : isField name = true
  · rw [if_pos hfield, if_pos hfield]
    cases hfind : (columns.zip row.cells).reverse.find? (·.1 == name) with
    | none => rfl
    | some entry =>
        have hname := List.find?_some hfind
        rw [beq_iff_eq] at hname
        subst hname
        rfl
  · rw [if_neg hfield, if_neg hfield]
    rfl

/-- The path and the line number are the first two entries. -/
theorem find?_place (config : CsvConfig) (row : TextRow) (name : String) :
    ((if (lineField == name) = true then
        some (lineField, Value.long (Int64.ofNat row.line))
      else none).or
      (if (pathField == name) = true then
        some (pathField, Value.text config.path)
      else none)).map Field.ofEntry
      = placeField? config row name := by
  unfold placeField?
  by_cases hpath : name = pathField
  · subst hpath
    rfl
  · rw [if_neg hpath, beq_eq_false_iff_ne.mpr (Ne.symm hpath)]
    by_cases hline : name = lineField
    · subst hline
      rfl
    · rw [if_neg hline, beq_eq_false_iff_ne.mpr (Ne.symm hline)]
      rfl

/-- A cell stands before the place of its row. -/
theorem find?_written (config : CsvConfig) (columns : List String)
    (index : Nat) (row : TextRow) (name : String) :
    (written config columns index row).fields.find? name
      = (cellField? columns row name).or (placeField? config row name) := by
  show (FieldStore.empty.putAll (fieldsOf config columns row)).find? name = _
  rw [FieldStore.find?_putAll, fieldsOf, List.reverse_cons, List.reverse_cons,
    List.find?_append, List.find?_append, List.find?_singleton,
    List.find?_singleton, Option.or_assoc, Option.map_or, find?_columns,
    find?_place]
  exact Option.or_none

-- ====================================================== the place of a row

/-- A record has the fields of its row's place, under all other names those of
its columns, and no field besides them. -/
structure Sourced (config : CsvConfig) (columns : List String) (row : TextRow)
    (fields : FieldStore) : Prop where
  distinct : fields.Distinct
  found : ∀ name,
    fields.find? name
      = (placeField? config row name).or (cellField? columns row name)

/-- No column hides the place of a row. -/
structure Unhidden (config : CsvConfig) (columns : List String)
    (row : TextRow) : Prop where
  path : ∀ cell, lastCell? columns row pathField = some cell
    → cell = config.path
  line : lastCell? columns row lineField = none

/-- No two fields of the record have the same name. -/
theorem distinct_written (config : CsvConfig) (columns : List String)
    (index : Nat) (row : TextRow) :
    (written config columns index row).fields.Distinct :=
  FieldStore.distinct_putAll (s := FieldStore.empty) List.nodup_nil _

/-- Under any name but the two of the place the columns have their way in any
case. -/
theorem cell_or_place_comm_iff (config : CsvConfig) (columns : List String)
    (row : TextRow) :
    (∀ name, (cellField? columns row name).or (placeField? config row name)
        = (placeField? config row name).or (cellField? columns row name))
      ↔ Unhidden config columns row := by
  have hpath : placeField? config row pathField
      = some (Field.ofEntry (pathField, .text config.path)) := rfl
  have hline : placeField? config row lineField
      = some (Field.ofEntry (lineField, .long (Int64.ofNat row.line))) := rfl
  have hcell (name : String) (hname : isField name = true) :
      cellField? columns row name
        = (lastCell? columns row name).map fun cell =>
            Field.ofEntry (name, .text cell) :=
    if_pos hname
  constructor
  · intro h
    constructor
    · intro cell hlast
      have hsame := h pathField
      rw [hpath, hcell pathField (by decide), hlast] at hsame
      cases hsame
      rfl
    · have hsame := h lineField
      rw [hline, hcell lineField (by decide)] at hsame
      cases hlast : lastCell? columns row lineField with
      | none => rfl
      | some cell =>
          rw [hlast] at hsame
          cases hsame
  · intro h name
    by_cases hnamePath : name = pathField
    · subst hnamePath
      rw [hpath, hcell pathField (by decide)]
      cases hlast : lastCell? columns row pathField with
      | none => rfl
      | some cell =>
          rw [h.path cell hlast]
          rfl
    by_cases hnameLine : name = lineField
    · subst hnameLine
      rw [hline, hcell lineField (by decide), h.line]
      rfl
    · rw [placeField?, if_neg hnamePath, if_neg hnameLine]
      exact Option.or_none

/-- The record tells the place of its row unless a column hides it. -/
theorem sourced_written_iff (config : CsvConfig) (columns : List String)
    (index : Nat) (row : TextRow) :
    Sourced config columns row (written config columns index row).fields
      ↔ Unhidden config columns row := by
  rw [← cell_or_place_comm_iff]
  constructor
  · intro h name
    rw [← h.found name, find?_written]
  · intro h
    refine ⟨distinct_written config columns index row, fun name => ?_⟩
    rw [find?_written, h name]

/-- A file is loaded in one way. -/
theorem Loaded.unique {octets' : List UInt8} {columns' : List String}
    {index' : Nat} {rows' : List TextRow}
    (h : Loaded files config octets columns index rows)
    (h' : Loaded files config octets' columns' index' rows') :
    octets = octets' ∧ columns = columns' ∧ index = index' ∧ rows = rows' := by
  obtain rfl := Except.ok.inj (h.read.symm.trans h'.read)
  obtain ⟨rfl, rfl⟩ :=
    Prod.mk.inj (Except.ok.inj (h.table.symm.trans h'.table))
  obtain rfl := Except.ok.inj (h.column.symm.trans h'.column)
  exact ⟨rfl, rfl, rfl, rfl⟩

/-- Every row has one record. Its fields are the last cells of the columns that
become fields, and those of its place where there is no such cell; so it tells
its place and has its cells under all other names if and only if no column
hides the place. The line number is the one on which the reader began to read
the row. -/
theorem records_sourced_iff (h : records files config = .ok rs) :
    ∃ octets columns index rows, Loaded files config octets columns index rows
      ∧ List.Forall₂ (fun row r => r.fields.Distinct
          ∧ (∀ name, r.fields.find? name
              = (cellField? columns row name).or (placeField? config row name))
          ∧ (Sourced config columns row r.fields
              ↔ Unhidden config columns row)) rows rs
      ∧ ∀ row ∈ rows, ∃ read, textRow? read = some row
          ∧ Csv.Numbered (format config) (Csv.withoutMark octets) read := by
  obtain ⟨octets, columns, index, rows, hloaded, rfl⟩ := records_eq_ok.mp h
  refine ⟨octets, columns, index, rows, hloaded, ?_, hloaded.numbered⟩
  rw [List.forall₂_map_right_iff, List.forall₂_same]
  intro row _
  exact ⟨distinct_written config columns index row,
    find?_written config columns index row,
    sourced_written_iff config columns index row⟩

/-- The shorter of two rows has no cell that hides its line number, the longer
one has. -/
theorem records_sourced_iff_towns :
    ∃ york ulm, records (fileOf "town,csv_line_number\nYork\nUlm,7\n")
      fileConfig = .ok [york, ulm]
      ∧ Sourced fileConfig ["town", "csv_line_number"]
          ⟨2, ["York"]⟩ york.fields
      ∧ ¬Sourced fileConfig ["town", "csv_line_number"]
          ⟨3, ["Ulm", "7"]⟩ ulm.fields := by
  refine ⟨_, _, loaded_towns.records_eq, ?_⟩
  obtain ⟨octets, columns, index, rows, hloaded, hrecords, -⟩ :=
    records_sourced_iff loaded_towns.records_eq
  obtain ⟨rfl, rfl, rfl, rfl⟩ := loaded_towns.unique hloaded
  obtain ⟨⟨-, -, hyork⟩, hrecords⟩ := List.forall₂_cons.mp hrecords
  obtain ⟨⟨-, -, hulm⟩, -⟩ := List.forall₂_cons.mp hrecords
  refine ⟨hyork.mpr ⟨nofun, rfl⟩, fun h => ?_⟩
  have hline :
      lastCell? ["town", "csv_line_number"] ⟨3, ["Ulm", "7"]⟩ lineField
        = some "7" := rfl
  rw [(hulm.mp h).line] at hline
  cases hline

/-- Not every record tells where its row comes from: columns named like the two
fields of the place hide it. -/
theorem not_records_sourced :
    ¬∀ (files : FileTree) (config : CsvConfig) (rs : List Record),
      records files config = .ok rs →
      ∃ octets columns index rows,
        Loaded files config octets columns index rows
        ∧ List.Forall₂ (fun row r => Sourced config columns row r.fields)
            rows rs := by
  intro h
  obtain ⟨octets, columns, index, rows, hloaded, hrecords⟩ :=
    h _ _ _ loaded_hiding.records_eq
  obtain ⟨rfl, rfl, rfl, rfl⟩ := loaded_hiding.unique hloaded
  have hsourced := (List.forall₂_cons.mp hrecords).1
  have hline :
      lastCell? ["csv_line_number", "file_path"]
        ⟨2, ["ten", "elsewhere"]⟩ lineField
        = some "ten" := rfl
  rw [((sourced_written_iff _ _ _ _).mp hsourced).line] at hline
  cases hline

end Intake.CsvSource
