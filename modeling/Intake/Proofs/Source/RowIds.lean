/-
The ids of the records of rows.

An id is a digest of the path and either the cell of the id column or the
number of the row's line, both written in the same way. So besides cells that
are equal there are two ways in which rows come by the same id: a cell that
reads like the line number of a row without one, and two rows without a cell on
the same line (`ids_nodup_iff`). The second needs a carriage return in the
file.
-/
import Intake.Proofs.Source.RowFields

namespace Intake

-- ====================================================== digests

/-- Octets can be read off their digits. -/
theorem Hex.encode_inj : ∀ {a b : List UInt8}, encode a = encode b → a = b
  | [], [], _ => rfl
  | [], _ :: _, h => nomatch h
  | _ :: _, [], h => nomatch h
  | a :: as, b :: bs, h => by
      obtain ⟨hhigh, h⟩ := List.cons.inj h
      obtain ⟨hlow, h⟩ := List.cons.inj h
      have hdigit : ∀ m < 16, ∀ n < 16, Nat.digitChar m = Nat.digitChar n
        → m = n := by decide
      have ha := a.toNat_lt
      have hb := b.toNat_lt
      have hdiv := hdigit _ (by omega) _ (by omega) hhigh
      have hmod := hdigit _ (by omega) _ (by omega) hlow
      have hab : a = b := UInt8.toNat_inj.mp (by omega)
      rw [hab, encode_inj h]

/-- Equal ids come of equal digests. -/
theorem digest_eq_of_recordId_eq {lead a b : String}
    (h : recordId lead a = recordId lead b) :
    Sha256.digest (Utf8.ofText a) = Sha256.digest (Utf8.ofText b) :=
  Hex.encode_inj (String.ofList_inj.mp ((String.append_right_inj lead).mp h))

/-- No two of the texts have the same digest. -/
def CollisionFree (texts : List String) : Prop :=
  ∀ a ∈ texts, ∀ b ∈ texts,
    Sha256.digest (Utf8.ofText a) = Sha256.digest (Utf8.ofText b) → a = b

/-- Where digests do not collide, ids differ as the texts do. -/
theorem CollisionFree.nodup_recordId_iff {texts : List String}
    (h : CollisionFree texts) (lead : String) :
    (texts.map (recordId lead)).Nodup ↔ texts.Nodup := by
  constructor
  · exact List.Nodup.of_map (recordId lead)
  · intro hnodup
    refine hnodup.map_on fun a ha b hb hab => ?_
    exact h a ha b hb (digest_eq_of_recordId_eq hab)

namespace CsvSource

variable {files : FileTree} {config : CsvConfig} {octets : List UInt8}
  {columns : List String} {index : Nat} {rows : List TextRow}
  {rs : List Record}

-- ====================================================== what identifies rows

/-- The cell that identifies a row, if it has one that is not empty. -/
def idCell? (index : Nat) (row : TextRow) : Option String :=
  row.cells[index]?.filter fun cell => !cell.isEmpty

/-- The cells that identify rows, of those rows that have one. -/
def idCells (index : Nat) (rows : List TextRow) : List String :=
  rows.filterMap (idCell? index)

/-- The rows that their line numbers stand for. -/
def unidentified (index : Nat) (rows : List TextRow) : List TextRow :=
  rows.filter fun row => (idCell? index row).isNone

/-- Without such a cell the line number stands in for it. -/
theorem idValue_eq (index : Nat) (row : TextRow) :
    idValue index row = (idCell? index row).getD (toString row.line) := by
  unfold idValue idCell?
  cases row.cells[index]? with
  | none => rfl
  | some cell =>
      rw [Option.filter_some]
      show (if cell.isEmpty = true then _ else cell) = _
      cases cell.isEmpty with
      | true => rfl
      | false => rfl

/-- Rows are identified by their cells and by the numbers of the other rows. -/
theorem map_idValue_perm (index : Nat) (rows : List TextRow) :
    (rows.map (idValue index)).Perm
      (idCells index rows ++ (unidentified index rows).map fun row =>
        toString row.line) := by
  induction rows with
  | nil => exact .refl []
  | cons row rows ih =>
      unfold idCells unidentified
      rw [List.map_cons, idValue_eq, List.filterMap_cons]
      cases hcell : idCell? index row with
      | none =>
          rw [List.filter_cons_of_pos (by rw [hcell]; rfl), List.map_cons]
          exact (ih.cons _).trans List.perm_middle.symm
      | some cell =>
          rw [List.filter_cons_of_neg
            (by rw [hcell]; exact Bool.false_ne_true)]
          exact ih.cons cell

/-- No line number reads like a cell or belongs to two rows. -/
structure Apart (index : Nat) (rows : List TextRow) : Prop where
  cells : ∀ row ∈ unidentified index rows,
    toString row.line ∉ idCells index rows
  lines : ((unidentified index rows).map TextRow.line).Nodup

/-- Numbers are read back from what they are written as. -/
theorem repr_inj {m n : Nat} (h : m.repr = n.repr) : m = n := by
  have hdigits : Nat.toDigits 10 m = Nat.toDigits 10 n :=
    String.ofList_inj.mp h
  rw [← Nat.ofDigitChars_ten_toDigits (n := m), hdigits,
    Nat.ofDigitChars_ten_toDigits]

/-- Where cells differ, rows are told apart unless a line number is
mistaken. -/
theorem nodup_idValue_iff (h : (idCells index rows).Nodup) :
    (rows.map (idValue index)).Nodup ↔ Apart index rows := by
  have hnumbers :
      ((unidentified index rows).map fun row => toString row.line).Nodup
        ↔ ((unidentified index rows).map TextRow.line).Nodup := by
    rw [show ((unidentified index rows).map fun row => toString row.line)
        = ((unidentified index rows).map TextRow.line).map Nat.repr by
            rw [List.map_map]; rfl]
    exact List.nodup_map_iff fun _ _ => repr_inj
  rw [(map_idValue_perm index rows).nodup_iff, List.nodup_append, hnumbers]
  constructor
  · rintro ⟨-, hlines, hne⟩
    refine ⟨fun row hrow hmem => ?_, hlines⟩
    exact hne _ hmem _ (List.mem_map_of_mem hrow) rfl
  · intro hapart
    refine ⟨h, hapart.lines, fun cell hcell number hnumber hsame => ?_⟩
    obtain ⟨row, hrow, rfl⟩ := List.mem_map.mp hnumber
    exact hapart.cells row hrow (hsame ▸ hcell)

-- ====================================================== ids

/-- The ids of the records are made of the locators of the rows. -/
theorem map_id_written (config : CsvConfig) (columns : List String)
    (index : Nat) (rows : List TextRow) :
    (rows.map (written config columns index)).map Record.id
      = (rows.map (locator config index)).map (recordId config.idPrefix) := by
  rw [List.map_map, List.map_map]
  rfl

/-- The path is the same for all rows and does not tell them apart. -/
theorem nodup_locator_iff (config : CsvConfig) (index : Nat)
    (rows : List TextRow) :
    (rows.map (locator config index)).Nodup
      ↔ (rows.map (idValue index)).Nodup := by
  rw [show rows.map (locator config index)
      = (rows.map (idValue index)).map (config.path ++ ":" ++ ·) by
          rw [List.map_map]; rfl]
  exact List.nodup_map_iff fun _ _ => (String.append_right_inj _).mp

/-- Where no carriage return ends rows each has a line number of its own. -/
theorem Loaded.nodup_lines (h : Loaded files config octets columns index rows)
    (hreturn : Csv.carriageReturn ∉ octets) :
    (rows.map TextRow.line).Nodup := by
  obtain ⟨header, others, hrows, rfl⟩ := h.rows_eq
  have hincreasing := Csv.rows_increasing (format config) hreturn
  rw [hrows, List.pairwise_cons] at hincreasing
  refine List.pairwise_map.mpr (List.pairwise_filterMap.mpr ?_)
  refine hincreasing.2.imp fun hlt row hrow row' hrow' => ?_
  -- a row keeps its number as a row of text
  obtain ⟨_, -, rfl⟩ := Option.map_eq_some_iff.mp hrow
  obtain ⟨_, -, rfl⟩ := Option.map_eq_some_iff.mp hrow'
  exact Nat.ne_of_lt hlt

/-- A file in which one row has no id cell, and no cell reads like its
number. -/
theorem loaded_parts :
    Loaded (fileOf "part,colour\nbolt,red\n,blue\n") fileConfig
      (Utf8.ofText "part,colour\nbolt,red\n,blue\n") ["part", "colour"] 0
      [⟨2, ["bolt", "red"]⟩, ⟨3, ["", "blue"]⟩] where
  read := FileTree.read_f _
  table := table_eq (by decide +kernel)
  column := rfl

/-- A file in which the id cell of one row reads like the number of the
other. -/
theorem loaded_numbers :
    Loaded (fileOf "part,colour\n3,red\n,blue\n") fileConfig
      (Utf8.ofText "part,colour\n3,red\n,blue\n") ["part", "colour"] 0
      [⟨2, ["3", "red"]⟩, ⟨3, ["", "blue"]⟩] where
  read := FileTree.read_f _
  table := table_eq (by decide +kernel)
  column := rfl

/-- Where the id cells are different and digests do not collide, the ids are
different if and only if no row without a cell has a line number that reads
like a cell, or shares it with another such row; in a file without carriage
returns it shares it with none. -/
theorem ids_nodup_iff (h : records files config = .ok rs) :
    ∃ octets columns index rows, Loaded files config octets columns index rows
      ∧ rs.map Record.id
          = (rows.map (locator config index)).map (recordId config.idPrefix)
      ∧ ((idCells index rows).Nodup
          → CollisionFree (rows.map (locator config index)) →
          ((rs.map Record.id).Nodup ↔ Apart index rows))
      ∧ (Csv.carriageReturn ∉ octets → (rows.map TextRow.line).Nodup) := by
  obtain ⟨octets, columns, index, rows, hloaded, rfl⟩ := records_eq_ok.mp h
  have hids := map_id_written config columns index rows
  refine ⟨octets, columns, index, rows, hloaded, hids, fun hcells hfree => ?_,
    hloaded.nodup_lines⟩
  rw [hids, hfree.nodup_recordId_iff, nodup_locator_iff,
    nodup_idValue_iff hcells]

/-- A part without a name has an id of its own. -/
theorem ids_nodup_iff_parts :
    ∃ rs, records (fileOf "part,colour\nbolt,red\n,blue\n") fileConfig = .ok rs
      ∧ (rs.map Record.id).Nodup := by
  refine ⟨_, loaded_parts.records_eq, ?_⟩
  obtain ⟨octets, columns, index, rows, hloaded, -, hiff, -⟩ :=
    ids_nodup_iff loaded_parts.records_eq
  obtain ⟨rfl, rfl, rfl, rfl⟩ := loaded_parts.unique hloaded
  have hcells : idCells 0 [⟨2, ["bolt", "red"]⟩, ⟨3, ["", "blue"]⟩]
      = ["bolt"] := by decide
  have hothers : unidentified 0 [⟨2, ["bolt", "red"]⟩, ⟨3, ["", "blue"]⟩]
      = [⟨3, ["", "blue"]⟩] := by decide
  have hfree : CollisionFree (["f:bolt", "f:3"]) := by
    unfold CollisionFree
    decide +kernel
  refine (hiff (hcells ▸ List.nodup_singleton _) hfree).mpr ⟨?_, ?_⟩
  · rw [hothers, hcells]
    decide
  · rw [hothers]
    decide

/-- Different cells do not make for different ids: the number of a line may
read like a cell. -/
theorem not_ids_nodup :
    ¬∀ (files : FileTree) (config : CsvConfig) (rs : List Record),
      records files config = .ok rs →
      ∃ octets columns index rows,
        Loaded files config octets columns index rows
        ∧ ((idCells index rows).Nodup
            → CollisionFree (rows.map (locator config index)) →
            (rs.map Record.id).Nodup) := by
  intro h
  obtain ⟨octets, columns, index, rows, hloaded, hids⟩ :=
    h _ _ _ loaded_numbers.records_eq
  obtain ⟨rfl, rfl, rfl, rfl⟩ := loaded_numbers.unique hloaded
  have hsame : CollisionFree ["f:3", "f:3"] := by
    intro a ha b hb _
    rw [List.mem_cons, List.mem_singleton, or_self] at ha hb
    exact ha.trans hb.symm
  have hnodup := hids (by decide) hsame
  rw [map_id_written] at hnodup
  exact absurd (List.Nodup.of_map _ hnodup) (by decide : ¬["f:3", "f:3"].Nodup)

end CsvSource

end Intake
