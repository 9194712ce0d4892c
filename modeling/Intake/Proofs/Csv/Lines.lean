/-
Rows that are written a line each.

Cells of plain octets with delimiters between them are read as the row of these
cells, up to the end of their line or of the text (`rowsFrom_row`). A line that
begins with the mark of comments is passed over to its line feed, whatever else
it holds, and so is an empty one. In each case the reader stands at the start
of a row again, behind the line end, with nothing read; only the line numbers
that it has counted differ.
-/
import Intake.Csv.Reader
import Intake.Proofs.Text.Boundary

namespace Intake.Csv

variable {f : Format} {p : Progress} {b : UInt8} {line start : Nat}
  {cell text octets rest : List UInt8}

-- ====================================================== plain octets

/-- An octet that stands for itself in a cell that is not quoted. -/
structure Plain (f : Format) (b : UInt8) : Prop where
  delimiter : b ≠ f.delimiter
  quote : b ≠ quote
  lineEnd : isLineEnd b = false

/-- Plain octets end no line. -/
theorem Plain.ne_lineFeed (h : Plain f b) : b ≠ lineFeed := by
  rintro rfl
  exact absurd h.lineEnd (by decide)

/-- Within a cell a plain octet is taken. -/
theorem Plain.plain_eq (h : Plain f b) (p : Progress) :
    Step.plain f p b = .goes .inCell (p.add b) := by
  rw [Step.plain, if_neg h.delimiter, h.lineEnd, if_neg Bool.false_ne_true]

/-- At the start of a cell a plain octet is taken too. -/
theorem Plain.first_eq (h : Plain f b) (p : Progress) :
    Step.first f p b = .goes .inCell (p.add b) := by
  rw [Step.first, if_neg h.quote, h.plain_eq]

/-- An octet that is no line feed and ends no row. -/
theorem rowsFrom_goes {s s' : State} {p' : Progress}
    (h : step f p b s = .goes s' p') (hb : b ≠ lineFeed) :
    rowsFrom f s line p (b :: rest) = rowsFrom f s' line p' rest := by
  rw [rowsFrom, if_neg hb, h]
  rfl

-- ====================================================== cells

/-- Adds octets to the current cell. -/
def Progress.addAll (p : Progress) (cell : List UInt8) : Progress :=
  { p with cell := cell.reverse ++ p.cell }

/-- A plain cell is read to its end, wherever reading stands in it. -/
theorem rowsFrom_inCell (h : ∀ b ∈ cell, Plain f b) :
    rowsFrom f .inCell line p (cell ++ rest)
      = rowsFrom f .inCell line (p.addAll cell) rest := by
  induction cell generalizing p with
  | nil => rfl
  | cons b cell ih =>
      obtain ⟨hb, hcell⟩ := List.forall_mem_cons.mp h
      have hstep : step f p b .inCell = .goes .inCell (p.add b) :=
        hb.plain_eq p
      rw [List.cons_append, rowsFrom_goes hstep hb.ne_lineFeed, ih hcell]
      unfold Progress.addAll Progress.add
      rw [List.reverse_cons, List.append_assoc, List.singleton_append]

/-- A cell that can be written without quotes. -/
structure PlainCell (f : Format) (cell : List UInt8) : Prop where
  filled : cell ≠ []
  plain : ∀ b ∈ cell, Plain f b

/-- A plain cell is read from its first octet on, wherever this leads into a
cell. -/
theorem PlainCell.rowsFrom_eq (h : PlainCell f cell) {s : State}
    (hs : ∀ b, cell.head? = some b → step f p b s = Step.first f p b) :
    rowsFrom f s line p (cell ++ rest)
      = rowsFrom f .inCell line (p.addAll cell) rest := by
  obtain ⟨b, cell, rfl⟩ := List.exists_cons_of_ne_nil h.filled
  obtain ⟨hb, hcell⟩ := List.forall_mem_cons.mp h.plain
  rw [List.cons_append,
    rowsFrom_goes ((hs b rfl).trans (hb.first_eq p)) hb.ne_lineFeed,
    rowsFrom_inCell hcell]
  unfold Progress.addAll Progress.add
  rw [List.reverse_cons, List.append_assoc, List.singleton_append]

/-- Further cells of a row, each behind a delimiter. -/
theorem rowsFrom_cells (hf : isLineEnd f.delimiter = false)
    (cells : List (List UInt8)) (h : ∀ cell ∈ cells, PlainCell f cell)
    (line : Nat) (rest : List UInt8) (p : Progress) :
    ∃ p', p'.row = ⟨p.start, p.row.cells ++ cells⟩
      ∧ rowsFrom f .inCell line p (cells.flatMap (f.delimiter :: ·) ++ rest)
        = rowsFrom f .inCell line p' rest := by
  induction cells generalizing p with
  | nil => exact ⟨p, by rw [List.append_nil]; rfl, rfl⟩
  | cons cell cells ih =>
      obtain ⟨hcell, hcells⟩ := List.forall_mem_cons.mp h
      obtain ⟨p', hrow, hread⟩ := ih hcells (p.closeCell.addAll cell)
      refine ⟨p', ?_, ?_⟩
      · rw [hrow]
        simp [Progress.row, Progress.closeCell, Progress.addAll]
      · have hdelimiter : step f p f.delimiter .inCell
          = .goes .cellStart p.closeCell := if_pos rfl
        have hne : f.delimiter ≠ lineFeed := by
          intro hfeed
          rw [hfeed] at hf
          exact absurd hf (by decide)
        rw [List.flatMap_cons, List.append_assoc, List.cons_append,
          rowsFrom_goes hdelimiter hne, hcell.rowsFrom_eq fun _ _ => rfl]
        exact hread

-- ====================================================== line ends

/-- Octets that begin with the end of a line, or are the end of a text, and
what is behind that. -/
inductive LineBreak : List UInt8 → List UInt8 → Prop where
  | feed (rest : List UInt8) : LineBreak (lineFeed :: rest) rest
  | returnFeed (rest : List UInt8) :
      LineBreak (carriageReturn :: lineFeed :: rest) rest
  | ended : LineBreak [] []

namespace LineBreak

variable (h : LineBreak octets rest)

include h

/-- At the end of its line a row ends. -/
theorem rowsFrom_inCell (hf : isLineEnd f.delimiter = false) (line : Nat)
    (p : Progress) :
    ∃ line' start', rowsFrom f .inCell line p octets
      = p.row :: rowsFrom f .rowStart line' ⟨start', [], []⟩ rest := by
  have hend {b : UInt8} (hb : isLineEnd b = true) :
      step f p b .inCell = .ends b p := by
    have hne : b ≠ f.delimiter := by
      rintro rfl
      rw [hf] at hb
      cases hb
    show Step.plain f p b = _
    rw [Step.plain, if_neg hne, hb, if_pos rfl]
  cases h with
  | feed rest =>
      refine ⟨line + 1, line + 1, ?_⟩
      rw [rowsFrom, hend (by decide)]
      rfl
  | returnFeed rest =>
      refine ⟨line + 1, line, ?_⟩
      rw [rowsFrom, hend (by decide)]
      rfl
  | ended => exact ⟨line, line, rfl⟩

/-- A line end at the start of a row is passed over. -/
theorem rowsFrom_rowStart (line : Nat) (p : Progress) :
    ∃ line', rowsFrom f .rowStart line p octets
      = rowsFrom f .rowStart line' p rest := by
  cases h with
  | feed rest => exact ⟨line + 1, rfl⟩
  | returnFeed rest => exact ⟨line + 1, rfl⟩
  | ended => exact ⟨line, rfl⟩

/-- A line end ends a comment. -/
theorem rowsFrom_inComment (line : Nat) (p : Progress) :
    ∃ line', rowsFrom f .inComment line p octets
      = rowsFrom f .rowStart line' p rest := by
  cases h with
  | feed rest => exact ⟨line + 1, rfl⟩
  | returnFeed rest => exact ⟨line + 1, rfl⟩
  | ended => exact ⟨line, rfl⟩

end LineBreak

-- ====================================================== lines

/-- A line of cells is read as the row of these cells. -/
theorem rowsFrom_row (hf : isLineEnd f.delimiter = false)
    (hcell : PlainCell f cell) (hcomment : cell.head? ≠ f.comment)
    {cells : List (List UInt8)} (hcells : ∀ cell ∈ cells, PlainCell f cell)
    (hbreak : LineBreak octets rest) (line start : Nat) :
    ∃ line' start', rowsFrom f .rowStart line ⟨start, [], []⟩
        (cell ++ (cells.flatMap (f.delimiter :: ·) ++ octets))
      = ⟨start, cell :: cells⟩ :: rowsFrom f .rowStart line'
          ⟨start', [], []⟩ rest := by
  have hopening (b : UInt8) (hb : cell.head? = some b) :
      step f ⟨start, [], []⟩ b .rowStart = Step.first f ⟨start, [], []⟩ b := by
    have hplain : Plain f b := hcell.plain b (List.mem_of_head? hb)
    show Step.opening f _ b = _
    rw [Step.opening, hplain.lineEnd, if_neg Bool.false_ne_true,
      if_neg fun h => hcomment (hb.trans h.symm)]
  obtain ⟨p, hrow, hread⟩ := rowsFrom_cells hf cells hcells line octets
    (Progress.addAll ⟨start, [], []⟩ cell)
  obtain ⟨line', start', hend⟩ := hbreak.rowsFrom_inCell hf line p
  refine ⟨line', start', ?_⟩
  rw [hcell.rowsFrom_eq hopening, hread, hend, hrow]
  simp [Progress.row, Progress.closeCell, Progress.addAll]

/-- A comment goes to its line feed. -/
theorem rowsFrom_comment {mark : UInt8} (hf : f.comment = some mark)
    (hmark : isLineEnd mark = false) (htext : lineFeed ∉ text)
    (hbreak : LineBreak octets rest) (line : Nat) (p : Progress) :
    ∃ line', rowsFrom f .rowStart line p (mark :: text ++ octets)
      = rowsFrom f .rowStart line' p rest := by
  have hopening : step f p mark .rowStart = .goes .inComment p := by
    show Step.opening f p mark = _
    rw [Step.opening, hmark, if_neg Bool.false_ne_true, if_pos hf]
  have hne : mark ≠ lineFeed := by
    rintro rfl
    exact absurd hmark (by decide)
  have hpassed : rowsFrom f .inComment line p (text ++ octets)
      = rowsFrom f .inComment line p octets := by
    induction text with
    | nil => rfl
    | cons b text ih =>
        rw [List.mem_cons, not_or] at htext
        have hb : step f p b .inComment = .goes .inComment p := by
          rw [step, if_neg (Ne.symm htext.1)]
        rw [List.cons_append, rowsFrom_goes hb (Ne.symm htext.1), ih htext.2]
  rw [List.cons_append, rowsFrom_goes hopening hne, hpassed]
  exact hbreak.rowsFrom_inComment line p

-- ====================================================== text

/-- A text that can be written without quotes. -/
structure PlainText (f : Format) (cs : List Char) : Prop where
  filled : cs ≠ []
  delimiter : Char.ofNat f.delimiter.toNat ∉ cs
  quote : '"' ∉ cs
  lineFeed : '\n' ∉ cs
  carriageReturn : '\r' ∉ cs

/-- The octets that a cell may not have are characters by themselves. -/
theorem PlainText.plainCell {cs : List Char} (h : PlainText f cs)
    (hf : f.delimiter.toNat < 0x80) : PlainCell f (Utf8.encode cs) where
  filled hnil := by
    obtain ⟨lead, others, hencode, -⟩ := Utf8.encode_eq_cons h.filled
    rw [hnil] at hencode
    cases hencode
  plain b hb := by
    refine ⟨?_, ?_, ?_⟩
    · rintro rfl
      exact h.delimiter (Utf8.mem_of_mem_encode hb hf)
    · rintro rfl
      exact h.quote (Utf8.mem_of_mem_encode hb (by decide))
    · rw [isLineEnd, Bool.or_eq_false_iff, beq_eq_false_iff_ne,
        beq_eq_false_iff_ne]
      constructor
      · rintro rfl
        exact h.lineFeed (Utf8.mem_of_mem_encode hb (by decide))
      · rintro rfl
        exact h.carriageReturn (Utf8.mem_of_mem_encode hb (by decide))

/-- Text that does not begin with a byte order mark is read from its first
octet on. -/
theorem withoutMark_encode {cs : List Char} (h : cs.head? ≠ some '\uFEFF') :
    withoutMark (Utf8.encode cs) = Utf8.encode cs := by
  unfold withoutMark
  split
  · next rest hmark =>
      have hword : Utf8.encode cs = Utf8.encode ['\uFEFF'] ++ rest := hmark
      obtain ⟨after, rfl, -⟩ := Utf8.encode_eq_append_right hword
      exact absurd rfl h
  · rfl

/-- The octets of cells are read as these cells. -/
theorem texts_encode (line : Nat) (cells : List (List Char)) :
    Row.texts ⟨line, cells.map Utf8.encode⟩ = some cells := by
  show (cells.map Utf8.encode).mapM Utf8.decode = some cells
  induction cells with
  | nil => rfl
  | cons cs cells ih =>
      rw [List.map_cons, List.mapM_cons, Utf8.decode_encode, ih]
      rfl

end Intake.Csv
