/-
Dictionaries that are written a line each.

An entry is written as its term and payloads with commas between them. Such a
line is read as the entry alone, and blank lines and comments as nothing
(`entriesOf_line`), so a page of lines has the entries that were written on it,
in their order, a term without payloads standing for itself; several files have
the entries of their pages one after the other.
-/
import Intake.Matching.Dictionary
import Intake.Proofs.Csv.Lines
import Intake.Proofs.Files.Append
import Intake.Proofs.Text.Trim

namespace Intake

/-- The entry as it is read back: a term without payloads stands for itself. -/
def DictionaryEntry.settled (entry : DictionaryEntry) : DictionaryEntry :=
  if entry.payloads = [] then ⟨entry.term, [entry.term]⟩ else entry

namespace Dictionary

-- ====================================================== what is written

/-- A text that a cell can be written as. -/
structure Writable (text : String) : Prop where
  trimmed : Text.Trimmed text.toList
  plain : ∀ c ∈ [',', '"', '\r', '\n', '\uFEFF'], c ∉ text.toList

/-- What a line of a dictionary may hold. -/
inductive Line where
  | entry (entry : DictionaryEntry)
  | blank (spaces : List Char)
  | comment (text : List Char)

/-- How a line may end. -/
inductive LineEnd where
  | feed
  | returnFeed

/-- Lines with their ends, and what is behind the last line end. -/
structure Page where
  lines : List (Line × LineEnd)
  last : Line

/-- The cells of an entry's line. -/
def texts (entry : DictionaryEntry) : List (List Char) :=
  (entry.term :: entry.payloads).map String.toList

namespace Line

/-- The text of a line. -/
def chars : Line → List Char
  | .entry e => e.term.toList ++ e.payloads.flatMap (',' :: ·.toList)
  | .blank spaces => spaces
  | .comment text => '#' :: text

/-- The entry of a line that holds one. -/
def held? : Line → Option DictionaryEntry
  | .entry e => some e
  | _ => none

/-- What the line holds fits on a line of its own. -/
def Proper : Line → Prop
  | .entry e => (∀ text ∈ e.term :: e.payloads, Writable text)
      ∧ e.term.toList.head? ≠ some '#'
  | .blank spaces =>
      ∀ c ∈ spaces, Text.isWhitespace c = true ∧ c ≠ '\r' ∧ c ≠ '\n'
  | .comment text => '\n' ∉ text

end Line

/-- The characters of a line end. -/
def LineEnd.chars : LineEnd → List Char
  | .feed => ['\n']
  | .returnFeed => ['\r', '\n']

namespace Page

/-- The text of a page. -/
def chars (page : Page) : List Char :=
  page.lines.flatMap (fun line => line.1.chars ++ line.2.chars)
    ++ page.last.chars

/-- The octets of a page. -/
def octets (page : Page) : List UInt8 := Utf8.encode page.chars

/-- The entries on a page, in their order. -/
def entries (page : Page) : List DictionaryEntry :=
  page.lines.filterMap (·.1.held?) ++ page.last.held?.toList

/-- What is on the page can be written line by line. -/
def Proper (page : Page) : Prop :=
  (∀ line ∈ page.lines, line.1.Proper) ∧ page.last.Proper

end Page

instance (text : String) : Decidable (Writable text) :=
  decidable_of_iff (Text.Trimmed text.toList
      ∧ [',', '"', '\r', '\n', '\uFEFF'].all
          (fun c => decide (c ∉ text.toList)) = true) (by
    simp only [List.all_eq_true, decide_eq_true_eq]
    exact ⟨fun ⟨trimmed, plain⟩ => ⟨trimmed, plain⟩,
      fun h => ⟨h.trimmed, h.plain⟩⟩)

instance : (l : Line) → Decidable l.Proper
  | .entry _ => instDecidableAnd
  | .blank spaces => List.decidableBAll _ spaces
  | .comment _ => instDecidableNot

instance (page : Page) : Decidable page.Proper := instDecidableAnd

-- ====================================================== cells

variable {entry : DictionaryEntry} {text : String}

/-- A writable text is the plain text of a cell. -/
theorem Writable.plainText (h : Writable text) :
    Csv.PlainText format text.toList where
  filled := h.trimmed.filled
  delimiter := h.plain ',' (by simp)
  quote := h.plain '"' (by simp)
  lineFeed := h.plain '\n' (by simp)
  carriageReturn := h.plain '\r' (by simp)

/-- No cell of an entry is cut or left out. -/
theorem filledCells_texts
    (h : ∀ text ∈ entry.term :: entry.payloads, Writable text) :
    filledCells (texts entry) = entry.term :: entry.payloads := by
  unfold filledCells texts
  generalize entry.term :: entry.payloads = all at h ⊢
  induction all with
  | nil => rfl
  | cons text all ih =>
      obtain ⟨htext, hall⟩ := List.forall_mem_cons.mp h
      have hfilled : text.toList.isEmpty = false := by
        simpa using htext.trimmed.filled
      rw [List.map_cons, List.map_cons, htext.trimmed.trim_eq,
        List.filter_cons_of_pos (by rw [hfilled]; rfl), List.map_cons, ih hall,
        String.ofList_toList]

/-- The cells of an entry are read as the entry. -/
theorem entryOf_texts
    (h : ∀ text ∈ entry.term :: entry.payloads, Writable text) :
    entryOf (texts entry) = some entry.settled := by
  obtain ⟨term, payloads⟩ := entry
  unfold entryOf DictionaryEntry.settled
  rw [filledCells_texts h]
  cases payloads with
  | nil => rfl
  | cons payload payloads => rfl

/-- A blank line holds no entry. -/
theorem entryOf_blank {spaces : List Char} (h : Text.isBlank spaces = true) :
    entryOf [spaces] = none := by
  unfold entryOf filledCells
  rw [List.map_singleton, Text.trim_eq_nil h]
  rfl

-- ====================================================== lines

/-- The entries of rows, if all of them are text. -/
def entriesOf (rows : List Csv.Row) : Option (List DictionaryEntry) :=
  (rows.mapM Csv.Row.texts).map fun rows => rows.filterMap entryOf

/-- The entry of the first row comes first, if the row has one. -/
theorem entriesOf_cons {row : Csv.Row} {cells : List (List Char)}
    (h : row.texts = some cells) (rows : List Csv.Row) :
    entriesOf (row :: rows)
      = (entriesOf rows).map ((entryOf cells).toList ++ ·) := by
  unfold entriesOf
  rw [List.mapM_cons, h]
  cases rows.mapM Csv.Row.texts with
  | none => rfl
  | some others =>
      show some ((cells :: others).filterMap entryOf)
        = some (_ ++ others.filterMap entryOf)
      rw [List.filterMap_cons]
      cases entryOf cells with
      | none => rfl
      | some entry => rfl

variable {octets rest : List UInt8}

/-- Reads the rest of a dictionary from the start of a line on. -/
def fromLine (line start : Nat) (octets : List UInt8) :
    Option (List DictionaryEntry) :=
  entriesOf (Csv.rowsFrom format .rowStart line ⟨start, [], []⟩ octets)

/-- A line of cells is read as the entry that the cells make up. -/
theorem fromLine_cells {cell : List Char} {cells : List (List Char)}
    (hcell : Csv.PlainText format cell) (hcomment : cell.head? ≠ some '#')
    (hcells : ∀ cell ∈ cells, Csv.PlainText format cell)
    (hbreak : Csv.LineBreak octets rest) (line start : Nat) :
    ∃ line' start', fromLine line start
        (Utf8.encode (cell ++ cells.flatMap (',' :: ·)) ++ octets)
      = (fromLine line' start' rest).map
          ((entryOf (cell :: cells)).toList ++ ·) := by
  have hplain (cs : List Char) (h : Csv.PlainText format cs) :
      Csv.PlainCell format (Utf8.encode cs) := h.plainCell (by decide)
  have hmark : (Utf8.encode cell).head? ≠ format.comment :=
    fun h => hcomment (Utf8.head_of_head_encode h (by decide))
  have hoctets : Utf8.encode (cell ++ cells.flatMap (',' :: ·))
      = Utf8.encode cell ++ (cells.map Utf8.encode).flatMap
          (format.delimiter :: ·) := by
    rw [Utf8.encode_append, List.flatMap_map]
    unfold Utf8.encode
    rw [List.flatMap_assoc]
    rfl
  obtain ⟨line', start', hread⟩ :=
    Csv.rowsFrom_row (by decide) (hplain cell hcell) hmark
    (List.forall_mem_map.mpr fun cs hcs => hplain cs (hcells cs hcs))
      hbreak line start
  refine ⟨line', start', ?_⟩
  unfold fromLine
  rw [hoctets, List.append_assoc, hread]
  exact entriesOf_cons (Csv.texts_encode start (cell :: cells)) _

/-- A proper line is read as its entry, if it has one, and as nothing
otherwise. -/
theorem fromLine_line {l : Line} (h : l.Proper)
    (hbreak : Csv.LineBreak octets rest) (line start : Nat) :
    ∃ line' start', fromLine line start (Utf8.encode l.chars ++ octets)
      = (fromLine line' start' rest).map
          ((l.held?.map DictionaryEntry.settled).toList ++ ·) := by
  cases l with
  | entry entry =>
      obtain ⟨hwritable, hcomment⟩ := h
      obtain ⟨hterm, hpayloads⟩ := List.forall_mem_cons.mp hwritable
      obtain ⟨line', start', hread⟩ := fromLine_cells hterm.plainText hcomment
        (List.forall_mem_map.mpr fun text htext =>
          (hpayloads text htext).plainText) hbreak
        line start
      refine ⟨line', start', ?_⟩
      rw [List.flatMap_map] at hread
      show fromLine line start
        (Utf8.encode (entry.term.toList ++ _) ++ octets) = _
      rw [hread]
      show Option.map ((entryOf (texts entry)).toList ++ ·) _ = _
      rw [entryOf_texts hwritable]
      rfl
  | blank spaces =>
      cases spaces with
      | nil =>
          obtain ⟨line', hread⟩ :=
            hbreak.rowsFrom_rowStart (f := format) line ⟨start, [], []⟩
          refine ⟨line', start, ?_⟩
          show entriesOf (Csv.rowsFrom format .rowStart line _ octets) = _
          rw [hread]
          exact Option.map_id'.symm
      | cons space spaces =>
          -- spaces are the only cell of a row, which trimming leaves nothing
          -- of
          have hnot {c : Char} (hc : Text.isWhitespace c = false
            ∨ c = '\r' ∨ c = '\n') :
              c ∉ space :: spaces := by
            intro hmem
            obtain ⟨hspace, hreturn, hfeed⟩ := h c hmem
            rcases hc with hc | hc | hc
            · rw [hc] at hspace
              cases hspace
            · exact hreturn hc
            · exact hfeed hc
          have hplain : Csv.PlainText format (space :: spaces) := {
            filled := List.cons_ne_nil _ _
            delimiter := hnot (.inl (by decide))
            quote := hnot (.inl (by decide))
            lineFeed := hnot (.inr (.inr rfl))
            carriageReturn := hnot (.inr (.inl rfl)) }
          have hcomment : (space :: spaces).head? ≠ some '#' := fun hhead =>
            hnot (.inl (by decide)) (List.mem_of_head? hhead)
          obtain ⟨line', start', hread⟩ := fromLine_cells hplain hcomment
            (List.forall_mem_nil _) hbreak line start
          refine ⟨line', start', ?_⟩
          rw [entryOf_blank (Text.isBlank_iff.mpr fun c hc => (h c hc).1)]
            at hread
          rw [List.flatMap_nil, List.append_nil] at hread
          exact hread
  | comment text =>
      have htext : Csv.lineFeed ∉ Utf8.encode text :=
        fun hmem => h (Utf8.mem_of_mem_encode hmem (by decide))
      obtain ⟨line', hread⟩ :=
        Csv.rowsFrom_comment (f := format) rfl (by decide) htext hbreak
        line ⟨start, [], []⟩
      refine ⟨line', start, ?_⟩
      show entriesOf
        (Csv.rowsFrom format .rowStart line _
          (0x23 :: Utf8.encode text ++ octets)) = _
      rw [hread]
      exact Option.map_id'.symm

-- ====================================================== pages

/-- Either line end ends a line for the reader. -/
theorem LineEnd.lineBreak (lineEnd : LineEnd) (rest : List UInt8) :
    Csv.LineBreak (Utf8.encode lineEnd.chars ++ rest) rest := by
  cases lineEnd with
  | feed => exact .feed rest
  | returnFeed => exact .returnFeed rest

theorem Page.chars_cons (l : Line × LineEnd) (lines : List (Line × LineEnd))
    (last : Line) :
    (Page.mk (l :: lines) last).chars
      = l.1.chars ++ (l.2.chars ++ (Page.mk lines last).chars) := by
  unfold Page.chars
  rw [List.flatMap_cons, List.append_assoc, List.append_assoc]

/-- What comes of reading one line after the other. -/
theorem fromLine_page {page : Page} (h : page.Proper) (line start : Nat) :
    fromLine line start page.octets
      = some (page.entries.map DictionaryEntry.settled) := by
  obtain ⟨lines, last⟩ := page
  obtain ⟨hlines, hlast⟩ := h
  induction lines generalizing line start with
  | nil =>
      obtain ⟨line', start', hread⟩ := fromLine_line hlast .ended line start
      rw [List.append_nil] at hread
      refine hread.trans ?_
      show some ((last.held?.map _).toList ++ [])
        = some (last.held?.toList.map _)
      rw [List.append_nil, Option.toList_map]
  | cons l lines ih =>
      obtain ⟨hl, hothers⟩ := List.forall_mem_cons.mp hlines
      have hoctets : (Page.mk (l :: lines) last).octets
          = Utf8.encode l.1.chars
              ++ (Utf8.encode l.2.chars ++ (Page.mk lines last).octets) := by
        unfold Page.octets
        rw [Page.chars_cons, Utf8.encode_append, Utf8.encode_append]
      obtain ⟨line', start', hread⟩ := fromLine_line hl
        (l.2.lineBreak (Page.mk lines last).octets) line start
      rw [hoctets, hread, ih line' start' hothers hlast]
      unfold Page.entries
      rw [List.filterMap_cons]
      cases l.1.held? with
      | none => rfl
      | some entry => rfl

/-- No line begins like a byte order mark. -/
theorem Line.Proper.unmarked {l : Line} (h : l.Proper) :
    l.chars.head? ≠ some '\uFEFF' := by
  intro hhead
  cases l with
  | entry e =>
      have hterm : Writable e.term := h.1 e.term List.mem_cons_self
      obtain ⟨c, term, hchars⟩ :=
        List.exists_cons_of_ne_nil hterm.trimmed.filled
      rw [Line.chars, hchars] at hhead
      obtain rfl := Option.some.inj hhead
      exact hterm.plain '\uFEFF' (by simp) (hchars ▸ List.mem_cons_self)
  | blank spaces =>
      have hspace := (h '\uFEFF' (List.mem_of_head? hhead)).1
      exact absurd hspace (by decide)
  | comment text => exact absurd (Option.some.inj hhead) (by decide)

/-- A proper page does not begin with the mark of UTF-8. -/
theorem Page.Proper.unmarked {page : Page} (h : page.Proper) :
    page.chars.head? ≠ some '\uFEFF' := by
  obtain ⟨lines, last⟩ := page
  cases lines with
  | nil => exact h.2.unmarked
  | cons l lines =>
      have hend : (l.2.chars ++ (Page.mk lines last).chars).head?
          ≠ some '\uFEFF' := by
        cases l.2 with
        | feed => exact fun hhead => absurd (Option.some.inj hhead) (by decide)
        | returnFeed =>
            exact fun hhead => absurd (Option.some.inj hhead) (by decide)
      have hl : l.1.chars.head? ≠ some '\uFEFF' :=
        Line.Proper.unmarked (h.1 l List.mem_cons_self)
      rw [Page.chars_cons]
      cases hcase : l.1.chars with
      | nil => exact hend
      | cons c cs =>
          rw [hcase] at hl
          exact hl

/-- The octets of a page are read as its entries. -/
theorem ofOctets_page {page : Page} (h : page.Proper) :
    ofOctets page.octets
      = some (page.entries.map DictionaryEntry.settled) := by
  show entriesOf
    (Csv.rowsFrom format .rowStart 1 _
      (Csv.withoutMark (Utf8.encode page.chars))) = _
  rw [Csv.withoutMark_encode h.unmarked]
  exact fromLine_page h 1 1

-- ====================================================== files

variable {files : FileTree}

/-- A file with a page is loaded as its entries. -/
theorem load_page {path : String} {page : Page}
    (hread : files.read path = .ok page.octets) (h : page.Proper) :
    load files path = .ok (page.entries.map DictionaryEntry.settled) := by
  rw [load, hread]
  dsimp only
  rw [ofOctets_page h]

/-- Every file of pages has the entries that were written on its page, and
several files have them one file after the other. -/
theorem loadAll_written {pages : List (String × Page)}
    (h : ∀ p ∈ pages, files.read p.1 = .ok p.2.octets ∧ p.2.Proper) :
    (∀ p ∈ pages,
      load files p.1 = .ok (p.2.entries.map DictionaryEntry.settled))
      ∧ loadAll files (pages.map Prod.fst)
        = .ok (pages.flatMap fun p =>
            p.2.entries.map DictionaryEntry.settled) := by
  have hload (p : String × Page) (hp : p ∈ pages) :
      load files p.1 = .ok (p.2.entries.map DictionaryEntry.settled) :=
    load_page (h p hp).1 (h p hp).2
  refine ⟨hload, ?_⟩
  clear h
  induction pages with
  | nil => rfl
  | cons p pages ih =>
      obtain ⟨hp, hpages⟩ := List.forall_mem_cons.mp hload
      rw [List.map_cons, loadAll, hp, ih hpages, List.flatMap_cons]
      rfl

/-- A file with a comment, a blank line and a term without payloads, listed
twice. -/
theorem loadAll_written_twice :
    let ussr : DictionaryEntry := ⟨"ussr", ["Russia"]⟩
    let canada : DictionaryEntry := ⟨"Canada", []⟩
    let page : Page :=
      ⟨[(.comment "no,town".toList, .feed), (.entry ussr, .returnFeed),
      (.blank [' '], .feed)], .entry canada⟩
    let files : FileTree := ⟨[(["f"], .file page.octets)]⟩
    (∀ p ∈ [("f", page), ("f", page)], files.read p.1 = .ok p.2.octets
      ∧ p.2.Proper)
      ∧ loadAll files ["f", "f"]
        = .ok [⟨"ussr", ["Russia"]⟩, ⟨"Canada", ["Canada"]⟩,
            ⟨"ussr", ["Russia"]⟩,
          ⟨"Canada", ["Canada"]⟩] := by
  intro ussr canada page files
  have hpages : ∀ p ∈ [("f", page), ("f", page)],
      files.read p.1 = .ok p.2.octets ∧ p.2.Proper := by
    intro p hp
    rw [List.mem_cons, List.mem_singleton, or_self] at hp
    subst hp
    exact ⟨FileTree.read_f page.octets, by decide +kernel⟩
  exact ⟨hpages, (loadAll_written hpages).2⟩

end Dictionary

end Intake
