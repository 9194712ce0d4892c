/-
The line numbers of rows.

A row has the number of the line on which its reading begins: one more than the
line feeds in front of that place, which is where the row before it ended. An
octet moves the reader on without changing where the current row began, and
only an octet that ends lines ends a row. So rows that line feeds alone have
ended have different numbers (`rows_increasing`). A carriage return ends a row
as well but is not counted, so two rows may have the same number in a file that
uses it.

That is not the line on which the row stands. The line feed of a line end of
two octets and empty lines are read with the row behind them, so such a row has
too low a number, by one for each of these line feeds (`Behind.line_add`).
-/
import Intake.Csv.Reader
import Mathlib.Data.List.Basic

namespace Intake.Csv

variable {f : Format} {p : Progress} {b : UInt8} {s : State} {line : Nat}
  {octets : List UInt8}

-- ====================================================== one octet

/-- What an octet does to the row that is being read. -/
structure Onward (p : Progress) (b : UInt8) (s : Step) : Prop where
  start : s.progress.start = p.start
  ended : s.ended = true →
    isLineEnd b = true ∧ (s.state = .rowStart ∨ s.state = .afterReturn)

namespace Onward

/-- A step within a row keeps its start and ends nothing. -/
theorem goes (s : State) {p' : Progress} (h : p'.start = p.start) :
    Onward p b (.goes s p') where
  start := h
  ended := nofun

/-- A plain octet keeps the start of the row, and ends the row only if it ends
lines. -/
theorem plain (f : Format) (p : Progress) (b : UInt8) :
    Onward p b (.plain f p b) := by
  unfold Step.plain
  split
  · exact goes _ rfl
  · split
    · next hend =>
        refine ⟨rfl, fun _ => ⟨hend, ?_⟩⟩
        unfold Step.ends
        by_cases hb : b = carriageReturn
        · exact .inr (if_pos hb)
        · exact .inl (if_neg hb)
    · exact goes _ rfl

/-- The same holds for the first octet of a cell. -/
theorem first (f : Format) (p : Progress) (b : UInt8) :
    Onward p b (.first f p b) := by
  unfold Step.first
  split
  · exact goes _ rfl
  · exact plain f p b

/-- The same holds for the first octet of a row, where line ends are passed
over. -/
theorem opening (f : Format) (p : Progress) (b : UInt8) :
    Onward p b (.opening f p b) := by
  unfold Step.opening
  split
  · exact goes _ rfl
  · split
    · exact goes _ rfl
    · exact first f p b

end Onward

/-- Every step keeps the start of the row, and ends the row only at an octet
that ends lines. -/
theorem step_onward (f : Format) (p : Progress) (b : UInt8) (s : State) :
    Onward p b (step f p b s) := by
  cases s with
  | rowStart => exact .opening f p b
  | afterReturn =>
      show Onward p b (if b = lineFeed then _ else _)
      split
      · exact .goes _ rfl
      · exact .opening f p b
  | inComment => exact .goes _ rfl
  | cellStart => exact .first f p b
  | inCell => exact .plain f p b
  | inQuotes =>
      show Onward p b (if b = quote then _ else _)
      split
      · exact .goes _ rfl
      · exact .goes _ rfl
  | afterQuote =>
      show Onward p b (if b = quote then _ else _)
      split
      · exact .goes _ rfl
      · exact .plain f p b

/-- The number of the line behind an octet. -/
def lineAfter (b : UInt8) (line : Nat) : Nat :=
  if b = lineFeed then line + 1 else line

/-- Reading one octet, with the line number behind it. -/
theorem rowsFrom_cons (rest : List UInt8) :
    rowsFrom f s line p (b :: rest)
      = if (step f p b s).ended then
          (step f p b s).progress.row
            :: rowsFrom f (step f p b s).state (lineAfter b line)
                ⟨lineAfter b line, [], []⟩ rest
        else rowsFrom f (step f p b s).state (lineAfter b line)
            (step f p b s).progress rest :=
  rfl

/-- Line numbers do not decrease. -/
theorem le_lineAfter (b : UInt8) (line : Nat) : line ≤ lineAfter b line := by
  unfold lineAfter
  split
  · exact Nat.le_succ line
  · exact Nat.le_refl line

-- ====================================================== where rows begin

/-- Reading of the row begins behind what is in front of it, and its line
number is one more than the line feeds there. -/
def Numbered (f : Format) (octets : List UInt8) (row : Row) : Prop :=
  ∃ front back s, octets = front ++ back
    ∧ (s = State.rowStart ∨ s = .afterReturn)
    ∧ (rowsFrom f s row.line ⟨row.line, [], []⟩ back).head? = some row
    ∧ row.line = front.count lineFeed + 1

/-- What has been read of a text: where the current row began, and what is
left. -/
structure Reading (f : Format) (octets : List UInt8) (s : State) (line : Nat)
    (p : Progress) (rest : List UInt8) : Prop where
  begun : ∃ front back s₀, octets = front ++ back
    ∧ (s₀ = State.rowStart ∨ s₀ = .afterReturn)
    ∧ rowsFrom f s₀ p.start ⟨p.start, [], []⟩ back = rowsFrom f s line p rest
    ∧ p.start = front.count lineFeed + 1
  read : ∃ front, octets = front ++ rest ∧ line = front.count lineFeed + 1

/-- The first row that comes is numbered. -/
theorem Reading.numbered {rest : List UInt8} {row : Row}
    (h : Reading f octets s line p rest)
    (hrow : (rowsFrom f s line p rest).head? = some row)
    (hline : row.line = p.start) :
    Numbered f octets row := by
  obtain ⟨front, back, s₀, hoctets, hs, hread, hstart⟩ := h.begun
  refine ⟨front, back, s₀, hoctets, hs, ?_, hline.trans hstart⟩
  rw [hline, hread, hrow]

/-- Each row that is read from some place on has the number of the line on
which its reading begins. -/
theorem Reading.all_numbered {rest : List UInt8}
    (h : Reading f octets s line p rest) :
    ∀ row ∈ rowsFrom f s line p rest, Numbered f octets row := by
  induction rest generalizing s line p with
  | nil =>
      intro row hrow
      have hlast : rowsFrom f s line p [] = [p.row] := by
        cases s with
        | rowStart => cases hrow
        | afterReturn => cases hrow
        | inComment => cases hrow
        | _ => rfl
      rw [hlast, List.mem_singleton] at hrow
      subst hrow
      exact h.numbered (by rw [hlast]; rfl) rfl
  | cons b rest ih =>
      have honward := step_onward f p b s
      obtain ⟨done, hdone, hline⟩ := h.read
      have hread : ∃ front, octets = front ++ rest
          ∧ lineAfter b line = front.count lineFeed + 1 := by
        refine ⟨done ++ [b], by rw [hdone, List.append_assoc]; rfl, ?_⟩
        rw [hline, lineAfter, List.count_append, List.count_singleton]
        by_cases hb : b = lineFeed
        · simp [hb]
        · simp [hb]
      have hnumbered (row : Row)
        (hrow : (rowsFrom f s line p (b :: rest)).head? = some row)
          (hline : row.line = p.start) : Numbered f octets row :=
          h.numbered hrow hline
      rw [rowsFrom_cons] at hnumbered ⊢
      split
      · next hended =>
          rw [if_pos hended] at hnumbered
          refine List.forall_mem_cons.mpr ⟨hnumbered _ rfl honward.start,
            ih ⟨?_, hread⟩⟩
          obtain ⟨front, hfront, hcount⟩ := hread
          exact ⟨front, rest, _, hfront, (honward.ended hended).2, rfl, hcount⟩
      · next hended =>
          refine ih ⟨?_, hread⟩
          obtain ⟨front, back, s₀, hoctets, hs, hrows, hstart⟩ := h.begun
          refine ⟨front, back, s₀, hoctets, hs, ?_, honward.start.trans hstart⟩
          rw [honward.start, hrows, rowsFrom_cons, if_neg hended]

/-- Every row has the number of the line on which its reading begins. -/
theorem rows_numbered (f : Format) (octets : List UInt8) :
    ∀ row ∈ rows f octets, Numbered f (withoutMark octets) row := by
  apply Reading.all_numbered
  exact ⟨⟨[], _, .rowStart, rfl, .inl rfl, rfl, rfl⟩, [], rfl, rfl⟩

-- ====================================================== where rows stand

/-- The first row that is read does not depend on how many lines were
counted since it began. -/
theorem head?_rowsFrom (f : Format) (s : State) (line line' : Nat)
    (p : Progress) (octets : List UInt8) :
    (rowsFrom f s line p octets).head?
      = (rowsFrom f s line' p octets).head? := by
  induction octets generalizing s line line' p with
  | nil => rfl
  | cons b rest ih =>
      rw [rowsFrom_cons, rowsFrom_cons]
      by_cases hended : (step f p b s).ended = true
      · rw [if_pos hended, if_pos hended]
        rfl
      · rw [if_neg hended, if_neg hended]
        exact ih _ _ _ _

/-- Line ends in front of a row are passed over. -/
theorem head?_rowsFrom_ends (hs : s = .rowStart ∨ s = .afterReturn)
    (line : Nat) (p : Progress) (octets : List UInt8) :
    (rowsFrom f s line p octets).head?
      = (rowsFrom f .rowStart line p (octets.dropWhile isLineEnd)).head? := by
  induction octets generalizing s line with
  | nil => rcases hs with rfl | rfl <;> rfl
  | cons b rest ih =>
      by_cases hb : isLineEnd b = true
      · have hstep : step f p b s = .goes .rowStart p := by
          rcases hs with rfl | rfl
          · exact if_pos hb
          · show (if b = lineFeed then Step.goes .rowStart p
              else Step.opening f p b) = _
            split
            · rfl
            · exact if_pos hb
        rw [List.dropWhile_cons_of_pos hb, rowsFrom_cons, hstep]
        show (rowsFrom f .rowStart (lineAfter b line) p rest).head? = _
        rw [ih (.inl rfl)]
        exact head?_rowsFrom _ _ _ _ _ _
      · have hstep : step f p b s = step f p b .rowStart := by
          rcases hs with rfl | rfl
          · rfl
          · apply if_neg
            rintro rfl
            exact hb rfl
        rw [List.dropWhile_cons_of_neg hb, rowsFrom_cons, rowsFrom_cons,
          hstep]

/-- A row stands behind line ends that were not read yet when it was numbered:
the one that ended the row before, if it is a line feed behind a carriage
return, and those of empty lines. In a format without comments the octet
behind them is the first one of the row. -/
structure Behind (f : Format) (octets : List UInt8) (row : Row)
    (front ends : List UInt8) : Prop where
  lineEnds : ∀ b ∈ ends, isLineEnd b = true
  stands : ∃ b back, octets = front ++ (ends ++ b :: back)
    ∧ isLineEnd b = false
    ∧ (rowsFrom f .rowStart row.line ⟨row.line, [], []⟩
        (b :: back)).head? = some row
  numbered : row.line = front.count lineFeed + 1

/-- The number of the line, as line feeds count them, on which a row stands
that has so much in front of it. -/
def lineOf (front : List UInt8) : Nat := front.count lineFeed + 1

/-- Every numbered row stands behind some line ends. -/
theorem Numbered.behind {row : Row} (h : Numbered f octets row) :
    ∃ front ends, Behind f octets row front ends := by
  obtain ⟨front, back, s, hoctets, hs, hread, hline⟩ := h
  rw [head?_rowsFrom_ends hs] at hread
  refine ⟨front, back.takeWhile isLineEnd,
    List.all_eq_true.mp List.all_takeWhile, ?_, hline⟩
  have hback : back = back.takeWhile isLineEnd
      ++ back.dropWhile isLineEnd :=
    List.takeWhile_append_dropWhile.symm
  have hnot := List.head?_dropWhile_not isLineEnd back
  cases hrest : back.dropWhile isLineEnd with
  | nil =>
      rw [hrest] at hread
      cases hread
  | cons b rest =>
      rw [hrest] at hread hback hnot
      refine ⟨b, rest, ?_, by simpa using hnot, hread⟩
      rw [hoctets, ← hback]

/-- The number of a row and the line feeds among the line ends that it stands
behind make up the line on which it stands. -/
theorem Behind.line_add {row : Row} {front ends : List UInt8}
    (h : Behind f octets row front ends) :
    row.line + ends.count lineFeed = lineOf (front ++ ends) := by
  unfold lineOf
  rw [h.numbered, List.count_append]
  omega

/-- A row has the number of the line on which it stands if and only if no line
feed is among these line ends. -/
theorem Behind.line_eq_iff {row : Row} {front ends : List UInt8}
    (h : Behind f octets row front ends) :
    row.line = lineOf (front ++ ends) ↔ lineFeed ∉ ends := by
  have hline := h.line_add
  rw [← List.count_eq_zero]
  omega

-- behind line ends of two octets and behind empty lines rows are numbered too
-- low: these three stand on the lines 1, 2 and 4
example : (rows ⟨0x2C, none⟩ (Utf8.ofText "a\r\nb\n\nc")).map Row.line
    = [1, 1, 3] := by decide +kernel

-- ====================================================== different numbers

/-- Where line feeds alone end lines, rows come with growing numbers. -/
theorem rowsFrom_increasing (hreturn : carriageReturn ∉ octets)
    (hstart : p.start ≤ line) :
    (∀ row ∈ rowsFrom f s line p octets, p.start ≤ row.line)
      ∧ (rowsFrom f s line p octets).Pairwise fun a b => a.line < b.line := by
  induction octets generalizing s line p with
  | nil =>
      unfold rowsFrom
      cases s with
      | rowStart => exact ⟨List.forall_mem_nil _, .nil⟩
      | afterReturn => exact ⟨List.forall_mem_nil _, .nil⟩
      | inComment => exact ⟨List.forall_mem_nil _, .nil⟩
      | _ =>
          exact ⟨List.forall_mem_singleton.mpr (Nat.le_refl _),
            List.pairwise_singleton _ _⟩
  | cons b rest ih =>
      rw [List.mem_cons, not_or] at hreturn
      have honward := step_onward f p b s
      have hafter := le_lineAfter b line
      rw [rowsFrom_cons]
      split
      · next hended =>
          -- the next row begins behind the line feed
          have hfeed : b = lineFeed := by
            have hend := (honward.ended hended).1
            rw [isLineEnd, Bool.or_eq_true, beq_iff_eq, beq_iff_eq] at hend
            exact hend.resolve_right (Ne.symm hreturn.1)
          have hnext : p.start < lineAfter b line := by
            rw [lineAfter, if_pos hfeed]
            omega
          obtain ⟨hall, hpairs⟩ := ih (p := ⟨lineAfter b line, [], []⟩)
            (s := (step f p b s).state) hreturn.2
              (Nat.le_refl (lineAfter b line))
          have hline : (step f p b s).progress.row.line = p.start :=
            honward.start
          constructor
          · refine List.forall_mem_cons.mpr ⟨Nat.le_of_eq hline.symm,
              fun row hrow => ?_⟩
            exact Nat.le_trans (Nat.le_of_lt hnext) (hall row hrow)
          · refine List.pairwise_cons.mpr ⟨fun row hrow => ?_, hpairs⟩
            rw [hline]
            exact Nat.lt_of_lt_of_le hnext (hall row hrow)
      · obtain ⟨hall, hpairs⟩ :=
          ih (p := (step f p b s).progress) (s := (step f p b s).state)
          hreturn.2 (honward.start.symm ▸ Nat.le_trans hstart hafter)
        exact ⟨honward.start ▸ hall, hpairs⟩

/-- A text without its byte order mark is part of the text. -/
theorem withoutMark_sublist (octets : List UInt8) :
    (withoutMark octets).Sublist octets := by
  unfold withoutMark
  split
  · exact
      ((List.sublist_cons_self _ _).trans (List.sublist_cons_self _ _)).trans
      (List.sublist_cons_self _ _)
  · exact List.Sublist.refl _

/-- No two rows of a text without carriage returns have the same number. -/
theorem rows_increasing (f : Format) (h : carriageReturn ∉ octets) :
    (rows f octets).Pairwise fun a b => a.line < b.line := by
  have hreturn : carriageReturn ∉ withoutMark octets :=
    fun hmem => h ((withoutMark_sublist octets).mem hmem)
  exact (rowsFrom_increasing hreturn (Nat.le_refl 1)).2

end Intake.Csv
