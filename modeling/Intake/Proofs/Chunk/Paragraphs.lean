/-
Where a text is divided into paragraphs.

The splitter goes from run to run: a run with two line breaks ends the piece, a
shorter one goes into it. So all pieces and the dividing runs, in turns, are
the text (`weave_paragraphsFrom`), and no piece holds a dividing run, since
pieces are put together where no run goes over (`whole_of_mem_paragraphsFrom`).
The line breaks of a run are its line-break characters, but a carriage return
and the line feed behind it are one of them (`countBreaks_add_pairs`). The
empty pieces at the end add nothing between the runs, so leaving them out
leaves the last runs without a piece behind them and changes nothing else.
-/
import Intake.Proofs.Chunk.Runs
import Mathlib.Data.List.Induction

namespace Intake.Chunk

variable {reversed cs text : List Char} {pieces : List (List Char)}

-- ====================================================== texts in turns

/-- The texts of two lists in turns; what the longer one has more comes
last. -/
def weave : List (List Char) → List (List Char) → List Char
  | a :: as, b :: bs => a ++ (b ++ weave as bs)
  | as, bs => as.flatten ++ bs.flatten

@[simp]
theorem weave_cons_cons (a b : List Char) (as bs : List (List Char)) :
    weave (a :: as) (b :: bs) = a ++ (b ++ weave as bs) := by
  rw [weave]

/-- Dividers alone are put one behind the other. -/
@[simp]
theorem weave_nil_left (bs : List (List Char)) : weave [] bs = bs.flatten := by
  cases bs with
  | nil => rfl
  | cons b bs => rfl

/-- Pieces alone are put one behind the other. -/
@[simp]
theorem weave_nil_right (as : List (List Char)) :
    weave as [] = as.flatten := by
  cases as with
  | nil => rfl
  | cons a as => simp [weave]

/-- An empty text at the end adds nothing. -/
theorem weave_concat_nil (as bs : List (List Char)) :
    weave (as ++ [[]]) bs = weave as bs := by
  induction as generalizing bs with
  | nil =>
      cases bs with
      | nil => rfl
      | cons b bs => simp
  | cons a as ih =>
      cases bs with
      | nil => simp
      | cons b bs =>
          rw [List.cons_append, weave_cons_cons, weave_cons_cons, ih]

-- ==================================================== empty pieces at the end

/-- An empty piece at the end is dropped. -/
theorem dropTrailingEmpty_concat_nil (pieces : List (List Char)) :
    dropTrailingEmpty (pieces ++ [[]]) = dropTrailingEmpty pieces := by
  simp [dropTrailingEmpty]

/-- A piece that is not empty is kept with all in front of it. -/
theorem dropTrailingEmpty_concat {piece : List Char} (h : piece ≠ [])
    (pieces : List (List Char)) :
    dropTrailingEmpty (pieces ++ [piece]) = pieces ++ [piece] := by
  simp [dropTrailingEmpty, h]

/-- Only pieces at the end are dropped. -/
theorem dropTrailingEmpty_isPrefix (pieces : List (List Char)) :
    dropTrailingEmpty pieces <+: pieces := by
  unfold dropTrailingEmpty
  rw [← List.reverse_suffix, List.reverse_reverse]
  exact List.dropWhile_suffix _

/-- Empty pieces at the end do not show in the woven text. -/
theorem weave_dropTrailingEmpty (pieces bs : List (List Char)) :
    weave (dropTrailingEmpty pieces) bs = weave pieces bs := by
  induction pieces using List.reverseRecOn with
  | nil => rfl
  | append_singleton pieces piece ih =>
      by_cases hpiece : piece = []
      · rw [hpiece, dropTrailingEmpty_concat_nil, weave_concat_nil, ih]
      · rw [dropTrailingEmpty_concat hpiece]

/-- The last piece that is left is not empty. -/
theorem getLast?_dropTrailingEmpty {piece : List Char}
    (h : (dropTrailingEmpty pieces).getLast? = some piece) : piece ≠ [] := by
  induction pieces using List.reverseRecOn with
  | nil => cases h
  | append_singleton pieces last ih =>
      by_cases hlast : last = []
      · rw [hlast, dropTrailingEmpty_concat_nil] at h
        exact ih h
      · rw [dropTrailingEmpty_concat hlast, List.getLast?_concat] at h
        exact Option.some.inj h ▸ hlast

-- ====================================================== line breaks

/-- The places where a carriage return stands right in front of a line
feed. -/
def pairs (text : List Char) : Nat :=
  (text.zip text.tail).count ('\r', '\n')

/-- A character that makes no pair with the one behind it adds none. -/
theorem pairs_cons {c : Char} {cs : List Char}
    (h : ∀ d, cs.head? = some d → (c, d) ≠ ('\r', '\n')) :
    pairs (c :: cs) = pairs cs := by
  unfold pairs
  cases cs with
  | nil => rfl
  | cons d ds =>
      rw [List.tail_cons, List.zip_cons_cons, List.tail_cons]
      exact List.count_cons_of_ne (h d rfl)

/-- Every character of a line break counts, but the two of a pair count
once. -/
theorem countBreaks_add_pairs (text : List Char) :
    countBreaks text + pairs text = text.countP isLineBreak := by
  fun_induction countBreaks text with
  | case1 => rfl
  | case2 rest ih =>
      have hpair : pairs ('\r' :: '\n' :: rest)
          = pairs ('\n' :: rest) + 1 := by
        simp [pairs]
      have hfeed : pairs ('\n' :: rest) = pairs rest := by
        apply pairs_cons
        intro d _
        simp
      have hreturn : isLineBreak '\r' = true := by decide
      have hlineFeed : isLineBreak '\n' = true := by decide
      rw [hpair, hfeed, List.countP_cons_of_pos hreturn,
        List.countP_cons_of_pos hlineFeed, ← ih]
      omega
  | case3 c rest hsingle ih =>
      -- the two characters of a pair are the case before
      have hrest : pairs (c :: rest) = pairs rest := by
        apply pairs_cons
        rintro d hd heq
        cases rest with
        | nil => cases hd
        | cons e rest =>
            cases hd
            obtain ⟨rfl, rfl⟩ := Prod.mk.inj heq
            exact hsingle rest rfl rfl
      rw [hrest, List.countP_cons, ← ih]
      omega

-- ====================================================== dividing runs

/-- The runs that divide a text, those with two line breaks or more. -/
def dividers (text : List Char) : List (List Char) :=
  (runs text).filter fun run => 2 ≤ countBreaks run

/-- No run of the text divides it. -/
def Whole (text : List Char) : Prop := ∀ run ∈ runs text, countBreaks run < 2

/-- The empty text has no run that could divide it. -/
theorem whole_nil : Whole [] := by
  intro run h
  simp [runs, parts] at h

/-- Whole texts are whole together if no run goes over from one to the
other. -/
theorem Whole.append {a b : List Char} (ha : Whole a) (hb : Whole b)
    (h : Parted a b) :
    Whole (a ++ b) := by
  intro run hrun
  rw [runs_append h, List.mem_append] at hrun
  exact hrun.elim (ha run) (hb run)

/-- A character that is no separator is whole. -/
theorem whole_char {c : Char} (hc : isSeparator c = false) : Whole [c] := by
  intro run h
  rw [runs_char hc] at h
  exact whole_nil run h

/-- A run of fewer than two line breaks divides nothing. -/
theorem IsRun.whole {before run after : List Char} (h : IsRun before run after)
    (hbreaks : countBreaks run < 2) : Whole run := by
  have hrun : IsRun [] run [] := ⟨h.filled, h.separators, nofun, nofun⟩
  have hruns : runs run = [run] := by
    rw [← List.append_nil run, hrun.runs_eq]
    simp [runs, parts]
  intro other hother
  rw [hruns, List.mem_singleton] at hother
  rw [hother]
  exact hbreaks

-- ====================================================== from run to run

/-- The pieces and the dividers between them make the text, and there is one
piece more than dividers. -/
theorem weave_paragraphsFrom (reversed cs : List Char) :
    weave (paragraphsFrom reversed cs) (dividers cs) = reversed.reverse ++ cs
      ∧ (paragraphsFrom reversed cs).length = (dividers cs).length + 1 := by
  fun_induction paragraphsFrom reversed cs with
  | case1 reversed => simp [dividers, runs, parts]
  | case2 reversed c cs hc run rest hbreaks ih =>
      have hdividers : dividers (c :: cs) = run :: dividers rest := by
        unfold dividers
        rw [runs_separator hc,
          List.filter_cons_of_pos (by simpa using hbreaks)]
      rw [hdividers, weave_cons_cons, ih.1, List.length_cons, List.length_cons,
        ih.2]
      simp [run, rest]
  | case3 reversed c cs hc run rest hbreaks ih =>
      have hdividers : dividers (c :: cs) = dividers rest := by
        unfold dividers
        rw [runs_separator hc,
          List.filter_cons_of_neg (by simpa using hbreaks)]
      rw [hdividers, ih.1, ih.2]
      simp [run, rest]
  | case4 reversed c cs hc ih =>
      have hdividers : dividers (c :: cs) = dividers cs := by
        unfold dividers
        rw [runs_char (by simpa using hc)]
      rw [hdividers, ih.1, ih.2]
      simp

/-- No piece holds a run that should have divided it. -/
theorem whole_of_mem_paragraphsFrom (hreversed : Whole reversed.reverse)
    (hparted : Parted reversed.reverse cs) :
    ∀ piece ∈ paragraphsFrom reversed cs, Whole piece := by
  fun_induction paragraphsFrom reversed cs with
  | case1 reversed => simpa using hreversed
  | case2 reversed c cs hc run rest hbreaks ih =>
      exact List.forall_mem_cons.mpr ⟨hreversed, ih whole_nil (.inl nofun)⟩
  | case3 reversed c cs hc run rest hbreaks ih =>
      have hrun : IsRun [] run rest := isRun_takeWhile hc cs
      -- the piece so far ends where the run begins
      have hback : Parted reversed.reverse run := by
        refine hparted.imp_right fun h d hd => ?_
        cases hd
        exact h c rfl
      rw [List.reverse_append, List.reverse_reverse] at ih
      exact
        ih (hreversed.append (hrun.whole (by omega)) hback) (.inr hrun.back)
  | case4 reversed c cs hc ih =>
      rw [List.reverse_cons] at ih
      have hc : isSeparator c = false := by simpa using hc
      refine ih (hreversed.append (whole_char hc) (.inr ?_)) (.inl ?_)
      · rintro d ⟨⟩
        exact hc
      · rw [List.getLast?_concat]
        rintro d ⟨⟩
        exact hc

/-- The first piece begins with what was read of it. -/
theorem head?_paragraphsFrom (reversed cs : List Char) :
    ∃ piece, (paragraphsFrom reversed cs).head? = some piece
      ∧ reversed.reverse <+: piece := by
  fun_induction paragraphsFrom reversed cs with
  | case1 reversed => exact ⟨_, rfl, List.prefix_rfl⟩
  | case2 reversed c cs hc run rest hbreaks ih =>
      exact ⟨_, rfl, List.prefix_rfl⟩
  | case3 reversed c cs hc run rest hbreaks ih =>
      obtain ⟨piece, hpiece, hprefix⟩ := ih
      rw [List.reverse_append] at hprefix
      exact ⟨piece, hpiece, (List.prefix_append _ _).trans hprefix⟩
  | case4 reversed c cs hc ih =>
      obtain ⟨piece, hpiece, hprefix⟩ := ih
      rw [List.reverse_cons] at hprefix
      exact ⟨piece, hpiece, (List.prefix_append _ _).trans hprefix⟩

/-- A dividing run stands at the front of the text. -/
def Opens (text : List Char) : Prop :=
  ∃ run after, text = run ++ after ∧ IsRun [] run after ∧ 2 ≤ countBreaks run

/-- The first piece is empty for an empty text, or for one that begins with a
divider. -/
theorem head?_paragraphsFrom_eq_nil :
    (paragraphsFrom [] text).head? = some [] ↔ text = [] ∨ Opens text := by
  constructor
  · intro h
    cases text with
    | nil => exact .inl rfl
    | cons c cs =>
        right
        rw [paragraphsFrom] at h
        by_cases hc : isSeparator c = true
        · rw [if_pos hc] at h
          by_cases hbreaks : 2 ≤ countBreaks (c :: cs.takeWhile isSeparator)
          · exact ⟨_, _, (Text.cons_takeWhile_append isSeparator c cs).symm,
              isRun_takeWhile hc cs, hbreaks⟩
          · obtain ⟨piece, hpiece, hprefix⟩ := head?_paragraphsFrom
              ((c :: cs.takeWhile isSeparator).reverse ++ [])
                (cs.dropWhile isSeparator)
            simp only [if_neg hbreaks, hpiece, Option.some.injEq] at h
            simp [h] at hprefix
        · obtain ⟨piece, hpiece, hprefix⟩ := head?_paragraphsFrom [c] cs
          simp only [if_neg hc, hpiece, Option.some.injEq] at h
          simp [h] at hprefix
  · rintro (rfl | ⟨run, after, rfl, hrun, hbreaks⟩)
    · simp [paragraphsFrom]
    · obtain ⟨c, cs, rfl⟩ := List.exists_cons_of_ne_nil hrun.filled
      obtain ⟨hc, hcs⟩ := List.forall_mem_cons.mp hrun.separators
      have htake : (cs ++ after).takeWhile isSeparator = cs := by
        rw [List.takeWhile_append_of_pos hcs, Text.takeWhile_eq_nil hrun.back,
          List.append_nil]
      rw [List.cons_append, paragraphsFrom, if_pos hc]
      simp [htake, hbreaks]

-- ====================================================== paragraphs

/-- Pieces of a text between all its dividing runs, of which the last may have
no piece behind it. No dividing run stands in a piece, the last piece is not
empty, and the first one is empty only if the text opens with a dividing
run. -/
structure Divided (text : List Char) (pieces : List (List Char)) : Prop where
  woven : weave pieces (dividers text) = text
  length_le : pieces.length ≤ (dividers text).length + 1
  whole : ∀ piece ∈ pieces, ∀ before run after,
    piece = before ++ (run ++ after) →
    IsRun before run after → countBreaks run < 2
  last : ∀ piece, pieces.getLast? = some piece → piece ≠ []
  first : pieces.head? = some [] ↔ pieces ≠ [] ∧ Opens text

/-- Dropping empty pieces at the end does not change the first one, unless
nothing is left. -/
theorem head?_paragraphs (h : paragraphs text ≠ []) :
    (paragraphs text).head? = (paragraphsFrom [] text).head? := by
  obtain ⟨rest, hrest⟩ := dropTrailingEmpty_isPrefix (paragraphsFrom [] text)
  rw [← hrest]
  exact (List.head?_append_of_ne_nil _ h).symm

/-- Every text is divided into its paragraphs. -/
theorem paragraphs_divided (text : List Char) :
    Divided text (paragraphs text) where
  woven := by
    unfold paragraphs
    rw [weave_dropTrailingEmpty, (weave_paragraphsFrom [] text).1]
    rfl
  length_le := by
    have hlength :=
      (dropTrailingEmpty_isPrefix (paragraphsFrom [] text)).length_le
    rw [(weave_paragraphsFrom [] text).2] at hlength
    exact hlength
  whole := by
    intro piece hpiece before run after heq hrun
    have hmem :=
      (dropTrailingEmpty_isPrefix (paragraphsFrom [] text)).subset hpiece
    have hwhole : Whole piece :=
      @whole_of_mem_paragraphsFrom [] text whole_nil (.inl nofun) piece hmem
    exact hwhole run (mem_runs.mpr ⟨before, after, heq, hrun⟩)
  last := fun piece hpiece => getLast?_dropTrailingEmpty hpiece
  first := by
    constructor
    · intro h
      have hfilled : paragraphs text ≠ [] := by
        intro hnil
        rw [hnil] at h
        cases h
      refine ⟨hfilled, ?_⟩
      rw [head?_paragraphs hfilled] at h
      rcases head?_paragraphsFrom_eq_nil.mp h with rfl | h
      · simp [paragraphs, paragraphsFrom, dropTrailingEmpty] at hfilled
      · exact h
    · rintro ⟨hfilled, hopens⟩
      rw [head?_paragraphs hfilled]
      exact head?_paragraphsFrom_eq_nil.mpr (.inr hopens)

-- a line break of two characters counts once, and the last run has no piece
-- behind it
example : paragraphs "\n\r\nOne.\r\nTwo. \r\r\n\tThree.\n\n".toList
    = [[], "One.\r\nTwo.".toList, "Three.".toList] := by decide +kernel

end Intake.Chunk
