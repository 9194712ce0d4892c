/-
What cleaning makes of a chunk.

A run of separators with a line break in it is to become one space. The breaks
beyond ASCII are separators and line breaks, but not among the blanks that a
break takes with it, so each of them is replaced by itself and a run becomes as
many spaces as it has of them, at least one (`joinLines_eq`). Trimming comes
last and replacing runs leaves the ends of a trimmed text alone
(`trim_mapRuns`), so the difference shows in the inner runs of a chunk and
nowhere else.
-/
import Intake.Chunk.Clean
import Intake.Proofs.Chunk.Ink
import Intake.Proofs.Chunk.Runs

namespace Intake.Chunk

open Text (isWhitespace isBlank trim Trimmed)

variable {c : Char} {cs run front rest text : List Char}
  {f : List Char → List Char}

-- ====================================================== breaks beyond ASCII

/-- A line break that is no ASCII blank. -/
def isWide (c : Char) : Bool := isLineBreak c && !isAsciiBlank c

/-- Separators are of two kinds, of which only wide ones are replaced one by
one. -/
theorem isSeparator_iff :
    isSeparator c = true ↔ isAsciiBlank c = true ∨ isWide c = true := by
  by_cases hblank : isAsciiBlank c = true
  · have hseparator : isSeparator c = true := by
      simp only [isAsciiBlank, Bool.or_eq_true, beq_iff_eq] at hblank
      rcases hblank with ((((rfl | rfl) | rfl) | rfl) | rfl) | rfl <;> decide
    simp [hblank, hseparator]
  · have hspace : c ≠ ' ' ∧ c ≠ '\t' := by
      constructor <;> rintro rfl <;> exact hblank (by decide)
    simp [isSeparator, isWide, hblank, hspace]

/-- What is asked of the text behind the blanks is that a wide break leads
it. -/
theorem startsWide_iff :
    startsWide cs = true ↔ ∃ c ds, cs = c :: ds ∧ isWide c = true := by
  cases cs with
  | nil => simp [startsWide]
  | cons c cs => simp [startsWide, isWide]

/-- No blank is a wide break. -/
theorem countP_isWide_eq_zero (h : ∀ c ∈ cs, isAsciiBlank c = true) :
    cs.countP isWide = 0 := by
  rw [List.countP_eq_zero]
  intro c hc
  simp [isWide, h c hc]

/-- A wide break is a line break. -/
theorem any_isLineBreak_of_countP (h : 0 < run.countP isWide) :
    run.any isLineBreak = true := by
  obtain ⟨c, hc, hwide⟩ := List.countP_pos_iff.mp h
  unfold isWide at hwide
  rw [Bool.and_eq_true] at hwide
  exact List.any_eq_true.mpr ⟨c, hc, hwide.1⟩

-- ====================================================== replaced runs

/-- A run with a line break becomes one space. -/
def oneSpace (run : List Char) : List Char :=
  if run.any isLineBreak then [' '] else run

/-- A run with a line break becomes one space for every break beyond ASCII, and
one if it has none. -/
def spaces (run : List Char) : List Char :=
  if run.any isLineBreak then List.replicate (max 1 (run.countP isWide)) ' '
  else run

/-- With a wide break, the number of spaces is that of wide breaks. -/
theorem spaces_of_countP (h : 0 < run.countP isWide) :
    spaces run = List.replicate (run.countP isWide) ' ' := by
  unfold spaces
  rw [if_pos (any_isLineBreak_of_countP h), Nat.max_eq_right h]

/-- A front with one wide break contributes one space to a run that has more of
them. -/
theorem spaces_append (hfront : front.countP isWide = 1)
    (hrest : 0 < rest.countP isWide) :
    spaces (front ++ rest) = ' ' :: spaces rest := by
  have hcount : (front ++ rest).countP isWide = rest.countP isWide + 1 := by
    rw [List.countP_append, hfront, Nat.add_comm]
  rw [spaces_of_countP (by omega), spaces_of_countP hrest, hcount,
    List.replicate_succ]

/-- A run never leaves fewer characters than one space in its place would. -/
theorem length_oneSpace_le (run : List Char) :
    (oneSpace run).length ≤ (spaces run).length := by
  unfold oneSpace spaces
  split
  · rw [List.length_replicate, List.length_singleton]
    exact Nat.le_max_left _ _
  · exact Nat.le_refl _

/-- A run is replaced by the one space it should be unless two wide breaks are
in it. -/
theorem spaces_eq_oneSpace_iff :
    spaces run = oneSpace run ↔ run.countP isWide ≤ 1 := by
  unfold spaces oneSpace
  by_cases hbreak : run.any isLineBreak = true
  · rw [if_pos hbreak, if_pos hbreak, ← List.replicate_one,
      List.replicate_left_inj]
    omega
  · have hzero : run.countP isWide = 0 := by
      by_contra hcount
      exact hbreak (any_isLineBreak_of_countP (Nat.pos_of_ne_zero hcount))
    simp [hbreak, hzero]

-- ====================================================== from break to break

/-- A break beyond ASCII is replaced, with the blanks around it, by a space of
its own, whatever is left of its run. -/
theorem mapRuns_spaces_wide (hfront : ∀ c ∈ front, isSeparator c = true)
    (hone : front.countP isWide = 1)
    (hrest : ∀ c, rest.head? = some c → isAsciiBlank c = false) :
    mapRuns spaces (front ++ rest) = ' ' :: mapRuns spaces rest := by
  have hfilled : front ≠ [] := by
    rintro rfl
    cases hone
  by_cases hback : ∀ c, rest.head? = some c → isSeparator c = false
  · have hrun : IsRun [] front rest := ⟨hfilled, hfront, nofun, hback⟩
    rw [hrun.mapRuns_eq, spaces_of_countP (by omega), hone]
    rfl
  · -- the run goes on, with the next break
    push Not at hback
    obtain ⟨c, hc, hseparator⟩ := hback
    obtain ⟨ds, rfl⟩ : ∃ ds, rest = c :: ds := List.head?_eq_some_iff.mp hc
    rw [ne_eq, Bool.not_eq_false] at hseparator
    have hwide : isWide c = true := by
      rcases isSeparator_iff.mp hseparator with h | h
      · rw [hrest c rfl] at h
        cases h
      · exact h
    have hcount : 0 < (c :: ds.takeWhile isSeparator).countP isWide := by
      rw [List.countP_cons_of_pos hwide]
      exact Nat.succ_pos _
    have htake :
        (c :: ds).takeWhile isSeparator = c :: ds.takeWhile isSeparator :=
      List.takeWhile_cons_of_pos hseparator
    have hdrop : (c :: ds).dropWhile isSeparator = ds.dropWhile isSeparator :=
      List.dropWhile_cons_of_pos hseparator
    have hnext :=
      mapRuns_separators (List.cons_ne_nil c [])
        (by simpa using hseparator) spaces ds
    rw [List.singleton_append, List.singleton_append] at hnext
    rw [mapRuns_separators hfilled hfront, htake, hdrop,
      spaces_append hone hcount, hnext, List.cons_append]

/-- Blanks are separators. -/
theorem isSeparator_of_isAsciiBlank (h : isAsciiBlank c = true) :
    isSeparator c = true :=
  isSeparator_iff.mpr (.inl h)

/-- Wide breaks are separators. -/
theorem isSeparator_of_isWide (h : isWide c = true) : isSeparator c = true :=
  isSeparator_iff.mpr (.inr h)

/-- The blanks that are skipped are blanks. -/
theorem isAsciiBlank_takeWhile (cs : List Char) :
    ∀ c ∈ cs.takeWhile isAsciiBlank, isAsciiBlank c = true :=
  List.all_eq_true.mp List.all_takeWhile

/-- Joining lines replaces the runs of a text, each by the spaces for its
breaks. -/
theorem joinLines_eq (cs : List Char) : joinLines cs = mapRuns spaces cs := by
  fun_induction joinLines cs with
  | case1 => rw [mapRuns_nil]
  | case2 c cs hc rest hwide ih =>
      obtain ⟨d, ds, hrest, hd⟩ := startsWide_iff.mp hwide
      have hblanks :
          ∀ e ∈ c :: cs.takeWhile isAsciiBlank, isAsciiBlank e = true :=
        List.forall_mem_cons.mpr ⟨hc, isAsciiBlank_takeWhile cs⟩
      have hcs : c :: cs
        = ((c :: cs.takeWhile isAsciiBlank) ++ d :: ds.takeWhile isAsciiBlank)
          ++ ds.dropWhile isAsciiBlank := by
        rw [List.append_assoc, Text.cons_takeWhile_append, ← hrest,
          Text.cons_takeWhile_append]
      rw [ih, hrest, hcs]
      symm
      apply mapRuns_spaces_wide
      · intro e he
        rcases List.mem_append.mp he with he | he
        · exact isSeparator_of_isAsciiBlank (hblanks e he)
        · rcases List.mem_cons.mp he with rfl | he
          · exact isSeparator_of_isWide hd
          · exact isSeparator_of_isAsciiBlank (isAsciiBlank_takeWhile ds e he)
      · rw [List.countP_append, countP_isWide_eq_zero hblanks,
          List.countP_cons_of_pos hd,
          countP_isWide_eq_zero (isAsciiBlank_takeWhile ds)]
      · exact Text.head_dropWhile ds
  | case3 c cs hc run rest hwide ih =>
      have hblanks : ∀ e ∈ run, isAsciiBlank e = true :=
        List.forall_mem_cons.mpr ⟨hc, isAsciiBlank_takeWhile cs⟩
      have hrun : IsRun [] run rest := by
        refine ⟨List.cons_ne_nil _ _, ?_, ?_, ?_⟩
        · exact fun e he => isSeparator_of_isAsciiBlank (hblanks e he)
        · intro d hd
          cases hd
        · intro d hd
          obtain ⟨ds, hrest⟩ := List.head?_eq_some_iff.mp hd
          have hblank : isAsciiBlank d = false := Text.head_dropWhile cs d hd
          by_contra hseparator
          rw [Bool.not_eq_false, isSeparator_iff, hblank] at hseparator
          exact hwide (startsWide_iff.mpr
            ⟨d, ds, hrest, hseparator.resolve_left Bool.false_ne_true⟩)
      have hcs : c :: cs = run ++ rest :=
        (Text.cons_takeWhile_append isAsciiBlank c cs).symm
      rw [hcs, hrun.mapRuns_eq, ← ih]
      unfold spaces
      rw [countP_isWide_eq_zero hblanks]
      rfl
  | case4 c cs hc hbreak ih =>
      have hwide : isWide c = true := by simp [isWide, hbreak, hc]
      rw [ih, ← Text.cons_takeWhile_append isAsciiBlank c cs]
      symm
      apply mapRuns_spaces_wide
      · exact List.forall_mem_cons.mpr ⟨isSeparator_of_isWide hwide,
          fun e he =>
            isSeparator_of_isAsciiBlank (isAsciiBlank_takeWhile cs e he)⟩
      · rw [List.countP_cons_of_pos hwide,
          countP_isWide_eq_zero (isAsciiBlank_takeWhile cs)]
      · exact Text.head_dropWhile cs
  | case5 c cs hc hbreak ih =>
      have hother : isSeparator c = false := by
        by_contra hseparator
        rw [Bool.not_eq_false, isSeparator_iff] at hseparator
        simp [isWide, hc, hbreak] at hseparator
      rw [mapRuns_char hother, ih]

-- ====================================================== trimming

/-- What is no white space separates nothing. -/
theorem isSeparator_of_not_isWhitespace (h : isWhitespace c = false) :
    isSeparator c = false := by
  by_contra hseparator
  rw [Bool.not_eq_false] at hseparator
  rw [isWhitespace_of_isSeparator hseparator] at h
  cases h

/-- Runs are replaced by white space. -/
def Blanks (f : List Char → List Char) : Prop :=
  ∀ run, (∀ c ∈ run, isSeparator c = true) → isBlank (f run) = true

/-- A blank text stays blank. -/
theorem Blanks.mapRuns (hf : Blanks f) (h : isBlank text = true) :
    isBlank (mapRuns f text) = true := by
  fun_induction parts text with
  | case1 => rw [mapRuns_nil]; rfl
  | case2 c cs hc ih =>
      have hrun := isRun_takeWhile hc cs
      rw [← Text.cons_takeWhile_append isSeparator c cs] at h ⊢
      rw [Text.isBlank_append, Bool.and_eq_true] at h
      rw [hrun.mapRuns_eq, Text.isBlank_append, hf _ hrun.separators, ih h.2]
      rfl
  | case3 c cs hc ih =>
      obtain ⟨hc', hcs⟩ := List.forall_mem_cons.mp (Text.isBlank_iff.mp h)
      rw [mapRuns_char (by simpa using hc), Text.isBlank_iff]
      exact List.forall_mem_cons.mpr
        ⟨hc', Text.isBlank_iff.mp (ih (Text.isBlank_iff.mpr hcs))⟩

/-- A trimmed text keeps its ends, where no runs are. -/
theorem trimmed_mapRuns (f : List Char → List Char) (h : Trimmed text) :
    Trimmed (mapRuns f text) := by
  obtain ⟨c, cs, hcs⟩ := List.exists_cons_of_ne_nil h.filled
  obtain ⟨init, d, hd⟩ := (List.eq_nil_or_concat' text).resolve_left h.filled
  have hfirst : isWhitespace c = false := h.front c (by rw [hcs]; rfl)
  have hlast : isWhitespace d = false :=
    h.back d (by rw [hd, List.getLast?_concat])
  have hfront : mapRuns f text = c :: mapRuns f cs := by
    rw [hcs, mapRuns_char (isSeparator_of_not_isWhitespace hfirst)]
  have hback : mapRuns f text = mapRuns f init ++ [d] := by
    have hother := isSeparator_of_not_isWhitespace hlast
    have hparted : Parted init [d] :=
      .inr fun e he => Option.some.inj he ▸ hother
    rw [hd, mapRuns_append hparted, mapRuns_char hother, mapRuns_nil]
  constructor
  · simp [hfront]
  · rw [hfront]
    rintro e ⟨⟩
    exact hfirst
  · rw [hback, List.getLast?_concat]
    rintro e ⟨⟩
    exact hlast

/-- Trimming and replacing runs by white space may change places. -/
theorem trim_mapRuns (hf : Blanks f) (text : List Char) :
    trim (mapRuns f text) = mapRuns f (trim text) := by
  by_cases hblank : isBlank text = true
  · rw [Text.trim_eq_nil hblank, Text.trim_eq_nil (hf.mapRuns hblank),
      mapRuns_nil]
  · obtain ⟨front, back, htext, hfront, hback⟩ := Text.exists_trim text
    have htrimmed : Trimmed (trim text) :=
      Text.trimmed_trim (by simpa using hblank)
    have hbefore : Parted front (trim text ++ back) := by
      right
      rw [List.head?_append_of_ne_nil _ htrimmed.filled]
      exact fun c hc => isSeparator_of_not_isWhitespace (htrimmed.front c hc)
    have hbehind : Parted (trim text) back :=
      .inl fun c hc => isSeparator_of_not_isWhitespace (htrimmed.back c hc)
    conv_lhs => rw [htext, mapRuns_append hbefore, mapRuns_append hbehind]
    exact (trimmed_mapRuns f htrimmed).trim_append (hf.mapRuns hfront)
      (hf.mapRuns hback)

/-- The spaces for a run are blank. -/
theorem blanks_spaces : Blanks spaces := by
  intro run hrun
  unfold spaces
  split
  · rw [Text.isBlank_iff]
    intro c hc
    rw [List.eq_of_mem_replicate hc]
    rfl
  · exact Text.isBlank_iff.mpr fun c hc =>
      isWhitespace_of_isSeparator (hrun c hc)

/-- One space for a run is blank too. -/
theorem blanks_oneSpace : Blanks oneSpace := by
  intro run hrun
  unfold oneSpace
  split
  · rfl
  · exact Text.isBlank_iff.mpr fun c hc =>
      isWhitespace_of_isSeparator (hrun c hc)

-- ====================================================== cleaning

/-- A chunk is cleaned by replacing every run of separators with a line break
by as many spaces as it has breaks beyond ASCII, at least one, and trimming.
This is one space for every such run of any text in which, trimmed, no run has
two of these breaks, and of no other text. -/
theorem clean_collapses_iff (text : List Char) :
    clean text = trim (mapRuns spaces text)
      ∧ (clean text = trim (mapRuns oneSpace text)
          ↔ ∀ run ∈ runs (trim text), run.countP isWide ≤ 1) := by
  have hclean : clean text = trim (mapRuns spaces text) := by
    unfold clean
    rw [joinLines_eq]
  refine ⟨hclean, ?_⟩
  rw [hclean, trim_mapRuns blanks_spaces, trim_mapRuns blanks_oneSpace,
    mapRuns_eq_iff length_oneSpace_le]
  simp only [spaces_eq_oneSpace_iff]

/-- Two next-line characters in one run leave two spaces. -/
theorem not_clean_collapses :
    ¬ ∀ text, clean text = trim (mapRuns oneSpace text) := by
  intro h
  exact absurd (h ['a', '\u0085', '\u0085', 'b']) (by decide +kernel)

end Intake.Chunk
