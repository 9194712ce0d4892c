/-
Texts by their runs of separators.

A text is a row of parts: runs of separators that neither neighbour makes
longer, and single characters that are no separators. Cutting a text where no
run goes over from one side to the other cuts its parts (`parts_append`), and
this is all that the splitter of paragraphs and the cleaning of chunks need to
know of them: both go through a text from run to run.
-/
import Intake.Chunk.Split
import Intake.Proofs.Text.Trim

namespace Intake.Chunk

-- ====================================================== parts

/-- A run of separators between two texts that do not make it longer. -/
structure IsRun (before run after : List Char) : Prop where
  filled : run ≠ []
  separators : ∀ c ∈ run, isSeparator c = true
  front : ∀ c, before.getLast? = some c → isSeparator c = false
  back : ∀ c, after.head? = some c → isSeparator c = false

/-- A character that is no separator, or a run of separators. -/
inductive Part where
  | char (c : Char)
  | run (cs : List Char)
deriving DecidableEq, Repr

/-- The run that a part is, if it is one. -/
def Part.run? : Part → Option (List Char)
  | .char _ => none
  | .run cs => some cs

/-- The part with its run, if it is one, replaced. -/
def Part.write (f : List Char → List Char) : Part → List Char
  | .char c => [c]
  | .run cs => f cs

/-- A text by characters and runs of separators. -/
def parts : List Char → List Part
  | [] => []
  | c :: cs =>
    if isSeparator c then
      .run (c :: cs.takeWhile isSeparator) :: parts (cs.dropWhile isSeparator)
    else .char c :: parts cs
termination_by cs => cs.length
decreasing_by
  all_goals have := (List.dropWhile_sublist (l := cs) isSeparator).length_le
  all_goals simp only [List.length_cons]
  all_goals omega

/-- The runs of separators of a text, in order. -/
def runs (text : List Char) : List (List Char) :=
  (parts text).filterMap Part.run?

/-- A text with every run of separators replaced. -/
def mapRuns (f : List Char → List Char) (text : List Char) : List Char :=
  (parts text).flatMap (Part.write f)

-- ====================================================== reading on

variable {c : Char} {cs run before after text : List Char}

/-- A character that is no separator is a part by itself. -/
theorem parts_char (hc : isSeparator c = false) (cs : List Char) :
    parts (c :: cs) = .char c :: parts cs := by
  rw [parts, if_neg (by simp [hc])]

/-- Separators are read together with those behind them. -/
theorem parts_separators (hfilled : run ≠ [])
    (hrun : ∀ c ∈ run, isSeparator c = true) (cs : List Char) :
    parts (run ++ cs)
      = .run (run ++ cs.takeWhile isSeparator)
          :: parts (cs.dropWhile isSeparator) := by
  obtain ⟨c, run, rfl⟩ := List.exists_cons_of_ne_nil hfilled
  obtain ⟨hc, hrest⟩ := List.forall_mem_cons.mp hrun
  rw [List.cons_append, parts, if_pos hc, List.takeWhile_append_of_pos hrest,
    List.dropWhile_append_of_pos hrest, List.cons_append]

/-- A run at the front is the first part. -/
theorem IsRun.parts_eq (h : IsRun before run after) :
    parts (run ++ after) = .run run :: parts after := by
  rw [parts_separators h.filled h.separators, Text.takeWhile_eq_nil h.back,
    Text.dropWhile_eq_self h.back, List.append_nil]

/-- A separator and those behind it are a run. -/
theorem isRun_takeWhile (hc : isSeparator c = true) (cs : List Char) :
    IsRun [] (c :: cs.takeWhile isSeparator) (cs.dropWhile isSeparator) where
  filled := List.cons_ne_nil _ _
  separators := by
    rw [List.forall_mem_cons]
    exact ⟨hc, List.all_eq_true.mp List.all_takeWhile⟩
  front := nofun
  back := Text.head_dropWhile cs

-- ====================================================== cutting a text

/-- No run of separators goes over from one text to the other. -/
def Parted (a b : List Char) : Prop :=
  (∀ c, a.getLast? = some c → isSeparator c = false)
    ∨ (∀ c, b.head? = some c → isSeparator c = false)

/-- Whether a run goes over depends on the last character of the first text
only. -/
theorem Parted.of_append {a b : List Char} (h : Parted (before ++ a) b)
    (ha : a ≠ []) :
    Parted a b := by
  unfold Parted at h ⊢
  rw [List.getLast?_append_of_ne_nil _ ha] at h
  exact h

/-- The parts of two texts are those of both together, if no run goes over. -/
theorem parts_append {a b : List Char} (h : Parted a b) :
    parts (a ++ b) = parts a ++ parts b := by
  fun_induction parts a with
  | case1 => rfl
  | case2 c cs hc ih =>
      have hrun := isRun_takeWhile hc cs
      rw [← Text.cons_takeWhile_append isSeparator c cs] at h ⊢
      by_cases hrest : cs.dropWhile isSeparator = []
      · -- the text is one run, which ends with the text
        rw [hrest, List.append_nil] at h ⊢
        have hback : ∀ d, b.head? = some d → isSeparator d = false := by
          rcases h with h | h
          · have hlast := List.getLast?_eq_some_getLast hrun.filled
            have hseparator := hrun.separators _ (List.getLast_mem hrun.filled)
            rw [h _ hlast] at hseparator
            cases hseparator
          · exact h
        rw [IsRun.parts_eq ⟨hrun.filled, hrun.separators, hrun.front, hback⟩]
        simp [parts]
      · have hback : ∀ d, (cs.dropWhile isSeparator ++ b).head? = some d →
            isSeparator d = false := by
          rw [List.head?_append_of_ne_nil _ hrest]
          exact hrun.back
        rw [List.append_assoc,
          IsRun.parts_eq ⟨hrun.filled, hrun.separators, hrun.front, hback⟩,
          ih (h.of_append hrest), List.cons_append]
  | case3 c cs hc ih =>
      rw [List.cons_append, parts_char (by simpa using hc), List.cons_append]
      by_cases hcs : cs = []
      · rw [hcs]
        simp [parts]
      · have hparted : Parted ([c] ++ cs) b := h
        rw [ih (hparted.of_append hcs)]

/-- The runs of two texts are those of both together, if no run goes over. -/
theorem runs_append {a b : List Char} (h : Parted a b) :
    runs (a ++ b) = runs a ++ runs b := by
  unfold runs
  rw [parts_append h, List.filterMap_append]

/-- Runs are replaced in two texts apart, if none goes over. -/
theorem mapRuns_append {a b : List Char} (h : Parted a b)
    (f : List Char → List Char) :
    mapRuns f (a ++ b) = mapRuns f a ++ mapRuns f b := by
  unfold mapRuns
  rw [parts_append h, List.flatMap_append]

-- ====================================================== replaced runs

@[simp]
theorem mapRuns_nil (f : List Char → List Char) : mapRuns f [] = [] := by
  simp [mapRuns, parts]

/-- A character that is no separator stays. -/
theorem mapRuns_char (hc : isSeparator c = false) (f : List Char → List Char)
    (cs : List Char) :
    mapRuns f (c :: cs) = c :: mapRuns f cs := by
  unfold mapRuns
  rw [parts_char hc]
  rfl

/-- Separators at the front are replaced with those behind them, as one run. -/
theorem mapRuns_separators (hfilled : run ≠ [])
    (hrun : ∀ c ∈ run, isSeparator c = true) (f : List Char → List Char)
    (cs : List Char) :
    mapRuns f (run ++ cs)
      = f (run ++ cs.takeWhile isSeparator)
          ++ mapRuns f (cs.dropWhile isSeparator) := by
  unfold mapRuns
  rw [parts_separators hfilled hrun]
  rfl

/-- A run at the front is replaced by itself. -/
theorem IsRun.mapRuns_eq (h : IsRun before run after)
    (f : List Char → List Char) :
    mapRuns f (run ++ after) = f run ++ mapRuns f after := by
  unfold mapRuns
  rw [h.parts_eq]
  rfl

section compare

variable {f g : List Char → List Char}
  (h : ∀ run, (g run).length ≤ (f run).length)

include h

/-- Replacing runs by no less never makes the text shorter. -/
theorem length_write_le (parts : List Part) :
    (parts.flatMap (Part.write g)).length
      ≤ (parts.flatMap (Part.write f)).length := by
  induction parts with
  | nil => exact Nat.le_refl _
  | cons part parts ih =>
      have hpart : (part.write g).length ≤ (part.write f).length := by
        cases part with
        | char c => exact Nat.le_refl _
        | run cs => exact h cs
      simp only [List.flatMap_cons, List.length_append]
      omega

/-- Two ways to replace runs, of which one never writes less than the other,
give the same text only if they replace every run alike. -/
theorem mapRuns_eq_iff (text : List Char) :
    mapRuns f text = mapRuns g text ↔ ∀ run ∈ runs text, f run = g run := by
  unfold mapRuns runs
  induction parts text with
  | nil => simp
  | cons part parts ih =>
      cases part with
      | char c => simpa [Part.write, Part.run?, List.filterMap_cons] using ih
      | run cs =>
          simp only [List.flatMap_cons, Part.write, List.filterMap_cons,
            Part.run?, List.forall_mem_cons, ← ih]
          constructor
          · intro heq
            have hlength := congrArg List.length heq
            have hparts := length_write_le h parts
            have hcs := h cs
            simp only [List.length_append] at hlength
            exact List.append_inj heq (by omega)
          · rintro ⟨hcs, hparts⟩
            rw [hcs, hparts]

end compare

-- ====================================================== runs

/-- A character that is no separator adds no run. -/
theorem runs_char (hc : isSeparator c = false) (cs : List Char) :
    runs (c :: cs) = runs cs := by
  unfold runs
  rw [parts_char hc, List.filterMap_cons]
  rfl

/-- A run at the front is the first run. -/
theorem IsRun.runs_eq (h : IsRun before run after) :
    runs (run ++ after) = run :: runs after := by
  unfold runs
  rw [h.parts_eq, List.filterMap_cons]
  rfl

/-- A separator begins a run that takes all separators behind it. -/
theorem runs_separator (hc : isSeparator c = true) (cs : List Char) :
    runs (c :: cs)
      = (c :: cs.takeWhile isSeparator)
          :: runs (cs.dropWhile isSeparator) := by
  rw [← (isRun_takeWhile hc cs).runs_eq, Text.cons_takeWhile_append]

/-- The runs of a text are what stands in it as one. -/
theorem mem_runs :
    run ∈ runs text ↔ ∃ before after, text = before ++ (run ++ after)
      ∧ IsRun before run after := by
  constructor
  · intro h
    fun_induction parts text with
    | case1 => simp [runs, parts] at h
    | case2 c cs hc ih =>
        have hfirst := isRun_takeWhile hc cs
        have hcs := (Text.cons_takeWhile_append isSeparator c cs).symm
        rw [runs_separator hc, List.mem_cons] at h
        rcases h with rfl | h
        · exact ⟨[], _, hcs, hfirst⟩
        · obtain ⟨before, after, hrest, hrun⟩ := ih h
          refine ⟨(c :: cs.takeWhile isSeparator) ++ before, after, ?_, ?_⟩
          · rw [hcs, hrest, List.append_assoc]
          · -- what is left behind a run does not begin with one
            have hbefore : before ≠ [] := by
              rintro rfl
              obtain ⟨d, ds, rfl⟩ := List.exists_cons_of_ne_nil hrun.filled
              have hd := hfirst.back d (by rw [hrest]; rfl)
              rw [hrun.separators d List.mem_cons_self] at hd
              cases hd
            refine ⟨hrun.filled, hrun.separators, ?_, hrun.back⟩
            rw [List.getLast?_append_of_ne_nil _ hbefore]
            exact hrun.front
    | case3 c cs hc ih =>
        rw [runs_char (by simpa using hc)] at h
        obtain ⟨before, after, rfl, hrun⟩ := ih h
        refine ⟨c :: before, after, rfl, hrun.filled, hrun.separators,
          ?_, hrun.back⟩
        intro d hd
        cases before with
        | nil =>
            obtain rfl : c = d := by simpa using hd
            simpa using hc
        | cons e before => exact hrun.front d (by simpa using hd)
  · rintro ⟨before, after, rfl, hrun⟩
    rw [runs_append (.inl hrun.front), hrun.runs_eq]
    simp

end Intake.Chunk
