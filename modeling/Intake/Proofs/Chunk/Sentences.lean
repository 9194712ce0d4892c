/-
Sentences that stay sentences.

Whether a run of marks ends a sentence is settled by the word in front of it,
back to where the sentence begins, and by the first character behind it that is
no white space. White space around a sentence is neither (`isEnd_front_blank`,
`isEnd_append`), so a sentence can be followed from its first character to its
end without what stands around it: `Ends` says how, and names what the last run
asks of the text behind. Any text that begins with white space and then goes on
in lower case only if the one behind did before will do (`Ends.replace`). The
empty text does, which makes every sentence a text of one sentence, and so do a
space and the next sentence, which makes joined sentences fall apart again.

`Sentences` is a text that is read this way from sentence to sentence. Every
text is one, with the sentences that are detected in it.
-/
import Intake.Proofs.Chunk.LeastLength
import Intake.Proofs.Chunk.Paragraphs

namespace Intake.Sentence

open Chunk (spaced weave)
open Text (isWhitespace isBlank trim trimLeft Trimmed)

variable {c : Char}
  {a b cs reversed marks body rest rest' blank s text : List Char}
  {sentences : List (List Char)}

-- ====================================================== runs of marks

/-- Marks are no white space. -/
theorem isWhitespace_of_isTerminator (h : isTerminator c = true) :
    isWhitespace c = false := by
  simp only [isTerminator, Bool.or_eq_true, beq_iff_eq] at h
  rcases h with (rfl | rfl) | rfl <;> decide

/-- What closes is no white space. -/
theorem isWhitespace_of_isCloser (h : isCloser c = true) :
    isWhitespace c = false := by
  simp only [isCloser, closers, List.contains_iff_mem, List.mem_cons,
    List.not_mem_nil, or_false] at h
  rcases h with rfl | rfl | rfl | rfl | rfl | rfl | rfl <;> decide

/-- White space ends no sentence. -/
theorem isTerminator_of_isWhitespace (h : isWhitespace c = true) :
    isTerminator c = false := by
  by_contra hc
  rw [Bool.not_eq_false] at hc
  rw [isWhitespace_of_isTerminator hc] at h
  cases h

/-- White space closes nothing. -/
theorem isCloser_of_isWhitespace (h : isWhitespace c = true) :
    isCloser c = false := by
  by_contra hc
  rw [Bool.not_eq_false] at hc
  rw [isWhitespace_of_isCloser hc] at h
  cases h

/-- A run has no white space. -/
theorem isWhitespace_of_mem_splitRun (h : c ∈ (splitRun cs).1) :
    isWhitespace c = false := by
  unfold splitRun at h
  rcases List.mem_append.mp h with h | h
  · exact
      isWhitespace_of_isTerminator (List.all_eq_true.mp List.all_takeWhile c h)
  · exact isWhitespace_of_isCloser (List.all_eq_true.mp List.all_takeWhile c h)

/-- Marks that end a sentence and marks that close behind them, before a text
that does not begin with more of them. -/
structure Marks (stops shuts behind : List Char) : Prop where
  stop : ∀ c ∈ stops, isTerminator c = true
  shut : ∀ c ∈ shuts, isCloser c = true
  front : ∀ c, (shuts ++ behind).head? = some c → isTerminator c = false
  back : ∀ c, behind.head? = some c → isCloser c = false

/-- The run that is split off has its marks in front and what closes behind
them. -/
theorem marks_splitRun (cs : List Char) :
    Marks (cs.takeWhile isTerminator)
      ((cs.dropWhile isTerminator).takeWhile isCloser)
      (splitRun cs).2 where
  stop := List.all_eq_true.mp List.all_takeWhile
  shut := List.all_eq_true.mp List.all_takeWhile
  front := by
    unfold splitRun
    rw [List.takeWhile_append_dropWhile]
    exact Text.head_dropWhile cs
  back := Text.head_dropWhile _

/-- Splitting off takes all marks at the front and all that closes behind
them. -/
theorem Marks.splitRun_eq {stops shuts behind : List Char}
    (h : Marks stops shuts behind) :
    splitRun ((stops ++ shuts) ++ behind) = (stops ++ shuts, behind) := by
  unfold splitRun
  simp only [List.append_assoc, List.takeWhile_append_of_pos h.stop,
    List.dropWhile_append_of_pos h.stop, Text.takeWhile_eq_nil h.front,
    Text.dropWhile_eq_self h.front, List.append_nil,
    List.takeWhile_append_of_pos h.shut, List.dropWhile_append_of_pos h.shut,
    Text.takeWhile_eq_nil h.back, Text.dropWhile_eq_self h.back]

/-- What stands behind a run may be replaced by a text that begins like it or
with white space. -/
theorem splitRun_replace (h : splitRun (marks ++ a) = (marks, a))
    (hb : ∀ c, b.head? = some c → a.head? = some c ∨ isWhitespace c = true) :
    splitRun (marks ++ b) = (marks, b) := by
  have hrun := marks_splitRun (marks ++ a)
  obtain ⟨hmarks, -⟩ := Prod.mk.inj h
  rw [h] at hrun
  rw [← hmarks]
  apply Marks.splitRun_eq
  refine ⟨hrun.stop, hrun.shut, ?_, ?_⟩
  · intro c hc
    cases hshuts : ((marks ++ a).dropWhile isTerminator).takeWhile
      isCloser with
    | nil =>
        rw [hshuts] at hc
        rcases hb c hc with hc | hc
        · exact hrun.front c (by rw [hshuts]; exact hc)
        · exact isTerminator_of_isWhitespace hc
    | cons d ds =>
        rw [hshuts] at hc
        exact hrun.front c (by rw [hshuts]; exact hc)
  · intro c hc
    rcases hb c hc with hc | hc
    · exact hrun.back c hc
    · exact isCloser_of_isWhitespace hc

-- ====================================================== one step

/-- A run that begins with `c` ends the sentence between these texts. -/
def isEnd (reversed : List Char) (c : Char) (rest : List Char) : Bool :=
  atBoundary rest && !isSuppressed reversed c rest

/-- A run ends the sentence at a boundary, unless it begins with a period that
is held back. -/
theorem isEnd_iff :
    isEnd reversed c rest = true ↔ atBoundary rest = true
      ∧ (c = '.' → isAbbreviation (lastWord reversed) = false
          ∧ isInitial (lastWord reversed) = false
          ∧ continuesLow rest = false) := by
  simp only [isEnd, isSuppressed, Bool.and_eq_true, Bool.not_eq_true',
    Bool.and_eq_false_imp, beq_iff_eq, Bool.or_eq_false_iff, and_assoc]

/-- A run at the front ends the sentence or goes on with it, as a whole. -/
theorem detectFrom_run (hc : isTerminator c = true) (reversed cs : List Char) :
    detectFrom reversed (c :: cs)
      = if isEnd reversed c (splitRun cs).2 then
          trimmed (reversed.reverse ++ c :: (splitRun cs).1)
            ++ detect (splitRun cs).2
        else detectFrom ((splitRun cs).1.reverse ++ c :: reversed)
            (splitRun cs).2 := by
  rw [detectFrom, if_pos hc]
  simp [isEnd, detect]

/-- A character that is no mark belongs to the sentence. -/
theorem detectFrom_char (hc : isTerminator c = false)
    (reversed cs : List Char) :
    detectFrom reversed (c :: cs) = detectFrom (c :: reversed) cs := by
  rw [detectFrom, if_neg (by simp [hc])]

-- ================================================== white space around a text

/-- A trimmed sentence is kept as it is. -/
theorem trimmed_of_trimmed (h : Trimmed s) : trimmed s = [s] := by
  unfold trimmed
  rw [h.isBlank_eq, h.trim_eq]
  rfl

/-- White space in front of a sentence is trimmed. -/
theorem trimmed_blank_append (h : isBlank blank = true) (cs : List Char) :
    trimmed (blank ++ cs) = trimmed cs := by
  unfold trimmed trim
  rw [Text.isBlank_append, h, Bool.true_and, Text.trimLeft_append_of_isBlank h]

/-- White space behind a sentence is trimmed. -/
theorem trimmed_append_blank (h : isBlank blank = true) (cs : List Char) :
    trimmed (cs ++ blank) = trimmed cs := by
  unfold trimmed
  rw [Text.isBlank_append, h, Bool.and_true, Text.trim_append_of_isBlank h]

/-- White space in front of a text, which is reversed, leaves its last word. -/
theorem lastWord_append_blank (h : isBlank blank = true)
    (reversed : List Char) :
    lastWord (reversed ++ blank) = lastWord reversed := by
  have hnone : blank.takeWhile (fun c => !isWhitespace c) = [] := by
    apply Text.takeWhile_eq_nil
    intro c hc
    rw [Text.isBlank_iff.mp h c (List.mem_of_mem_head? hc)]
    rfl
  unfold lastWord
  rw [List.takeWhile_append, hnone]
  split
  · next hall =>
      rw [List.append_nil, (List.takeWhile_prefix _).eq_of_length hall]
  · rfl

/-- White space in front of a sentence does not keep it from ending. -/
theorem isEnd_front_blank (h : isBlank blank = true) (reversed : List Char)
    (c : Char) (rest : List Char) :
    isEnd (reversed ++ blank) c rest = isEnd reversed c rest := by
  unfold isEnd isSuppressed
  rw [lastWord_append_blank h]

/-- The end of a text, with white space or without, is a boundary. -/
theorem atBoundary_of_isBlank (h : isBlank blank = true) :
    atBoundary blank = true := by
  cases blank with
  | nil => rfl
  | cons c cs => exact Text.isBlank_iff.mp h c List.mem_cons_self

/-- No word goes on behind white space alone. -/
theorem continuesLow_of_isBlank (h : isBlank blank = true) :
    continuesLow blank = false := by
  unfold continuesLow
  rw [Text.trimLeft_eq_nil h]
  rfl

/-- The next word is looked for behind the white space. -/
theorem continuesLow_blank_append (h : isBlank blank = true) (cs : List Char) :
    continuesLow (blank ++ cs) = continuesLow cs := by
  unfold continuesLow
  rw [Text.trimLeft_append_of_isBlank h]

/-- A text goes on as its first character that is no white space does. -/
theorem continuesLow_append (h : isBlank cs = false) (rest : List Char) :
    continuesLow (cs ++ rest) = continuesLow cs := by
  induction cs with
  | nil => cases h
  | cons c cs ih =>
      by_cases hc : isWhitespace c = true
      · have hblank : isBlank [c] = true := by simp [isBlank, hc]
        have hcs : isBlank cs = false := by
          rw [← List.singleton_append, Text.isBlank_append, hblank,
            Bool.true_and] at h
          exact h
        have hfront := continuesLow_blank_append hblank (cs ++ rest)
        rw [ih hcs, ← continuesLow_blank_append hblank cs] at hfront
        exact hfront
      · unfold continuesLow trimLeft
        rw [List.cons_append, List.dropWhile_cons_of_neg hc,
          List.dropWhile_cons_of_neg hc]
        rfl

/-- Behind a text that is not blank, and before white space, nothing counts. -/
theorem isEnd_append (h : isBlank body = false ∨ isBlank rest = true)
    (reversed : List Char) (c : Char) :
    isEnd reversed c (body ++ rest) = isEnd reversed c body := by
  have hboundary : atBoundary (body ++ rest) = atBoundary body := by
    cases body with
    | nil => exact atBoundary_of_isBlank (h.resolve_left nofun)
    | cons d ds => rfl
  have hlow : continuesLow (body ++ rest) = continuesLow body := by
    by_cases hbody : isBlank body = false
    · exact continuesLow_append hbody rest
    · have hrest := h.resolve_left hbody
      rw [Bool.not_eq_false] at hbody
      rw [continuesLow_blank_append hbody, continuesLow_of_isBlank hbody,
        continuesLow_of_isBlank hrest]
  unfold isEnd isSuppressed
  rw [hboundary, hlow]

/-- White space behind a text is no part of the run at its front. -/
theorem splitRun_append_blank (h : isBlank blank = true) (cs : List Char) :
    splitRun (cs ++ blank) = ((splitRun cs).1, (splitRun cs).2 ++ blank) := by
  have hrun : splitRun ((splitRun cs).1 ++ (splitRun cs).2)
      = ((splitRun cs).1, (splitRun cs).2) := by
    rw [splitRun_append]
  conv_lhs => rw [← splitRun_append cs, List.append_assoc]
  apply splitRun_replace hrun
  intro c hc
  rw [List.head?_append, Option.or_eq_some_iff] at hc
  rcases hc with hc | ⟨-, hc⟩
  · exact .inl hc
  · exact .inr (Text.isBlank_iff.mp h c (List.mem_of_mem_head? hc))

/-- White space is no part of a run. -/
theorem detectFrom_blank_append (h : isBlank blank = true)
    (reversed cs : List Char) :
    detectFrom reversed (blank ++ cs)
      = detectFrom (blank.reverse ++ reversed) cs := by
  induction blank generalizing reversed with
  | nil => rfl
  | cons c blank ih =>
      obtain ⟨hc, hblank⟩ := List.forall_mem_cons.mp (Text.isBlank_iff.mp h)
      rw [List.cons_append, detectFrom_char (isTerminator_of_isWhitespace hc),
        ih (Text.isBlank_iff.mpr hblank)]
      simp

/-- White space in front of a sentence that was begun makes no difference. -/
theorem detectFrom_front_blank (h : isBlank blank = true)
    (reversed cs : List Char) :
    detectFrom (reversed ++ blank) cs = detectFrom reversed cs := by
  have hfront : isBlank blank.reverse = true := by rw [Text.isBlank_reverse, h]
  fun_induction detectFrom reversed cs with
  | case1 reversed =>
      rw [detectFrom, List.reverse_append, trimmed_blank_append hfront]
  | case2 reversed c cs hc run reversed' hends ih =>
      have hend : isEnd reversed c (splitRun cs).2 = true := hends
      rw [detectFrom_run hc, isEnd_front_blank h, if_pos hend,
        List.reverse_append, List.append_assoc, trimmed_blank_append hfront]
      simp [reversed', run, detect]
  | case3 reversed c cs hc run reversed' hgoes ih =>
      have hend : ¬isEnd reversed c (splitRun cs).2 = true := hgoes
      rw [detectFrom_run hc, isEnd_front_blank h, if_neg hend, ← ih]
      simp [reversed', run]
  | case4 reversed c cs hc ih =>
      rw [detectFrom_char (by simpa using hc)]
      exact ih

/-- White space behind a text makes no difference. -/
theorem detectFrom_append_blank (h : isBlank blank = true)
    (reversed cs : List Char) :
    detectFrom reversed (cs ++ blank) = detectFrom reversed cs := by
  fun_induction detectFrom reversed cs with
  | case1 reversed =>
      rw [List.nil_append, ← List.append_nil blank, detectFrom_blank_append h,
        detectFrom, List.reverse_append, List.reverse_reverse,
        trimmed_append_blank h]
  | case2 reversed c cs hc run reversed' hends ih =>
      have hend : isEnd reversed c (splitRun cs).2 = true := hends
      rw [List.cons_append, detectFrom_run hc, splitRun_append_blank h,
        isEnd_append (.inr h), if_pos hend]
      simp [reversed', run, detect, ih]
  | case3 reversed c cs hc run reversed' hgoes ih =>
      have hend : ¬isEnd reversed c (splitRun cs).2 = true := hgoes
      rw [List.cons_append, detectFrom_run hc, splitRun_append_blank h,
        isEnd_append (.inr h), if_neg hend, ← ih]
  | case4 reversed c cs hc ih =>
      rw [List.cons_append, detectFrom_char (by simpa using hc), ih]

/-- White space in front of a text makes no difference to its sentences. -/
theorem detect_blank_append (h : isBlank blank = true) (cs : List Char) :
    detect (blank ++ cs) = detect cs := by
  unfold detect
  rw [detectFrom_blank_append h, List.append_nil,
    ← List.nil_append blank.reverse,
    detectFrom_front_blank (by rw [Text.isBlank_reverse, h])]

/-- White space behind a text makes no difference to its sentences. -/
theorem detect_append_blank (h : isBlank blank = true) (cs : List Char) :
    detect (cs ++ blank) = detect cs :=
  detectFrom_append_blank h [] cs

theorem detect_nil : detect [] = [] := by
  unfold detect
  rw [detectFrom]
  rfl

/-- There are no sentences in a blank text. -/
theorem detect_of_isBlank (h : isBlank blank = true) : detect blank = [] := by
  rw [← List.append_nil blank, detect_blank_append h, detect_nil]

-- ====================================================== one sentence

/-- From the reversed front of a sentence on it ends behind `body`, before
`rest`: no run within the body ends it, and the last one does. -/
inductive Ends : List Char → List Char → List Char → Prop
  | run {reversed marks rest : List Char} {c : Char} :
      isTerminator c = true → splitRun marks = (marks, []) →
      isEnd reversed c rest = true → Ends reversed (c :: marks) rest
  | past {reversed marks body rest : List Char} {c : Char} :
      isTerminator c = true → splitRun (marks ++ body) = (marks, body) →
      isEnd reversed c body = false →
      Ends (marks.reverse ++ c :: reversed) body rest →
      Ends reversed (c :: (marks ++ body)) rest
  | char {reversed body rest : List Char} {c : Char} :
      isTerminator c = false → Ends (c :: reversed) body rest →
      Ends reversed (c :: body) rest

namespace Ends

/-- A sentence ends at a boundary. -/
theorem boundary (h : Ends reversed body rest) : atBoundary rest = true := by
  induction h with
  | run hc hmarks hend =>
      exact (isEnd_iff.mp hend).1
  | past hc hmarks hgoes h ih => exact ih
  | char hc h ih => exact ih

/-- A sentence has at least its marks, so it is not blank. -/
theorem isBlank_eq (h : Ends reversed body rest) : isBlank body = false := by
  induction h with
  | run hc hmarks hend => simp [isBlank, isWhitespace_of_isTerminator hc]
  | past hc hmarks hgoes h ih =>
      simp [isBlank, isWhitespace_of_isTerminator hc]
  | char hc h ih =>
      unfold isBlank at ih ⊢
      rw [List.all_cons, ih, Bool.and_false]

theorem ne_nil (h : Ends reversed body rest) : body ≠ [] := by
  rintro rfl
  cases h

/-- A sentence ends with its last mark. -/
theorem back (h : Ends reversed body rest) :
    ∀ c, body.getLast? = some c → isWhitespace c = false := by
  induction h with
  | @run reversed marks rest c hc hmarks hend =>
      intro d hd
      rcases List.mem_cons.mp (List.mem_of_getLast? hd) with rfl | hd
      · exact isWhitespace_of_isTerminator hc
      · apply @isWhitespace_of_mem_splitRun d marks
        rw [hmarks]
        exact hd
  | @past reversed marks body rest c hc hmarks hgoes h ih =>
      rw [← List.cons_append, List.getLast?_append_of_ne_nil _ h.ne_nil]
      exact ih
  | @char reversed body rest c hc h ih =>
      rw [← List.singleton_append, List.getLast?_append_of_ne_nil _ h.ne_nil]
      exact ih

/-- What comes behind a sentence does not change where it begins. -/
theorem head?_append (h : Ends reversed body rest) (cs : List Char) :
    (body ++ cs).head? = body.head? :=
  List.head?_append_of_ne_nil _ h.ne_nil

/-- A sentence that ends is detected, and what comes behind it starts anew. -/
theorem detectFrom_eq (h : Ends reversed body rest) :
    detectFrom reversed (body ++ rest)
      = trimmed (reversed.reverse ++ body) ++ detect rest := by
  induction h with
  | @run reversed marks rest c hc hmarks hend =>
      have hmarks' : splitRun (marks ++ []) = (marks, []) := by
        rw [List.append_nil, hmarks]
      have hrun : splitRun (marks ++ rest) = (marks, rest) := by
        apply splitRun_replace hmarks'
        intro d hd
        have hboundary := (Ends.run hc hmarks hend).boundary
        cases rest with
        | nil => cases hd
        | cons e es => exact .inr (Option.some.inj hd ▸ hboundary)
      rw [List.cons_append, detectFrom_run hc, hrun, if_pos hend]
  | @past reversed marks body rest c hc hmarks hgoes h ih =>
      have hrun : splitRun (marks ++ (body ++ rest)) = (marks, body ++ rest) :=
        splitRun_replace hmarks fun d hd => .inl (h.head?_append rest ▸ hd)
      have hend : ¬isEnd reversed c (body ++ rest) = true := by
        rw [isEnd_append (.inl h.isBlank_eq), hgoes]
        exact nofun
      rw [List.cons_append, List.append_assoc, detectFrom_run hc, hrun,
        if_neg hend, ih]
      simp
  | @char reversed body rest c hc h ih =>
      rw [List.cons_append, detectFrom_char hc, ih]
      simp

/-- A trimmed sentence that ends is detected, and the others are found behind
it. -/
theorem detect_eq (h : Ends [] body rest) (hbody : Trimmed body) :
    detect (body ++ rest) = body :: detect rest := by
  unfold detect
  rw [h.detectFrom_eq, List.reverse_nil, List.nil_append,
    trimmed_of_trimmed hbody]
  rfl

/-- What comes behind a sentence may be replaced, unless this goes on in lower
case where it did not before. -/
theorem replace (h : Ends reversed body rest)
    (hboundary : atBoundary rest' = true)
    (hlow : continuesLow rest' = true → continuesLow rest = true) :
    Ends reversed body rest' := by
  induction h with
  | @run reversed marks rest c hc hmarks hend =>
      obtain ⟨-, hword⟩ := isEnd_iff.mp hend
      refine .run hc hmarks (isEnd_iff.mpr ⟨hboundary, fun hstop => ?_⟩)
      obtain ⟨habbreviation, hinitial, hrest⟩ := hword hstop
      refine ⟨habbreviation, hinitial, ?_⟩
      by_contra hcontinues
      rw [Bool.not_eq_false] at hcontinues
      rw [hlow hcontinues] at hrest
      cases hrest
  | past hc hmarks hgoes h ih => exact .past hc hmarks hgoes (ih hlow)
  | char hc h ih => exact .char hc (ih hlow)

end Ends

/-- No sentence ends in a text, or there is a first one that does. -/
theorem whole_or_ends (reversed cs : List Char) :
    detectFrom reversed cs = trimmed (reversed.reverse ++ cs)
      ∨ ∃ body rest, cs = body ++ rest ∧ Ends reversed body rest := by
  fun_induction detectFrom reversed cs with
  | case1 reversed => exact .inl (by rw [List.append_nil])
  | case2 reversed c cs hc run reversed' hends ih =>
      right
      have hrun : splitRun (run.1 ++ run.2) = (run.1, run.2) := by
        rw [splitRun_append]
      have hmarks : splitRun (run.1 ++ []) = (run.1, []) :=
        splitRun_replace hrun fun d hd => by cases hd
      rw [List.append_nil] at hmarks
      refine ⟨c :: run.1, run.2, ?_, .run hc hmarks hends⟩
      rw [List.cons_append, splitRun_append]
  | case3 reversed c cs hc run reversed' hgoes ih =>
      have hcs : cs = run.1 ++ run.2 := (splitRun_append cs).symm
      have hrun : splitRun (run.1 ++ run.2) = (run.1, run.2) := by rw [← hcs]
      -- the run goes by, and what becomes of the text behind it becomes of
      -- this one
      rcases ih with ih | ⟨body, rest, hrest, hends⟩
      · left
        rw [ih]
        simp [reversed', hcs]
      · right
        rw [hrest] at hrun hcs hgoes
        have hmarks : splitRun (run.1 ++ body) = (run.1, body) :=
          splitRun_replace hrun fun d hd => .inl (hends.head?_append rest ▸ hd)
        have hend : isEnd reversed c (body ++ rest) = false :=
          Bool.eq_false_iff.mpr hgoes
        rw [isEnd_append (.inl hends.isBlank_eq)] at hend
        refine ⟨c :: (run.1 ++ body), rest, ?_, .past hc hmarks hend hends⟩
        rw [hcs, List.cons_append, List.append_assoc]
  | case4 reversed c cs hc ih =>
      rcases ih with ih | ⟨body, rest, rfl, hends⟩
      · left
        rw [ih]
        simp
      · exact .inr ⟨c :: body, rest, rfl, .char (by simpa using hc) hends⟩

-- ====================================================== sentence by sentence

/-- A text with its sentences: white space in front of each, and behind it
white space only or its end, seen from where it begins. -/
inductive Sentences : List Char → List (List Char) → Prop
  | blank {text : List Char} : isBlank text = true → Sentences text []
  | cons {front s rest : List Char} {sentences : List (List Char)} :
      isBlank front = true → Trimmed s → detect s = [s] →
      isBlank rest = true ∨ Ends [] s rest → Sentences rest sentences →
      Sentences (front ++ (s ++ rest)) (s :: sentences)

/-- Detecting gives the sentences of a text. -/
theorem sentences_detect (text : List Char) :
    Sentences text (detect text) := by
  -- what is left behind a sentence is a shorter text, read from its own
  -- beginning
  induction hn : text.length
    using Nat.strong_induction_on generalizing text with
  | _ n ih =>
    by_cases hblank : isBlank text = true
    · rw [detect_of_isBlank hblank]
      exact .blank hblank
    · obtain ⟨front, back, htext, hfront, hback⟩ := Text.exists_trim text
      have htrimmed : Trimmed (trim text) :=
        Text.trimmed_trim (by simpa using hblank)
      generalize trim text = s at htext htrimmed
      subst htext
      rw [detect_blank_append hfront]
      rcases whole_or_ends [] (s ++ back) with
        hwhole | ⟨body, rest, heq, hends⟩
      · have hdetect : detect (s ++ back) = [s] := by
          rw [detect, hwhole, List.reverse_nil, List.nil_append,
            trimmed_append_blank hback, trimmed_of_trimmed htrimmed]
        rw [hdetect]
        rw [detect_append_blank hback] at hdetect
        exact .cons hfront htrimmed hdetect (.inl hback) (.blank hback)
      · have hbody : Trimmed body := by
          refine ⟨hends.ne_nil, ?_, hends.back⟩
          rw [← hends.head?_append rest, ← heq,
            List.head?_append_of_ne_nil _ htrimmed.filled]
          exact htrimmed.front
        have halone : detect body = [body] := by
          have hlast : Ends [] body [] := hends.replace rfl nofun
          have hdetect := hlast.detect_eq hbody
          rw [List.append_nil, detect_nil] at hdetect
          exact hdetect
        have hlength := congrArg List.length heq
        have hfilled := List.length_pos_of_ne_nil hends.ne_nil
        simp only [List.length_append] at hn hlength
        rw [heq, hends.detect_eq hbody]
        exact .cons hfront hbody halone (.inr hends)
          (ih rest.length (by omega) rest rfl)

namespace Sentences

/-- Only white space is left out, in front of each sentence and at the end. -/
theorem woven (h : Sentences text sentences) :
    ∃ gaps, gaps.length = sentences.length + 1
      ∧ (∀ gap ∈ gaps, isBlank gap = true)
      ∧ weave gaps sentences = text := by
  induction h with
  | @blank text hblank => exact ⟨[text], rfl, by simpa using hblank, by simp⟩
  | @cons front s rest sentences hfront hs halone hrest h ih =>
      obtain ⟨gaps, hlength, hgaps, hweave⟩ := ih
      refine ⟨front :: gaps, ?_, List.forall_mem_cons.mpr ⟨hfront, hgaps⟩, ?_⟩
      · rw [List.length_cons, List.length_cons, hlength]
      · rw [Chunk.weave_cons_cons, hweave]

/-- Each sentence alone is one sentence again. -/
theorem alone (h : Sentences text sentences) :
    ∀ s ∈ sentences, detect s = [s] := by
  induction h with
  | blank hblank => exact nofun
  | cons hfront hs halone hrest h ih =>
      exact List.forall_mem_cons.mpr ⟨halone, ih⟩

/-- A text with sentences is not blank. -/
theorem isBlank_eq (h : Sentences text (s :: sentences)) :
    isBlank text = false := by
  cases h with
  | cons hfront hs halone hrest h =>
      rw [Text.isBlank_append, Text.isBlank_append, hs.isBlank_eq]
      simp

/-- Joined sentences go on as the text that they are from. -/
theorem continuesLow_spaced (h : Sentences text (s :: sentences)) :
    continuesLow (spaced (s :: sentences)) = continuesLow text := by
  cases h with
  | cons hfront hs halone hrest h =>
      rw [continuesLow_blank_append hfront, continuesLow_append hs.isBlank_eq]
      cases sentences with
      | nil => simp [spaced]
      | cons next others =>
          rw [Chunk.spaced_cons_cons, continuesLow_append hs.isBlank_eq]

/-- Joined sentences are detected as they were. -/
theorem rejoined (h : Sentences text sentences) :
    detect (spaced sentences) = sentences := by
  induction h with
  | blank hblank => exact detect_nil
  | @cons front s rest sentences hfront hs halone hrest h ih =>
      cases sentences with
      | nil => simpa [spaced] using halone
      | cons next others =>
          have hspace : isBlank [' '] = true := by decide
          have hends : Ends [] s rest := by
            rw [h.isBlank_eq] at hrest
            exact hrest.resolve_left Bool.false_ne_true
          have hlow :=
            continuesLow_blank_append hspace (spaced (next :: others))
          rw [h.continuesLow_spaced] at hlow
          -- behind the space stands what stood behind the white space of the
          -- text
          have hends' : Ends [] s ([' '] ++ spaced (next :: others)) :=
            hends.replace rfl fun hcontinues => hlow ▸ hcontinues
          rw [Chunk.spaced_cons_cons]
          have hdetect := hends'.detect_eq hs
          rw [detect_blank_append hspace, ih] at hdetect
          exact hdetect

end Sentences

/-- The sentences of a text are trimmed, stand in it in their order with
nothing but white space around them, and are detected again: in all of them
joined by spaces, and each of them alone. -/
theorem detect_stable (text : List Char) :
    (∀ sentence ∈ detect text, Trimmed sentence)
      ∧ (∃ gaps, gaps.length = (detect text).length + 1
          ∧ (∀ gap ∈ gaps, isBlank gap = true)
          ∧ weave gaps (detect text) = text)
      ∧ detect (spaced (detect text)) = detect text
      ∧ ∀ sentence ∈ detect text, detect sentence = [sentence] := by
  have h := sentences_detect text
  exact ⟨fun _ => trimmed_of_mem_detect, h.woven, h.rejoined, h.alone⟩

-- the initial and the word in lower case end no sentence, alone or joined
example : detect "\tJ. Doe came.)  Why?! He\nleft. for good.".toList
    = ["J. Doe came.)".toList, "Why?!".toList,
        "He\nleft. for good.".toList] := by
  decide +kernel

end Intake.Sentence
