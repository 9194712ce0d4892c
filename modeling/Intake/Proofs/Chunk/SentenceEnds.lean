/-
Which runs of marks end a sentence.

The scan comes to every run of marks at its beginning, whatever it has detected
before (`reaches`): a run is never entered in the middle, since no mark closes
and no closing quote or bracket is a mark. Nor does it matter where the current
sentence began, since a sentence begins with white space or with the text and
the last word in front of a run does not reach over white space. So whether a
run ends a sentence is seen from the whole text (`WholeRun.detect_eq`).

`EndsBetween` says where a sentence ends by the places of all of them. If the
run ends a sentence, the text falls apart there. If it is held back and
something other than white space follows, the sentence that has begun goes over
the place, and by their ink no row of sentences comes to its end there.
-/
import Intake.Proofs.Chunk.Sentences

namespace Intake.Sentence

open Chunk (weave)
open Text (isWhitespace isBlank trim Trimmed ink)

variable {c : Char}
  {a b cs reversed front stops marks shuts behind text : List Char}

-- ====================================================== statement vocabulary

/-- A run of marks with what closes behind it, where it stands in a text: there
are no more marks in front of it or behind it. -/
structure WholeRun (front stops shuts behind : List Char) : Prop where
  marks : Marks stops shuts behind
  filled : stops ≠ []
  before : ∀ c, front.getLast? = some c → isTerminator c = false

/-- A sentence ends between two texts: up to this one the sentences lie in the
front, with white space before each and nothing behind the last, and the others
lie in the text behind. -/
def EndsBetween (front behind : List Char) : Prop :=
  ∃ before s after gaps later, detect (front ++ behind) = before ++ s :: after
    ∧ gaps.length = before.length + 1 ∧ later.length = after.length + 1
    ∧ (∀ gap ∈ gaps ++ later, isBlank gap = true)
    ∧ weave gaps (before ++ [s]) = front ∧ weave later after = behind

/-- The run begins with a full stop behind an abbreviation or an initial, or
before a word in lower case. -/
def HeldBack (front stops behind : List Char) : Prop :=
  stops.head? = some '.'
    ∧ (isAbbreviation (lastWord front.reverse) = true
      ∨ isInitial (lastWord front.reverse) = true ∨ continuesLow behind = true)

-- ====================================================== the last word

/-- Of the text in front, only its last word matters to whether a run ends the
sentence. -/
theorem isEnd_congr (h : lastWord a = lastWord b) (c : Char)
    (rest : List Char) :
    isEnd a c rest = isEnd b c rest := by
  unfold isEnd isSuppressed
  rw [h]

/-- The last word is told by what stands behind some white space. -/
theorem lastWord_append_of_mem (hc : isWhitespace c = true) (h : c ∈ a)
    (b : List Char) :
    lastWord (a ++ b) = lastWord a := by
  unfold lastWord
  rw [List.takeWhile_append, if_neg]
  intro hlength
  have hall :=
    (List.takeWhile_prefix fun c => !isWhitespace c).eq_of_length hlength
  rw [List.takeWhile_eq_self_iff] at hall
  have hnot := hall c h
  rw [hc] at hnot
  cases hnot

/-- At a boundary a run ends the sentence unless it is held back, which its
first mark decides. -/
theorem isEnd_eq_true_iff (hboundary : atBoundary behind = true) :
    isEnd front.reverse c behind = true
      ↔ ¬HeldBack front (c :: marks) behind := by
  rw [isEnd_iff]
  simp [HeldBack, hboundary]

-- ====================================================== reaching a run

/-- No mark is read as something that closes. -/
theorem isCloser_of_isTerminator (h : isTerminator c = true) :
    isCloser c = false := by
  simp only [isTerminator, Bool.or_eq_true, beq_iff_eq] at h
  rcases h with (rfl | rfl) | rfl <;> decide

/-- What is left behind a run ends as the text does. -/
theorem getLast?_splitRun
    (h : ∀ d, cs.getLast? = some d → isTerminator d = false) :
    ∀ d, (splitRun cs).2.getLast? = some d → isTerminator d = false := by
  intro d hd
  apply h d
  rw [← splitRun_append cs, List.getLast?_append, hd]
  rfl

/-- A run in front of another one is read as if the text ended in between. -/
theorem splitRun_append_run (hc : isTerminator c = true) (hcs : cs ≠ [])
    (hback : ∀ d, cs.getLast? = some d → isTerminator d = false)
    (rest : List Char) :
    splitRun (cs ++ c :: rest)
      = ((splitRun cs).1, (splitRun cs).2 ++ c :: rest) := by
  have hmarks := marks_splitRun cs
  have hsplit :
      (cs.dropWhile isTerminator).takeWhile isCloser ++ (splitRun cs).2
        = cs.dropWhile isTerminator := List.takeWhile_append_dropWhile
  have hfilled : cs.dropWhile isTerminator ≠ [] := by
    intro hnil
    obtain ⟨d, hd⟩ :=
      Option.ne_none_iff_exists'.mp (mt List.getLast?_eq_none_iff.mp hcs)
    have hall := List.dropWhile_eq_nil_iff.mp hnil d (List.mem_of_getLast? hd)
    rw [hback d hd] at hall
    cases hall
  have hafter : Marks (cs.takeWhile isTerminator)
      ((cs.dropWhile isTerminator).takeWhile isCloser)
        ((splitRun cs).2 ++ c :: rest) := by
    refine ⟨hmarks.stop, hmarks.shut, ?_, ?_⟩
    · intro d hd
      apply hmarks.front d
      rw [← List.append_assoc, hsplit,
        List.head?_append_of_ne_nil _ hfilled] at hd
      rw [hsplit]
      exact hd
    · intro d hd
      rw [List.head?_append, Option.or_eq_some_iff] at hd
      rcases hd with hd | ⟨-, hd⟩
      · exact hmarks.back d hd
      · exact Option.some.inj hd ▸ isCloser_of_isTerminator hc
  calc splitRun (cs ++ c :: rest)
      = splitRun ((splitRun cs).1 ++ ((splitRun cs).2 ++ c :: rest)) := by
        rw [← List.append_assoc, splitRun_append]
    _ = ((splitRun cs).1, (splitRun cs).2 ++ c :: rest) := hafter.splitRun_eq

/-- What becomes of a run in front of another one is settled before that. -/
theorem detectFrom_run_append (hc : isTerminator c = true) {d : Char}
    (hd : isTerminator d = true) (hcs : cs ≠ [])
    (hback : ∀ d, cs.getLast? = some d → isTerminator d = false)
    (reversed rest : List Char) :
    detectFrom reversed (d :: cs ++ c :: rest)
      = if isEnd reversed d ((splitRun cs).2 ++ [c]) then
          trimmed (reversed.reverse ++ d :: (splitRun cs).1)
            ++ detect ((splitRun cs).2 ++ c :: rest)
        else detectFrom ((splitRun cs).1.reverse ++ d :: reversed)
          ((splitRun cs).2 ++ c :: rest) := by
  have hblank : isBlank ((splitRun cs).2 ++ [c]) = false := by
    rw [Text.isBlank_append]
    simp [isBlank, isWhitespace_of_isTerminator hc]
  have hend : isEnd reversed d ((splitRun cs).2 ++ c :: rest)
      = isEnd reversed d ((splitRun cs).2 ++ [c]) := by
    rw [← List.singleton_append, ← List.append_assoc]
    exact isEnd_append (.inl hblank) reversed d
  rw [List.cons_append, detectFrom_run hd, splitRun_append_run hc hcs hback,
    hend]

/-- Before a run that is reached at a boundary stands white space, and the last
word stands behind it. -/
theorem lastWord_boundary (hc : isTerminator c = true)
    (h : atBoundary (cs ++ [c]) = true) (reversed : List Char) :
    lastWord (cs.reverse ++ reversed) = lastWord cs.reverse := by
  cases cs with
  | nil =>
      have hspace : isWhitespace c = true := h
      rw [isWhitespace_of_isTerminator hc] at hspace
      cases hspace
  | cons e es =>
      have hspace : isWhitespace e = true := h
      exact lastWord_append_of_mem hspace (by simp) reversed

/-- The scan comes to a run at its beginning. What has been detected by then
and the sentence that has begun are told by the text in front, and the last
word of that sentence is the last word of the text. -/
theorem reaches (hc : isTerminator c = true)
    (hfront : ∀ d, front.getLast? = some d → isTerminator d = false)
    (reversed : List Char) :
    ∃ done current, lastWord current = lastWord (front.reverse ++ reversed)
      ∧ ∀ rest, detectFrom reversed (front ++ c :: rest)
          = done ++ detectFrom current (c :: rest) := by
  induction hn : front.length
    using Nat.strong_induction_on generalizing front reversed with
  | _ n ih =>
    cases front with
    | nil => exact ⟨[], reversed, rfl, fun _ => rfl⟩
    | cons d ds =>
        rw [List.length_cons] at hn
        have hds : ∀ e, ds.getLast? = some e → isTerminator e = false := by
          intro e he
          apply hfront e
          rw [List.getLast?_cons, he]
          rfl
        by_cases hd : isTerminator d = true
        · have hfilled : ds ≠ [] := by
            rintro rfl
            rw [hfront d rfl] at hd
            cases hd
          have hlength := length_splitRun ds
          have hback := getLast?_splitRun hds
          have hword : (d :: ds).reverse ++ reversed
              = (splitRun ds).2.reverse
                  ++ ((splitRun ds).1.reverse ++ d :: reversed) := by
            conv_lhs => rw [← splitRun_append ds]
            simp
          by_cases hends : isEnd reversed d ((splitRun ds).2 ++ [c]) = true
          · obtain ⟨done, current, hlast, hdetect⟩ :=
              ih (splitRun ds).2.length (by omega) hback [] rfl
            refine ⟨trimmed (reversed.reverse ++ d :: (splitRun ds).1) ++ done,
              current, ?_, ?_⟩
            · rw [hlast, List.append_nil, hword,
                lastWord_boundary hc (isEnd_iff.mp hends).1]
            · intro rest
              rw [detectFrom_run_append hc hd hfilled hds, if_pos hends,
                detect, hdetect, List.append_assoc]
          · obtain ⟨done, current, hlast, hdetect⟩ :=
              ih (splitRun ds).2.length (by omega) hback
                ((splitRun ds).1.reverse ++ d :: reversed) rfl
            refine ⟨done, current, by rw [hlast, hword], fun rest => ?_⟩
            rw [detectFrom_run_append hc hd hfilled hds, if_neg hends, hdetect]
        · obtain ⟨done, current, hlast, hdetect⟩ :=
            ih ds.length (by omega) hds (d :: reversed) rfl
          refine ⟨done, current, ?_, fun rest => ?_⟩
          · rw [hlast, List.reverse_cons, List.append_assoc]
            rfl
          · rw [List.cons_append, detectFrom_char (by simpa using hd), hdetect]

-- ====================================================== the run itself

/-- The sentence that has begun before a run and the run with it is a sentence
of its own, or goes on behind the run. -/
theorem WholeRun.detect_eq (h : WholeRun front (c :: marks) shuts behind) :
    ∃ done begun, isBlank begun = false
      ∧ detect (front ++ (c :: marks ++ shuts)) = done ++ trimmed begun
      ∧ detect (front ++ (c :: marks ++ shuts) ++ behind)
        = done ++ if isEnd front.reverse c behind then
            trimmed begun ++ detect behind
            else detectFrom begun.reverse behind := by
  obtain ⟨hc, hstop⟩ := List.forall_mem_cons.mp h.marks.stop
  obtain ⟨done, current, hlast, hdetect⟩ := reaches hc h.before []
  rw [List.append_nil] at hlast
  have hrun : splitRun ((marks ++ shuts) ++ behind)
      = (marks ++ shuts, behind) :=
    Marks.splitRun_eq ⟨hstop, h.marks.shut, h.marks.front, h.marks.back⟩
  have halone : splitRun (marks ++ shuts) = (marks ++ shuts, []) := by
    have hnone : splitRun ((marks ++ shuts) ++ []) = (marks ++ shuts, []) :=
      splitRun_replace hrun fun d hd => by cases hd
    rwa [List.append_nil] at hnone
  refine ⟨done, current.reverse ++ c :: (marks ++ shuts), ?_, ?_, ?_⟩
  · rw [Text.isBlank_append]
    simp [isBlank, isWhitespace_of_isTerminator hc]
  · show detectFrom [] (front ++ c :: (marks ++ shuts)) = _
    rw [hdetect, detectFrom_run hc, halone]
    dsimp only
    rw [detect_nil, List.append_nil, detectFrom]
    simp
  · have htext : front ++ (c :: marks ++ shuts) ++ behind
        = front ++ c :: ((marks ++ shuts) ++ behind) := by simp
    rw [htext, detect, hdetect, detectFrom_run hc, hrun]
    dsimp only
    rw [isEnd_congr hlast]
    simp [detect]

-- ====================================================== where a sentence ends

/-- Woven into blank gaps, texts keep their ink. -/
theorem ink_weave {gaps : List (List Char)}
    (hgaps : ∀ gap ∈ gaps, isBlank gap = true) (texts : List (List Char)) :
    ink (weave gaps texts) = ink texts.flatten := by
  induction gaps generalizing texts with
  | nil => rw [Chunk.weave_nil_left]
  | cons gap gaps ih =>
      obtain ⟨hgap, hrest⟩ := List.forall_mem_cons.mp hgaps
      cases texts with
      | nil =>
          rw [Chunk.weave_nil_right]
          apply Text.ink_of_isBlank
          rw [Text.isBlank_iff]
          intro c hc
          obtain ⟨gap', hgap', hc⟩ := List.mem_flatten.mp hc
          exact Text.isBlank_iff.mp (hgaps gap' hgap') c hc
      | cons text texts =>
          rw [Chunk.weave_cons_cons, Text.ink_append, Text.ink_append,
            ih hrest, Text.ink_of_isBlank hgap, List.flatten_cons,
            Text.ink_append, List.nil_append]

/-- The last text of a weave stands at its end. -/
theorem weave_concat {as bs : List (List Char)} (h : as.length = bs.length)
    (a : List Char) :
    weave (as ++ [a]) bs = weave as bs ++ a := by
  induction as generalizing bs with
  | nil =>
      cases List.length_eq_zero_iff.mp h.symm
      simp
  | cons b as ih =>
      cases bs with
      | nil => cases h
      | cons d bs =>
          rw [List.cons_append, Chunk.weave_cons_cons, Chunk.weave_cons_cons,
            ih (Nat.succ.inj h), List.append_assoc, List.append_assoc]

/-- A text without ink is blank. -/
theorem isBlank_of_ink (h : ink cs = []) : isBlank cs = true := by
  rw [Text.isBlank_iff]
  intro c hc
  simpa using List.filter_eq_nil_iff.mp h c hc

/-- A text without sentences is blank. -/
theorem isBlank_of_detect (h : detect text = []) : isBlank text = true := by
  apply isBlank_of_ink
  rw [← ink_detect, h]
  rfl

/-- Where a text falls apart behind a mark a sentence ends. -/
theorem endsBetween_of_detect (ha : isBlank a = false)
    (hback : ∀ c, a.getLast? = some c → isWhitespace c = false)
    (h : detect (a ++ b) = detect a ++ detect b) : EndsBetween a b := by
  obtain ⟨gaps, hlength, hgaps, hweave⟩ := (sentences_detect a).woven
  obtain ⟨later, hlater, hblank, hbehind⟩ := (sentences_detect b).woven
  have hsome : detect a ≠ [] := by
    intro hnil
    rw [isBlank_of_detect hnil] at ha
    cases ha
  obtain ⟨before, s, hs⟩ :=
    (List.eq_nil_or_concat' (detect a)).resolve_left hsome
  obtain ⟨fronts, last, rfl⟩ := (List.eq_nil_or_concat' gaps).resolve_left (by
    rintro rfl
    cases hlength)
  rw [List.length_append, List.length_singleton,
    Nat.add_right_cancel_iff] at hlength
  rw [weave_concat hlength] at hweave
  -- behind the last sentence of the front nothing is left
  have hlast : last = [] := by
    by_contra hfilled
    obtain ⟨c, hc⟩ :=
      Option.ne_none_iff_exists'.mp (mt List.getLast?_eq_none_iff.mp hfilled)
    have hspace :=
      Text.isBlank_iff.mp (hgaps last (by simp)) c (List.mem_of_getLast? hc)
    rw [hback c (by rw [← hweave, List.getLast?_append, hc]; rfl)] at hspace
    cases hspace
  rw [hlast, List.append_nil, hs] at hweave
  refine
    ⟨before, s, detect b, fronts, later, ?_, ?_, hlater, ?_, hweave, hbehind⟩
  · rw [h, hs, List.append_assoc]
    rfl
  · rw [hlength, hs, List.length_append, List.length_singleton]
  · intro gap hgap
    rcases List.mem_append.mp hgap with hgap | hgap
    · exact hgaps gap (List.mem_append_left _ hgap)
    · exact hblank gap hgap

/-- Where a sentence ends a front of the sentences holds what the front of the
text holds. -/
theorem EndsBetween.ink_eq (h : EndsBetween a b) :
    ∃ before after, detect (a ++ b) = before ++ after
      ∧ ink before.flatten = ink a := by
  obtain ⟨before, s, after, gaps, later, hdetect, -, -, hblank, hfront, -⟩ := h
  refine ⟨before ++ [s], after, by rw [hdetect, List.append_assoc]; rfl, ?_⟩
  rw [← hfront,
    ink_weave fun gap hgap => hblank gap (List.mem_append_left _ hgap)]

/-- A sentence that has begun takes in some of the text behind. -/
theorem head_detectFrom (h : isBlank cs = false) (reversed : List Char) :
    ∃ s others body, detectFrom reversed cs = s :: others
      ∧ isBlank body = false
      ∧ ink s = ink (reversed.reverse ++ body) := by
  have htrimmed {body : List Char} (hbody : isBlank body = false) :
      trimmed (reversed.reverse ++ body)
        = [trim (reversed.reverse ++ body)] := by
    unfold trimmed
    rw [Text.isBlank_append, hbody, Bool.and_false]
    rfl
  rcases whole_or_ends reversed cs with hwhole | ⟨body, rest, rfl, hends⟩
  · exact ⟨_, [], cs, by rw [hwhole, htrimmed h], h, Text.ink_trim _⟩
  · have hbody := hends.isBlank_eq
    exact ⟨_, detect rest, body,
      by rw [hends.detectFrom_eq, htrimmed hbody]; rfl, hbody,
      Text.ink_trim _⟩

/-- Where the sentence that has begun goes on no sentence ends. -/
theorem not_endsBetween {done : List (List Char)} {begun : List Char}
    (hbegun : isBlank begun = false) (hb : isBlank b = false)
    (ha : detect a = done ++ trimmed begun)
    (h : detect (a ++ b) = done ++ detectFrom begun.reverse b) :
    ¬EndsBetween a b := by
  intro hends
  obtain ⟨before, after, hdetect, hink⟩ := hends.ink_eq
  obtain ⟨s, others, body, hs, hbody, hinks⟩ :=
    head_detectFrom hb begun.reverse
  have hfront := ink_detect a
  have hbegun' : 0 < (ink begun).length := by
    rw [List.length_pos_iff]
    exact fun hnil => by rw [isBlank_of_ink hnil] at hbegun; cases hbegun
  have hbody' : 0 < (ink body).length := by
    rw [List.length_pos_iff]
    exact fun hnil => by rw [isBlank_of_ink hnil] at hbody; cases hbody
  have hlength : (ink before.flatten).length
      = (ink done.flatten).length + (ink begun).length := by
    rw [hink, ← hfront, ha, List.flatten_append, Text.ink_append, ink_trimmed,
      List.length_append]
  rw [h, hs] at hdetect
  -- the sentences in front are too few without the one that has begun and too
  -- many with it
  rcases List.append_eq_append_iff.mp hdetect with
    ⟨more, rfl, hmore⟩ | ⟨more, rfl, -⟩
  · rw [List.flatten_append, Text.ink_append, List.length_append] at hlength
    cases more with
    | nil =>
        exact absurd hlength
          (by rw [List.flatten_nil, Text.ink_nil, List.length_nil]; omega)
    | cons first more =>
        obtain ⟨rfl, -⟩ := List.cons.inj hmore
        rw [List.flatten_cons, Text.ink_append, hinks, Text.ink_append,
          List.reverse_reverse, List.length_append,
          List.length_append] at hlength
        omega
  · rw [List.flatten_append, Text.ink_append, List.length_append] at hlength
    omega

-- ====================================================== runs and sentences

/-- A text with a run is not blank. -/
theorem WholeRun.isBlank_eq (h : WholeRun front stops shuts behind) :
    isBlank (front ++ (stops ++ shuts)) = false := by
  obtain ⟨c, marks, rfl⟩ := List.exists_cons_of_ne_nil h.filled
  have hc := isWhitespace_of_isTerminator (h.marks.stop c List.mem_cons_self)
  rw [Text.isBlank_append]
  simp [isBlank, hc]

/-- A text with a run does not end with white space. -/
theorem WholeRun.back (h : WholeRun front stops shuts behind) :
    ∀ c, (front ++ (stops ++ shuts)).getLast? = some c
      → isWhitespace c = false := by
  intro c hc
  have hfilled : stops ++ shuts ≠ [] :=
    fun hnil => h.filled (List.append_eq_nil_iff.mp hnil).1
  rw [List.getLast?_append_of_ne_nil _ hfilled] at hc
  rcases List.mem_append.mp (List.mem_of_getLast? hc) with hc | hc
  · exact isWhitespace_of_isTerminator (h.marks.stop c hc)
  · exact isWhitespace_of_isCloser (h.marks.shut c hc)

/-- The text falls apart behind a run that ends a sentence. -/
theorem WholeRun.falls_apart (h : WholeRun front stops shuts behind)
    (hends : isBlank behind = true ∨ atBoundary behind = true
      ∧ ¬HeldBack front stops behind) :
    detect (front ++ (stops ++ shuts) ++ behind)
      = detect (front ++ (stops ++ shuts)) ++ detect behind := by
  obtain ⟨c, marks, rfl⟩ := List.exists_cons_of_ne_nil h.filled
  rcases hends with hblank | ⟨hboundary, hheld⟩
  · rw [detect_append_blank hblank, detect_of_isBlank hblank, List.append_nil]
  · obtain ⟨done, begun, -, hfront, hdetect⟩ := h.detect_eq
    rw [hfront, hdetect, if_pos ((isEnd_eq_true_iff hboundary).mpr hheld),
      List.append_assoc]

/-- At a boundary, a sentence ends behind a run if nothing comes behind it or
the run is not held back. -/
theorem WholeRun.endsBetween_iff (h : WholeRun front stops shuts behind)
    (hboundary : atBoundary behind = true) :
    EndsBetween (front ++ (stops ++ shuts)) behind
      ↔ isBlank behind = true ∨ ¬HeldBack front stops behind := by
  constructor
  · intro hends
    by_contra hnot
    rw [not_or, not_not, Bool.not_eq_true] at hnot
    obtain ⟨hblank, hheld⟩ := hnot
    obtain ⟨c, marks, rfl⟩ := List.exists_cons_of_ne_nil h.filled
    obtain ⟨done, begun, hbegun, hfront, hdetect⟩ := h.detect_eq
    rw [if_neg (fun hend => (isEnd_eq_true_iff hboundary).mp hend hheld)]
      at hdetect
    exact not_endsBetween hbegun hblank hfront hdetect hends
  · intro hends
    exact endsBetween_of_detect h.isBlank_eq h.back
      (h.falls_apart (hends.imp_right fun hheld => ⟨hboundary, hheld⟩))

/-- A sentence goes on behind a run only if the run is held back. -/
theorem WholeRun.of_mem_detect (h : WholeRun front stops shuts behind)
    (hboundary : atBoundary behind = true)
    (hmem : front ++ (stops ++ shuts) ++ behind ∈ detect text) :
    behind = [] ∨ HeldBack front stops behind := by
  by_cases hheld : HeldBack front stops behind
  · exact .inr hheld
  · left
    have halone := (sentences_detect text).alone _ hmem
    rw [h.falls_apart (.inr ⟨hboundary, hheld⟩)] at halone
    have hfront : detect (front ++ (stops ++ shuts)) ≠ [] := by
      intro hnil
      have hblank := isBlank_of_detect hnil
      rw [h.isBlank_eq] at hblank
      cases hblank
    have hnone : detect behind = [] := by
      obtain ⟨s, others, hs⟩ := List.exists_cons_of_ne_nil hfront
      rw [hs, List.cons_append, List.cons.injEq,
        List.append_eq_nil_iff] at halone
      exact halone.2.2
    -- the sentence does not end with white space
    by_contra hfilled
    obtain ⟨c, hc⟩ :=
      Option.ne_none_iff_exists'.mp (mt List.getLast?_eq_none_iff.mp hfilled)
    have hspace :=
      Text.isBlank_iff.mp (isBlank_of_detect hnone) c (List.mem_of_getLast? hc)
    have hback := (trimmed_of_mem_detect hmem).back c
      (by rw [List.getLast?_append_of_ne_nil _ hfilled, hc])
    rw [hspace] at hback
    cases hback

/-- A run of marks before white space or the end, whatever marks it is of, ends
a sentence behind what closes it, unless it begins with a full stop and is held
back by the word in front of it or the word behind; with nothing but white
space behind it is the end all the same. And no sentence goes on behind such a
run unless it is held back. -/
theorem wholeRun_ends_iff (h : WholeRun front stops shuts behind)
    (hboundary : atBoundary behind = true) :
    (EndsBetween (front ++ (stops ++ shuts)) behind
        ↔ isBlank behind = true ∨ ¬HeldBack front stops behind)
      ∧ ∀ text, front ++ (stops ++ shuts) ++ behind ∈ detect text →
          behind = [] ∨ HeldBack front stops behind :=
  ⟨h.endsBetween_iff hboundary, fun _ => h.of_mem_detect hboundary⟩

/-- A question in brackets that ends with an abbreviation. -/
def question : List Char := "(Dates, figs, etc".toList

/-- What is said behind the question. -/
def reply : List Char := " They sell both.".toList

/-- The mark of the question and the period in front of it are one run with the
bracket behind them. -/
theorem wholeRun_question : WholeRun question ['.', '?'] [')'] reply where
  marks := by
    refine
      ⟨by simp [isTerminator], by simp [isCloser, closers],
        fun c hc => ?_, fun c hc => ?_⟩
    · obtain rfl : ')' = c := Option.some.inj hc
      decide
    · obtain rfl : ' ' = c := Option.some.inj hc
      decide
  filled := nofun
  before := by
    intro c hc
    obtain rfl : 'c' = c := Option.some.inj hc
    decide

/-- The run is held back, as the period behind an abbreviation comes first. -/
theorem heldBack_question : HeldBack question ['.', '?'] reply :=
  ⟨rfl, .inl (by decide +kernel)⟩

/-- The question does not end a sentence, though its mark stands at a
boundary. -/
theorem wholeRun_ends_iff_question :
    WholeRun question ['.', '?'] [')'] reply ∧ atBoundary reply = true
      ∧ ¬EndsBetween (question ++ (['.', '?'] ++ [')'])) reply
      ∧ question ++ (['.', '?'] ++ [')']) ++ reply
          ∈ detect (question ++ (['.', '?'] ++ [')']) ++ reply)
      ∧ HeldBack question ['.', '?'] reply := by
  obtain ⟨hends, hgoes⟩ := wholeRun_ends_iff wholeRun_question rfl
  have hmem : question ++ (['.', '?'] ++ [')']) ++ reply
      ∈ detect (question ++ (['.', '?'] ++ [')']) ++ reply) := by
          decide +kernel
  refine ⟨wholeRun_question, rfl, fun h => ?_, hmem,
    (hgoes _ hmem).resolve_left nofun⟩
  rcases hends.mp h with hblank | hheld
  · exact absurd hblank (by decide)
  · exact hheld heldBack_question

/-- The question mark does not end the sentence, because a full stop is in
front of it. -/
theorem not_wholeRun_ends :
    ¬∀ front stops shuts behind : List Char,
      WholeRun front stops shuts behind →
      (∃ c ∈ stops, c ≠ '.') → atBoundary behind = true →
        EndsBetween (front ++ (stops ++ shuts)) behind := by
  intro h
  have hends := h _ _ _ _ wholeRun_question ⟨'?', by decide, by decide⟩ rfl
  rcases (wholeRun_question.endsBetween_iff rfl).mp hends with hblank | hheld
  · exact absurd hblank (by decide)
  · exact hheld heldBack_question

end Intake.Sentence
