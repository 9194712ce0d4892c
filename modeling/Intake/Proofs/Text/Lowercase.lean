/-
What lower case keeps of a text.

A letter or number stays one, and every other character stays what it is. The
tables are looked at by runs and not by characters: the capitals of a run lie
in the alphabetic ranges, and so does what the run takes them to
(`lowerRuns_alphabetic`). The only exception is the dotted capital I, whose
dot becomes a mark of its own.

A word within a text need not be lowered as it is alone, since a capital sigma
is looked at with its surroundings. `lowerBetween` is the part that the word
has in the lowered text, and two such parts are equal if and only if every
capital sigma of the word has one form in both surroundings
(`lowerBetween_eq_iff`).
-/
import Intake.Text.Alphanumeric
import Intake.Text.Lowercase

namespace Intake.Text

-- ====================================================== ranges

/-- One of the ranges holds all code points from one to another. -/
def Ranges.covers : Ranges → Nat → Nat → Bool
  | [], _, _ => false
  | (first, last) :: rest, low, high =>
    first.ble low && (high.ble last || Ranges.covers rest low high)

/-- A code point between two others is in the range that holds both. -/
theorem hasCode_of_covers {ranges : Ranges} {low high code : Nat}
    (h : ranges.covers low high = true) (hlow : low ≤ code)
    (hhigh : code ≤ high) :
    ranges.hasCode code = true := by
  induction ranges with
  | nil => cases h
  | cons range rest ih =>
      unfold Ranges.covers at h
      simp only [Bool.and_eq_true, Bool.or_eq_true, Nat.ble_eq] at h
      obtain ⟨hfirst, hlast⟩ := h
      unfold Ranges.hasCode
      rw [if_neg (by omega)]
      rcases hlast with hlast | hrest
      · simp [show code ≤ range.2 by omega]
      · simp [ih hrest]

-- ====================================================== runs of capitals

namespace CaseRun

/-- The code point that a run takes another to. -/
def image (run : CaseRun) (code : Nat) : Nat :=
  ((code : Int) + run.shift).toNat

/-- The code point is one of the capitals of a run. -/
def Holds (run : CaseRun) (code : Nat) : Prop :=
  run.first ≤ code ∧ code ≤ run.last ∧ (code - run.first) % run.step = 0

/-- The capitals of a run lie in some ranges. -/
def liesIn (run : CaseRun) (ranges : Ranges) : Bool :=
  ranges.covers run.first run.last
    || (List.range (run.last + 1 - run.first)).all fun place =>
        place % run.step != 0 || ranges.hasCode (run.first + place)

/-- What a run takes its capitals to are characters in some ranges. -/
def leadsInto (run : CaseRun) (ranges : Ranges) : Bool :=
  ranges.covers (run.image run.first) (run.image run.last)
    && (decide (run.image run.last < 0xD800)
      || decide (0xDFFF < run.image run.first)
          && decide (run.image run.last < 0x110000))

variable {run : CaseRun} {ranges : Ranges} {code : Nat}

/-- A capital of the run is in the ranges. -/
theorem hasCode_of_liesIn (h : run.liesIn ranges = true)
    (hcode : run.Holds code) :
    ranges.hasCode code = true := by
  obtain ⟨hfirst, hlast, hstep⟩ := hcode
  unfold liesIn at h
  rw [Bool.or_eq_true] at h
  rcases h with hcovers | hall
  · exact hasCode_of_covers hcovers hfirst hlast
  · have hplace :=
      List.all_eq_true.mp hall (code - run.first)
        (List.mem_range.mpr (by omega))
    have hsum : run.first + (code - run.first) = code := by omega
    simpa [hstep, hsum] using hplace

/-- What the run takes a capital to is a character in the ranges. -/
theorem hasCode_of_leadsInto (h : run.leadsInto ranges = true)
    (hcode : run.Holds code) :
    ranges.hasCode (run.image code) = true ∧ (run.image code).isValidChar := by
  obtain ⟨hfirst, hlast, -⟩ := hcode
  unfold leadsInto at h
  rw [Bool.and_eq_true] at h
  obtain ⟨hcovers, hvalid⟩ := h
  have hlow : run.image run.first ≤ run.image code := by unfold image; omega
  have hhigh : run.image code ≤ run.image run.last := by unfold image; omega
  refine ⟨hasCode_of_covers hcovers hlow hhigh, ?_⟩
  simp only [Bool.or_eq_true, Bool.and_eq_true, decide_eq_true_eq] at hvalid
  unfold Nat.isValidChar
  omega

end CaseRun

/-- A code point is its own lower case unless a run holds it. -/
theorem lowerCode_cases (runs : List CaseRun) (code : Nat) :
    lowerCode runs code = code
      ∨ ∃ run ∈ runs, run.Holds code
          ∧ lowerCode runs code = run.image code := by
  induction runs with
  | nil => exact Or.inl rfl
  | cons run runs ih =>
      unfold lowerCode
      by_cases hbefore : code < run.first
      · rw [if_pos hbefore]
        exact Or.inl rfl
      rw [if_neg hbefore]
      by_cases hholds : code ≤ run.last ∧ (code - run.first) % run.step = 0
      · rw [if_pos hholds]
        exact Or.inr ⟨run, List.mem_cons_self, ⟨by omega, hholds⟩, rfl⟩
      · rw [if_neg hholds]
        rcases ih with hown | ⟨found, hfound, hcode⟩
        · exact Or.inl hown
        · exact Or.inr ⟨found, List.mem_cons_of_mem _ hfound, hcode⟩

/-- Capitals are alphabetic, and so is their lower case. -/
theorem lowerRuns_alphabetic :
    lowerRuns.all
      (fun run => run.liesIn alphabeticRanges
        && run.leadsInto alphabeticRanges)
      = true := by
  decide +kernel

/-- A code point that has another lower case is alphabetic, and so is that. -/
theorem lowerCode_alphabetic (code : Nat) :
    lowerCode lowerRuns code = code
      ∨ alphabeticRanges.hasCode code = true
        ∧ alphabeticRanges.hasCode (lowerCode lowerRuns code) = true
        ∧ (lowerCode lowerRuns code).isValidChar := by
  rcases lowerCode_cases lowerRuns code with hown | ⟨run, hrun, hcode, himage⟩
  · exact Or.inl hown
  · have hrun := List.all_eq_true.mp lowerRuns_alphabetic run hrun
    rw [Bool.and_eq_true] at hrun
    rw [himage]
    exact Or.inr ⟨CaseRun.hasCode_of_liesIn hrun.1 hcode,
      CaseRun.hasCode_of_leadsInto hrun.2 hcode⟩

-- ====================================================== characters

/-- The capital I with a dot, whose lower case is an `i` and a mark. -/
def dottedI : Char := '\u0130'

variable {c : Char} {before after word : List Char}

/-- All other capitals have a single character as their lower case. -/
theorem lowerChar_of_ne (h : c ≠ dottedI) :
    lowerChar c = [Char.ofNat (lowerCode lowerRuns c.toNat)] := by
  unfold lowerChar
  rw [if_neg (show c ≠ '\u0130' from h)]

/-- An alphabetic code point makes a character that is a letter. -/
theorem isAlphanumeric_ofNat {code : Nat} (hvalid : code.isValidChar)
    (h : alphabeticRanges.hasCode code = true) :
    isAlphanumeric (Char.ofNat code) = true := by
  have hcode : (Char.ofNat code).toNat = code := by
    unfold Char.ofNat
    rw [dif_pos hvalid]
    rfl
  unfold isAlphanumeric isAlphabetic Ranges.has
  rw [hcode, h, Bool.true_or]

/-- A letter or number has letters and numbers as its lower case. -/
theorem isAlphanumeric_lowerChar (h : isAlphanumeric c = true)
    (hne : c ≠ dottedI) :
    ∀ d ∈ lowerChar c, isAlphanumeric d = true := by
  intro d hd
  rw [lowerChar_of_ne hne] at hd
  obtain rfl := List.mem_singleton.mp hd
  rcases lowerCode_alphabetic c.toNat with hown | ⟨-, himage, hvalid⟩
  · rw [hown, Char.ofNat_toNat]
    exact h
  · exact isAlphanumeric_ofNat hvalid himage

/-- What is no letter or number is its own lower case. -/
theorem lowerChar_of_not_alphanumeric (h : isAlphanumeric c = false) :
    lowerChar c = [c] := by
  have hne : c ≠ dottedI := by
    rintro rfl
    exact absurd h (by decide)
  rw [lowerChar_of_ne hne]
  rcases lowerCode_alphabetic c.toNat with hown | ⟨hcode, -, -⟩
  · rw [hown, Char.ofNat_toNat]
  · unfold isAlphanumeric isAlphabetic Ranges.has at h
    rw [hcode] at h
    cases h

-- ============================================ a character in its surroundings

/-- A capital sigma becomes the final one between two texts, of which the one
before it is given in reverse. -/
def endsWord (before after : List Char) : Bool :=
  startsCased before && !startsCased after

/-- Lower case of a character between two texts, the one before it in
reverse. -/
def lowerWithin (before : List Char) (c : Char) (after : List Char) :
    List Char :=
  if c = capitalSigma then
    [if endsWord before after then '\u03C2' else '\u03C3'] else lowerChar c

theorem lowerFrom_cons (before : List Char) (c : Char) (rest : List Char) :
    lowerFrom before (c :: rest)
      = lowerWithin before c rest ++ lowerFrom (c :: before) rest := by
  rw [lowerFrom]
  rfl

/-- In its surroundings, too, a letter or number has letters and numbers as its
lower case. -/
theorem isAlphanumeric_lowerWithin (h : isAlphanumeric c = true)
    (hne : c ≠ dottedI) :
    ∀ d ∈ lowerWithin before c after, isAlphanumeric d = true := by
  unfold lowerWithin
  split
  · split
    · exact List.forall_mem_singleton.mpr (by decide)
    · exact List.forall_mem_singleton.mpr (by decide)
  · exact isAlphanumeric_lowerChar h hne

/-- In no surroundings is anything else changed. -/
theorem lowerWithin_of_not_alphanumeric (h : isAlphanumeric c = false) :
    lowerWithin before c after = [c] := by
  have hne : c ≠ capitalSigma := by
    rintro rfl
    exact absurd h (by decide)
  unfold lowerWithin
  rw [if_neg hne, lowerChar_of_not_alphanumeric h]

-- ================================================= a word in its surroundings

/-- Lower case of a word between two texts, the one before it in reverse. -/
def lowerBetween (before : List Char) : List Char → List Char → List Char
  | [], _ => []
  | c :: word, after =>
    lowerWithin before c (word ++ after)
      ++ lowerBetween (c :: before) word after

theorem lowerBetween_cons (before : List Char) (c : Char)
    (word after : List Char) :
    lowerBetween before (c :: word) after
      = lowerWithin before c (word ++ after)
          ++ lowerBetween (c :: before) word after := rfl

/-- A text is lowered part by part, as each stands in it. -/
theorem lowerFrom_append (before word after : List Char) :
    lowerFrom before (word ++ after)
      = lowerBetween before word after
          ++ lowerFrom (word.reverse ++ before) after := by
  induction word generalizing before with
  | nil => rfl
  | cons c word ih =>
      rw [List.cons_append, lowerFrom_cons, ih, lowerBetween_cons,
        List.append_assoc, List.reverse_cons, List.append_assoc]
      rfl

/-- With nothing behind it a word is lowered as the end of a text. -/
theorem lowerBetween_nil (before word : List Char) :
    lowerBetween before word [] = lowerFrom before word := by
  have h := lowerFrom_append before word []
  rw [List.append_nil, lowerFrom, List.append_nil] at h
  exact h.symm

/-- The lower case of letters and numbers is letters and numbers, but for the
capital I with a dot. -/
theorem isAlphanumeric_lowerBetween (h : ∀ c ∈ word, isAlphanumeric c = true)
    (hne : dottedI ∉ word) :
    ∀ d ∈ lowerBetween before word after, isAlphanumeric d = true := by
  induction word generalizing before with
  | nil => exact List.forall_mem_nil _
  | cons c word ih =>
      obtain ⟨hc, hword⟩ := List.forall_mem_cons.mp h
      rw [List.mem_cons, not_or] at hne
      intro d hd
      rcases List.mem_append.mp hd with hd | hd
      · exact isAlphanumeric_lowerWithin hc (Ne.symm hne.1) d hd
      · exact ih hword hne.2 d hd

-- ====================================================== the capital sigma

/-- What case ignores is passed over. -/
theorem startsCased_cons_of_ignorable (h : isCaseIgnorable c = true)
    (rest : List Char) :
    startsCased (c :: rest) = startsCased rest := by
  unfold startsCased
  rw [List.dropWhile_cons_of_pos h]

/-- The first character that counts decides. -/
theorem startsCased_cons (h : isCaseIgnorable c = false) (rest : List Char) :
    startsCased (c :: rest) = isCased c := by
  unfold startsCased
  rw [List.dropWhile_cons_of_neg (by simp [h])]
  rfl

/-- A text decides unless all of it is ignored. -/
theorem startsCased_append (cs more : List Char) :
    startsCased (cs ++ more)
      = if cs.all isCaseIgnorable then startsCased more
        else startsCased cs := by
  induction cs with
  | nil => rfl
  | cons c cs ih =>
      rw [List.cons_append, List.all_cons]
      cases hc : isCaseIgnorable c with
      | true =>
          rw [startsCased_cons_of_ignorable hc,
            startsCased_cons_of_ignorable hc, ih, Bool.true_and]
      | false =>
          rw [startsCased_cons hc, startsCased_cons hc]
          rfl

/-- The capital I with a dot has a case. -/
theorem startsCased_dottedI (rest : List Char) :
    startsCased (dottedI :: rest) = true := by
  rw [startsCased_cons (by decide)]
  decide

/-- A character becomes as long in any surroundings. -/
theorem length_lowerWithin (before after before' after' : List Char)
    (c : Char) :
    (lowerWithin before c after).length
      = (lowerWithin before' c after').length := by
  unfold lowerWithin
  split
  · rfl
  · rfl

/-- Only a capital sigma can have another lower case in other surroundings. -/
theorem lowerWithin_eq_iff {before' after' : List Char} :
    lowerWithin before c after = lowerWithin before' c after'
      ↔ (c = capitalSigma
          → endsWord before after = endsWord before' after') := by
  unfold lowerWithin
  by_cases hc : c = capitalSigma
  · rw [if_pos hc, if_pos hc, forall_prop_of_true hc]
    cases endsWord before after <;> cases endsWord before' after' <;> decide
  · rw [if_neg hc, if_neg hc]
    exact iff_of_true rfl fun hsigma => absurd hsigma hc

/-- A word becomes as long in any surroundings. -/
theorem length_lowerBetween (before before' word after after' : List Char) :
    (lowerBetween before word after).length
      = (lowerBetween before' word after').length := by
  induction word generalizing before before' with
  | nil => rfl
  | cons c word ih =>
      rw [lowerBetween_cons, lowerBetween_cons, List.length_append,
        List.length_append,
        length_lowerWithin before (word ++ after) before' (word ++ after'),
        ih (c :: before) (c :: before')]

/-- A word becomes as long as it does alone. -/
theorem length_lowerBetween_alone (before word after : List Char) :
    (lowerBetween before word after).length = (lowerFrom [] word).length := by
  rw [← lowerBetween_nil]
  exact length_lowerBetween _ _ _ _ _

/-- A word has one lower case in two surroundings if and only if each of its
capital sigmas has one form in both. -/
theorem lowerBetween_eq_iff {before' after' : List Char} :
    lowerBetween before word after = lowerBetween before' word after'
      ↔ ∀ front back, word = front ++ capitalSigma :: back →
          endsWord (front.reverse ++ before) (back ++ after)
            = endsWord (front.reverse ++ before') (back ++ after') := by
  induction word generalizing before before' with
  | nil => simp [lowerBetween]
  | cons c word ih =>
      constructor
      · intro h front back hword
        obtain ⟨hhead, htail⟩ :=
          List.append_inj h (length_lowerWithin _ _ _ _ _)
        rcases List.cons_eq_append_iff.mp hword with
          ⟨rfl, hcons⟩ | ⟨front, rfl, hrest⟩
        · obtain ⟨rfl, rfl⟩ := List.cons.inj hcons
          exact lowerWithin_eq_iff.mp hhead rfl
        · simpa using ih.mp htail front back hrest
      · intro h
        have hhead : lowerWithin before c (word ++ after)
            = lowerWithin before' c (word ++ after') := by
          rw [lowerWithin_eq_iff]
          rintro rfl
          exact h [] word rfl
        have htail : lowerBetween (c :: before) word after
            = lowerBetween (c :: before') word after' := by
          apply ih.mpr
          intro front back hrest
          simpa using h (c :: front) back (by rw [hrest, List.cons_append])
        rw [lowerBetween_cons, lowerBetween_cons, hhead, htail]

/-- A word is not lowered as it is alone where one of its capital sigmas has
its other form. -/
theorem lowerBetween_ne_alone {front back : List Char}
    (h : endsWord (front.reverse ++ before) (back ++ after)
      ≠ endsWord front.reverse back) :
    lowerBetween before (front ++ capitalSigma :: back) after
      ≠ lowerFrom [] (front ++ capitalSigma :: back) := by
  rw [← lowerBetween_nil, Ne, lowerBetween_eq_iff]
  intro hsame
  have hform := hsame front back rfl
  rw [List.append_nil, List.append_nil] at hform
  exact h hform

/-- A capital sigma within a word takes its form from what is around the word:
everything in front of it or everything behind it is ignored. -/
def Loose (front back : List Char) : Prop :=
  front.all isCaseIgnorable = true ∧ startsCased back = false
    ∨ back.all isCaseIgnorable = true ∧ startsCased front.reverse = true

instance (front back : List Char) : Decidable (Loose front back) :=
  inferInstanceAs (Decidable (_ ∨ _))

/-- A word whose capital sigmas all have the forms that they have without
surroundings. -/
def Steady (word : List Char) : Prop :=
  ∀ front back, word = front ++ capitalSigma :: back → ¬ Loose front back

/-- Whether a word is steady can be told place by place. -/
theorem steady_iff : Steady word ↔ ∀ place < word.length,
    word[place]? = some capitalSigma →
      ¬ Loose (word.take place) (word.drop (place + 1)) := by
  constructor
  · intro h place hplace hsigma
    apply h
    obtain ⟨_, hsigma⟩ := List.getElem?_eq_some_iff.mp hsigma
    rw [← hsigma, ← List.drop_eq_getElem_cons, List.take_append_drop]
  · rintro h front back rfl
    simpa using h front.length (by simp) (by simp)

instance (word : List Char) : Decidable (Steady word) :=
  decidable_of_iff _ steady_iff.symm

/-- What is ignored as a whole has no case. -/
theorem startsCased_of_all_ignorable {cs : List Char}
    (h : cs.all isCaseIgnorable = true) :
    startsCased cs = false := by
  have happend := startsCased_append cs []
  rw [List.append_nil, if_pos h] at happend
  exact happend

/-- A sigma that is not loose has the form that it has in the word alone. -/
theorem endsWord_of_not_loose {front back : List Char} (h : ¬ Loose front back)
    (before after : List Char) :
    endsWord (front.reverse ++ before) (back ++ after)
      = endsWord front.reverse back := by
  unfold Loose at h
  rw [not_or] at h
  obtain ⟨hfirst, hlast⟩ := h
  unfold endsWord
  rw [startsCased_append, startsCased_append, List.all_reverse]
  by_cases hfront : front.all isCaseIgnorable = true
  · -- whatever is in front, a cased character follows within the word
    have hback : startsCased back = true := by simpa [hfront] using hfirst
    have hends : ¬ back.all isCaseIgnorable = true := by
      intro hall
      rw [startsCased_of_all_ignorable hall] at hback
      cases hback
    simp [hends, hback]
  · rw [if_neg hfront]
    by_cases hback : back.all isCaseIgnorable = true
    · -- whatever is behind, no cased character precedes within the word
      have hcased : startsCased front.reverse = false := by
        simpa [hback] using hlast
      simp [hcased]
    · rw [if_neg hback]

/-- A steady word is lowered wherever it stands as it is alone. -/
theorem Steady.lowerBetween (h : Steady word) (before after : List Char) :
    lowerBetween before word after = lowerFrom [] word := by
  rw [← lowerBetween_nil, lowerBetween_eq_iff]
  intro front back hword
  rw [endsWord_of_not_loose (h front back hword), List.append_nil,
    List.append_nil]

end Intake.Text
