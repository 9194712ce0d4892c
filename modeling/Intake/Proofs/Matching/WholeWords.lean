/-
Words found as whole words.

A matcher compares words where they stand in a text, so what it tells of a text
is which of its terms stand there (`isMatch_iff_occurs`). In a text of letters
and numbers a whole word has no place but the whole text (`occurs_iff_eq`), so
there is nothing to prove but that a text of letters and numbers is still one
as it is compared. It is not when its dotted capital I comes apart: what stands
before the mark is found as a word of its own.
-/
import Intake.Proofs.Matching.Leftmost
import Intake.Proofs.Text.Lowercase

namespace Intake.WordMatcher

open Text (dottedI lowerFrom lowerBetween)

variable {m : WordMatcher} {text word : List Char}

-- ====================================================== where words stand

/-- A word stands in a text; as a whole word, with no letter or number next to
it. -/
def Occurs (wholeWords : Bool) (text word : List Char) : Prop :=
  ∃ before after, text = before ++ word ++ after
    ∧ (wholeWords = true → Apart before after)

/-- A text matches if one of the terms stands in it. -/
theorem isMatch_iff_occurs {text : String} :
    m.isMatch text = true
      ↔ ∃ word ∈ m.terms,
          Occurs m.wholeWords (normalize m.ignoreCase text) word := by
  rw [isMatch_iff]
  constructor
  · intro hfound
    obtain ⟨hit, hhit⟩ := List.exists_mem_of_ne_nil _ hfound
    obtain ⟨before, word, after, hmarks, hapart⟩ := mem_findAll.mp hhit
    exact ⟨word, List.mem_of_getElem? hmarks.term, before,
      after, hmarks.text, hapart⟩
  · rintro ⟨word, hword, before, after, htext, hapart⟩
    obtain ⟨index, hterm⟩ := List.mem_iff_getElem?.mp hword
    have hhit : ⟨index, Utf8.width before, Utf8.width (before ++ word)⟩
        ∈ m.findAll text :=
      mem_findAll.mpr ⟨before, word, after, ⟨hterm, htext, rfl, rfl⟩, hapart⟩
    exact List.ne_nil_of_mem hhit

/-- At the start of a text a word stands apart if a sign is behind it. -/
theorem apart_nil_cons {c : Char} (h : Text.isAlphanumeric c = false)
    (rest : List Char) :
    Apart [] (c :: rest) := by
  rw [apart_iff]
  simp [h]

/-- No text of letters and numbers is a whole word within another. -/
theorem occurs_iff_eq (htext : ∀ c ∈ text, Text.isAlphanumeric c = true) :
    Occurs true text word ↔ word = text := by
  constructor
  · rintro ⟨before, after, rfl, hapart⟩
    have hbefore : before = [] := by
      cases hlast : before.getLast? with
      | none => exact List.getLast?_eq_none_iff.mp hlast
      | some c =>
          have hc := htext c (by simp [List.mem_of_getLast? hlast])
          rw [hapart rfl c (Or.inl hlast)] at hc
          cases hc
    have hafter : after = [] := by
      cases hhead : after.head? with
      | none => exact List.head?_eq_none_iff.mp hhead
      | some c =>
          have hc := htext c (by simp [List.mem_of_head? hhead])
          rw [hapart rfl c (Or.inr hhead)] at hc
          cases hc
    rw [hbefore, hafter, List.nil_append, List.append_nil]
  · rintro rfl
    exact ⟨[], [], by simp, fun _ => by rw [apart_iff]; rfl⟩

-- ================================================= texts as they are compared

/-- Taken as it is, a text is its characters. -/
theorem normalize_false (text : String) : normalize false text = text.toList :=
  rfl

/-- With case ignored, a text is its lower case. -/
theorem normalize_true (text : String) :
    normalize true text = lowerFrom [] text.toList := by
  show (Text.lowercase text).toList = _
  unfold Text.lowercase
  rw [String.toList_ofList]

/-- The text is made up of letters and numbers. -/
def OneWord (text : String) : Prop :=
  ∀ c ∈ text.toList, Text.isAlphanumeric c = true

instance (text : String) : Decidable (OneWord text) :=
  List.decidableBAll (fun c => Text.isAlphanumeric c = true) text.toList

/-- A text of letters and numbers is one as it is compared, unless ignoring
case takes its dotted capital I apart. -/
theorem OneWord.normalize {text : String} (h : OneWord text)
    {ignoreCase : Bool} (hdot : ignoreCase = true → dottedI ∉ text.toList) :
    ∀ c ∈ normalize ignoreCase text, Text.isAlphanumeric c = true := by
  cases ignoreCase with
  | false => exact h
  | true =>
      rw [normalize_true, ← Text.lowerBetween_nil]
      exact Text.isAlphanumeric_lowerBetween h (hdot rfl)

/-- In front of the mark that the dot becomes stands what an `i` without the
dot would have made of the text. -/
theorem normalize_dottedI (front back : List Char) :
    ∃ rest, lowerFrom [] (front ++ dottedI :: back)
      = lowerFrom [] (front ++ ['i']) ++ '\u0307' :: rest := by
  have hfront : lowerBetween [] front (dottedI :: back)
      = lowerBetween [] front ['i'] := by
    rw [Text.lowerBetween_eq_iff]
    intro left right _
    unfold Text.endsWord
    rw [Text.startsCased_append right, Text.startsCased_append right,
      Text.startsCased_dottedI]
    rfl
  refine ⟨lowerFrom (dottedI :: (front.reverse ++ [])) back, ?_⟩
  rw [Text.lowerFrom_append, Text.lowerFrom_append, hfront,
    Text.lowerFrom_cons, List.append_assoc]
  rfl

-- ====================================================== new matchers

/-- There is a matcher for terms of which none is empty, and it matches a text
if one of them stands there as both are compared. -/
theorem isMatch_new_iff {terms : List String}
    (hterms : ∀ term ∈ terms, term ≠ "") (ignoreCase : Bool) :
    ∃ m, new terms ignoreCase = .ok m ∧ ∀ (wholeWords : Bool) (text : String),
      isMatch { m with wholeWords } text = true
        ↔ ∃ term ∈ terms,
            Occurs wholeWords (normalize ignoreCase text)
              (normalize ignoreCase term) := by
  obtain ⟨m, hm, hnames, hcase⟩ := new_ok hterms ignoreCase
  refine ⟨m, hm, fun wholeWords text => ?_⟩
  rw [isMatch_iff_occurs]
  simp only [hnames, hcase, List.mem_map, exists_exists_and_eq_and]

/-- A new matcher is one for whole words. -/
theorem wholeWords_of_new {terms : List String} {ignoreCase : Bool}
    (h : new terms ignoreCase = .ok m) :
    { m with wholeWords := true } = m := by
  unfold new at h
  split at h
  · cases h
  · cases h
    rfl

/-- There is a matcher for a term, and it matches a text only as a whole. -/
def MatchesWhole (ignoreCase : Bool) (term text : String) : Prop :=
  ∃ m, new [term] ignoreCase = .ok m
    ∧ (m.isMatch text = true
        ↔ normalize ignoreCase term = normalize ignoreCase text)

/-- A word is matched as a whole if and only if the term stands in it only when
both are the same. -/
theorem matchesWhole_iff_occurs {ignoreCase : Bool} {term text : String}
    (hterm : term ≠ "") :
    MatchesWhole ignoreCase term text
      ↔ (Occurs true (normalize ignoreCase text) (normalize ignoreCase term)
          ↔ normalize ignoreCase term = normalize ignoreCase text) := by
  obtain ⟨m, hm, hmatch⟩ :=
    isMatch_new_iff (List.forall_mem_singleton.mpr hterm) ignoreCase
  have hmatch := hmatch true text
  rw [wholeWords_of_new hm] at hmatch
  simp only [List.mem_singleton, exists_eq_left] at hmatch
  constructor
  · rintro ⟨m', hm', hwhole⟩
    rw [hm] at hm'
    cases hm'
    rw [← hmatch]
    exact hwhole
  · intro hwhole
    exact ⟨m, hm, hmatch.trans hwhole⟩

/-- In a text of letters and numbers the matcher for one term of letters and
numbers finds nothing but the whole text, whatever the term, if and only if
case is not ignored or the text has no dotted capital I. -/
theorem matchesWhole_iff {text : String} (htext : OneWord text)
    (ignoreCase : Bool) :
    (∀ term, term ≠ "" → OneWord term → MatchesWhole ignoreCase term text)
      ↔ (ignoreCase = true → dottedI ∉ text.toList) := by
  constructor
  · rintro hwhole rfl hdot
    obtain ⟨front, back, hsplit, -⟩ := List.eq_append_cons_of_mem hdot
    obtain ⟨rest, hrest⟩ := normalize_dottedI front back
    -- the text up to its dotted capital I, without the dot
    have hterm : String.ofList (front ++ ['i']) ≠ "" := by
      intro hempty
      simpa using congrArg String.toList hempty
    have hword : OneWord (String.ofList (front ++ ['i'])) := by
      intro c hc
      rw [String.toList_ofList] at hc
      rcases List.mem_append.mp hc with hc | hc
      · exact htext c (by simp [hsplit, hc])
      · rw [List.mem_singleton.mp hc]
        decide
    have hiff := (matchesWhole_iff_occurs hterm).mp (hwhole _ hterm hword)
    rw [normalize_true, normalize_true, String.toList_ofList, hsplit,
      hrest] at hiff
    have heq := hiff.mp ⟨[], '\u0307' :: rest, rfl,
      fun _ => apart_nil_cons (by decide) rest⟩
    simpa using congrArg List.length heq
  · intro hdot term hterm _
    exact (matchesWhole_iff_occurs hterm).mpr
      (occurs_iff_eq (htext.normalize hdot))

/-- A word with a dotted capital I: what holds of it taken as it is fails when
case is ignored. -/
theorem matchesWhole_iff_izmir :
    OneWord "İzmir"
      ∧ (∀ term, term ≠ "" → OneWord term → MatchesWhole false term "İzmir")
      ∧ ¬ ∀ term, term ≠ "" → OneWord term
      → MatchesWhole true term "İzmir" := by
  have hword : OneWord "İzmir" := by decide
  refine ⟨hword, (matchesWhole_iff hword false).mpr nofun, fun hwhole => ?_⟩
  exact (matchesWhole_iff hword true).mp hwhole rfl (by decide)

/-- The term `zmir` is found in `İzmir`, behind the mark of the dot. -/
theorem not_matchesWhole :
    ¬ ∀ (ignoreCase : Bool) (term text : String), term ≠ ""
      → OneWord term → OneWord text →
        MatchesWhole ignoreCase term text := by
  intro hwhole
  have hiff := (matchesWhole_iff_occurs (by decide)).mp
    (hwhole true "zmir" "İzmir" (by decide) (by decide) (by decide))
  have hoccurs :
      Occurs true (normalize true "İzmir") (normalize true "zmir") := by
    refine ⟨['i', '\u0307'], [], by decide, fun _ => ?_⟩
    rw [apart_iff]
    decide
  exact absurd (hiff.mp hoccurs) (by decide)

end Intake.WordMatcher
