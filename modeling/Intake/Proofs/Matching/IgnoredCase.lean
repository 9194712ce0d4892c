/-
Ignoring case, against taking texts as they are.

Where a word stands in a text, its lower case in these surroundings stands in
the lowered text, and with the same neighbours, since lower case leaves
everything alone that is no letter or number (`Apart.lowered`). What is looked
for there is the term as it is lowered alone. Both are equal for a steady term,
so case can be ignored for it without loss.

For any other term there is a text in which it is lost: a cased letter next to
the term, with a sign between them that case ignores and that ends words, turns
a capital sigma of the term into its other form. There are two such settings,
of which one shares neither of its characters with the end of the term, so
that the term is not found by accident on the way to where it was.
-/
import Intake.Proofs.Matching.WholeWords

namespace Intake.WordMatcher

open Text (capitalSigma lowerFrom lowerBetween lowerWithin Loose Steady)

variable {before word after : List Char}

-- ====================================================== neighbours

/-- Lower case within a text does not depend on what is behind a sign. -/
theorem lowerBetween_append_of_not_alphanumeric {c : Char}
    (hc : Text.isAlphanumeric c = false) (front back after : List Char) :
    lowerBetween back (front ++ [c]) after
      = lowerBetween back front (c :: after) ++ [c] := by
  induction front generalizing back with
  | nil =>
      rw [List.nil_append, Text.lowerBetween_cons,
        Text.lowerWithin_of_not_alphanumeric hc]
      rfl
  | cons d front ih =>
      rw [List.cons_append, Text.lowerBetween_cons, ih, Text.lowerBetween_cons,
        List.append_assoc, List.append_assoc]
      rfl

/-- Words that nothing is next to have nothing next to them in lower case. -/
theorem Apart.lowered (h : Apart before after) (rest reversed : List Char) :
    Apart (lowerBetween [] before rest) (lowerFrom reversed after) := by
  intro c hc
  rcases hc with hlast | hhead
  · cases hbefore : before.getLast? with
    | none =>
        rw [List.getLast?_eq_none_iff.mp hbefore] at hlast
        cases hlast
    | some d =>
        have hd := h d (Or.inl hbefore)
        obtain ⟨front, rfl⟩ := List.getLast?_eq_some_iff.mp hbefore
        rw [lowerBetween_append_of_not_alphanumeric hd,
          List.getLast?_concat] at hlast
        cases hlast
        exact hd
  · cases after with
    | nil => cases hhead
    | cons d after =>
        have hd := h d (Or.inr rfl)
        rw [Text.lowerFrom_cons,
          Text.lowerWithin_of_not_alphanumeric hd] at hhead
        cases hhead
        exact hd

-- ====================================================== terms that are found

/-- A word that is lowered in its place as it is alone is found when case is
ignored. -/
theorem occurs_lowered {wholeWords : Bool}
    (hword : lowerBetween before.reverse word after = lowerFrom [] word)
    (hapart : wholeWords = true → Apart before after) :
    Occurs wholeWords (lowerFrom [] (before ++ word ++ after))
      (lowerFrom [] word) := by
  refine ⟨lowerBetween [] before (word ++ after),
    lowerFrom (word.reverse ++ before.reverse) after, ?_, fun hwhole =>
      (hapart hwhole).lowered _ _⟩
  rw [List.append_assoc, Text.lowerFrom_append, List.append_nil,
    Text.lowerFrom_append, hword, List.append_assoc]

/-- A steady word stands in the lowered text wherever it stands in the text. -/
theorem Occurs.lowered {wholeWords : Bool} {text : List Char}
    (hsteady : Steady word) (h : Occurs wholeWords text word) :
    Occurs wholeWords (lowerFrom [] text) (lowerFrom [] word) := by
  obtain ⟨before, after, rfl, hapart⟩ := h
  exact occurs_lowered (hsteady.lowerBetween _ _) hapart

-- ====================================================== terms that are lost

/-- A cased letter in lower case, and a sign that case ignores and that ends
words. -/
structure Setting (letter sign : Char) : Prop where
  cased : Text.isCased letter = true
  seen : Text.isCaseIgnorable letter = false
  lower : ∀ before after, lowerWithin before letter after = [letter]
  ignored : Text.isCaseIgnorable sign = true
  ends : Text.isAlphanumeric sign = false

/-- The letter a and a period are such a setting. -/
theorem setting_period : Setting 'a' '.' :=
  ⟨by decide, by decide, fun _ _ => rfl, by decide, by decide⟩

/-- The letter b and a colon are another one. -/
theorem setting_colon : Setting 'b' ':' :=
  ⟨by decide, by decide, fun _ _ => rfl, by decide, by decide⟩

/-- There is a setting without a certain character. -/
theorem exists_setting (c : Option Char) :
    ∃ letter sign, Setting letter sign ∧ c ≠ some letter ∧ c ≠ some sign := by
  by_cases hc : c = some 'a' ∨ c = some '.'
  · refine ⟨'b', ':', setting_colon, ?_⟩
    rcases hc with rfl | rfl <;> decide
  · rw [not_or] at hc
    exact ⟨'a', '.', setting_period, hc⟩

namespace Setting

variable {letter sign : Char} (h : Setting letter sign)

include h

/-- A cased letter is seen behind the sign. -/
theorem startsCased_sign (rest : List Char) :
    Text.startsCased (sign :: letter :: rest) = true := by
  rw [Text.startsCased_cons_of_ignorable h.ignored,
    Text.startsCased_cons h.seen]
  exact h.cased

/-- The letter and the sign stay in front of a word. -/
theorem lowerBetween_front (rest : List Char) :
    lowerBetween [] [letter, sign] rest = [letter, sign] := by
  rw [Text.lowerBetween_cons, Text.lowerBetween_cons, h.lower,
    Text.lowerWithin_of_not_alphanumeric h.ends]
  rfl

/-- The letter and the sign stay behind a word. -/
theorem lowerFrom_back (reversed : List Char) :
    lowerFrom reversed [sign, letter] = [sign, letter] := by
  rw [Text.lowerFrom_cons, Text.lowerFrom_cons, h.lower,
    Text.lowerWithin_of_not_alphanumeric h.ends]
  rfl

/-- A setting in front makes the first capital sigma the final one, if nothing
cased follows it. -/
theorem lowerBetween_front_ne {front back : List Char}
    (hfront : front.all Text.isCaseIgnorable = true)
    (hback : Text.startsCased back = false) :
    lowerBetween [sign, letter] (front ++ capitalSigma :: back) []
      ≠ lowerFrom [] (front ++ capitalSigma :: back) := by
  apply Text.lowerBetween_ne_alone
  unfold Text.endsWord
  simp [Text.startsCased_append, hfront, hback, h.startsCased_sign,
    Text.startsCased_of_all_ignorable]

/-- A setting behind keeps the last capital sigma from being the final one. -/
theorem lowerBetween_back_ne {front back : List Char}
    (hback : back.all Text.isCaseIgnorable = true)
    (hfront : Text.startsCased front.reverse = true) :
    lowerBetween [] (front ++ capitalSigma :: back) [sign, letter]
      ≠ lowerFrom [] (front ++ capitalSigma :: back) := by
  apply Text.lowerBetween_ne_alone
  unfold Text.endsWord
  simp [Text.startsCased_append, hfront, hback, h.startsCased_sign,
    Text.startsCased_of_all_ignorable]

end Setting

/-- Two items in front of a list are in the way of another that begins with
neither of them. -/
theorem eq_of_two_in_front {α : Type} {a b : α}
    {items before word after : List α}
    (h : a :: b :: items = before ++ word ++ after)
    (hlength : items.length = word.length) (ha : word.head? ≠ some a)
    (hb : word.head? ≠ some b) : items = word := by
  cases word with
  | nil => exact List.length_eq_zero_iff.mp hlength
  | cons c word =>
      match before with
      | [] =>
          obtain ⟨rfl, -⟩ := List.cons.inj h
          exact absurd rfl ha
      | [_] =>
          obtain ⟨-, h⟩ := List.cons.inj h
          obtain ⟨rfl, -⟩ := List.cons.inj h
          exact absurd rfl hb
      | _ :: _ :: before =>
          obtain ⟨-, h⟩ := List.cons.inj h
          obtain ⟨-, h⟩ := List.cons.inj h
          have hlengths := congrArg List.length h
          simp only [List.append_eq, List.length_append] at hlengths
          have hbefore : before = [] := List.length_eq_zero_iff.mp (by omega)
          have hafter : after = [] := List.length_eq_zero_iff.mp (by omega)
          rw [hbefore, hafter] at h
          simpa using h

/-- Two different elements behind a list, neither of which ends the word, leave
the word no place but the list. -/
theorem eq_of_two_behind {α : Type} {a b : α}
    {items before word after : List α}
    (h : items ++ [b, a] = before ++ word ++ after)
    (hlength : items.length = word.length) (ha : word.getLast? ≠ some a)
    (hb : word.getLast? ≠ some b) : items = word := by
  have hreverse :
      a :: b :: items.reverse
        = after.reverse ++ word.reverse ++ before.reverse := by
    simpa using congrArg List.reverse h
  rw [← List.head?_reverse] at ha hb
  exact List.reverse_injective
    (eq_of_two_in_front hreverse (by simpa using hlength) ha hb)

/-- The texts in which a word stands and is not found when case is ignored. -/
def Lost (text word : List Char) : Prop :=
  (∀ wholeWords, Occurs wholeWords text word)
    ∧ ∀ wholeWords, ¬ Occurs wholeWords (lowerFrom [] text) (lowerFrom [] word)

namespace Setting

variable {letter sign : Char} (h : Setting letter sign)

include h

/-- A word is lost behind a setting that changes its lower case. -/
theorem lost_in_front
    (hne : lowerBetween [sign, letter] word [] ≠ lowerFrom [] word)
    (hletter : (lowerFrom [] word).head? ≠ some letter)
    (hsign : (lowerFrom [] word).head? ≠ some sign) :
    Lost (letter :: sign :: word) word := by
  constructor
  · intro _
    refine ⟨[letter, sign], [], by simp, fun _ => ?_⟩
    rw [apart_iff]
    simp [h.ends]
  · rintro _ ⟨before, after, htext, -⟩
    have hlower : lowerFrom [] (letter :: sign :: word)
        = letter :: sign :: lowerBetween [sign, letter] word [] := by
      have happend := Text.lowerFrom_append [] [letter, sign] word
      rw [h.lowerBetween_front] at happend
      rw [Text.lowerBetween_nil]
      exact happend
    rw [hlower] at htext
    have hlength := Text.length_lowerBetween_alone [sign, letter] word []
    exact hne (eq_of_two_in_front htext hlength hletter hsign)

/-- A word is lost in front of a setting that changes its lower case. -/
theorem lost_behind
    (hne : lowerBetween [] word [sign, letter] ≠ lowerFrom [] word)
    (hletter : (lowerFrom [] word).getLast? ≠ some letter)
    (hsign : (lowerFrom [] word).getLast? ≠ some sign) :
    Lost (word ++ [sign, letter]) word := by
  constructor
  · intro _
    exact ⟨[], [sign, letter], by simp, fun _ => apart_nil_cons h.ends _⟩
  · rintro _ ⟨before, after, htext, -⟩
    rw [Text.lowerFrom_append, h.lowerFrom_back] at htext
    have hlength := Text.length_lowerBetween_alone [] word [sign, letter]
    exact hne (eq_of_two_behind htext hlength hletter hsign)

end Setting

/-- A word that is not steady is lost in some text. -/
theorem exists_lost (h : ¬ Steady word) : ∃ text, Lost text word := by
  unfold Text.Steady at h
  simp only [Classical.not_forall, Classical.not_not] at h
  obtain ⟨front, back, rfl, hloose⟩ := h
  rcases hloose with ⟨hfront, hback⟩ | ⟨hback, hfront⟩
  · obtain ⟨letter, sign, hsetting, hletter, hsign⟩ :=
      exists_setting (lowerFrom [] (front ++ capitalSigma :: back)).head?
    exact ⟨_, hsetting.lost_in_front
      (hsetting.lowerBetween_front_ne hfront hback) hletter hsign⟩
  · obtain ⟨letter, sign, hsetting, hletter, hsign⟩ :=
      exists_setting (lowerFrom [] (front ++ capitalSigma :: back)).getLast?
    exact ⟨_, hsetting.lost_behind (hsetting.lowerBetween_back_ne hback hfront)
      hletter hsign⟩

-- ====================================================== matchers

/-- There are matchers for terms that take texts as they are and that ignore
case, and what the first one matches the second one matches too. -/
def StillMatches (wholeWords : Bool) (terms : List String) (text : String) :
    Prop :=
  ∃ strict lowered, new terms false = .ok strict ∧ new terms true = .ok lowered
    ∧ (isMatch { strict with wholeWords } text = true →
        isMatch { lowered with wholeWords } text = true)

/-- What matchers tell is which terms stand in the text, as it is or
lowered. -/
theorem stillMatches_iff_occurs {terms : List String}
    (hterms : ∀ term ∈ terms, term ≠ "") (wholeWords : Bool) (text : String) :
    StillMatches wholeWords terms text
      ↔ ((∃ term ∈ terms, Occurs wholeWords text.toList term.toList) →
          ∃ term ∈ terms,
            Occurs wholeWords (lowerFrom [] text.toList)
              (lowerFrom [] term.toList)) := by
  obtain ⟨strict, hstrict, hmatch⟩ := isMatch_new_iff hterms false
  obtain ⟨lowered, hlowered, hmatch'⟩ := isMatch_new_iff hterms true
  have hmatch := hmatch wholeWords text
  have hmatch' := hmatch' wholeWords text
  simp only [normalize_false] at hmatch
  simp only [normalize_true] at hmatch'
  rw [← hmatch, ← hmatch']
  constructor
  · rintro ⟨strict', lowered', hstrict', hlowered', hstill⟩
    rw [hstrict] at hstrict'
    rw [hlowered] at hlowered'
    cases hstrict'
    cases hlowered'
    exact hstill
  · intro hstill
    exact ⟨strict, lowered, hstrict, hlowered, hstill⟩

/-- Ignoring case only adds matches, for any choice of terms and in every text,
if and only if all terms are steady. -/
theorem stillMatches_iff_steady {terms : List String}
    (hterms : ∀ term ∈ terms, term ≠ "") (wholeWords : Bool) :
    (∀ chosen, chosen ⊆ terms → ∀ text, StillMatches wholeWords chosen text)
      ↔ ∀ term ∈ terms, Steady term.toList := by
  constructor
  · intro hstill term hterm
    by_contra hloose
    obtain ⟨text, hoccurs, hlost⟩ := exists_lost hloose
    have hone : [term] ⊆ terms :=
      List.cons_subset.mpr ⟨hterm, List.nil_subset _⟩
    have hstill := hstill [term] hone (String.ofList text)
    rw [stillMatches_iff_occurs (fun t ht => hterms t (hone ht)),
      String.toList_ofList] at hstill
    obtain ⟨t, ht, hfound⟩ :=
      hstill ⟨term, List.mem_singleton_self _, hoccurs wholeWords⟩
    rw [List.mem_singleton.mp ht] at hfound
    exact hlost wholeWords hfound
  · intro hsteady chosen hchosen text
    rw [stillMatches_iff_occurs fun t ht => hterms t (hchosen ht)]
    rintro ⟨term, hterm, hoccurs⟩
    exact ⟨term, hterm, hoccurs.lowered (hsteady term (hchosen hterm))⟩

/-- Within a word a sigma keeps its form, at the end of one it does not. -/
theorem stillMatches_iff_steady_street :
    (∀ term ∈ ["ΣΑΝ", "ΟΔΟΣ"], term ≠ "")
      ∧ (∀ chosen, chosen ⊆ ["ΣΑΝ"] → ∀ text, StillMatches true chosen text)
      ∧ ¬ ∀ chosen, chosen ⊆ ["ΣΑΝ", "ΟΔΟΣ"]
      → ∀ text, StillMatches true chosen text := by
  refine
    ⟨by decide, (stillMatches_iff_steady (by decide) true).mpr (by decide),
      fun hstill => ?_⟩
  exact
    absurd ((stillMatches_iff_steady (by decide) true).mp hstill) (by decide)

/-- The term `ΟΔΟΣ` ends in a final sigma, the text `ΟΔΟΣ.Α` has none. -/
theorem not_stillMatches :
    ¬ ∀ (terms : List String) (wholeWords : Bool) (text : String),
        (∀ term ∈ terms, term ≠ "") → StillMatches wholeWords terms text := by
  intro hstill
  have hterms : ∀ term ∈ ["ΟΔΟΣ"], term ≠ "" := by decide
  have hstill :=
    (stillMatches_iff_occurs hterms true "ΟΔΟΣ.Α").mp
      (hstill _ true "ΟΔΟΣ.Α" hterms)
  have hoccurs : Occurs true "ΟΔΟΣ.Α".toList "ΟΔΟΣ".toList := by
    refine ⟨[], ['.', 'Α'], by decide, fun _ => ?_⟩
    rw [apart_iff]
    decide
  obtain ⟨term, hterm, before, after, htext, -⟩ :=
    hstill ⟨_, List.mem_singleton_self _, hoccurs⟩
  rw [List.mem_singleton.mp hterm] at htext
  have hsigma : '\u03C2' ∈ lowerFrom [] "ΟΔΟΣ".toList := by decide
  have hnone : '\u03C2' ∉ lowerFrom [] "ΟΔΟΣ.Α".toList := by decide
  rw [htext] at hnone
  exact hnone (List.mem_append_left _ (List.mem_append_right _ hsigma))

end Intake.WordMatcher
