/-
Texts that trimming leaves as they are.

White space is looked for at the ends only, so a text that begins and ends with
something else is trimmed whatever stands in between. That is what trimming
leaves of any text that is not blank, and all that it cuts off is white space,
so white space put around a text is cut off with it.
-/
import Intake.Text.Whitespace
import Mathlib.Data.List.Basic
import Mathlib.Data.List.TakeWhile

namespace Intake.Text

/-- A text that neither begins nor ends with white space, and is not empty. -/
structure Trimmed (cs : List Char) : Prop where
  filled : cs ≠ []
  front : ∀ c, cs.head? = some c → isWhitespace c = false
  back : ∀ c, cs.getLast? = some c → isWhitespace c = false

instance (cs : List Char) : Decidable (Trimmed cs) :=
  decidable_of_iff (cs ≠ [] ∧ cs.head?.all (!isWhitespace ·) = true
      ∧ cs.getLast?.all (!isWhitespace ·) = true) (by
    simp only [Option.all_eq_true, Bool.not_eq_true']
    exact ⟨fun ⟨filled, front, back⟩ => ⟨filled, front, back⟩,
      fun h => ⟨h.filled, h.front, h.back⟩⟩)

variable {cs : List Char}

section ends

variable {p : Char → Bool}

theorem cons_takeWhile_append (p : Char → Bool) (c : Char) (cs : List Char) :
    (c :: cs.takeWhile p) ++ cs.dropWhile p = c :: cs := by
  rw [List.cons_append, List.takeWhile_append_dropWhile]

/-- No run begins with a character of another kind. -/
theorem takeWhile_eq_nil (h : ∀ c, cs.head? = some c → p c = false) :
    cs.takeWhile p = [] := by
  cases cs with
  | nil => rfl
  | cons c cs => exact List.takeWhile_cons_of_neg (by simp [h c rfl])

/-- Where no run begins nothing is dropped. -/
theorem dropWhile_eq_self (h : ∀ c, cs.head? = some c → p c = false) :
    cs.dropWhile p = cs := by
  cases cs with
  | nil => rfl
  | cons c cs => exact List.dropWhile_cons_of_neg (by simp [h c rfl])

/-- Behind a run stands a character of another kind. -/
theorem head_dropWhile (cs : List Char) :
    ∀ c, (cs.dropWhile p).head? = some c → p c = false := by
  intro c hc
  have hhead := List.head?_dropWhile_not p cs
  rw [hc] at hhead
  exact hhead

end ends

/-- A trimmed text is left as it is. -/
theorem Trimmed.trim_eq (h : Trimmed cs) : trim cs = cs := by
  have hback : cs.reverse.dropWhile isWhitespace = cs.reverse := by
    apply dropWhile_eq_self
    rw [List.head?_reverse]
    exact h.back
  unfold trim trimRight trimLeft
  rw [dropWhile_eq_self h.front, hback, List.reverse_reverse]

/-- Whatever stands between two trimmed texts, both ends are trimmed. -/
theorem Trimmed.append {a b : List Char} (ha : Trimmed a) (hb : Trimmed b)
    (between : List Char) :
    Trimmed (a ++ (between ++ b)) where
  filled := by simp [ha.filled]
  front := by
    rw [List.head?_append_of_ne_nil _ ha.filled]
    exact ha.front
  back := by
    rw [← List.append_assoc, List.getLast?_append_of_ne_nil _ hb.filled]
    exact hb.back

/-- Behind the white space at its front, a text is cut at its end only. -/
theorem trim_isPrefix (cs : List Char) : trim cs <+: trimLeft cs := by
  unfold trim trimRight
  rw [← List.reverse_suffix, List.reverse_reverse]
  exact List.dropWhile_suffix _

/-- Trimming makes no text longer. -/
theorem length_trim_le (cs : List Char) : (trim cs).length ≤ cs.length :=
  Nat.le_trans (trim_isPrefix cs).length_le (List.dropWhile_suffix _).length_le

/-- Something is left of a text that is not blank. -/
theorem trim_ne_nil (h : isBlank cs = false) : trim cs ≠ [] := by
  unfold trim trimRight trimLeft
  intro hnil
  rw [List.reverse_eq_nil_iff, List.dropWhile_eq_nil_iff] at hnil
  have hblank : cs.all isWhitespace = true := by
    rw [← List.takeWhile_append_dropWhile (p := isWhitespace) (l := cs),
      List.all_append, List.all_takeWhile, Bool.true_and, List.all_eq_true]
    exact fun c hc => hnil c (List.mem_reverse.mpr hc)
  unfold isBlank at h
  rw [hblank] at h
  cases h

/-- What trimming leaves of a text that is not blank. -/
theorem trimmed_trim (h : isBlank cs = false) : Trimmed (trim cs) where
  filled := trim_ne_nil h
  front := by
    intro c hc
    apply head_dropWhile cs c
    show (trimLeft cs).head? = some c
    obtain ⟨rest, hrest⟩ := trim_isPrefix cs
    rw [← hrest, List.head?_append, hc]
    rfl
  back := by
    unfold trim trimRight
    rw [List.getLast?_reverse]
    exact head_dropWhile _

-- ====================================================== what is cut off

theorem isBlank_append (a b : List Char) :
    isBlank (a ++ b) = (isBlank a && isBlank b) :=
  List.all_append

theorem isBlank_reverse (cs : List Char) : isBlank cs.reverse = isBlank cs :=
  List.all_reverse

/-- A blank text is white space throughout. -/
theorem isBlank_iff : isBlank cs = true ↔ ∀ c ∈ cs, isWhitespace c = true :=
  List.all_eq_true

/-- Nothing is left of a blank text that is trimmed at its front. -/
theorem trimLeft_eq_nil (h : isBlank cs = true) : trimLeft cs = [] :=
  List.dropWhile_eq_nil_iff.mpr (isBlank_iff.mp h)

/-- Nothing is left of a blank text that is trimmed. -/
theorem trim_eq_nil (h : isBlank cs = true) : trim cs = [] := by
  unfold trim
  rw [trimLeft_eq_nil h]
  rfl

/-- A blank front is cut off as a whole. -/
theorem trimLeft_append_of_isBlank {a : List Char} (h : isBlank a = true)
    (b : List Char) :
    trimLeft (a ++ b) = trimLeft b :=
  List.dropWhile_append_of_pos (isBlank_iff.mp h)

/-- Only white space stands around what trimming leaves. -/
theorem exists_trim (cs : List Char) :
    ∃ front back, cs = front ++ (trim cs ++ back) ∧ isBlank front = true
      ∧ isBlank back = true := by
  refine ⟨cs.takeWhile isWhitespace,
    ((trimLeft cs).reverse.takeWhile isWhitespace).reverse, ?_,
    List.all_takeWhile, ?_⟩
  · have hback :
        trim cs ++ ((trimLeft cs).reverse.takeWhile isWhitespace).reverse
          = trimLeft cs := by
      unfold trim trimRight
      rw [← List.reverse_append, List.takeWhile_append_dropWhile,
        List.reverse_reverse]
    rw [hback]
    exact List.takeWhile_append_dropWhile.symm
  · rw [isBlank_reverse]
    exact List.all_takeWhile

/-- A text is trimmed at its front as far as another one that does not begin
with white space stands behind it. -/
theorem trimLeft_append {b : List Char}
    (h : ∀ c, b.head? = some c → isWhitespace c = false) (a : List Char) :
    trimLeft (a ++ b) = trimLeft a ++ b := by
  unfold trimLeft
  rw [List.dropWhile_append, dropWhile_eq_self h]
  split
  · next hblank => rw [List.isEmpty_iff.mp hblank, List.nil_append]
  · rfl

/-- A text is trimmed at its back as far as another one that does not end in
white space stands in front of it. -/
theorem trimRight_append {b : List Char}
    (h : ∀ c, b.getLast? = some c → isWhitespace c = false) (c : List Char) :
    trimRight (b ++ c) = b ++ trimRight c := by
  have hfront :=
    trimLeft_append (b := b.reverse) (by rwa [List.head?_reverse]) c.reverse
  unfold trimLeft at hfront
  unfold trimRight
  rw [List.reverse_append, hfront, List.reverse_append, List.reverse_reverse]

/-- What stands around a trimmed text is trimmed on its far side only. -/
theorem Trimmed.trim_between {b : List Char} (h : Trimmed b)
    (a c : List Char) :
    trim (a ++ (b ++ c)) = trimLeft a ++ (b ++ trimRight c) := by
  have hfront : ∀ d, (b ++ c).head? = some d → isWhitespace d = false := by
    rw [List.head?_append_of_ne_nil _ h.filled]
    exact h.front
  have hback :
      ∀ d, (trimLeft a ++ b).getLast? = some d → isWhitespace d = false := by
    rw [List.getLast?_append_of_ne_nil _ h.filled]
    exact h.back
  unfold trim
  rw [trimLeft_append hfront, ← List.append_assoc, trimRight_append hback,
    List.append_assoc]

/-- Nothing is left of a blank text that is trimmed at its back. -/
theorem trimRight_eq_nil (h : isBlank cs = true) : trimRight cs = [] := by
  rw [← isBlank_reverse] at h
  exact congrArg List.reverse (trimLeft_eq_nil h)

/-- White space around a trimmed text is cut off. -/
theorem Trimmed.trim_append {a b c : List Char} (h : Trimmed b)
    (ha : isBlank a = true) (hc : isBlank c = true) :
    trim (a ++ (b ++ c)) = b := by
  rw [h.trim_between, trimLeft_eq_nil ha, trimRight_eq_nil hc, List.append_nil,
    List.nil_append]

/-- A text is kept but for its ends, whatever stands around it when it is
trimmed. -/
theorem trim_isInfix (a b c : List Char) :
    trim b <:+: trim (a ++ (b ++ c)) := by
  by_cases hblank : isBlank b = true
  · rw [trim_eq_nil hblank]
    exact List.nil_infix
  · obtain ⟨front, back, heq, -, -⟩ := exists_trim b
    have htrimmed : Trimmed (trim b) := trimmed_trim (by simpa using hblank)
    have htext : a ++ (b ++ c) = (a ++ front) ++ (trim b ++ (back ++ c)) := by
      conv_lhs => rw [heq]
      simp only [List.append_assoc]
    rw [htext, htrimmed.trim_between]
    exact
      ⟨trimLeft (a ++ front), trimRight (back ++ c), List.append_assoc _ _ _⟩

/-- A blank text behind another is cut off with its end. -/
theorem trim_append_of_isBlank {b : List Char} (h : isBlank b = true)
    (a : List Char) :
    trim (a ++ b) = trim a := by
  by_cases ha : isBlank a = true
  · rw [trim_eq_nil ha, trim_eq_nil (by rw [isBlank_append, ha, h]; rfl)]
  · obtain ⟨front, back, heq, hfront, hback⟩ := exists_trim a
    have htrimmed : Trimmed (trim a) := trimmed_trim (by simpa using ha)
    conv_lhs => rw [heq, List.append_assoc, List.append_assoc]
    exact htrimmed.trim_append hfront (by rw [isBlank_append, hback, h]; rfl)

/-- A trimmed text is not blank. -/
theorem Trimmed.isBlank_eq (h : Trimmed cs) : isBlank cs = false := by
  obtain ⟨c, rest, rfl⟩ := List.exists_cons_of_ne_nil h.filled
  unfold isBlank
  rw [List.all_cons, h.front c rfl]
  rfl

end Intake.Text
