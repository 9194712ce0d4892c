/-
The ink of a text: what is left of it without white space.

Trimming and whatever else only puts in or takes out white space keeps the
ink of a text, so two texts with the same ink differ in white space alone.
The ink of a list of texts is that of the texts one behind the other.
-/
import Intake.Text.Whitespace

namespace Intake.Text

/-- The characters of a text that are no white space. -/
def ink (cs : List Char) : List Char := cs.filter fun c => !isWhitespace c

@[simp]
theorem ink_nil : ink [] = [] := rfl

@[simp]
theorem ink_append (a b : List Char) : ink (a ++ b) = ink a ++ ink b :=
  List.filter_append a b

theorem ink_cons (c : Char) (cs : List Char) :
    ink (c :: cs) = ink [c] ++ ink cs :=
  ink_append [c] cs

/-- Backwards the ink is the same, backwards. -/
@[simp]
theorem ink_reverse (cs : List Char) : ink cs.reverse = (ink cs).reverse :=
  List.filter_reverse

/-- A text of white space has no ink. -/
theorem ink_eq_nil {cs : List Char} (h : ∀ c ∈ cs, isWhitespace c = true) :
    ink cs = [] := by
  rw [ink, List.filter_eq_nil_iff]
  intro c hc
  simp [h c hc]

/-- White space in front adds no ink. -/
theorem ink_cons_of_isWhitespace {c : Char} (h : isWhitespace c = true)
    (cs : List Char) :
    ink (c :: cs) = ink cs := by
  rw [ink_cons, ink_eq_nil (List.forall_mem_singleton.mpr h)]
  rfl

/-- The space in front adds none. -/
@[simp]
theorem ink_space (cs : List Char) : ink (' ' :: cs) = ink cs :=
  ink_cons_of_isWhitespace (by decide) cs

/-- A blank text has no ink. -/
theorem ink_of_isBlank {cs : List Char} (h : isBlank cs = true) :
    ink cs = [] :=
  ink_eq_nil (List.all_eq_true.mp h)

-- ====================================================== runs of white space

section runs

variable {p : Char → Bool} (hp : ∀ c, p c = true → isWhitespace c = true)

include hp

/-- A run of white space in front has no ink. -/
theorem ink_takeWhile (cs : List Char) : ink (cs.takeWhile p) = [] :=
  ink_eq_nil fun c hc => hp c (List.all_eq_true.mp List.all_takeWhile c hc)

/-- All ink is behind such a run. -/
theorem ink_dropWhile (cs : List Char) : ink (cs.dropWhile p) = ink cs := by
  calc ink (cs.dropWhile p)
      = ink (cs.takeWhile p) ++ ink (cs.dropWhile p) := by
          rw [ink_takeWhile hp]; rfl
    _ = ink cs := by rw [← ink_append, List.takeWhile_append_dropWhile]

end runs

/-- Trimming keeps the ink. -/
@[simp]
theorem ink_trim (cs : List Char) : ink (trim cs) = ink cs := by
  rw [trim, trimRight, trimLeft, ink_reverse, ink_dropWhile fun _ h => h,
    ink_reverse, List.reverse_reverse, ink_dropWhile fun _ h => h]

-- ====================================================== texts in a row

/-- Texts that keep their ink one by one keep it as a whole. -/
theorem ink_flatten_map {α : Type} {f g : α → List Char} {xs : List α}
    (h : ∀ x ∈ xs, ink (f x) = ink (g x)) :
    ink (xs.map f).flatten = ink (xs.map g).flatten := by
  induction xs with
  | nil => rfl
  | cons x xs ih =>
      rw [List.forall_mem_cons] at h
      rw [List.map_cons, List.map_cons, List.flatten_cons, List.flatten_cons,
        ink_append, ink_append, h.1, ih h.2]

end Intake.Text
