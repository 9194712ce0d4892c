/-
Where pieces stand in the text that they are cut from.

Pieces that follow each other without gap are found again by their lengths: the
lengths of those in front of a piece tell where it begins, its own length where
it ends (`take_drop_offsetOf`). Pieces of one size are such pieces, and none
but the last is shorter than the size (`cut_groupsOf`).
-/
import Intake.Proofs.Chunk.Ink

namespace Intake.Chunk

variable {size k : Nat} {piece text : List Char} {pieces : List (List Char)}

/-- The number of characters in front of the piece at a place, the sum of the
lengths of the pieces before it. -/
def offsetOf : List (List Char) → Nat → Nat
  | piece :: pieces, k + 1 => piece.length + offsetOf pieces k
  | _, _ => 0

theorem offsetOf_cons (piece : List Char) (pieces : List (List Char))
    (k : Nat) :
    offsetOf (piece :: pieces) (k + 1) = piece.length + offsetOf pieces k := by
  rw [offsetOf]

/-- Behind the offset of a piece stand that piece and those behind it. -/
theorem drop_offsetOf (pieces : List (List Char)) (k : Nat) :
    pieces.flatten.drop (offsetOf pieces k) = (pieces.drop k).flatten := by
  induction pieces generalizing k with
  | nil => simp
  | cons piece pieces ih =>
      cases k with
      | zero => rfl
      | succ k =>
          rw [offsetOf_cons, List.flatten_cons, List.drop_length_add_append,
            ih, List.drop_succ_cons]

/-- A piece is what stands behind the pieces in front of it, as far as it
reaches. -/
theorem take_drop_offsetOf (h : pieces[k]? = some piece) :
    (pieces.flatten.drop (offsetOf pieces k)).take piece.length = piece := by
  obtain ⟨hk, hpiece⟩ := List.getElem?_eq_some_iff.mp h
  rw [drop_offsetOf, List.drop_eq_getElem_cons hk, List.flatten_cons, hpiece,
    List.take_left]

-- ====================================================== pieces of one size

/-- A text cut into pieces of one size. -/
structure Cut (size : Nat) (text : List Char) (pieces : List (List Char)) :
    Prop where
  flatten : pieces.flatten = text
  bounds : ∀ piece ∈ pieces, 1 ≤ piece.length ∧ piece.length ≤ size
  full : ∀ piece ∈ pieces.dropLast, piece.length = size
  placed : ∀ k piece, pieces[k]? = some piece →
    piece = (text.drop (offsetOf pieces k)).take piece.length

/-- Pieces of fixed size are neither empty nor longer than that size. -/
theorem length_of_mem_groupsOf (hsize : 0 < size)
    (h : piece ∈ groupsOf size text) :
    1 ≤ piece.length ∧ piece.length ≤ size := by
  fun_induction groupsOf size text with
  | case1 => cases h
  | case2 c cs ih =>
      rcases List.mem_cons.mp h with rfl | h
      · rw [List.length_cons, List.length_take]
        omega
      · exact ih h

/-- A piece with another one behind it is full. -/
theorem length_of_mem_dropLast_groupsOf (hsize : 0 < size)
    (h : piece ∈ (groupsOf size text).dropLast) : piece.length = size := by
  fun_induction groupsOf size text with
  | case1 => cases h
  | case2 c cs ih =>
      by_cases hrest : groupsOf size (cs.drop (size - 1)) = []
      · rw [hrest] at h
        cases h
      · have hlong : cs.drop (size - 1) ≠ [] := by
          intro hnil
          rw [hnil] at hrest
          exact hrest (by rw [groupsOf])
        rw [ne_eq, List.drop_eq_nil_iff] at hlong
        rw [List.dropLast_cons_of_ne_nil hrest] at h
        rcases List.mem_cons.mp h with rfl | h
        · rw [List.length_cons, List.length_take]
          omega
        · exact ih h

/-- Grouping characters by size cuts the text into pieces of that size, but for
the last one. -/
theorem cut_groupsOf (hsize : 0 < size) (text : List Char) :
    Cut size text (groupsOf size text) where
  flatten := flatten_groupsOf size text
  bounds := fun _ => length_of_mem_groupsOf hsize
  full := fun _ => length_of_mem_dropLast_groupsOf hsize
  placed := by
    intro k piece hpiece
    have hplace := take_drop_offsetOf hpiece
    rw [flatten_groupsOf] at hplace
    exact hplace.symm

-- the last piece is shorter than the others
example : groupsOf 5 "abcdefghijklmn".toList
    = ["abcde".toList, "fghij".toList, "klmn".toList] := by decide +kernel

end Intake.Chunk
