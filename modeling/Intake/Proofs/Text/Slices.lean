/-
Octets of a text, divided at an offset.

Octets are divided in front of a character or not at all (`divide`), so text
that is counted in characters and cut by octets stays text if the offsets are
those where its characters begin. The offset behind a number of characters is
the width of that many (`getElem?_starts`), and what is cut off there are the
octets of the first characters, or of the last ones (`cutFront_eq`,
`cutBack_eq`): of all there are, if they are fewer than asked for.
-/
import Intake.Proofs.Text.Boundary

namespace Intake.Utf8

variable {text : List Char}

-- ====================================================== division

/-- Octets may be divided where they end and where a character begins. -/
def isBoundary (octets : List UInt8) (offset : Nat) : Bool :=
  offset == octets.length || octets[offset]?.any fun b => !isTail b

/-- The octets in front of an offset and those behind it, unless it divides a
character. -/
def divide (octets : List UInt8) (offset : Nat) :
    Option (List UInt8 × List UInt8) :=
  if isBoundary octets offset then
    some (octets.take offset, octets.drop offset) else none

/-- The offset behind a front of a text is a boundary. -/
theorem isBoundary_width (a b : List Char) :
    isBoundary (encode (a ++ b)) (width a) = true := by
  unfold isBoundary width
  rw [encode_append]
  cases b with
  | nil => simp [encode]
  | cons c b =>
      obtain ⟨lead, others, hlead, hnot⟩ :=
        encode_eq_cons (List.cons_ne_nil c b)
      rw [hlead, List.getElem?_append_right (Nat.le_refl _)]
      simp [hnot]

/-- A text is divided behind any of its fronts. -/
theorem divide_width (a b : List Char) :
    divide (encode (a ++ b)) (width a) = some (encode a, encode b) := by
  unfold divide
  rw [if_pos (isBoundary_width a b), encode_append]
  simp [width]

-- an offset inside of a character divides nothing
example : divide (encode ['n', 'é']) 2 = none := by decide

-- ===================================================== where characters begin

/-- The offsets where the characters of a text begin, counted on from one. -/
def startsFrom (offset : Nat) : List Char → List Nat
  | [] => []
  | c :: cs => offset :: startsFrom (offset + (encodeChar c).length) cs

/-- The offsets where the characters begin. -/
def starts (text : List Char) : List Nat := startsFrom 0 text

/-- Each character begins behind those in front of it, counted on from the
offset. -/
theorem getElem?_startsFrom (text : List Char) (offset : Nat) {n : Nat}
    (hn : n < text.length) :
    (startsFrom offset text)[n]? = some (offset + width (text.take n)) := by
  induction text generalizing offset n with
  | nil => simp at hn
  | cons c cs ih =>
      unfold startsFrom
      cases n with
      | zero => rfl
      | succ n =>
          have hrest : n < cs.length := by simpa using hn
          have hwidth : width ((c :: cs).take (n + 1))
              = (encodeChar c).length + width (cs.take n) := by
            unfold width
            rw [List.take_succ_cons, encode_cons, List.length_append]
          rw [List.getElem?_cons_succ, ih _ hrest, hwidth, Nat.add_assoc]

/-- Every character begins somewhere. -/
theorem length_startsFrom (text : List Char) (offset : Nat) :
    (startsFrom offset text).length = text.length := by
  induction text generalizing offset with
  | nil => rfl
  | cons c cs ih => simp [startsFrom, ih]

/-- A character begins behind the characters in front of it. -/
theorem getElem?_starts {n : Nat} (hn : n < text.length) :
    (starts text)[n]? = some (width (text.take n)) := by
  unfold starts
  rw [getElem?_startsFrom text 0 hn, Nat.zero_add]

/-- Behind the last character none begins. -/
theorem getElem?_starts_of_le {n : Nat} (hn : text.length ≤ n) :
    (starts text)[n]? = none := by
  unfold starts
  rw [List.getElem?_eq_none_iff, length_startsFrom]
  exact hn

-- ====================================================== the ends of a text

/-- The octets of the first characters of a text: those in front of the
character of that number, or all if there is none. -/
def cutFront (count : Nat) (text : List Char) : Option (List UInt8) :=
  match (starts text)[count]? with
  | some offset => (divide (encode text) offset).map Prod.fst
  | none => some (encode text)

/-- The octets of the last characters of a text: all if they are no more than
are asked for, otherwise those from the character on that has so many behind
it. -/
def cutBack (count : Nat) (text : List Char) : Option (List UInt8) :=
  if text.length ≤ count then some (encode text)
  else match (starts text)[text.length - count]? with
    | some offset => (divide (encode text) offset).map Prod.snd
    | none => some []

/-- A text is divided where the character of a number begins. -/
theorem divide_take (text : List Char) (n : Nat) :
    divide (encode text) (width (text.take n))
      = some (encode (text.take n), encode (text.drop n)) := by
  have hdivide := divide_width (text.take n) (text.drop n)
  rwa [List.take_append_drop] at hdivide

/-- What is cut off at the front are the octets of the first characters. -/
theorem cutFront_eq (count : Nat) (text : List Char) :
    cutFront count text = some (encode (text.take count)) := by
  unfold cutFront
  by_cases hcount : count < text.length
  · rw [getElem?_starts hcount]
    simp [divide_take]
  · rw [getElem?_starts_of_le (by omega), List.take_of_length_le (by omega)]

/-- What is cut off at the back are the octets of the last characters. -/
theorem cutBack_eq (count : Nat) (text : List Char) :
    cutBack count text = some (encode (text.drop (text.length - count))) := by
  unfold cutBack
  by_cases hcount : text.length ≤ count
  · rw [if_pos hcount, Nat.sub_eq_zero_of_le hcount, List.drop_zero]
  rw [if_neg hcount]
  by_cases hzero : count = 0
  · -- no character begins at the end of the text
    rw [getElem?_starts_of_le (by omega), List.drop_of_length_le (by omega)]
    rfl
  · rw [getElem?_starts (by omega)]
    simp [divide_take]

end Intake.Utf8
