/-
Where the characters of a text begin among its octets.

The first octet of a character is no tail and the others are, so the octets of
a text show where its characters begin. Hence the octets of one text stand
among those of another only as text (`encode_eq_append`): what is in front of
them and what is behind them are the octets of texts too. This is not so for
the empty text, whose octets stand everywhere, inside of characters as well.
-/
import Intake.Proofs.Text.Utf8

namespace Intake.Utf8

-- ====================================================== one character

/-- The tails are the octets from 0x80 to 0xBF. -/
theorem isTail_octet {n : Nat} (h : n < 256) :
    isTail (UInt8.ofNat n) = (decide (0x80 ≤ n) && decide (n ≤ 0xBF)) := by
  rw [isTail, within, toNat_octet h]

/-- Octets outside of these bounds are no tails. -/
theorem isTail_lead {n : Nat} (h : n < 256) (hlead : n < 0x80 ∨ 0xBF < n) :
    isTail (UInt8.ofNat n) = false := by
  rw [isTail_octet h, Bool.and_eq_false_iff, decide_eq_false_iff_not,
    decide_eq_false_iff_not]
  omega

/-- Six bits behind 0x80 make a tail. -/
theorem isTail_tail (n : Nat) :
    isTail (UInt8.ofNat (0x80 + n % 64)) = true := by
  rw [isTail_octet (by omega), Bool.and_eq_true, decide_eq_true_eq,
    decide_eq_true_eq]
  omega

/-- The first octet of a character is no tail, and the others are. -/
theorem encodeChar_eq (c : Char) :
    ∃ lead others, encodeChar c = lead :: others ∧ isTail lead = false
      ∧ ∀ b ∈ others, isTail b = true := by
  have hrange := toNat_range c
  rw [encodeChar]
  generalize c.toNat = n at hrange ⊢
  have htails (n : Nat) {others : List UInt8}
      (h : ∀ b ∈ others, isTail b = true) :
      ∀ b ∈ UInt8.ofNat (0x80 + n % 64) :: others, isTail b = true :=
    List.forall_mem_cons.mpr ⟨isTail_tail n, h⟩
  have hlast := htails n (List.forall_mem_nil _)
  by_cases hone : n < 0x80
  · rw [if_pos hone]
    exact
      ⟨_, [], rfl, isTail_lead (by omega) (by omega), List.forall_mem_nil _⟩
  rw [if_neg hone]
  by_cases htwo : n < 0x800
  · rw [if_pos htwo]
    exact ⟨_, _, rfl, isTail_lead (by omega) (by omega), hlast⟩
  rw [if_neg htwo]
  by_cases hthree : n < 0x10000
  · rw [if_pos hthree]
    exact ⟨_, _, rfl, isTail_lead (by omega) (by omega), htails (n / 64) hlast⟩
  · rw [if_neg hthree]
    exact ⟨_, _, rfl, isTail_lead (by omega) (by omega),
      htails (n / 4096) (htails (n / 64) hlast)⟩

/-- An octet below 0x80 is a character by itself. -/
theorem eq_of_mem_encodeChar {c : Char} {b : UInt8} (h : b ∈ encodeChar c)
    (hb : b.toNat < 0x80) : c = Char.ofNat b.toNat := by
  obtain ⟨lead, others, hencode, -, htails⟩ := encodeChar_eq c
  obtain ⟨_, _, hsame, hread⟩ := next_encodeChar c []
  rw [hencode] at h hsame
  obtain ⟨rfl, rfl⟩ := List.cons.inj hsame
  rcases List.mem_cons.mp h with rfl | h
  · rw [next.eq_def, if_pos hb] at hread
    exact (Option.some.inj (Prod.mk.inj hread).1).symm
  · have htail := htails b h
    rw [isTail, within, Bool.and_eq_true, decide_eq_true_eq] at htail
    omega

/-- Every character has octets. -/
theorem length_encodeChar_pos (c : Char) : 0 < (encodeChar c).length := by
  obtain ⟨lead, others, hencode, -, -⟩ := encodeChar_eq c
  rw [hencode]
  exact Nat.succ_pos _

-- ====================================================== texts

theorem encode_cons (c : Char) (cs : List Char) :
    encode (c :: cs) = encodeChar c ++ encode cs :=
  List.flatMap_cons

theorem encode_append (a b : List Char) :
    encode (a ++ b) = encode a ++ encode b :=
  List.flatMap_append

/-- An octet below 0x80 is one of the characters of the text. -/
theorem mem_of_mem_encode {cs : List Char} {b : UInt8} (h : b ∈ encode cs)
    (hb : b.toNat < 0x80) : Char.ofNat b.toNat ∈ cs := by
  obtain ⟨c, hc, hmem⟩ := List.mem_flatMap.mp h
  exact eq_of_mem_encodeChar hmem hb ▸ hc

/-- The first of the octets is the first character, if it is below 0x80. -/
theorem head_of_head_encode {cs : List Char} {b : UInt8}
    (h : (encode cs).head? = some b) (hb : b.toNat < 0x80) :
    cs.head? = some (Char.ofNat b.toNat) := by
  cases cs with
  | nil => cases h
  | cons c cs =>
      obtain ⟨lead, others, hencode, -⟩ := encodeChar_eq c
      rw [encode_cons, hencode] at h
      obtain rfl := Option.some.inj h
      have hmem : lead ∈ encodeChar c := hencode ▸ List.mem_cons_self
      exact congrArg some (eq_of_mem_encodeChar hmem hb)

/-- The octets of a text that has a character begin with one that is no
tail. -/
theorem encode_eq_cons {word : List Char} (h : word ≠ []) :
    ∃ lead others, encode word = lead :: others ∧ isTail lead = false := by
  cases word with
  | nil => exact absurd rfl h
  | cons c cs =>
      obtain ⟨lead, others, hencode, hlead, -⟩ := encodeChar_eq c
      refine ⟨lead, others ++ encode cs, ?_, hlead⟩
      rw [encode_cons, hencode, List.cons_append]

/-- A text whose octets begin with those of another begins with it. -/
theorem encode_eq_append_right {word : List Char} :
    ∀ {cs : List Char} {back : List UInt8}, encode cs = encode word ++ back →
      ∃ after, cs = word ++ after ∧ back = encode after := by
  induction word with
  | nil => exact fun {cs back} h => ⟨cs, rfl, h.symm⟩
  | cons w word ih =>
      intro cs back h
      obtain ⟨lead, others, hw, hread⟩ :=
        next_encodeChar w (encode word ++ back)
      rw [encode_cons, hw, List.append_assoc, List.cons_append] at h
      cases cs with
      | nil => cases h
      | cons c cs =>
          -- one character is read off the front of both
          obtain ⟨lead', others', hc, hread'⟩ := next_encodeChar c (encode cs)
          rw [encode_cons, hc, List.cons_append] at h
          obtain ⟨rfl, hothers⟩ := List.cons.inj h
          rw [hothers, hread] at hread'
          obtain ⟨hchar, hrest⟩ := Prod.mk.inj hread'
          obtain rfl := Option.some.inj hchar
          obtain ⟨after, rfl, hback⟩ := ih hrest.symm
          exact ⟨after, rfl, hback⟩

/-- The octets of a text that has a character stand among those of another only
as text. -/
theorem encode_eq_append {word : List Char} (hword : word ≠ [])
    {back : List UInt8} :
    ∀ {cs : List Char} {front : List UInt8},
      encode cs = front ++ encode word ++ back →
      ∃ before after, cs = before ++ word ++ after ∧ front = encode before
        ∧ back = encode after := by
  obtain ⟨lead, others, hlead, hnot⟩ := encode_eq_cons hword
  intro cs
  induction cs with
  | nil =>
      intro front h
      rw [hlead] at h
      simp [encode] at h
  | cons c cs ih =>
      intro front h
      cases front with
      | nil =>
          obtain ⟨after, hcs, hback⟩ :=
            encode_eq_append_right (by simpa using h)
          exact ⟨[], after, hcs, rfl, hback⟩
      | cons b front =>
          obtain ⟨first, tails, hc, -, htails⟩ := encodeChar_eq c
          rw [encode_cons, hc, List.append_assoc, List.cons_append,
            List.cons_append] at h
          obtain ⟨rfl, hrest⟩ := List.cons.inj h
          rcases List.append_eq_append_iff.mp hrest with
            ⟨rest, rfl, hcs⟩ | ⟨rest, htail, hcs⟩
          · rw [← List.append_assoc] at hcs
            obtain ⟨before, after, rfl, rfl, hback⟩ := ih hcs
            refine ⟨c :: before, after, rfl, ?_, hback⟩
            rw [encode_cons, hc, List.cons_append]
          · cases rest with
            | nil =>
                obtain ⟨after, rfl, hback⟩ := encode_eq_append_right hcs.symm
                refine ⟨[c], after, rfl, ?_, hback⟩
                rw [encode_cons, hc, htail, List.append_nil]
                exact (List.append_nil _).symm
            | cons t rest =>
                -- the word would begin with a tail of this character
                rw [hlead] at hcs
                obtain rfl := (List.cons.inj hcs).1
                rw [htails lead
                  (htail ▸ List.mem_append_right _ List.mem_cons_self)] at hnot
                cases hnot

-- ====================================================== offsets

/-- The offset behind a text: the octets that it is written in. -/
def width (cs : List Char) : Nat := (encode cs).length

theorem width_append (a b : List Char) :
    width (a ++ b) = width a + width b := by
  rw [width, encode_append, List.length_append, width, width]

/-- Only the empty text has no octets. -/
theorem width_pos {cs : List Char} (h : cs ≠ []) : 0 < width cs := by
  obtain ⟨lead, others, hencode, -⟩ := encode_eq_cons h
  rw [width, hencode]
  exact Nat.succ_pos _

/-- A text is divided where a character begins. -/
theorem splitAt_append (before after : List Char) :
    splitAt (width before) (before ++ after) = (before, after) := by
  induction before with
  | nil =>
      cases after with
      | nil => rfl
      | cons c after =>
          have hpos := length_encodeChar_pos c
          rw [List.nil_append, splitAt, if_pos (show width [] < _ from hpos)]
  | cons c before ih =>
      rw [width, encode_cons, List.length_append, List.cons_append, splitAt,
        if_neg (by omega), Nat.add_sub_cancel_left, ← width, ih]

end Intake.Utf8
