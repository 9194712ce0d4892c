/-
Text that is written as octets is read back.

A character of more than one octet is a lead and tails of six bits each. The
lead tells how many tails follow, and its first tail lies within the bounds
that go with it: these bounds leave out the values that a shorter form or no
character has, so every character meets them.
-/
import Intake.Text.Utf8
import Mathlib.Data.List.Basic

namespace Intake.Utf8

/-- A number below 256 is that of its octet. -/
theorem toNat_octet {n : Nat} (h : n < 256) : (UInt8.ofNat n).toNat = n := by
  rw [UInt8.toNat_ofNat']
  exact Nat.mod_eq_of_lt h

/-- The values that characters have. -/
theorem toNat_range (c : Char) :
    c.toNat < 0xD800 ∨ (0xDFFF < c.toNat ∧ c.toNat < 0x110000) := c.valid

-- ====================================================== tails

/-- A tail adds its six bits. -/
theorem tails_succ {b : Nat} (hb : 0x80 ≤ b ∧ b ≤ 0xBF) (count value : Nat)
    (rest : List UInt8) :
    tails (count + 1) value (UInt8.ofNat b :: rest)
      = tails count (value * 64 + b % 64) rest := by
  have hoctet : (UInt8.ofNat b).toNat = b := toNat_octet (by omega)
  have htail : isTail (UInt8.ofNat b) = true := by
    simp only [isTail, within, hoctet, Bool.and_eq_true, decide_eq_true_eq]
    exact hb
  rw [tails, if_pos htail, hoctet]

/-- A lead with a first tail within its bounds reads the tails it asks for. -/
theorem next_lead {lead b low high more : Nat}
    (hlead : 0x80 ≤ lead ∧ lead < 256)
    (hbounds : secondBounds lead = some (low, high, more))
    (hb : low ≤ b ∧ b ≤ high) (hoctet : b < 256) (rest : List UInt8) :
    next (UInt8.ofNat lead) (UInt8.ofNat b :: rest)
      = ((tails more (leadValue lead more * 64 + b % 64) rest).1.map
            Char.ofNat,
          (tails more (leadValue lead more * 64 + b % 64) rest).2) := by
  have hwithin : within low high (UInt8.ofNat b) = true := by
    simp only [within, toNat_octet hoctet, Bool.and_eq_true, decide_eq_true_eq]
    exact hb
  rw [next.eq_def, toNat_octet hlead.2, if_neg (by omega), hbounds]
  dsimp only
  rw [if_pos hwithin, toNat_octet hoctet]

-- ====================================================== leads

/-- The first tail of a character of two octets is free. -/
theorem secondBounds_two {lead : Nat} (h : 0xC2 ≤ lead ∧ lead ≤ 0xDF) :
    secondBounds lead = some (0x80, 0xBF, 0) := by
  rw [secondBounds, if_pos h]

/-- The first tail of a character of three octets lies within its bounds. -/
theorem secondBounds_three {n : Nat} (h : 0x800 ≤ n ∧ n < 0x10000)
    (hn : n < 0xD800 ∨ 0xDFFF < n) :
    ∃ low high, secondBounds (0xE0 + n / 4096) = some (low, high, 1)
      ∧ low ≤ 0x80 + n / 64 % 64 ∧ 0x80 + n / 64 % 64 ≤ high := by
  rw [secondBounds, if_neg (by omega)]
  by_cases hfirst : 0xE0 + n / 4096 = 0xE0
  · rw [if_pos hfirst]
    exact ⟨0xA0, 0xBF, rfl, by omega, by omega⟩
  rw [if_neg hfirst]
  by_cases hsurrogates : 0xE0 + n / 4096 = 0xED
  · rw [if_pos hsurrogates]
    exact ⟨0x80, 0x9F, rfl, by omega, by omega⟩
  rw [if_neg hsurrogates, if_pos (by omega)]
  exact ⟨0x80, 0xBF, rfl, by omega, by omega⟩

/-- The first tail of a character of four octets lies within its bounds. -/
theorem secondBounds_four {n : Nat} (h : 0x10000 ≤ n ∧ n < 0x110000) :
    ∃ low high, secondBounds (0xF0 + n / 262144) = some (low, high, 2)
      ∧ low ≤ 0x80 + n / 4096 % 64 ∧ 0x80 + n / 4096 % 64 ≤ high := by
  rw [secondBounds, if_neg (by omega), if_neg (by omega), if_neg (by omega),
    if_neg (by omega)]
  by_cases hfirst : 0xF0 + n / 262144 = 0xF0
  · rw [if_pos hfirst]
    exact ⟨0x90, 0xBF, rfl, by omega, by omega⟩
  rw [if_neg hfirst]
  by_cases hlast : 0xF0 + n / 262144 = 0xF4
  · rw [if_neg (by omega), if_pos hlast]
    exact ⟨0x80, 0x8F, rfl, by omega, by omega⟩
  rw [if_pos (by omega)]
  exact ⟨0x80, 0xBF, rfl, by omega, by omega⟩

-- ====================================================== characters

/-- The octets of a character are read as that character. -/
theorem next_encodeChar (c : Char) (rest : List UInt8) :
    ∃ lead others, encodeChar c = lead :: others
      ∧ next lead (others ++ rest) = (some c, rest) := by
  have hrange := toNat_range c
  have hchar : Char.ofNat c.toNat = c := Char.ofNat_toNat c
  rw [encodeChar]
  generalize c.toNat = n at hrange hchar ⊢
  by_cases hone : n < 0x80
  · rw [if_pos hone]
    refine ⟨_, _, rfl, ?_⟩
    rw [next.eq_def, toNat_octet (by omega), if_pos hone, hchar]
    rfl
  rw [if_neg hone]
  by_cases htwo : n < 0x800
  · rw [if_pos htwo]
    refine ⟨_, _, rfl, ?_⟩
    have hvalue :
        leadValue (0xC0 + n / 64) 0 * 64 + (0x80 + n % 64) % 64 = n := by
      rw [leadValue, if_pos rfl]
      omega
    rw [List.cons_append,
      next_lead (by omega) (secondBounds_two (by omega)) (by omega) (by omega),
      hvalue, tails, Option.map_some, hchar]
    rfl
  rw [if_neg htwo]
  by_cases hthree : n < 0x10000
  · rw [if_pos hthree]
    refine ⟨_, _, rfl, ?_⟩
    obtain ⟨low, high, hbounds, hsecond⟩ :=
      secondBounds_three (n := n) (by omega) (by omega)
    have hvalue :
        (leadValue (0xE0 + n / 4096) 1 * 64 + (0x80 + n / 64 % 64) % 64) * 64
          + (0x80 + n % 64) % 64 = n := by
      rw [leadValue, if_neg (by decide), if_pos rfl]
      omega
    rw [List.cons_append, next_lead (by omega) hbounds hsecond (by omega),
      List.cons_append, tails_succ (by omega), hvalue, tails, Option.map_some,
      hchar]
    rfl
  · rw [if_neg hthree]
    refine ⟨_, _, rfl, ?_⟩
    obtain ⟨low, high, hbounds, hsecond⟩ :=
      secondBounds_four (n := n) (by omega)
    have hvalue :
        ((leadValue (0xF0 + n / 262144) 2 * 64 + (0x80 + n / 4096 % 64) % 64)
          * 64
          + (0x80 + n / 64 % 64) % 64) * 64 + (0x80 + n % 64) % 64 = n := by
      rw [leadValue, if_neg (by decide), if_neg (by decide)]
      omega
    rw [List.cons_append, next_lead (by omega) hbounds hsecond (by omega),
      List.cons_append, tails_succ (by omega), List.cons_append,
      tails_succ (by omega), hvalue, tails, Option.map_some, hchar]
    rfl

-- ====================================================== texts

/-- The octets of a text are read as its characters. -/
theorem decodeParts_encode (cs : List Char) :
    decodeParts (encode cs) = cs.map some := by
  induction cs with
  | nil => rw [encode, List.flatMap_nil, decodeParts, List.map_nil]
  | cons c cs ih =>
      obtain ⟨lead, others, hencode, hnext⟩ := next_encodeChar c (encode cs)
      have hcons : encode (c :: cs) = lead :: (others ++ encode cs) := by
        rw [encode, List.flatMap_cons, hencode]
        rfl
      rw [hcons, decodeParts, hnext, ih, List.map_cons]

/-- A text is read back from its octets. -/
theorem decode_encode (cs : List Char) : decode (encode cs) = some cs := by
  have hall : (cs.map some).all Option.isSome = true := by
    rw [List.all_map, List.all_eq_true]
    exact fun c _ => rfl
  have hsome : (cs.map some).filterMap (fun c => c) = cs := by
    rw [List.filterMap_map]
    exact List.filterMap_some
  rw [decode, decodeParts_encode, if_pos hall, hsome]

end Intake.Utf8
