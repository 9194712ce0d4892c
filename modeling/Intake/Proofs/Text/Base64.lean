/-
Octets are read back from their base64 text.

A group of characters and the octets behind it are the digits of one number, to
the base 64 and to the base 256. Every sextet is read from its character
(`sextet?_symbol`) and no character of a sextet is the padding, so the two
kinds of padded group are told from a full one by their last characters.
-/
import Intake.Text.Base64

namespace Intake.Base64

variable {n : Nat}

-- ====================================================== characters

/-- Every sextet is read back from its character. -/
theorem sextet?_symbol (h : n < 64) : sextet? (symbol n) = some n := by
  revert n
  decide +kernel

/-- The padding is the character of no sextet. -/
theorem symbol_ne_padding (h : n < 64) : symbol n ≠ '=' := by
  revert n
  decide +kernel

-- ====================================================== groups

/-- One octet stands in twelve bits of which the last four are zero. -/
theorem decode_one (h : n < 4096) (hzero : n % 16 = 0) :
    decode [symbol (n / 64), symbol (n % 64), '=', '=']
      = some [UInt8.ofNat (n / 16)] := by
  have hvalue : n / 64 * 64 + n % 64 = n := by omega
  rw [decode, sextet?_symbol (by omega), sextet?_symbol (by omega)]
  simp only [Option.bind_eq_bind, Option.bind_some, hvalue, if_pos hzero]

/-- Two octets stand in eighteen bits of which the last two are zero. -/
theorem decode_two (h : n < 262144) (hzero : n % 4 = 0) :
    decode [symbol (n / 4096), symbol (n / 64 % 64), symbol (n % 64), '=']
      = some [UInt8.ofNat (n / 1024), UInt8.ofNat (n / 4 % 256)] := by
  have hvalue : (n / 4096 * 64 + n / 64 % 64) * 64 + n % 64 = n := by omega
  have hthird : n % 64 < 64 := Nat.mod_lt _ (by decide)
  rw [decode, sextet?_symbol (by omega), sextet?_symbol (by omega),
    sextet?_symbol hthird]
  · simp only [Option.bind_eq_bind, Option.bind_some, hvalue, if_pos hzero]
  · exact fun hpadding => symbol_ne_padding hthird hpadding

/-- Three octets stand in twenty-four bits. -/
theorem decode_three (h : n < 16777216) {rest : List Char}
    {octets : List UInt8} (hrest : decode rest = some octets) :
    decode (symbol (n / 262144) :: symbol (n / 4096 % 64)
        :: symbol (n / 64 % 64) :: symbol (n % 64) :: rest)
      = some (UInt8.ofNat (n / 65536) :: UInt8.ofNat (n / 256 % 256)
          :: UInt8.ofNat (n % 256) :: octets) := by
  have hvalue :
      ((n / 262144 * 64 + n / 4096 % 64) * 64 + n / 64 % 64) * 64 + n % 64
        = n := by
    omega
  have hlast : n % 64 < 64 := Nat.mod_lt _ (by decide)
  have hne := symbol_ne_padding hlast
  rw [decode, sextet?_symbol (by omega), sextet?_symbol (by omega),
    sextet?_symbol (by omega), sextet?_symbol hlast, hrest]
  · simp only [Option.bind_eq_bind, Option.bind_some, hvalue]
  · exact fun _ hpadding _ => hne hpadding
  · exact fun hpadding _ => hne hpadding

-- ====================================================== reading back

/-- An octet is told by its number. -/
theorem ofNat_eq {m : Nat} {a : UInt8} (h : m = a.toNat) :
    UInt8.ofNat m = a := by
  rw [h, UInt8.ofNat_toNat]

/-- Octets are read back from their text, group by group. -/
theorem decode_encode (octets : List UInt8) :
    decode (encode octets) = some octets := by
  fun_induction encode octets with
  | case1 => rfl
  | case2 a n =>
      have ha := a.toNat_lt
      rw [decode_one (by omega) (by omega), ofNat_eq (a := a) (by omega)]
  | case3 a b n =>
      have ha := a.toNat_lt
      have hb := b.toNat_lt
      rw [decode_two (by omega) (by omega), ofNat_eq (a := a) (by omega),
        ofNat_eq (a := b) (by omega)]
  | case4 a b c rest n ih =>
      have ha := a.toNat_lt
      have hb := b.toNat_lt
      have hc := c.toNat_lt
      rw [decode_three (by omega) ih, ofNat_eq (a := a) (by omega),
        ofNat_eq (a := b) (by omega), ofNat_eq (a := c) (by omega)]

end Intake.Base64
