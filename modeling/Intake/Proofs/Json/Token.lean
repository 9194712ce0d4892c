/-
Strings and integers are read back from their text.

However a character is escaped, it is one step of the reader, so a string is
read by induction on its characters. The digits of an integer all go into
the significand, which has room for them, and what closes a value, the end of
the text included, lets them be an integer.
-/
import Intake.Json.Parser
import Intake.Json.Printer

namespace Intake.Json

-- ====================================================== strings

/-- A hexadecimal digit is read as what it was written for. -/
theorem hexDigit?_hexDigit :
    ∀ n, n < 16 → hexDigit? (hexDigit n) = some n := by
  decide

/-- Two hexadecimal digits behind two zeros are a character below U+0100. -/
theorem unicodeEscape_hexDigit {n : Nat} (h : n < 256) (rest : List Char) :
    unicodeEscape
      ('0' :: '0' :: hexDigit (n / 16) :: hexDigit (n % 16) :: rest)
      = some (Char.ofNat n, rest) := by
  have hzero : hexDigit? '0' = some 0 := by decide
  have hhigh := hexDigit?_hexDigit (n / 16) (by omega)
  have hlow := hexDigit?_hexDigit (n % 16) (by omega)
  have hunit :
      fourHex ('0' :: '0' :: hexDigit (n / 16) :: hexDigit (n % 16) :: rest)
        = some (n, rest) := by
    have hn : ((0 * 16 + 0) * 16 + n / 16) * 16 + n % 16 = n := by omega
    simp only [fourHex, hzero, hhigh, hlow, Option.bind_eq_bind,
      Option.bind_some, hn]
  rw [unicodeEscape, hunit]
  simp only [Option.bind_eq_bind, Option.bind_some]
  rw [if_neg (by omega), if_neg (by omega)]

/-- An escaped character is read in one step. -/
theorem stringBody_escape (fuel : Nat) (c : Char) (rest : List Char) :
    stringBody (fuel + 1) (escape c ++ rest)
      = (stringBody fuel rest).map fun (read, rest) => (c :: read, rest) := by
  rw [escape]
  -- the characters with an escape of one letter
  iterate 7
    split
    · next h => rw [h]; rfl
  split
  · next hcontrol =>
      simp only [List.cons_append, List.nil_append, stringBody]
      rw [unicodeEscape_hexDigit (by omega), Char.ofNat_toNat]
  · next hquote hbackslash _ _ _ _ _ hplain =>
      rw [List.singleton_append, stringBody.eq_def]
      split
      · next heq => cases heq
      · next heq => cases heq
      · next heq =>
          cases heq
          exact absurd rfl hquote
      · next heq =>
          cases heq
          exact absurd rfl hbackslash
      · next hfuel heq =>
          cases hfuel
          cases heq
          exact if_neg (not_or.mpr ⟨hplain, hbackslash⟩)

/-- A string is read up to its closing quote, however its characters are
escaped. -/
theorem stringBody_flatMap_escape {fuel : Nat} {cs : List Char}
    (h : cs.length < fuel) (rest : List Char) :
    stringBody fuel (cs.flatMap escape ++ '"' :: rest) = some (cs, rest) := by
  induction cs generalizing fuel with
  | nil =>
      obtain ⟨fuel, rfl⟩ :=
        Nat.exists_eq_add_one_of_ne_zero (show fuel ≠ 0 by omega)
      rfl
  | cons c cs ih =>
      rw [List.length_cons] at h
      obtain ⟨fuel, rfl⟩ :=
        Nat.exists_eq_add_one_of_ne_zero (show fuel ≠ 0 by omega)
      rw [List.flatMap_cons, List.append_assoc, stringBody_escape,
        ih (by omega)]
      rfl

/-- Every character is written as something. -/
theorem length_escape_pos (c : Char) : 0 < (escape c).length := by
  rw [escape]
  repeat' split
  all_goals exact Nat.succ_pos _

/-- Escaping never makes a string shorter, so the fuel for its text does for
it. -/
theorem length_le_flatMap_escape (cs : List Char) :
    cs.length ≤ (cs.flatMap escape).length := by
  induction cs with
  | nil => exact Nat.le_refl 0
  | cons c cs ih =>
      have := length_escape_pos c
      rw [List.flatMap_cons, List.length_append, List.length_cons]
      omega

/-- A string is its opening quote, its escaped characters and its closing
quote. -/
theorem quoted_append (s : String) (rest : List Char) :
    quoted s ++ rest = '"' :: (s.toList.flatMap escape ++ '"' :: rest) := by
  rw [quoted, List.append_assoc]
  rfl

/-- A string is read back behind its opening quote. -/
theorem readString_quoted (s : String) (rest : List Char) :
    readString (s.toList.flatMap escape ++ '"' :: rest) = some (s, rest) := by
  have := length_le_flatMap_escape s.toList
  rw [readString,
    stringBody_flatMap_escape (by simp only [List.length_append]; omega)]
  exact congrArg (fun t => some (t, rest)) String.ofList_toList

-- ====================================================== integers

/-- What stands behind a value: the end of the text, a comma, or a bracket
that closes. -/
def Closes (rest : List Char) : Prop :=
  ∀ c ∈ rest.head?, c = ',' ∨ c = ']' ∨ c = '\x7d'

/-- A digit is read as its value. -/
theorem digit?_of_isDigit {c : Char} (h : c.isDigit = true) :
    digit? c = some (c.toNat - '0'.toNat) := by
  rw [Char.isDigit, Bool.and_eq_true, decide_eq_true_eq,
    decide_eq_true_eq] at h
  exact if_pos h

/-- A digit without a value is zero. -/
theorem eq_zero_of_isDigit {c : Char} (h : c.isDigit = true)
    (hzero : c.toNat - '0'.toNat = 0) :
    c = '0' := by
  have hlow := (Char.isDigit_iff_toNat.mp h).1
  exact Char.toNat_inj.mp (Nat.le_antisymm (Nat.le_of_sub_eq_zero hzero) hlow)

/-- No digit stands where a value was closed. -/
theorem Closes.takeDigits {rest : List Char} (h : Closes rest)
    (significand taken : Nat) :
    takeDigits significand taken rest = (significand, taken, rest) := by
  cases rest with
  | nil => rfl
  | cons c rest =>
      rcases h c rfl with rfl | rfl | rfl <;> rfl

/-- What closes a value is no digit. -/
theorem Closes.head?_digit? {rest : List Char} (h : Closes rest) :
    rest.head?.bind digit? = none := by
  cases rest with
  | nil => rfl
  | cons c rest =>
      rcases h c rfl with rfl | rfl | rfl <;> rfl

/-- There are no digits to skip where a value was closed. -/
theorem Closes.skipDigits {rest : List Char} (h : Closes rest) :
    skipDigits rest = (0, rest) := by
  cases rest with
  | nil => rfl
  | cons c rest =>
      rcases h c rfl with rfl | rfl | rfl <;> rfl

/-- Digits go into the significand while there is room. -/
theorem takeDigits_append {digits : List Char}
    (hdigits : ∀ c ∈ digits, c.isDigit = true) {significand : Nat}
    (hroom : Nat.ofDigitChars 10 digits significand < significandLimit)
    (taken : Nat) (rest : List Char) :
    takeDigits significand taken (digits ++ rest)
      = takeDigits (Nat.ofDigitChars 10 digits significand)
          (taken + digits.length) rest := by
  induction digits generalizing significand taken with
  | nil => rfl
  | cons c digits ih =>
      rw [List.forall_mem_cons] at hdigits
      rw [Nat.ofDigitChars_cons, Nat.mul_comm] at hroom ⊢
      have hnext :
          significand * 10 + (c.toNat - '0'.toNat) < significandLimit := by
        rw [Nat.ofDigitChars_eq_ofDigitChars_zero] at hroom
        refine Nat.lt_of_le_of_lt ?_ hroom
        have :=
          Nat.le_mul_of_pos_left (significand * 10 + (c.toNat - '0'.toNat))
          (Nat.pow_pos (n := digits.length) (show 0 < 10 by decide))
        omega
      rw [List.cons_append, takeDigits, digit?_of_isDigit hdigits.1]
      simp only [if_pos hnext]
      rw [ih hdigits.2 hroom, List.length_cons, Nat.add_assoc, Nat.add_comm 1]

/-- Only zero begins with a zero, and then nothing stands behind it. -/
theorem toDigits_eq_zero_cons {n : Nat} {digits : List Char}
    (h : Nat.toDigits 10 n = '0' :: digits) : digits = [] := by
  induction n using Nat.strongRecOn generalizing digits with
  | ind n ih =>
      by_cases hn : n < 10
      · rw [Nat.toDigits_of_lt_base hn] at h
        exact (List.cons.inj h).2.symm
      · rw [Nat.toDigits_of_base_le (by decide) (by omega)] at h
        cases hfront : Nat.toDigits 10 (n / 10) with
        | nil => exact absurd hfront Nat.toDigits_ne_nil
        | cons c front =>
            rw [hfront, List.cons_append] at h
            obtain ⟨rfl, -⟩ := List.cons.inj h
            rw [ih (n / 10) (by omega) hfront] at hfront
            have hvalue := congrArg (fun cs => Nat.ofDigitChars 10 cs 0) hfront
            rw [Nat.ofDigitChars_ten_toDigits] at hvalue
            have : n / 10 = 0 := hvalue
            omega

/-- Digits begin with no sign. -/
theorem toDigits_append_ne_sign (n : Nat) (rest rest' : List Char) :
    Nat.toDigits 10 n ++ rest = '-' :: rest' → False := by
  intro h
  cases hd : Nat.toDigits 10 n with
  | nil => exact Nat.toDigits_ne_nil hd
  | cons c digits =>
      have hc : c.isDigit = true :=
        Nat.isDigit_of_mem_toDigits (by decide) (by decide)
          (hd ▸ List.mem_cons_self)
      rw [hd, List.cons_append] at h
      rw [(List.cons.inj h).1] at hc
      exact absurd hc (by decide)

/-- The digits of an integer that fits are read as the integer; there is no
integer for a zero with a sign. -/
theorem unsignedNumber_toDigits {negative : Bool} {n : Nat} {i : Int}
    (hi : i = if negative then -(n : Int) else n) (fits : fitsInteger i)
    (hsign : ¬(negative = true ∧ n = 0)) {rest : List Char}
    (hrest : Closes rest) :
    unsignedNumber negative (Nat.toDigits 10 n ++ rest)
      = some (.int i fits, rest) := by
  subst hi
  have hroom : n < significandLimit := by
    change n < 18446744073709551616
    rw [fitsInteger] at fits
    split at fits <;> omega
  have hvalue := Nat.ofDigitChars_ten_toDigits (n := n)
  have hdigits : ∀ c ∈ Nat.toDigits 10 n, c.isDigit = true := fun c =>
    Nat.isDigit_of_mem_toDigits (by decide) (by decide)
  cases hd : Nat.toDigits 10 n with
  | nil => exact absurd hd Nat.toDigits_ne_nil
  | cons c digits =>
      rw [hd] at hvalue hdigits
      rw [List.forall_mem_cons] at hdigits
      rw [Nat.ofDigitChars_cons, Nat.mul_zero, Nat.zero_add] at hvalue
      have hfirst :
          ¬(c.toNat - '0'.toNat = 0
            ∧ ((digits ++ rest).head?.bind digit?).isSome = true) := by
        rintro ⟨hzero, hnext⟩
        rw [eq_zero_of_isDigit hdigits.1 hzero] at hd
        rw [toDigits_eq_zero_cons hd, List.nil_append,
          hrest.head?_digit?] at hnext
        cases hnext
      rw [List.cons_append, unsignedNumber, digit?_of_isDigit hdigits.1]
      simp only [if_neg hfirst]
      rw [takeDigits_append hdigits.2 (hvalue ▸ hroom), hvalue,
        hrest.takeDigits]
      simp only [hrest.skipDigits]
      split
      · next fraction _ => exact absurd (hrest '.' rfl) (by decide)
      · split
        · next => exact absurd (hrest 'e' rfl) (by decide)
        · next => exact absurd (hrest 'E' rfl) (by decide)
        · rw [if_neg (not_not_intro rfl), dif_pos fits, if_neg hsign]

/-- A number that is not negative is written as its digits. -/
theorem render_ofNat {n : Nat} (fits : fitsInteger (.ofNat n)) :
    (Number.render (.int (.ofNat n) fits)).toList = Nat.toDigits 10 n :=
  Nat.toList_repr

/-- A negative number is written as a sign and the digits. -/
theorem render_negSucc {n : Nat} (fits : fitsInteger (.negSucc n)) :
    (Number.render (.int (.negSucc n) fits)).toList
      = '-' :: Nat.toDigits 10 (n + 1) := by
  have happend : (Number.render (.int (.negSucc n) fits)).toList
      = ("-" ++ (n + 1).repr).toList := rfl
  rw [happend, String.toList_append, Nat.toList_repr]
  rfl

/-- An integer is read back in front of what closes it. -/
theorem readNumber_int {i : Int} (fits : fitsInteger i) {rest : List Char}
    (hrest : Closes rest) :
    readNumber ((Number.render (.int i fits)).toList ++ rest)
      = some (.int i fits, rest) := by
  cases i with
  | ofNat n =>
      rw [render_ofNat, readNumber]
      · exact unsignedNumber_toDigits (Int.ofNat_eq_natCast n) fits
          (fun h => Bool.false_ne_true h.1) hrest
      · exact toDigits_append_ne_sign n rest
  | negSucc n =>
      rw [render_negSucc, List.cons_append, readNumber]
      exact unsignedNumber_toDigits (Int.negSucc_eq n) fits (by omega) hrest

end Intake.Json
