/-
Text as octets in UTF-8, and the reading of octets that may not be text.

`next` reads one character or gives up on the longest run of octets that
could have begun one. The strict reading refuses text with such a run, the
lenient one puts U+FFFD in its place.
-/
namespace Intake.Utf8

-- ====================================================== writing

/-- The octets of a character. -/
def encodeChar (c : Char) : List UInt8 :=
  let n := c.toNat
  if n < 0x80 then [UInt8.ofNat n]
  else if n < 0x800 then
    [UInt8.ofNat (0xC0 + n / 64), UInt8.ofNat (0x80 + n % 64)]
  else if n < 0x10000 then
    [UInt8.ofNat (0xE0 + n / 4096), UInt8.ofNat (0x80 + n / 64 % 64),
      UInt8.ofNat (0x80 + n % 64)]
  else
    [UInt8.ofNat (0xF0 + n / 262144), UInt8.ofNat (0x80 + n / 4096 % 64),
      UInt8.ofNat (0x80 + n / 64 % 64), UInt8.ofNat (0x80 + n % 64)]

/-- The octets of characters. -/
def encode (cs : List Char) : List UInt8 := cs.flatMap encodeChar

/-- The octets of a text. -/
def ofText (s : String) : List UInt8 := encode s.toList

/-- The characters in front of an octet offset and those behind it. A
character that the offset divides lies behind it. -/
def splitAt : Nat → List Char → List Char × List Char
  | _, [] => ([], [])
  | offset, c :: cs =>
    if offset < (encodeChar c).length then ([], c :: cs)
    else
      let (before, after) := splitAt (offset - (encodeChar c).length) cs
      (c :: before, after)

-- ====================================================== reading

/-- The octet lies between two bounds. -/
def within (low high : Nat) (b : UInt8) : Bool :=
  low ≤ b.toNat && b.toNat ≤ high

/-- An octet that goes on with a character. -/
def isTail (b : UInt8) : Bool := within 0x80 0xBF b

/-- The bounds of the octet after a leading one, and how many more tails
follow it. -/
def secondBounds (lead : Nat) : Option (Nat × Nat × Nat) :=
  if 0xC2 ≤ lead ∧ lead ≤ 0xDF then some (0x80, 0xBF, 0)
  else if lead = 0xE0 then some (0xA0, 0xBF, 1)
  else if lead = 0xED then some (0x80, 0x9F, 1)
  else if 0xE1 ≤ lead ∧ lead ≤ 0xEF then some (0x80, 0xBF, 1)
  else if lead = 0xF0 then some (0x90, 0xBF, 2)
  else if 0xF1 ≤ lead ∧ lead ≤ 0xF3 then some (0x80, 0xBF, 2)
  else if lead = 0xF4 then some (0x80, 0x8F, 2)
  else none

/-- Reads tails behind a value. -/
def tails : Nat → Nat → List UInt8 → Option Nat × List UInt8
  | 0, value, rest => (some value, rest)
  | _ + 1, _, [] => (none, [])
  | count + 1, value, b :: rest =>
    if isTail b then tails count (value * 64 + b.toNat % 64) rest
    else (none, b :: rest)

/-- What a leading octet contributes to the value. -/
def leadValue (lead more : Nat) : Nat :=
  if more = 0 then lead % 32 else if more = 1 then lead % 16 else lead % 8

/-- The character that begins with an octet, if one does, and the octets
that follow it or the run that could not begin one. -/
def next (lead : UInt8) (rest : List UInt8) : Option Char × List UInt8 :=
  if lead.toNat < 0x80 then (some (Char.ofNat lead.toNat), rest)
  else match secondBounds lead.toNat, rest with
    | some (low, high, more), b :: rest =>
      if within low high b then
        let (value, rest) :=
          tails more (leadValue lead.toNat more * 64 + b.toNat % 64) rest
        (value.map Char.ofNat, rest)
      else (none, b :: rest)
    | _, rest => (none, rest)

/-- Reading tails takes from the octets, so what is left is no longer than they
are. -/
theorem length_tails (count value : Nat) (octets : List UInt8) :
    (tails count value octets).2.length ≤ octets.length := by
  induction count generalizing value octets with
  | zero => simp [tails]
  | succ count ih =>
    cases octets with
    | nil => simp [tails]
    | cons b rest =>
      simp only [tails]
      split
      · have := ih (value * 64 + b.toNat % 64) rest
        simp only [List.length_cons]
        omega
      · simp

/-- What follows a character is no longer than what follows its first octet. -/
theorem length_next (lead : UInt8) (rest : List UInt8) :
    (next lead rest).2.length ≤ rest.length := by
  simp only [next]
  split
  · simp
  · split
    · split
      · rename_i more b tail _ _
        have := length_tails more
          (leadValue lead.toNat more * 64 + b.toNat % 64) tail
        simp only [List.length_cons]
        omega
      · simp
    · simp

/-- The characters of octets, with nothing for a run that is no character. -/
def decodeParts : List UInt8 → List (Option Char)
  | [] => []
  | b :: rest => (next b rest).1 :: decodeParts (next b rest).2
termination_by octets => octets.length
decreasing_by
  have := length_next b rest
  simp only [List.length_cons]
  omega

/-- The text of octets that are UTF-8 throughout. -/
def decode (octets : List UInt8) : Option (List Char) :=
  let parts := decodeParts octets
  if parts.all Option.isSome then some (parts.filterMap fun c => c) else none

/-- The text of octets with a replacement for every run that is no
character. -/
def decodeLenient (octets : List UInt8) : List Char :=
  (decodeParts octets).map fun c => c.getD '\uFFFD'

end Intake.Utf8
