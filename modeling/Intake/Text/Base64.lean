/-
Standard base64 with padding (RFC 4648, section 4).

Reading is strict: the length is a multiple of four, only the last group
is padded, and the bits a padded group leaves over are zero. So every
text that reads is the text of what it reads to.
-/
namespace Intake.Base64

/-- The characters for six bits, in the order of their values. -/
def alphabet : List Char :=
  "ABCDEFGHIJKLMNOPQRSTUVWXYZabcdefghijklmnopqrstuvwxyz0123456789+/".toList

/-- The character for six bits. -/
def symbol (n : Nat) : Char := alphabet.getD n '='

/-- The six bits of a character. -/
def sextet? (c : Char) : Option Nat :=
  if 'A' ≤ c ∧ c ≤ 'Z' then some (c.toNat - 'A'.toNat)
  else if 'a' ≤ c ∧ c ≤ 'z' then some (c.toNat - 'a'.toNat + 26)
  else if '0' ≤ c ∧ c ≤ '9' then some (c.toNat - '0'.toNat + 52)
  else if c = '+' then some 62
  else if c = '/' then some 63
  else none

/-- Three octets at a time as four characters, filled up with equals signs at
the end. -/
def encode : List UInt8 → List Char
  | [] => []
  | [a] =>
    let n := a.toNat * 16
    [symbol (n / 64), symbol (n % 64), '=', '=']
  | [a, b] =>
    let n := (a.toNat * 256 + b.toNat) * 4
    [symbol (n / 4096), symbol (n / 64 % 64), symbol (n % 64), '=']
  | a :: b :: c :: rest =>
    let n := (a.toNat * 256 + b.toNat) * 256 + c.toNat
    symbol (n / 262144) :: symbol (n / 4096 % 64) :: symbol (n / 64 % 64)
      :: symbol (n % 64) :: encode rest

/-- The octets of a text that was filled up. Bits that no octet takes have to
be zero, so a text is read only if it is the one that is written. -/
def decode : List Char → Option (List UInt8)
  | [] => some []
  | [p, q, '=', '='] => do
    let n := (← sextet? p) * 64 + (← sextet? q)
    if n % 16 = 0 then some [UInt8.ofNat (n / 16)] else none
  | [p, q, r, '='] => do
    let n := ((← sextet? p) * 64 + (← sextet? q)) * 64 + (← sextet? r)
    if n % 4 = 0 then some [UInt8.ofNat (n / 1024), UInt8.ofNat (n / 4 % 256)]
    else none
  | p :: q :: r :: s :: rest => do
    let n := (((← sextet? p) * 64 + (← sextet? q)) * 64 + (← sextet? r))
      * 64 + (← sextet? s)
    let following ← decode rest
    some (UInt8.ofNat (n / 65536) :: UInt8.ofNat (n / 256 % 256)
      :: UInt8.ofNat (n % 256)
      :: following)
  | _ => none

end Intake.Base64
