/-
Octets as lower-case hexadecimal text, two digits each.
-/
namespace Intake.Hex

/-- Each octet as two digits, with small letters. -/
def encode (octets : List UInt8) : List Char :=
  octets.flatMap fun b =>
    [Nat.digitChar (b.toNat / 16), Nat.digitChar (b.toNat % 16)]

end Intake.Hex
