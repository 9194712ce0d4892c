/-
The compact text of a JSON document.

No blank is written between tokens. In a string only the quote, the
backslash and the characters below U+0020 are escaped, the commoner ones
by a letter and the others by four lower-case hexadecimal digits.
-/
import Intake.Json.Basic

namespace Intake.Json

/-- The digit for a number below sixteen, with small letters. -/
def hexDigit (n : Nat) : Char := (Nat.digitChar n)

/-- How one character stands inside a string. -/
def escape (c : Char) : List Char :=
  if c = '"' then ['\\', '"']
  else if c = '\\' then ['\\', '\\']
  else if c = '\x08' then ['\\', 'b']
  else if c = '\x0c' then ['\\', 'f']
  else if c = '\n' then ['\\', 'n']
  else if c = '\r' then ['\\', 'r']
  else if c = '\t' then ['\\', 't']
  else if c.toNat < 0x20 then
    ['\\', 'u', '0', '0', hexDigit (c.toNat / 16), hexDigit (c.toNat % 16)]
  else [c]

/-- A string in quotes. -/
def quoted (s : String) : List Char := '"' :: s.toList.flatMap escape ++ ['"']

mutual

/-- The text of a document as characters. -/
def write : Json → List Char
  | .null => "null".toList
  | .bool true => "true".toList
  | .bool false => "false".toList
  | .number n => n.render.toList
  | .text s => quoted s
  | .array [] => ['[', ']']
  | .array (x :: xs) => '[' :: (write x ++ writeItems xs)
  | .object [] => ['\x7b', '\x7d']
  | .object ((k, v) :: rest) =>
      '\x7b' :: (quoted k ++ ':' :: (write v ++ writeMembers rest))

/-- The items after the first and the closing bracket. -/
def writeItems : List Json → List Char
  | [] => [']']
  | x :: xs => ',' :: (write x ++ writeItems xs)

/-- The members after the first and the closing brace. -/
def writeMembers : List (String × Json) → List Char
  | [] => ['\x7d']
  | (k, v) :: rest =>
      ',' :: (quoted k ++ ':' :: (write v ++ writeMembers rest))

end

/-- The text of a document. -/
def render (document : Json) : String := String.ofList (write document)

end Intake.Json
