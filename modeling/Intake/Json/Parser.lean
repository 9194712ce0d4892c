/-
Reading a JSON document from text.

Only space, tab, line feed and carriage return are blanks. Arrays and
objects nest at most 127 deep. Each reader takes the characters still
unread and gives back what it read with the characters that follow.

A number without fraction and exponent is an integer if it fits; every
other number is read into at most 64 bits of significand and a decimal
exponent, and is then scaled by one correctly rounded power of ten, which
is the nearest double for all but long digit strings. A number too large
for a double is refused.
-/
import Intake.Json.Basic

namespace Intake.Json

-- ====================================================== characters

/-- The white space between the signs of a document. -/
def isBlank (c : Char) : Bool :=
  c == ' ' || c == '\t' || c == '\n' || c == '\r'

/-- The text behind white space. -/
def skipBlanks (cs : List Char) : List Char := cs.dropWhile isBlank

/-- The value of a decimal digit. -/
def digit? (c : Char) : Option Nat :=
  if '0' ≤ c ∧ c ≤ '9' then some (c.toNat - '0'.toNat) else none

/-- The value of a hexadecimal digit. -/
def hexDigit? (c : Char) : Option Nat :=
  if '0' ≤ c ∧ c ≤ '9' then some (c.toNat - '0'.toNat)
  else if 'a' ≤ c ∧ c ≤ 'f' then some (c.toNat - 'a'.toNat + 10)
  else if 'A' ≤ c ∧ c ≤ 'F' then some (c.toNat - 'A'.toNat + 10)
  else none

/-- Four hexadecimal digits. -/
def fourHex : List Char → Option (Nat × List Char)
  | a :: b :: c :: d :: rest => do
    let a ← hexDigit? a
    let b ← hexDigit? b
    let c ← hexDigit? c
    let d ← hexDigit? d
    some (((a * 16 + b) * 16 + c) * 16 + d, rest)
  | _ => none

-- ====================================================== strings

/-- A `\u` escape after its `u`; a leading surrogate needs its trailing one. -/
def unicodeEscape (cs : List Char) : Option (Char × List Char) := do
  let (unit, rest) ← fourHex cs
  if 0xD800 ≤ unit ∧ unit < 0xDC00 then
    match rest with
    | '\\' :: 'u' :: rest =>
      let (low, rest) ← fourHex rest
      if 0xDC00 ≤ low ∧ low < 0xE000 then
        some (Char.ofNat (0x10000 + (unit - 0xD800) * 0x400 + (low - 0xDC00)),
          rest)
      else none
    | _ => none
  else if 0xDC00 ≤ unit ∧ unit < 0xE000 then none
  else some (Char.ofNat unit, rest)

/-- The characters of a string after its opening quote. Every step reads at
least one character, so the number of characters left bounds the steps. -/
def stringBody : Nat → List Char → Option (List Char × List Char)
  | 0, _ => none
  | _ + 1, [] => none
  | _ + 1, '"' :: rest => some ([], rest)
  | fuel + 1, '\\' :: c :: rest =>
    let next (read : Char) (rest : List Char) :=
      (stringBody fuel rest).map fun (read', rest) => (read :: read', rest)
    match c with
    | '"' => next '"' rest
    | '\\' => next '\\' rest
    | '/' => next '/' rest
    | 'b' => next '\x08' rest
    | 'f' => next '\x0c' rest
    | 'n' => next '\n' rest
    | 'r' => next '\r' rest
    | 't' => next '\t' rest
    | 'u' => match unicodeEscape rest with
      | some (read, rest) => next read rest
      | none => none
    | _ => none
  | fuel + 1, c :: rest =>
    if c.toNat < 0x20 ∨ c = '\\' then none
    else (stringBody fuel rest).map fun (read, rest) => (c :: read, rest)

/-- A string behind its opening quote, and the rest of the text. -/
def readString (cs : List Char) : Option (String × List Char) :=
  (stringBody (cs.length + 1) cs).map fun (read, rest) =>
    (String.ofList read, rest)

-- ====================================================== numbers

/-- The largest significand that is kept. -/
def significandLimit : Nat := UInt64.size

/-- Digits read into a significand while it stays below the limit: the
significand, the number of digits taken into it, and what follows. -/
def takeDigits : Nat → Nat → List Char → Nat × Nat × List Char
  | significand, taken, [] => (significand, taken, [])
  | significand, taken, c :: rest =>
    match digit? c with
    | none => (significand, taken, c :: rest)
    | some d =>
      if significand * 10 + d < significandLimit then
        takeDigits (significand * 10 + d) (taken + 1) rest
      else (significand, taken, c :: rest)

/-- Passes over digits, counting them. -/
def skipDigits : List Char → Nat × List Char
  | [] => (0, [])
  | c :: rest =>
    if (digit? c).isSome then
      let (n, rest) := skipDigits rest
      (n + 1, rest)
    else (0, c :: rest)

/-- Scales by powers of ten of at most 308 until the exponent is used up. -/
def scale : Nat → Binary64 → Int → Option Binary64
  | 0, x, _ => some x
  | fuel + 1, x, exponent =>
    let power (n : Nat) := Binary64.ofDecimal false 1 n
    if exponent.natAbs ≤ 308 then
      some (if 0 ≤ exponent then x.mul (power exponent.toNat)
        else x.div (power (-exponent).toNat))
    else if x.isZero then some x
    else if 0 ≤ exponent then none
    else scale fuel (x.div (power 308)) (exponent + 308)

/-- A double as a number of a document; an infinite one is refused. -/
def finite? (x : Binary64) : Option Number :=
  if finite : x.isFinite = true then some (.float x finite) else none

/-- The double with the given parts. Four steps of `scale` take every
double to zero. -/
def ofParts (negative : Bool) (significand : Nat) (exponent : Int) :
    Option Number := do
  let x ← scale 8 (Binary64.ofInt significand) exponent
  finite? (if negative then Binary64.withSign true x.bits.toNat else x)

/-- Exponents from here on are not kept: such numbers are zero or too large for
a double. -/
def exponentLimit : Nat := 2147483648

/-- The digits of an exponent; more than 31 bits of it are not kept. -/
def exponentDigits : Nat → List Char → Option Nat × List Char
  | value, [] => (some value, [])
  | value, c :: rest =>
    match digit? c with
    | none => (some value, c :: rest)
    | some d =>
      if value * 10 + d < exponentLimit then
        exponentDigits (value * 10 + d) rest
      else (none, (skipDigits (c :: rest)).2)

/-- The exponent part after its `e`. -/
def exponentPart (negative : Bool) (significand : Nat) (exponent : Int)
    (cs : List Char) : Option (Number × List Char) :=
  let (down, cs) := match cs with
    | '+' :: rest => (false, rest)
    | '-' :: rest => (true, rest)
    | _ => (false, cs)
  match cs with
  | [] => none
  | c :: rest =>
    match digit? c with
    | none => none
    | some d =>
      match exponentDigits d rest with
      | (some e, rest) =>
        (ofParts negative significand
          (if down then exponent - e else exponent + e)).map (·, rest)
      | (none, rest) =>
        if significand ≠ 0 ∧ ¬down then none
        else (finite? (Binary64.withSign negative 0)).map (·, rest)

/-- What may follow the digits of a number that is a double. -/
def optionalExponent (negative : Bool) (significand : Nat) (exponent : Int)
    (cs : List Char) : Option (Number × List Char) :=
  match cs with
  | 'e' :: rest => exponentPart negative significand exponent rest
  | 'E' :: rest => exponentPart negative significand exponent rest
  | _ => (ofParts negative significand exponent).map (·, cs)

/-- The fraction after its point. Digits beyond a full significand are
passed over. -/
def fractionPart (negative : Bool) (significand : Nat) (exponent : Int)
    (cs : List Char) : Option (Number × List Char) :=
  let (significand, taken, rest) := takeDigits significand 0 cs
  let (passed, rest) := skipDigits rest
  if taken + passed = 0 then none
  else optionalExponent negative significand (exponent - taken) rest

/-- A number after its sign. -/
def unsignedNumber (negative : Bool) (cs : List Char) :
    Option (Number × List Char) :=
  match cs with
  | [] => none
  | c :: rest =>
    match digit? c with
    | none => none
    | some first =>
      let leadingZero := first = 0 ∧ (rest.head?.bind digit?).isSome
      if leadingZero then none
      else
        let (significand, _, rest) := takeDigits first 0 rest
        let (passed, rest) := skipDigits rest
        match rest with
        | '.' :: fraction => fractionPart negative significand passed fraction
        | _ =>
          match rest with
          | 'e' :: _ | 'E' :: _ =>
              optionalExponent negative significand passed rest
          | _ =>
            if passed ≠ 0 then
              (ofParts negative significand passed).map (·, rest)
            else
              let i : Int := if negative then -significand else significand
              if fits : fitsInteger i then
                if negative ∧ significand = 0 then
                  (finite? Binary64.negativeZero).map (·, rest)
                else some (.int i fits, rest)
              else (finite? (Binary64.ofInt i)).map (·, rest)

/-- A number with or without a sign, and the rest of the text. -/
def readNumber (cs : List Char) : Option (Number × List Char) :=
  match cs with
  | '-' :: rest => unsignedNumber true rest
  | _ => unsignedNumber false cs

-- ====================================================== documents

/-- Expects the given characters. -/
def expect : List Char → List Char → Option (List Char)
  | [], cs => some cs
  | _ :: _, [] => none
  | w :: ws, c :: cs => if w = c then expect ws cs else none

mutual

/-- A document, which may open `depth` more arrays and objects. -/
def readValue : Nat → Nat → List Char → Option (Json × List Char)
  | 0, _, _ => none
  | fuel + 1, depth, cs =>
    match skipBlanks cs with
    | [] => none
    | 'n' :: rest => (expect ['u', 'l', 'l'] rest).map (.null, ·)
    | 't' :: rest => (expect ['r', 'u', 'e'] rest).map (.bool true, ·)
    | 'f' :: rest => (expect ['a', 'l', 's', 'e'] rest).map (.bool false, ·)
    | '"' :: rest => (readString rest).map fun (s, rest) => (.text s, rest)
    | '[' :: rest =>
      match depth with
      | 0 => none
      | depth + 1 =>
        match skipBlanks rest with
        | ']' :: rest => some (.array [], rest)
        | _ =>
            (readItems fuel depth rest).map fun (xs, rest) => (.array xs, rest)
    | '\x7b' :: rest =>
      match depth with
      | 0 => none
      | depth + 1 =>
        match skipBlanks rest with
        | '\x7d' :: rest => some (.object [], rest)
        | _ => (readMembers fuel depth rest).map fun (xs, rest) =>
            (ofPairs xs, rest)
    | c :: rest =>
        (readNumber (c :: rest)).map fun (n, rest) => (.number n, rest)

/-- The items of an array and its closing bracket. -/
def readItems : Nat → Nat → List Char → Option (List Json × List Char)
  | 0, _, _ => none
  | fuel + 1, depth, cs =>
    match readValue fuel depth cs with
    | none => none
    | some (x, rest) =>
      match skipBlanks rest with
      | ',' :: rest =>
          (readItems fuel depth rest).map fun (xs, rest) => (x :: xs, rest)
      | ']' :: rest => some ([x], rest)
      | _ => none

/-- The members of an object and its closing brace, repeated keys included. -/
def readMembers :
    Nat → Nat → List Char → Option (List (String × Json) × List Char)
  | 0, _, _ => none
  | fuel + 1, depth, cs =>
    match skipBlanks cs with
    | '"' :: rest =>
      match readString rest with
      | none => none
      | some (key, rest) =>
        match skipBlanks rest with
        | ':' :: rest =>
          match readValue fuel depth rest with
          | none => none
          | some (x, rest) =>
            match skipBlanks rest with
            | ',' :: rest =>
              (readMembers fuel depth rest).map fun (xs, rest) =>
                ((key, x) :: xs, rest)
            | '\x7d' :: rest => some ([(key, x)], rest)
            | _ => none
        | _ => none
    | _ => none

end

/-- The most arrays and objects around a value. -/
def nestingLimit : Nat := 127

/-- The document a text holds, if it holds exactly one. A reader calls
another at most twice before it has read a character. -/
def parse (s : String) : Option Json :=
  let cs := s.toList
  match readValue (2 * cs.length + 2) nestingLimit cs with
  | some (document, rest) =>
      if (skipBlanks rest).isEmpty then some document else none
  | none => none

end Intake.Json
