/-
The parts of a TOML document that hold no others: keys, strings, numbers,
dates and times.

Each reader takes the characters still unread and gives back what it read
with the characters that follow. Numbers may have single underscores
between digits. An integer has 64 bits and a float is the nearest double;
a positive float too large for one is refused.
-/
import Intake.Toml.Basic
import Intake.Json.Parser
import Intake.Time.Calendar

namespace Intake.Toml

-- ====================================================== characters

/-- White space within a line. -/
def isBlank (c : Char) : Bool := c == ' ' || c == '\t'

/-- The text behind blanks. -/
def skipBlanks (cs : List Char) : List Char := cs.dropWhile isBlank

/-- Every character but the control characters, of which the tab counts as
printable. -/
def isPrintable (c : Char) : Bool :=
  c == '\t' || (0x20 ≤ c.toNat && c.toNat != 0x7F)

/-- What follows a line end at the front. -/
def afterLineEnd : List Char → Option (List Char)
  | '\n' :: rest => some rest
  | '\r' :: '\n' :: rest => some rest
  | _ => none

/-- What follows blanks, comments and line ends; a flag tells whether the
text begins inside a comment. -/
def skipTrivia : Bool → List Char → List Char
  | _, [] => []
  | _, '\n' :: rest => skipTrivia false rest
  | _, '\r' :: '\n' :: rest => skipTrivia false rest
  | inComment, c :: rest =>
    if inComment then if isPrintable c then skipTrivia true rest else c :: rest
    else if c = '#' then skipTrivia true rest
    else if isBlank c then skipTrivia false rest
    else c :: rest

/-- What follows the rest of a line that holds nothing but a comment. -/
def afterLine (cs : List Char) : Option (List Char) :=
  let cs := match skipBlanks cs with
    | '#' :: rest => rest.dropWhile isPrintable
    | cs => cs
  if cs.isEmpty then some [] else afterLineEnd cs

-- ====================================================== strings

/-- A character written by as many hexadecimal digits as given. -/
def codePoint (count : Nat) (cs : List Char) : Option (Char × List Char) := do
  let digits ← (cs.take count).mapM Json.hexDigit?
  let code := digits.foldl (fun n d => n * 16 + d) 0
  if digits.length = count ∧ code.isValidChar then
    some (Char.ofNat code, cs.drop count) else none

/-- A character written by an escape, after its backslash. -/
def escape : List Char → Option (Char × List Char)
  | '"' :: rest => some ('"', rest)
  | '\\' :: rest => some ('\\', rest)
  | 'b' :: rest => some ('\x08', rest)
  | 'f' :: rest => some ('\x0c', rest)
  | 'n' :: rest => some ('\n', rest)
  | 'r' :: rest => some ('\r', rest)
  | 't' :: rest => some ('\t', rest)
  | 'u' :: rest => codePoint 4 rest
  | 'U' :: rest => codePoint 8 rest
  | _ => none

/-- A string of one line after its opening quote. A quote of the kind that
knows no escapes passes backslashes through. -/
def lineString (quote : Char) :
    Nat → List Char → Option (List Char × List Char)
  | 0, _ => none
  | _ + 1, [] => none
  | fuel + 1, c :: rest =>
    if c = quote then some ([], rest)
    else if c = '\\' ∧ quote = '"' then do
      let (read, rest) ← escape rest
      let (more, rest) ← lineString quote fuel rest
      some (read :: more, rest)
    else if isPrintable c then do
      let (more, rest) ← lineString quote fuel rest
      some (c :: more, rest)
    else none

/-- What follows a backslash that ends a line: the next character that is
neither blank nor a line end. -/
def afterLineContinuation (cs : List Char) : Option (List Char) :=
  (afterLineEnd (skipBlanks cs)).map blanks
where
  blanks : List Char → List Char
  | '\n' :: rest => blanks rest
  | '\r' :: '\n' :: rest => blanks rest
  | c :: rest => if isBlank c then blanks rest else c :: rest
  | [] => []

/-- A string of several lines after its three opening quotes. Up to two
quotes in front of the closing three belong to the string. -/
def blockString (quote : Char) :
    Nat → List Char → Option (List Char × List Char)
  | 0, _ => none
  | _ + 1, [] => none
  | fuel + 1, c :: rest =>
    if c = quote ∧ rest.take 2 = [quote, quote] then
      let kept := ((rest.drop 2).takeWhile (· == quote)).take 2
      some (kept, rest.drop (2 + kept.length))
    else if c = '\\' ∧ quote = '"' then
      match afterLineContinuation rest with
      | some rest => blockString quote fuel rest
      | none => do
        let (read, rest) ← escape rest
        let (more, rest) ← blockString quote fuel rest
        some (read :: more, rest)
    else
      match afterLineEnd (c :: rest) with
      | some rest => do
        let (more, rest) ← blockString quote fuel rest
        some ('\n' :: more, rest)
      | none =>
        if isPrintable c then do
          let (more, rest) ← blockString quote fuel rest
          some (c :: more, rest)
        else none

/-- A string after its first quote. A line end right behind three opening
quotes does not count. -/
def readString (quote : Char) (cs : List Char) : Option (String × List Char) :=
  let read :=
    if cs.take 2 = [quote, quote] then
      let body := cs.drop 2
      blockString quote (body.length + 1) ((afterLineEnd body).getD body)
    else lineString quote (cs.length + 1) cs
  read.map fun (s, rest) => (String.ofList s, rest)

-- ====================================================== keys

/-- A character of a key without quotes. -/
def isBare (c : Char) : Bool := c.isAlphanum || c == '-' || c == '_'

/-- One step of a key: bare, or a string of one line. -/
def readStep : List Char → Option (String × List Char)
  | [] => none
  | c :: rest =>
    if c = '"' ∨ c = '\'' then
      (lineString c (rest.length + 1) rest).map fun (s, rest) =>
        (String.ofList s, rest)
    else
      let bare := (c :: rest).takeWhile isBare
      if bare.isEmpty then none
      else some (String.ofList bare, (c :: rest).dropWhile isBare)

/-- A key: its path and its last step, with blanks around them. -/
def readKey : Nat → List Char → Option ((List String × String) × List Char)
  | 0, _ => none
  | fuel + 1, cs => do
    let (step, rest) ← readStep (skipBlanks cs)
    match skipBlanks rest with
    | '.' :: rest =>
      let ((path, key), rest) ← readKey fuel rest
      some ((step :: path, key), rest)
    | rest => some (([], step), rest)

/-- Keys, arrays and inline tables nest less deep than this. -/
def nestingLimit : Nat := 80

-- ====================================================== numbers

/-- Digits that go on behind a digit; an underscore stands between two. -/
def moreDigits (digit? : Char → Option Nat) :
    List Char → Option (List Nat × List Char)
  | [] => some ([], [])
  | ['_'] => none
  | '_' :: c :: rest => do
    let d ← digit? c
    let (more, rest) ← moreDigits digit? rest
    some (d :: more, rest)
  | c :: rest =>
    match digit? c with
    | some d =>
        (moreDigits digit? rest).map fun (more, rest) => (d :: more, rest)
    | none => some ([], c :: rest)

/-- At least one digit. -/
def readDigits (digit? : Char → Option Nat) :
    List Char → Option (List Nat × List Char)
  | [] => none
  | c :: rest => do
    let d ← digit? c
    let (more, rest) ← moreDigits digit? rest
    some (d :: more, rest)

/-- The number that digits stand for. -/
def valueOf (base : Nat) (digits : List Nat) : Nat :=
  digits.foldl (fun n d => n * base + d) 0

/-- A digit of a base up to sixteen. -/
def digitOf? (base : Nat) (c : Char) : Option Nat :=
  (Json.hexDigit? c).filter fun d => d < base

/-- An integer that fits 64 bits. -/
def integer? (i : Int) : Option Toml :=
  if -9223372036854775808 ≤ i ∧ i < 9223372036854775808 then
    some (.integer (Int64.ofInt i))
  else none

/-- An integer in another base than ten, after its mark. -/
def readBased (base : Nat) (cs : List Char) : Option (Toml × List Char) := do
  let (digits, rest) ← readDigits (digitOf? base) cs
  let i ← integer? (valueOf base digits)
  some (i, rest)

/-- The infinite double of either sign. -/
def infinity (negative : Bool) : Binary64 :=
  Binary64.withSign negative Binary64.infiniteMagnitude

/-- A double that is no number, of either sign. -/
def notANumber (negative : Bool) : Binary64 :=
  Binary64.withSign negative 0x7FF8000000000000

/-- Powers of ten beyond this one are out of reach of every double. -/
def exponentLimit : Int := 400

/-- The double for decimal digits and a power of ten. -/
def float? (negative : Bool) (digits : List Nat) (exponent : Int) :
    Option Toml :=
  let significand := valueOf 10 digits
  let top := exponent + digits.length
  let x :=
    if significand = 0 ∨ top < -exponentLimit then Binary64.withSign negative 0
    else if exponentLimit + digits.length < top then infinity negative
    else Binary64.ofDecimal negative significand exponent
  if x.isFinite || negative then some (.float x) else none

/-- The exponent of a float after its `e`. -/
def readExponent (cs : List Char) : Option (Int × List Char) :=
  let decimal := digitOf? 10
  match cs with
  | '-' :: rest => (readDigits decimal rest).map fun (ds, rest) =>
      (-(valueOf 10 ds : Int), rest)
  | '+' :: rest => (readDigits decimal rest).map fun (ds, rest) =>
      ((valueOf 10 ds : Int), rest)
  | _ => (readDigits decimal cs).map fun (ds, rest) =>
      ((valueOf 10 ds : Int), rest)

/-- What may follow the integral digits of a number. -/
def readFraction (negative : Bool) (digits : List Nat) (cs : List Char) :
    Option (Toml × List Char) := do
  let exponentAt (digits : List Nat) (shift : Int) (cs : List Char) :
      Option (Toml × List Char) := do
    let (exponent, rest) ← match cs with
      | 'e' :: rest | 'E' :: rest => readExponent rest
      | rest => some (0, rest)
    let x ← float? negative digits (exponent - shift)
    some (x, rest)
  match cs with
  | '.' :: rest =>
    let (places, rest) ← readDigits (digitOf? 10) rest
    exponentAt (digits ++ places) places.length rest
  | 'e' :: _ | 'E' :: _ => exponentAt digits 0 cs
  | _ =>
    let n : Int := valueOf 10 digits
    let i ← integer? (if negative then -n else n)
    some (i, cs)

/-- A number after its sign, if it has one. A zero stands alone in front. -/
def readUnsigned (negative : Bool) (cs : List Char) :
    Option (Toml × List Char) :=
  match cs with
  | 'i' :: 'n' :: 'f' :: rest => some (.float (infinity negative), rest)
  | 'n' :: 'a' :: 'n' :: rest => some (.float (notANumber negative), rest)
  | '0' :: rest => readFraction negative [0] rest
  | _ => do
    let (digits, rest) ← readDigits (digitOf? 10) cs
    readFraction negative digits rest

/-- An integer or a double, in any of its notations. -/
def readNumber (cs : List Char) : Option (Toml × List Char) :=
  match cs with
  | '0' :: 'x' :: rest => readBased 16 rest
  | '0' :: 'o' :: rest => readBased 8 rest
  | '0' :: 'b' :: rest => readBased 2 rest
  | '+' :: rest => readUnsigned false rest
  | '-' :: rest => readUnsigned true rest
  | _ => readUnsigned false cs

-- ====================================================== dates and times

/-- Exactly `count` digits that make a number within bounds, and their text. -/
def fixedDigits (count least most : Nat) (cs : List Char) :
    Option (List Char × List Char) := do
  let digits ← (cs.take count).mapM (digitOf? 10)
  let n := valueOf 10 digits
  if digits.length = count ∧ least ≤ n ∧ n ≤ most then
    some (cs.take count, cs.drop count) else none

/-- The text behind a character that has to come first. -/
def expect (wanted : Char) : List Char → Option (List Char)
  | [] => none
  | c :: rest => if c = wanted then some rest else none

/-- The fraction of a second as it is written: nine digits of it without
zeros at the end. -/
def fractionText (digits : List Char) : List Char :=
  match ((digits.take 9).reverse.dropWhile (· == '0')).reverse with
  | [] => []
  | kept => '.' :: kept

/-- Hours, minutes and seconds. -/
def readClock (cs : List Char) : Option (List Char × List Char) := do
  let (hour, cs) ← fixedDigits 2 0 23 cs
  let cs ← expect ':' cs
  let (minute, cs) ← fixedDigits 2 0 59 cs
  let cs ← expect ':' cs
  let (second, cs) ← fixedDigits 2 0 60 cs
  let clock := hour ++ ':' :: minute ++ ':' :: second
  match cs with
  | '.' :: rest =>
    let digits := rest.takeWhile Char.isDigit
    if digits.isEmpty then some (clock, cs)
    else some (clock ++ fractionText digits, rest.drop digits.length)
  | _ => some (clock, cs)

/-- The distance from universal time, if one is written. -/
def readZone (cs : List Char) : Option (List Char × List Char) :=
  let distance (sign : Char) (rest : List Char) :
      Option (List Char × List Char) := do
    let (hour, rest) ← fixedDigits 2 0 23 rest
    let rest ← expect ':' rest
    let (minute, rest) ← fixedDigits 2 0 59 rest
    let sign := if hour = ['0', '0'] ∧ minute = ['0', '0'] then '+' else sign
    some (sign :: hour ++ ':' :: minute, rest)
  match cs with
  | 'Z' :: rest | 'z' :: rest => some (['Z'], rest)
  | '+' :: rest => distance '+' rest
  | '-' :: rest => distance '-' rest
  | _ => some ([], cs)

/-- The date that digits write exists. -/
def isDate (year month day : List Char) : Bool :=
  let value (digits : List Char) := valueOf 10 (digits.filterMap (digitOf? 10))
  (Date.mk (value year) (value month) (value day)).isValid

/-- A day of the calendar, and the rest of the text. -/
def readDate (cs : List Char) : Option (List Char × List Char) := do
  let (year, cs) ← fixedDigits 4 0 9999 cs
  let cs ← expect '-' cs
  let (month, cs) ← fixedDigits 2 1 12 cs
  let cs ← expect '-' cs
  let (day, cs) ← fixedDigits 2 1 31 cs
  if isDate year month day then some (year ++ '-' :: month ++ '-' :: day, cs)
  else none

/-- As many digits as given and then a mark come first. -/
def begins (count : Nat) (mark : Char) (cs : List Char) : Bool :=
  (cs.take count).length == count && (cs.take count).all Char.isDigit
    && (cs.drop count).head? == some mark

/-- The text begins like a date. -/
def beginsDate (cs : List Char) : Bool := begins 4 '-' cs

/-- The text begins like a time of day. -/
def beginsClock (cs : List Char) : Bool := begins 2 ':' cs

/-- A date, a time, or both; only a time behind a date may have a zone. -/
def readMoment (cs : List Char) : Option (Toml × List Char) := do
  let time (written rest : List Char) :=
    (Toml.time (String.ofList written), rest)
  if beginsClock cs then
    let (clock, rest) ← readClock cs
    some (time clock rest)
  else
    let (date, rest) ← readDate cs
    let isMark :=
      rest.head? = some 'T' ∨ rest.head? = some 't' ∨ rest.head? = some ' '
    if isMark ∧ beginsClock (rest.drop 1) then
      let (clock, rest) ← readClock (rest.drop 1)
      let (zone, rest) ← readZone rest
      some (time (date ++ 'T' :: clock ++ zone) rest)
    else some (time date rest)

end Intake.Toml
