/-
The values a record field may hold, their views and their text forms.

Every non-null value is one of eight kinds; null is the absence of a
value. Doubles are equal when their bits are, so a not-a-number equals
itself and the two zeros differ; all other kinds are equal as their
contents are. The JSON form keeps less than the value: text, long
integers, finite doubles, truth values and documents are read back as
they were, while instants and octets come back as text and short integers
as long ones.
-/
import Intake.Json.Printer
import Intake.Time.Instant
import Intake.Text.Base64

namespace Intake

/-- The kinds of values. -/
inductive ValueType where
  | text | int | long | bool | float | timestamp | bytes | json
deriving DecidableEq, Repr, Inhabited

namespace ValueType

/-- All kinds of values. -/
def all : List ValueType :=
  [.text, .int, .long, .bool, .float, .timestamp, .bytes, .json]

/-- The name of a kind in documents. -/
def name : ValueType → String
  | .text => "text"
  | .int => "int"
  | .long => "long"
  | .bool => "bool"
  | .float => "float"
  | .timestamp => "timestamp"
  | .bytes => "bytes"
  | .json => "json"

/-- The name of a kind in messages. -/
def title : ValueType → String
  | .text => "Text"
  | .int => "Int"
  | .long => "Long"
  | .bool => "Bool"
  | .float => "Float"
  | .timestamp => "Timestamp"
  | .bytes => "Bytes"
  | .json => "Json"

/-- The kind of a name. -/
def ofName? (s : String) : Option ValueType := all.find? fun t => t.name == s

/-- The place of a kind among the kinds. -/
def index : ValueType → Nat
  | .text => 0
  | .int => 1
  | .long => 2
  | .bool => 3
  | .float => 4
  | .timestamp => 5
  | .bytes => 6
  | .json => 7

end ValueType

/-- One non-null value. Short and long integers hold 32 and 64 bits. -/
inductive Value where
  | text (value : String)
  | int (value : Int32)
  | long (value : Int64)
  | bool (value : Bool)
  | float (value : Binary64)
  | timestamp (value : Instant)
  | bytes (value : List UInt8)
  | json (value : Json)
deriving Repr, Inhabited

namespace Value

/-- The kind of a value. -/
def type : Value → ValueType
  | .text _ => .text
  | .int _ => .int
  | .long _ => .long
  | .bool _ => .bool
  | .float _ => .float
  | .timestamp _ => .timestamp
  | .bytes _ => .bytes
  | .json _ => .json

-- ====================================================== views

/-- The text of a text. -/
def text? : Value → Option String
  | .text s => some s
  | _ => none

/-- The integer held by either kind of integer. -/
def long? : Value → Option Int64
  | .int i => some i.toInt64
  | .long i => some i
  | _ => none

/-- The integer held by either kind of integer, if 32 bits hold it. -/
def int? : Value → Option Int32
  | .int i => some i
  | .long i =>
    if -2147483648 ≤ i.toInt ∧ i.toInt < 2147483648 then
      some (Int32.ofInt i.toInt) else none
  | _ => none

/-- The number held by a double or, rounded to one, by an integer. -/
def float? : Value → Option Binary64
  | .float x => some x
  | .int i => some (Binary64.ofInt i.toInt)
  | .long i => some (Binary64.ofInt i.toInt)
  | _ => none

/-- The truth value of a truth value. -/
def bool? : Value → Option Bool
  | .bool b => some b
  | _ => none

/-- An instant, also one given by its text. -/
def timestamp? : Value → Option Instant
  | .timestamp t => some t
  | .text s => Instant.parse s
  | _ => none

/-- Octets, also ones given as base64 text. -/
def bytes? : Value → Option (List UInt8)
  | .bytes b => some b
  | .text s => Base64.decode s.toList
  | _ => none

/-- The document of a document. -/
def json? : Value → Option Json
  | .json j => some j
  | _ => none

-- ====================================================== text

/-- Doubles in running text are written without an exponent. -/
def floatLayout : Layout := ⟨.up, none, false⟩

/-- A double as plain text. -/
def floatText (x : Binary64) : String :=
  if x.isNaN then "NaN"
  else if x.isFinite then floatLayout.render x
  else if x.isNegative then "-inf"
  else "inf"

/-- The value as plain text, as matched by stages that search text. -/
def toText : Value → String
  | .text s => s
  | .int i => toString i.toInt
  | .long i => toString i.toInt
  | .bool b => if b then "true" else "false"
  | .float x => floatText x
  | .timestamp t => t.render
  | .bytes b => String.ofList (Base64.encode b)
  | .json j => j.render

-- ====================================================== documents

/-- The document of a value. Kinds that share a shape there are not told apart
by it. -/
def toJson : Value → Json
  | .text s => .text s
  | .int i => Json.ofLong i.toInt64
  | .long i => Json.ofLong i
  | .bool b => .bool b
  | .float x => Json.ofDouble x
  | .timestamp t => .text t.render
  | .bytes b => .text (String.ofList (Base64.encode b))
  | .json j => j

/-- The value a document stands for; null stands for none. -/
def ofJson : Json → Option Value
  | .null => none
  | .bool b => some (.bool b)
  | .text s => some (.text s)
  | .number n => match n.long? with
    | some i => some (.long i)
    | none => some (.float n.toDouble)
  | j => some (.json j)

-- ====================================================== equality

/-- Equality of values of one kind. Documents are compared by what they
mean. -/
def same : Value → Value → Bool
  | .text a, .text b => a == b
  | .int a, .int b => a == b
  | .long a, .long b => a == b
  | .bool a, .bool b => a == b
  | .float a, .float b => a == b
  | .timestamp a, .timestamp b => a == b
  | .bytes a, .bytes b => a == b
  | .json a, .json b => a == b
  | _, _ => false

instance : BEq Value := ⟨same⟩

/-- What identifies a value in a table of values already seen. -/
def digest (v : Value) : List Json.Mark :=
  .tag v.type.index :: match v with
    | .text s => [.word s]
    | .int i => [.integer i.toInt]
    | .long i => [.integer i.toInt]
    | .bool b => [.truth b]
    | .float x => [.bits x.bits]
    | .timestamp t => [.integer t.seconds, .integer t.nanos]
    | .bytes b => [.octets b]
    | .json j => j.digest

end Value

end Intake
