/-
JSON documents: ordered objects, and numbers that remember whether they
were written as integers.

An object is a list of members in which no key occurs twice; `insert`
keeps it so, the first occurrence fixing the place and the last one the
value. Two documents are equal when they hold the same members in any
order and numerically equal numbers, so `0.0` equals `-0.0` while an
integer never equals a fraction. `digest` is the reading of a document
that identifies it in a table of values already seen: members by key,
numbers by their text.
-/
import Intake.Number.Shortest

namespace Intake

/-- The integers a document can hold as integers. -/
def Json.fitsInteger (i : Int) : Prop :=
  -9223372036854775808 ≤ i ∧ i < 18446744073709551616

instance (i : Int) : Decidable (Json.fitsInteger i) :=
  inferInstanceAs (Decidable (_ ∧ _))

/-- A number of a document: an integer of 64 bits, signed or unsigned, or a
finite double. -/
inductive Json.Number where
  | int (value : Int) (fits : Json.fitsInteger value)
  | float (value : Binary64) (finite : value.isFinite = true)
deriving DecidableEq, Repr

/-- A document. Members stay in the order in which they were written or
read. -/
inductive Json where
  | null
  | bool (value : Bool)
  | number (value : Json.Number)
  | text (value : String)
  | array (items : List Json)
  | object (members : List (String × Json))
deriving Repr, Inhabited

namespace Json

-- ====================================================== numbers

/-- Doubles are written positionally from `0.00001` to
`1000000000000000.0`, and always so that they read as doubles. -/
def Number.layout : Layout := ⟨.toEven, some (-5, 15), true⟩

/-- A number as it is printed. -/
def Number.render : Number → String
  | .int i _ => toString i
  | .float x _ => Number.layout.render x

/-- Integers are equal to integers, doubles to numerically equal doubles. -/
def Number.same : Number → Number → Bool
  | .int i _, .int j _ => i == j
  | .float x _, .float y _ => x.sameNumber y
  | _, _ => false

/-- The number as a signed 64-bit integer, if it was written as one. -/
def Number.long? : Number → Option Int64
  | .int i _ => if i < 9223372036854775808 then some (Int64.ofInt i) else none
  | .float _ _ => none

/-- A number as a double, the nearest one for an integer. -/
def Number.toDouble : Number → Binary64
  | .int i _ => Binary64.ofInt i
  | .float x _ => x

/-- A number for a double; there is none for an infinity or a not-a-number. -/
def ofDouble (x : Binary64) : Json :=
  if finite : x.isFinite = true then .number (.float x finite) else .null

/-- Integers of 64 bits are among those that documents hold as integers. -/
theorem fitsInteger_toInt (i : Int64) : fitsInteger i.toInt := by
  have below := i.toInt_lt
  have above := i.le_toInt
  unfold fitsInteger
  omega

/-- The number for a signed 64-bit integer. -/
def ofLong (i : Int64) : Json := .number (.int i.toInt (fitsInteger_toInt i))

-- ====================================================== members

/-- The value under a key. -/
def lookup (key : String) : List (String × Json) → Option Json
  | [] => none
  | (k, v) :: rest => if k = key then some v else lookup key rest

/-- Sets the value under a key, in place if the key is there and at the
end otherwise. -/
def insert (key : String) (value : Json) :
    List (String × Json) → List (String × Json)
  | [] => [(key, value)]
  | (k, v) :: rest =>
    if k = key then (k, value) :: rest else (k, v) :: insert key value rest

/-- The members of a list of pairs in writing order. -/
def ofPairs (pairs : List (String × Json)) : Json :=
  .object (pairs.foldl (fun members (k, v) => insert k v members) [])

/-- The text of a text. -/
def text? : Json → Option String
  | .text s => some s
  | _ => none

/-- The integer of a number that is one of 64 bits. -/
def long? : Json → Option Int64
  | .number n => n.long?
  | _ => none

/-- The document is null. -/
def isNull : Json → Bool
  | .null => true
  | _ => false

/-- The document is an array. -/
def isArray : Json → Bool
  | .array _ => true
  | _ => false

-- ====================================================== equality

mutual

/-- Equality of documents. -/
def same : Json → Json → Bool
  | .null, .null => true
  | .bool a, .bool b => a == b
  | .number a, .number b => a.same b
  | .text a, .text b => a == b
  | .array xs, .array ys => sameItems xs ys
  | .object xs, .object ys => xs.length == ys.length && sameMembers xs ys
  | _, _ => false

/-- Arrays are the same if their items are, one by one. -/
def sameItems : List Json → List Json → Bool
  | [], [] => true
  | x :: xs, y :: ys => same x y && sameItems xs ys
  | _, _ => false

/-- Every member of the first object is in the second. -/
def sameMembers : List (String × Json) → List (String × Json) → Bool
  | [], _ => true
  | (k, v) :: rest, ys =>
    (match lookup k ys with
     | some w => same v w
     | none => false) && sameMembers rest ys

end

instance : BEq Json := ⟨same⟩

-- ====================================================== digest

/-- One item of a digest. -/
inductive Mark where
  | tag (value : Nat)
  | truth (value : Bool)
  | count (value : Nat)
  | integer (value : Int)
  | word (value : String)
  | bits (value : UInt64)
  | octets (value : List UInt8)
deriving DecidableEq, Repr

/-- Orders entries by key, equal keys keeping their order. -/
def byKey {α : Type} (entries : List (String × α)) : List (String × α) :=
  entries.mergeSort fun a b => decide (a.1 ≤ b.1)

mutual

/-- What identifies a document: its items in order, its members by key. -/
def digest : Json → List Mark
  | .null => [.tag 0]
  | .bool b => [.truth b]
  | .number n => [.word n.render]
  | .text s => [.word s]
  | .array items => .count items.length :: digestItems items
  | .object members =>
    .count members.length ::
      (byKey (digestMembers members)).flatMap fun (k, marks) =>
        .word k :: marks

/-- What is hashed of the items, in their order. -/
def digestItems : List Json → List Mark
  | [] => []
  | x :: xs => digest x ++ digestItems xs

/-- The keys of the members with what is hashed of each. -/
def digestMembers : List (String × Json) → List (String × List Mark)
  | [] => []
  | (k, v) :: rest => (k, digest v) :: digestMembers rest

end

end Json

end Intake
