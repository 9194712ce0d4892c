/-
Named fields in insertion order, each with one or many values of one type.

A field is single-valued or multi-valued and remembers the type of its
non-null values as its declared type. Writing to an existing field keeps
its place, a new field comes last, renaming keeps the place, and removing
keeps the order of the rest. An operation that fails leaves the store as
it was.
-/
import Intake.Field.Error
import Intake.Outcome

namespace Intake

/-- The values of one field; null is the absence of a value. -/
inductive Slot where
  | single (value : Option Value)
  | multi (values : List (Option Value))
deriving Repr

namespace Slot

/-- The values of a slot in their order. -/
def values : Slot → List (Option Value)
  | .single v => [v]
  | .multi vs => vs

/-- A slot for many values, also while it holds one or none. -/
def isMulti : Slot → Bool
  | .single _ => false
  | .multi _ => true

/-- Equality of slots, with documents compared by what they mean. -/
def same (a b : Slot) : Bool := a.isMulti == b.isMulti && a.values == b.values

/-- What is hashed of a value, or of a null. -/
def digestValue : Option Value → List Json.Mark
  | none => [.tag 0]
  | some v => .tag 1 :: v.digest

/-- What is hashed of a slot. -/
def digest : Slot → List Json.Mark
  | .single v => .tag 0 :: digestValue v
  | .multi vs => .tag 1 :: .count vs.length :: vs.flatMap digestValue

end Slot

/-- A named slot with the type that was declared by its first value. -/
structure Field where
  name : String
  slot : Slot
  declared : Option ValueType
deriving Repr

/-- Fields in the order in which they came, and the types that their values may
have. -/
structure FieldStore where
  fields : List Field
  supported : List ValueType
deriving Repr

namespace FieldStore

/-- What becomes of a store by an operation that gives an answer or is
refused. -/
abbrev Change (α : Type) := Outcome FieldError FieldStore α

-- ====================================================== reading

/-- A store that accepts the given types. -/
def withTypes (types : List ValueType) : FieldStore := ⟨[], types⟩

/-- A store that accepts every type. -/
def empty : FieldStore := withTypes ValueType.all

/-- Values of a type may be stored. -/
def supports (s : FieldStore) (t : ValueType) : Bool := s.supported.contains t

/-- The field with a name. There is one at most in stores that were built by
the operations. -/
def find? (s : FieldStore) (name : String) : Option Field :=
  s.fields.find? (·.name == name)

/-- There is a field with a name. -/
def contains (s : FieldStore) (name : String) : Bool := (s.find? name).isSome

/-- There is a field for many values with a name. -/
def isMultiValued (s : FieldStore) (name : String) : Bool :=
  ((s.find? name).map (·.slot.isMulti)).getD false

/-- The declared type of a field. -/
def valueType (s : FieldStore) (name : String) : Option ValueType :=
  (s.find? name).bind (·.declared)

/-- The slot under a name. -/
def slot? (s : FieldStore) (name : String) : Option Slot :=
  (s.find? name).map (·.slot)

/-- All values of a field; a single-valued one has one. -/
def getMany (s : FieldStore) (name : String) : Option (List (Option Value)) :=
  (s.slot? name).map (·.values)

/-- The first value of a field, if it is not null. -/
def getOne (s : FieldStore) (name : String) : Option Value :=
  (s.getMany name).bind fun vs => vs.head?.join

/-- The number of values under a name. -/
def length (s : FieldStore) (name : String) : Except FieldError Nat :=
  match s.getMany name with
  | some vs => .ok vs.length
  | none => .error (.notFound name)

/-- The names of the fields in their order. -/
def names (s : FieldStore) : List String := s.fields.map (·.name)

/-- The number of fields. -/
def size (s : FieldStore) : Nat := s.fields.length

-- ====================================================== placing fields

/-- Replaces a field of the same name where it stands, or adds it at the
end. -/
def place (field : Field) : List Field → List Field
  | [] => [field]
  | f :: rest =>
      if f.name = field.name then field :: rest else f :: place field rest

/-- Puts a slot with its declared type under a name, where the field stands or
else at the end. -/
def put (s : FieldStore) (name : String) (slot : Slot)
    (declared : Option ValueType) : FieldStore :=
  { s with fields := place ⟨name, slot, declared⟩ s.fields }

/-- The type of a value that the store accepts. -/
def checkSupported (s : FieldStore) (name : String) (v : Value) :
    Except FieldError ValueType :=
  if s.supports v.type then .ok v.type
  else .error (.invalidType name v.type none)

/-- The one type of all values that are not null, found from left to right. -/
def commonType (s : FieldStore) (name : String) (declared : Option ValueType) :
    List (Option Value) → Except FieldError (Option ValueType)
  | [] => .ok declared
  | none :: rest => commonType s name declared rest
  | some v :: rest =>
    match s.checkSupported name v with
    | .error e => .error e
    | .ok found =>
      match declared with
      | some t =>
        if t = found then commonType s name (some t) rest
        else .error (.invalidType name found (some t))
      | none => commonType s name (some found) rest

-- ====================================================== writing

/-- Makes a field single-valued with the given value; null clears its type. -/
def putOne (s : FieldStore) (name : String) (value : Option Value) :
    Change Unit :=
  match value with
  | none => .ok (s.put name (.single none) none) ()
  | some v =>
    match s.checkSupported name v with
    | .ok t => .ok (s.put name (.single (some v)) (some t)) ()
    | .error e => .fail s e

/-- Makes a field multi-valued with the given values, which share one type. -/
def putMany (s : FieldStore) (name : String) (values : List (Option Value)) :
    Change Unit :=
  match s.commonType name none values with
  | .ok declared => .ok (s.put name (.multi values) declared) ()
  | .error e => .fail s e

/-- The type of an optional value that the store accepts. -/
def checkValue (s : FieldStore) (name : String) :
    Option Value → Except FieldError (Option ValueType)
  | none => .ok none
  | some v => (s.checkSupported name v).map some

/-- Adds a value behind those of a field. A new field becomes multi-valued;
a single-valued one turns multi-valued with its value in front. -/
def add (s : FieldStore) (name : String) (value : Option Value) :
    Change Unit :=
  match s.checkValue name value with
  | .error e => .fail s e
  | .ok type =>
    match s.find? name with
    | none => .ok (s.put name (.multi [value]) type) ()
    | some field =>
      match type, field.declared with
      | some found, some declared =>
        if declared = found then
          .ok (s.put name (.multi (field.slot.values ++ [value])) declared) ()
        else .fail s (.invalidType name found (some declared))
      | _, _ =>
        .ok (s.put name (.multi (field.slot.values ++ [value]))
          (type <|> field.declared)) ()

/-- Sets a field that does not exist and adds to one that does. -/
def setOrAdd (s : FieldStore) (name : String) (value : Option Value) :
    Change Unit :=
  if s.contains name then s.add name value else s.putOne name value

/-- Gives a field a new name where it stands. -/
def rename (s : FieldStore) (old new : String) : Change Unit :=
  if ¬s.contains old then .fail s (.notFound old)
  else if s.contains new then .fail s (.conflict new)
  else
    let renamed (f : Field) : Field := if f.name = old then
      { f with name := new } else f
    .ok { s with fields := s.fields.map renamed } ()

/-- The store without the field of a name. -/
def erase (s : FieldStore) (name : String) : FieldStore :=
  { s with fields := s.fields.filter (·.name != name) }

/-- Takes a field out and gives its values. -/
def remove (s : FieldStore) (name : String) : Change (List (Option Value)) :=
  match s.getMany name with
  | some values => .ok (s.erase name) values
  | none => .fail s (.notFound name)

/-- The values of a multi-valued field. -/
def multi (s : FieldStore) (name : String) :
    Except FieldError (List (Option Value)) :=
  match s.slot? name with
  | some (.multi values) => .ok values
  | some (.single _) => .error (.notMultiValued name)
  | none => .error (.notFound name)

/-- Changes the values of a field and leaves its declared type. -/
def setValues (s : FieldStore) (name : String) (values : List (Option Value)) :
    FieldStore :=
  s.put name (.multi values) (s.valueType name)

/-- Takes one value out of a multi-valued field. -/
def removeAt (s : FieldStore) (name : String) (index : Nat) :
    Change (Option Value) :=
  match s.multi name with
  | .error e => .fail s e
  | .ok values =>
    match values[index]? with
    | some value => .ok (s.setValues name (values.eraseIdx index)) value
    | none => .fail s (.indexOutOfBounds name index values.length)

-- ====================================================== repeated values

/-- Equality of values that may be null. -/
def sameValue : Option Value → Option Value → Bool
  | none, none => true
  | some v, some w => v == w
  | _, _ => false

/-- A value has been seen if an equal one with the same digest has. -/
def isSeen (seen : List (Option Value)) (value : Option Value) : Bool :=
  seen.any fun earlier =>
    sameValue earlier value && Slot.digestValue earlier
      == Slot.digestValue value

/-- The first occurrences among values, given those already kept. -/
def firsts (kept : List (Option Value)) :
    List (Option Value) → List (Option Value)
  | [] => []
  | v :: rest =>
      if isSeen kept v then firsts kept rest else v :: firsts (v :: kept) rest

/-- Keeps the first occurrence of each value of a multi-valued field. -/
def dedup (s : FieldStore) (name : String) : Change Unit :=
  match s.multi name with
  | .error e => .fail s e
  | .ok values => .ok (s.setValues name (firsts [] values)) ()

/-- The store without any fields. -/
def clear (s : FieldStore) : FieldStore := { s with fields := [] }

-- ====================================================== equality

/-- Equality of stores: the same fields in any order. What a store would
accept does not count. -/
def same (s t : FieldStore) : Bool :=
  s.fields.length == t.fields.length
    && s.fields.all fun f =>
      match t.find? f.name with
      | some g => f.slot.same g.slot && f.declared == g.declared
      | none => false

instance : BEq FieldStore := ⟨same⟩

/-- What is hashed of a field beside its name. -/
def digestField (f : Field) : List Json.Mark :=
  (match f.declared with
   | none => [.tag 0]
   | some t => [.tag 1, .tag t.index]) ++ f.slot.digest

/-- What identifies a store: its fields by name. -/
def digest (s : FieldStore) : List Json.Mark :=
  .count s.fields.length ::
    (Json.byKey (s.fields.map fun f => (f.name, digestField f))).flatMap
      fun (name, marks) => .word name :: marks

end FieldStore

end Intake
