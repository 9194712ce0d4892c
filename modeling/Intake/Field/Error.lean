/-
Errors of field and record operations, with their messages.
-/
import Intake.Value.Basic

namespace Intake

/-- Why an operation on fields was refused. Each reason names the field. -/
inductive FieldError where
  | notFound (field : String)
  | invalidType (field : String) (found : ValueType)
      (declared : Option ValueType)
  | conflict (field : String)
  | notMultiValued (field : String)
  | indexOutOfBounds (field : String) (index length : Nat)
  | reservedField (field : String)
  | runIdAlreadySet (record : String)
  | invalidRecord (reason : String)
deriving DecidableEq, Repr

namespace FieldError

/-- A declared type as messages show it. -/
def declaredText : Option ValueType → String
  | none => "None"
  | some t => "Some(" ++ t.title ++ ")"

/-- The message of each reason. -/
def message : FieldError → String
  | .notFound f => "field `" ++ f ++ "` does not exist"
  | .invalidType f found declared =>
    "field `" ++ f ++ "`: " ++ found.title ++ " is not allowed here (declared "
      ++ declaredText declared ++ ")"
  | .conflict f => "field `" ++ f ++ "` already exists"
  | .notMultiValued f => "field `" ++ f ++ "` is not multi-valued"
  | .indexOutOfBounds f index length =>
    "field `" ++ f ++ "`: index " ++ toString index
      ++ " out of bounds (length "
      ++ toString length ++ ")"
  | .reservedField f => "`" ++ f ++ "` is a reserved field name"
  | .runIdAlreadySet r => "record `" ++ r ++ "` already has a run id"
  | .invalidRecord reason => "invalid record: " ++ reason

end FieldError

end Intake
