/-
The options of a stage and what a stage declares about them.

Options are the members of an object. A reader of one option gives
nothing for an option that is missing and a configuration error for one of
the wrong shape. Every stage accepts `type` and `name` besides the options
it declares.
-/
import Intake.Stage.Error
import Intake.Record.Basic

namespace Intake

/-- The options that are given for a stage. -/
structure StageOptions where
  members : List (String × Json)
deriving Repr

namespace StageOptions

/-- The option of a key. -/
def get? (o : StageOptions) (key : String) : Option Json :=
  Json.lookup key o.members

/-- There is an option of a key. -/
def has (o : StageOptions) (key : String) : Bool := (o.get? key).isSome

/-- The keys in their order. -/
def keys (o : StageOptions) : List String := o.members.map (·.1)

/-- The type of the stage, if it is given as text. -/
def stageType (o : StageOptions) : Option String :=
  (o.get? "type").bind Json.text?

/-- The name of the stage, or else its type, or else a given one. -/
def label (o : StageOptions) (otherwise : String) : String :=
  (((o.get? "name").bind Json.text?) <|> o.stageType).getD otherwise

/-- The label in errors found while options are read. -/
def readingLabel (o : StageOptions) : String := o.label "stage"

/-- The error for an option of the wrong shape. -/
def wrongType (o : StageOptions) (key expected : String) : StageError :=
  .config o.readingLabel ("option '" ++ key ++ "' must be " ++ expected)

/-- Reads an option of an expected shape. -/
def read {α : Type} (o : StageOptions) (key expected : String)
    (view : Json → Option α) : Except StageError (Option α) :=
  match o.get? key with
  | none => .ok none
  | some j =>
    match view j with
    | some value => .ok (some value)
    | none => .error (o.wrongType key expected)

/-- An option that is a text. -/
def getText (o : StageOptions) (key : String) :
    Except StageError (Option String) :=
  o.read key "a string" Json.text?

/-- An option that has to be there and is a text. -/
def requireText (o : StageOptions) (key : String) : Except StageError String :=
  match o.getText key with
  | .ok (some s) => .ok s
  | .ok none =>
      .error (.config o.readingLabel ("missing required option: " ++ key))
  | .error e => .error e

/-- An option that is an integer of 64 bits. -/
def getLong (o : StageOptions) (key : String) :
    Except StageError (Option Int) :=
  o.read key "an integer" fun j => j.long?.map Int64.toInt

/-- An option that is a truth value. -/
def getBool (o : StageOptions) (key : String) :
    Except StageError (Option Bool) :=
  o.read key "a boolean" fun
    | .bool b => some b
    | _ => none

/-- The texts of an array that holds nothing else. -/
def textItems : Json → Option (List String)
  | .array items => items.mapM Json.text?
  | _ => none

/-- An option that is a list of texts. -/
def getTextList (o : StageOptions) (key : String) :
    Except StageError (Option (List String)) :=
  o.read key "a list of strings" textItems

/-- The texts of an object that holds nothing else, by their keys. -/
def textMembers : Json → Option (List (String × String))
  | .object members => members.mapM fun (key, j) => j.text?.map (key, ·)
  | _ => none

/-- A table of text, in the order of its keys. -/
def getTextTable (o : StageOptions) (key : String) :
    Except StageError (Option (List (String × String))) :=
  o.read key "a table of strings" textMembers

/-- The mode in which a stage writes, overwriting unless an option tells
otherwise. -/
def updateMode (o : StageOptions) : Except StageError UpdateMode :=
  match o.getText "update_mode" with
  | .error e => .error e
  | .ok none => .ok .overwrite
  | .ok (some s) =>
      (UpdateMode.parse s).mapError fun m => .config o.readingLabel m

end StageOptions

-- ====================================================== declarations

/-- The names of the options a stage needs and of those it accepts. -/
structure StageSpec where
  required : List String
  optional : List String
deriving Repr

namespace StageSpec

/-- The options of every stage. -/
def commonOptions : List String := ["type", "name"]

/-- An option that the stage may be given. -/
def declares (spec : StageSpec) (key : String) : Bool :=
  commonOptions.contains key || spec.required.contains key
    || spec.optional.contains key

/-- Refuses a missing required option, and then an option nobody declared. -/
def validate (spec : StageSpec) (o : StageOptions) : Except StageError Unit :=
  let missing := spec.required.filter fun key => !o.has key
  let unknown := o.keys.filter fun key => !spec.declares key
  if !missing.isEmpty then
    .error (.config o.readingLabel
      ("missing required option(s): " ++ ", ".intercalate missing))
  else if !unknown.isEmpty then
    .error (.config o.readingLabel
      ("unknown option(s): " ++ ", ".intercalate unknown))
  else .ok ()

end StageSpec

end Intake
