/-
The stage that marks records whose fields mention any of a list of words.
-/
import Intake.Stage.Basic
import Intake.Matching.WordMatcher

namespace Intake

/-- Sets a field of records in which some field mentions one of a set of
words. -/
structure Contains where
  name : String
  words : List String
  output : String
  value : String
  fields : List String
  ignoreCase : Bool
  matcher : Option WordMatcher
deriving Repr

namespace Contains

/-- The options of the stage. -/
def spec : StageSpec :=
  { required := ["contains", "output", "value", "fields"],
    optional := ["ignore_case"] }

/-- Reads and checks the options. Case is ignored by default. -/
def new (o : StageOptions) : Except StageError Contains := do
  spec.validate o
  let words := (← o.getTextList "contains").getD []
  let output ← o.requireText "output"
  let value ← o.requireText "value"
  let fields := (← o.getTextList "fields").getD []
  let ignoreCase := (← o.getBool "ignore_case").getD true
  return {
    name := o.label "contains", words, output, value, fields, ignoreCase,
    matcher := none }

/-- Prepares the words for the search; there has to be one. -/
def start (stage : Contains) : Outcome StageError Contains Unit :=
  if stage.words.isEmpty then
    .fail stage (.start stage.name "contains list is empty")
  else match WordMatcher.new stage.words stage.ignoreCase with
    | .error message => .fail stage (.start stage.name message)
    | .ok matcher => .ok { stage with matcher := some matcher } ()

/-- Some value of some field mentions a word. -/
def mentions (stage : Contains) (matcher : WordMatcher) (r : Record) : Bool :=
  stage.fields.any fun field => (r.getStrings field).any matcher.isMatch

/-- Overwrites the output field of a record that mentions a word. -/
def process (stage : Contains) (r : Record) : StageResult :=
  match stage.matcher with
  | none =>
      .fail r (.lifecycle stage.name "matcher not built; call start() first")
  | some matcher =>
    if stage.mentions matcher r then
      .ofChange (r.update stage.output .overwrite [.text stage.value])
    else .unchanged r

instance : Stage Contains where
  name := Contains.name
  start _ := start
  process _ := process
  stop stage := .ok stage ()

end Contains

end Intake
