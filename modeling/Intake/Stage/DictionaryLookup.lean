/-
The stage that maps whole field values through a dictionary.

Every payload of every entry whose term equals a value goes to the
destination of the value's field, the entries in the order of the file.
-/
import Intake.Stage.Destination
import Intake.Matching.Dictionary
import Intake.Text.Lowercase

namespace Intake

/-- Writes what a dictionary tells of the whole value of a field. -/
structure DictionaryLookup where
  name : String
  route : Route
  path : String
  ignoreCase : Bool
  mode : UpdateMode
  table : Option PayloadTable
deriving Repr

namespace DictionaryLookup

/-- The options of the stage. -/
def spec : StageSpec :=
  { required := ["source", "dest", "dict_path"],
    optional := ["ignore_case", "update_mode"] }

/-- Reads and checks the options. -/
def new (o : StageOptions) : Except StageError DictionaryLookup := do
  spec.validate o
  let name := o.label "dictionary_lookup"
  let route ← Route.read o name
  let path ← o.requireText "dict_path"
  let ignoreCase := (← o.getBool "ignore_case").getD false
  let mode ← o.updateMode
  return { name, route, path, ignoreCase, mode, table := none }

/-- Text as it is compared. -/
def key (stage : DictionaryLookup) (s : String) : String :=
  if stage.ignoreCase then Text.lowercase s else s

/-- Loads the dictionary. -/
def start (environment : Environment) (stage : DictionaryLookup) :
    Outcome StageError DictionaryLookup Unit :=
  match Dictionary.load environment.files stage.path with
  | .error e => .fail stage (.start stage.name e.message)
  | .ok entries =>
      .ok { stage with table := some (.ofEntries stage.key entries) } ()

/-- What a source field leads to. -/
def find (stage : DictionaryLookup) (table : PayloadTable) (r : Record)
    (source : String) : List Value :=
  let hits := (r.getStrings source).filterMap fun value =>
    table.payloads? (stage.key value)
  hits.flatten.map Value.text

/-- Writes what is found for the source fields, all of which are read before
the first write. -/
def process (stage : DictionaryLookup) (r : Record) : StageResult :=
  match stage.table with
  | none =>
      .fail r (.lifecycle stage.name
        "dictionary not loaded; call start() first")
  | some table =>
    .ofChange (Gathered.write stage.mode r
      (Gathered.collect (stage.find table r) stage.route.pairs))

instance : Stage DictionaryLookup where
  name := DictionaryLookup.name
  start := start
  process _ := process
  stop stage := .ok { stage with table := none } ()

end DictionaryLookup

end Intake
