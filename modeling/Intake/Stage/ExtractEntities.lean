/-
The stage that finds dictionary terms anywhere inside text fields.

Every occurrence contributes its payloads, or the term alone, in text
order; overlapping occurrences may be resolved to the leftmost, longest
ones, and the search may stop at the first occurrence in each field.
-/
import Intake.Stage.Destination
import Intake.Matching.Dictionary
import Intake.Matching.WordMatcher

namespace Intake

/-- Writes what dictionaries tell of the terms that occur in fields. -/
structure ExtractEntities where
  name : String
  route : Route
  dictionaries : List String
  ignoreCase : Bool
  wholeWords : Bool
  ignoreOverlaps : Bool
  stopOnHit : Bool
  usePayloads : Bool
  mode : UpdateMode
  loaded : Option (WordMatcher × List DictionaryEntry)
deriving Repr

namespace ExtractEntities

/-- The options of the stage. -/
def spec : StageSpec :=
  { required := ["source", "dest", "dictionaries"]
    optional := ["ignore_case", "only_whole_words", "ignore_overlaps",
      "stop_on_hit", "use_payloads", "update_mode"] }

/-- Reads and checks the options. By default terms are whole words, overlapping
hits are left out and payloads are written. -/
def new (o : StageOptions) : Except StageError ExtractEntities := do
  spec.validate o
  let name := o.label "extract_entities"
  let route ← Route.read o name
  let dictionaries := (← o.getTextList "dictionaries").getD []
  if dictionaries.isEmpty then
    throw (.config name "dictionaries must list at least one file")
  let ignoreCase := (← o.getBool "ignore_case").getD false
  let wholeWords := (← o.getBool "only_whole_words").getD true
  let ignoreOverlaps := (← o.getBool "ignore_overlaps").getD true
  let stopOnHit := (← o.getBool "stop_on_hit").getD false
  let usePayloads := (← o.getBool "use_payloads").getD true
  let mode ← o.updateMode
  return {
    name, route, dictionaries, ignoreCase, wholeWords, ignoreOverlaps,
    stopOnHit, usePayloads, mode, loaded := none }

/-- Loads the dictionaries and prepares their terms for the search; there has
to be one. -/
def start (environment : Environment) (stage : ExtractEntities) :
    Outcome StageError ExtractEntities Unit :=
  match Dictionary.loadAll environment.files stage.dictionaries with
  | .error e => .fail stage (.start stage.name e.message)
  | .ok [] => .fail stage (.start stage.name "dictionaries contain no terms")
  | .ok entries =>
    match
      WordMatcher.new (entries.map DictionaryEntry.term) stage.ignoreCase with
    | .error message => .fail stage (.start stage.name message)
    | .ok matcher =>
      let matcher := { matcher with wholeWords := stage.wholeWords }
      .ok { stage with loaded := some (matcher, entries) } ()

/-- What an occurrence contributes. -/
def contribution (stage : ExtractEntities) (entries : List DictionaryEntry)
    (hit : Hit) : List Value :=
  match entries[hit.term]? with
  | none => []
  | some entry =>
    if stage.usePayloads then entry.payloads.map Value.text
    else [.text entry.term]

/-- What a text contributes. -/
def extract (stage : ExtractEntities) (matcher : WordMatcher)
    (entries : List DictionaryEntry) (text : String) : List Value :=
  let hits :=
    if stage.ignoreOverlaps then matcher.findLeftmost text
    else matcher.findAll text
  let hits := if stage.stopOnHit then hits.take 1 else hits
  hits.flatMap (stage.contribution entries)

/-- What texts contribute, up to the first that contributes anything if the
search stops there. -/
def gather (stage : ExtractEntities) (extract : String → List Value) :
    List String → List Value
  | [] => []
  | text :: rest =>
    let values := extract text
    if stage.stopOnHit && !values.isEmpty then values
    else values ++ gather stage extract rest

/-- What a source field contributes. -/
def find (stage : ExtractEntities) (matcher : WordMatcher)
    (entries : List DictionaryEntry) (r : Record) (source : String) :
    List Value :=
  stage.gather (stage.extract matcher entries) (r.getStrings source)

/-- Writes what is found in the source fields, all of which are read before the
first write. -/
def process (stage : ExtractEntities) (r : Record) : StageResult :=
  match stage.loaded with
  | none =>
      .fail r (.lifecycle stage.name "matcher not built; call start() first")
  | some (matcher, entries) =>
    .ofChange (Gathered.write stage.mode r
      (Gathered.collect (stage.find matcher entries r) stage.route.pairs))

instance : Stage ExtractEntities where
  name := ExtractEntities.name
  start := start
  process _ := process
  stop stage := .ok { stage with loaded := none } ()

end ExtractEntities

end Intake
