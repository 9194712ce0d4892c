/-
The stage that fetches the resource whose address a field holds.

The body goes to one field, its status and size to two others. A fetch
that fails does not fail the record: the reason goes to a field and to the
list of errors.
-/
import Intake.Stage.Basic

namespace Intake

/-- Fetches the resource at an address and writes it into fields named after
the source. -/
structure FetchUri where
  name : String
  source : String
  dest : String
  statusField : String
  sizeField : String
  errorField : String
  sizeLimit : Option Nat
  timeoutSeconds : Nat
  started : Bool
deriving Repr

namespace FetchUri

/-- The options of the stage. -/
def spec : StageSpec :=
  { required := ["source"]
    optional := ["dest", "status_code_suffix", "size_suffix", "error_suffix",
      "max_size", "timeout_secs"] }

/-- A number option that is positive if it is there. -/
def positive (o : StageOptions) (name key : String) :
    Except StageError (Option Nat) := do
  match ← o.getLong key with
  | none => .ok none
  | some i =>
    if 0 < i then .ok (some i.toNat)
    else .error (.config name (key ++ " must be positive"))

/-- Reads and checks the options. -/
def new (o : StageOptions) : Except StageError FetchUri := do
  spec.validate o
  let name := o.label "fetch_uri"
  let source ← o.requireText "source"
  let sizeLimit ← positive o name "max_size"
  let timeoutSeconds := (← positive o name "timeout_secs").getD 30
  let dest := (← o.getText "dest").getD (source ++ "_data")
  let statusField :=
    source ++ (← o.getText "status_code_suffix").getD "_status_code"
  let sizeField := source ++ (← o.getText "size_suffix").getD "_size"
  let errorField := source ++ (← o.getText "error_suffix").getD "_error"
  return {
    name, source, dest, statusField, sizeField, errorField, sizeLimit,
    timeoutSeconds, started := false }

/-- Writes status, size and body. -/
def store (stage : FetchUri) (r : Record) (response : Response) :
    Record.Change Unit :=
  let body := match stage.sizeLimit with
    | some limit => response.body.take limit
    | none => response.body
  Outcome.each (fun r (entry : String × Value) => r.setField entry.1 entry.2) r
    [(stage.statusField, .int response.status),
     (stage.sizeField, .long (Int64.ofNat body.length)),
     (stage.dest, .bytes body)]

/-- Writes why a fetch failed. -/
def reject (stage : FetchUri) (r : Record) (address reason : String) :
    Record.Change Unit :=
  (r.setField stage.errorField (.text reason)).andThen fun r _ =>
    .ok (r.logError
      (stage.name ++ ": failed to fetch " ++ address ++ ": " ++ reason)) ()

/-- Fetches the resource of a record that has an address and writes the
response, or why there is none. -/
def process (environment : Environment) (stage : FetchUri) (r : Record) :
    StageResult :=
  if !stage.started then
    .fail r (.lifecycle stage.name "HTTP client not built; call start() first")
  else match r.getText stage.source with
    | none => .unchanged r
    | some address =>
      .ofChange (match environment.fetch address with
        | .ok response => stage.store r response
        | .error reason => stage.reject r address reason)

instance : Stage FetchUri where
  name := FetchUri.name
  start _ stage := .ok { stage with started := true } ()
  process := process
  stop stage := .ok { stage with started := false } ()

end FetchUri

end Intake
