/-
Source fields and the destinations their findings are written to, for
stages that look several fields up.

There is one destination for every source or one for all of them.
Findings for one destination are gathered in the order of first sight and
written once.
-/
import Intake.Stage.Basic

namespace Intake

/-- Which fields are read and which are written. -/
structure Route where
  sources : List String
  dests : List String
deriving Repr, DecidableEq

namespace Route

/-- Reads and checks the source and destination fields: there is one
destination for all sources, or one for each. -/
def read (o : StageOptions) (name : String) : Except StageError Route := do
  let sources := (← o.getTextList "source").getD []
  let dests := (← o.getTextList "dest").getD []
  if sources.isEmpty then
    throw (.config name "source must list at least one field")
  if dests.length ≠ 1 ∧ dests.length ≠ sources.length then
    throw (.config name ("dest must list one field or one per source ("
      ++ toString sources.length ++ "), got " ++ toString dests.length))
  return ⟨sources, dests⟩

/-- Every source with its destination. -/
def pairs (route : Route) : List (String × String) :=
  match route.dests with
  | [dest] => route.sources.map fun source => (source, dest)
  | dests => route.sources.zip dests

end Route

/-- Values gathered for destinations. -/
abbrev Gathered := List (String × List Value)

namespace Gathered

/-- Adds values for a destination; no values leave no trace. -/
def add (dest : String) (values : List Value) : Gathered → Gathered
  | [] => if values.isEmpty then [] else [(dest, values)]
  | (name, earlier) :: rest =>
    if name = dest then (name, earlier ++ values) :: rest
    else (name, earlier) :: add dest values rest

/-- What a finder gathers along a route. -/
def collect (find : String → List Value) (pairs : List (String × String)) :
    Gathered :=
  pairs.foldl (fun gathered (source, dest) => add dest (find source) gathered)
    []

/-- Writes what was gathered, one destination after the other. -/
def write (mode : UpdateMode) (r : Record) (gathered : Gathered) :
    Record.Change Unit :=
  Outcome.each
    (fun r (entry : String × List Value) => r.update entry.1 mode entry.2)
    r gathered

end Gathered

end Intake
