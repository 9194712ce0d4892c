/-
The bounded queue through which the records of a run are published.

Publishing gives a record the run it belongs to. It waits while the queue
is full and fails once the reader has gone; only what the queue accepted
counts as published.
-/
import Intake.Failure
import Intake.Record.Basic

namespace Intake

/-- Gives a record a run in place of its own. -/
def Record.stamp (runId : String) (r : Record) : Record :=
  { r with runId := some runId }

/-- Records that wait for a worker. They are counted as they come in, and none
comes in once the queue is closed. -/
structure PublishQueue where
  runId : String
  capacity : Nat
  waiting : List Record
  isOpen : Bool
  published : Nat
deriving Repr

namespace PublishQueue

/-- An empty queue, with room for one record at least. -/
def new (runId : String) (capacity : Nat) : PublishQueue :=
  ⟨runId, max capacity 1, [], true, 0⟩

/-- What trying to publish a record comes to. -/
inductive Attempt where
  | accepted
  /-- the queue is full -/
  | pending
  | refused (failure : Failure)
deriving Repr

/-- Publishing without waiting. A closed queue refuses with a reason; a full
one leaves the record to be published again. -/
def tryPublish (q : PublishQueue) (r : Record) : PublishQueue × Attempt :=
  if !q.isOpen then
    (q, .refused (.told
      ("pipeline has shut down; cannot publish record '" ++ r.id ++ "'")))
  else if q.capacity ≤ q.waiting.length then (q, .pending)
  else
    ({ q with
        waiting := q.waiting ++ [r.stamp q.runId]
        published := q.published + 1 }, .accepted)

/-- Takes the record that has waited longest. -/
def receive (q : PublishQueue) : PublishQueue × Option Record :=
  match q.waiting with
  | [] => (q, none)
  | r :: rest => ({ q with waiting := rest }, some r)

/-- The reader goes, and what waits is lost. -/
def close (q : PublishQueue) : PublishQueue :=
  { q with waiting := [], isOpen := false }

end PublishQueue

end Intake
