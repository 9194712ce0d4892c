/-
What an operation leaves behind: the state it ends with, also when it
failed, beside its answer.

An operation that fails halfway keeps what it did until then, so the state
is part of every outcome and not only of the good ones.
-/
namespace Intake

/-- What an operation leaves behind and what it answers. A failure has a state
too, since what was done before it may stay. -/
structure Outcome (ε σ α : Type) where
  state : σ
  result : Except ε α
deriving Repr

namespace Outcome

variable {ε ε' σ τ α β : Type}

/-- The operation went through. -/
def ok (state : σ) (answer : α) : Outcome ε σ α := ⟨state, .ok answer⟩

/-- The operation failed and left a state. -/
def fail (state : σ) (error : ε) : Outcome ε σ α := ⟨state, .error error⟩

/-- Goes on from a good outcome; a failure keeps its state. -/
def andThen (first : Outcome ε σ α) (next : σ → α → Outcome ε σ β) :
    Outcome ε σ β :=
  match first.result with
  | .ok answer => next first.state answer
  | .error e => fail first.state e

/-- Forgets the answer. -/
def discard (o : Outcome ε σ α) : Outcome ε σ Unit :=
  ⟨o.state, o.result.map fun _ => ()⟩

/-- Puts the state into a larger one. -/
def within (o : Outcome ε σ α) (place : σ → τ) : Outcome ε τ α :=
  ⟨place o.state, o.result⟩

/-- Renames the error. -/
def mapError (o : Outcome ε σ α) (f : ε → ε') : Outcome ε' σ α :=
  ⟨o.state, o.result.mapError f⟩

/-- Applies a step to each item in order, from the state its predecessor
left, until one fails. -/
def each (step : σ → β → Outcome ε σ Unit) (state : σ) :
    List β → Outcome ε σ Unit
  | [] => ok state ()
  | x :: xs => (step state x).andThen fun state _ => each step state xs

end Outcome

end Intake
