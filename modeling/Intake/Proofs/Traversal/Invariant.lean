/-
Properties of records that a traversal keeps.

A property that every step keeps, that holds of what steps add and that
surfacing hands down to children holds of every record that comes out, and
every failure is that of a record that has it. The induction is on the
course of a traversal, one case for each thing that can happen.
-/
import Intake.Proofs.Traversal.History

namespace Intake.Traversal

/-- What a property needs to hold throughout a traversal. -/
structure Invariant (P : Record → Prop) (steps : List PipelineStep) :
    Prop where
  kept : ∀ step ∈ steps, ∀ r, P r → P (step.run r).state
  added : ∀ step ∈ steps, ∀ r, P r → ∀ added, (step.run r).result = .ok added →
    ∀ f ∈ produced (step.run r).state added, P f
  surfaced : ∀ r, P r → ∀ x ∈ Record.surfaceAll r.runId r.children, P x

/-- Every record of an output has a property, and every failure is that of
such a record. -/
structure Carries (P : Record → Prop) (out : PipelineOutput) : Prop where
  records : ∀ x ∈ out.records, P x
  failures : ∀ f ∈ out.failures, ∃ x, P x ∧ f.recordId = x.id
    ∧ f.runId = x.runId

variable {P : Record → Prop}

/-- What all steps keep the later ones keep. -/
theorem Invariant.tail {step : PipelineStep} {rest : List PipelineStep}
    (h : Invariant P (step :: rest)) : Invariant P rest where
  kept := fun s hs => h.kept s (List.mem_cons_of_mem _ hs)
  added := fun s hs => h.added s (List.mem_cons_of_mem _ hs)
  surfaced := h.surfaced

theorem Carries.append {a b : PipelineOutput} (ha : Carries P a)
    (hb : Carries P b) :
    Carries P (a ++ b) where
  records := fun x hx =>
    (List.mem_append.mp hx).elim (ha.records x) (hb.records x)
  failures := fun f hf =>
    (List.mem_append.mp hf).elim (ha.failures f) (hb.failures f)

/-- The records of a task have a property. -/
def Task.Carries (P : Record → Prop) : Task → Prop
  | .onward _ r => P r
  | .arrivals fs => ∀ f ∈ fs, P f

/-- What steps keep, and what holds of the records that a task begins with,
holds of all that the task puts out. -/
theorem Course.carries {steps : List PipelineStep} {stage next : Nat}
    {task : Task} {events : List Event}
    (h : Course steps stage task next events) :
    Invariant P steps → task.Carries P → Carries P (output events) := by
  induction h with
  | @dropped steps stage entry r next hd =>
      intro hinv hr
      rw [output_singleton]
      exact ⟨hinv.surfaced r hr, nofun⟩
  | @emitted stage entry r next hd =>
      intro _ hr
      rw [output_singleton]
      exact ⟨fun x hx => List.mem_singleton.mp hx ▸ hr, nofun⟩
  | @failed step rest stage entry r next e hd he =>
      intro hinv hr
      rw [output_called, output_singleton]
      refine ⟨nofun, fun f hf => ?_⟩
      rw [List.mem_singleton.mp hf]
      exact
        ⟨(step.run r).state, hinv.kept step List.mem_cons_self r hr, rfl, rfl⟩
  | @visited step rest stage entry r next added before after
      hd ha _ _ ihf iho =>
      intro hinv hr
      rw [output_called, output_append]
      have hstep := List.mem_cons_self (a := step) (l := rest)
      exact (ihf hinv.tail (hinv.added step hstep r hr added ha)).append
        (iho hinv.tail (hinv.kept step hstep r hr))
  | none =>
      intro _ _
      exact ⟨nofun, nofun⟩
  | arrival _ _ ih₁ ih₂ =>
      intro hinv hfs
      rw [output_entered, output_append]
      exact (ih₁ hinv (hfs _ List.mem_cons_self)).append
        (ih₂ hinv fun f hf => hfs f (List.mem_cons_of_mem _ hf))

/-- What comes of a record with an invariant property has it too. -/
theorem traverse_carries {steps : List PipelineStep} {r : Record}
    (h : Invariant P steps) (hr : P r) : Carries P (traverse steps r) := by
  rw [← output_history]
  exact (history_course steps r).carries h fun f hf =>
    List.mem_singleton.mp hf ▸ hr

end Intake.Traversal
