/-
Splitting a list of steps: one traversal of all the steps against two in a
row, the second of each record that the first delivers.

The two tell different stories. In one traversal a record that a step adds
goes through all that is left, the steps of the second list included,
before the record it came from goes on; in two it waits for the second
until the first is done. The deliveries come out the same all the same,
since the first delivers in the very order in which the one traversal gets
to the second list. The failures do not: those of the first list come ahead
of all others when it runs by itself. So the outputs agree up to the order
of failures (`Alike`), and this is kept by putting outputs one behind the
other (`Alike.append`).

A record that the first list drops is the exception: its children are
delivered as they are, and in two traversals they then see the second list.
Hence the condition that a dropped record has none.
-/
import Intake.Proofs.Traversal.Balance
import Intake.Proofs.Traversal.Surface

namespace Intake

-- ====================================================== up to failure order

/-- The same deliveries in the same order, and the same failures in some
order. -/
structure PipelineOutput.Alike (a b : PipelineOutput) : Prop where
  records : a.records = b.records
  failures : a.failures.Perm b.failures

namespace PipelineOutput

theorem Alike.refl (a : PipelineOutput) : a.Alike a where
  records := rfl
  failures := .refl _

theorem Alike.trans {a b c : PipelineOutput} (h : a.Alike b)
    (h' : b.Alike c) : a.Alike c where
  records := h.records.trans h'.records
  failures := h.failures.trans h'.failures

theorem Alike.append {a a' b b' : PipelineOutput} (h : a.Alike a')
    (h' : b.Alike b') : (a ++ b).Alike (a' ++ b') where
  records := by
    rw [records_append, records_append, h.records, h'.records]
  failures := h.failures.append h'.failures

/-- What comes of an output whose deliveries all go through further steps:
the failures it had, and the outputs of these runs. -/
def further (steps : List PipelineStep) (out : PipelineOutput) :
    PipelineOutput where
  records := out.records.flatMap fun x => (traverse steps x).records
  failures :=
    out.failures ++ out.records.flatMap fun x => (traverse steps x).failures

/-- A failure goes no further. -/
theorem further_failure (steps : List PipelineStep) (f : RecordFailure) :
    further steps ⟨[], [f]⟩ = ⟨[], [f]⟩ := rfl

/-- A record goes through the further steps. -/
theorem further_record (steps : List PipelineStep) (r : Record) :
    further steps ⟨[r], []⟩ = traverse steps r := by
  ext1
  · exact List.append_nil _
  · exact List.append_nil _

/-- The failures of the second output move ahead of what comes of the
deliveries of the first. -/
theorem further_append (steps : List PipelineStep) (a b : PipelineOutput) :
    (further steps a ++ further steps b).Alike (further steps (a ++ b)) where
  records := List.flatMap_append.symm
  failures := by
    simp only [further, records_append, failures_append, List.flatMap_append,
      List.append_assoc]
    exact (List.perm_append_comm_assoc _ _ _).append_left a.failures

end PipelineOutput

namespace Traversal

variable {steps : List PipelineStep} {stage next : Nat} {task : Task}
  {events : List Event}

-- ====================================================== one and two runs

/-- A task appends what it gives from the empty output. -/
theorem Task.drive_eq_append (steps : List PipelineStep) (task : Task)
    (out : PipelineOutput) :
    task.drive steps out = out ++ task.drive steps .empty := by
  cases task with
  | onward entry r => exact Traversal.drive_eq_append steps r out
  | arrivals fs =>
      rw [Task.drive, Task.drive, foldl_drive, foldl_drive,
        PipelineOutput.empty_append]

/-- A task with more steps behind those of its course: what the course
delivers goes through these. -/
theorem Course.split (b : List PipelineStep)
    (h : Course steps stage task next events) :
    (∀ x ∈ droppedIn events, x.children = []) →
      (task.drive (steps ++ b) .empty).Alike (.further b (output events)) := by
  induction h with
  | @dropped steps stage entry r next hd =>
      intro hbare
      have hchildren : r.children = [] := hbare r List.mem_cons_self
      rw [Task.drive, drive_dropped hd, output_singleton, Event.output,
        surfaced_bare hchildren]
      exact .refl _
  | @emitted stage entry r next hd =>
      intro _
      rw [output_singleton, Event.output, PipelineOutput.further_record]
      exact .refl _
  | @failed step rest stage entry r next e hd he =>
      intro _
      rw [Task.drive, List.cons_append, drive_error hd he, output_called,
        output_singleton, Event.output, PipelineOutput.further_failure]
      exact .refl _
  | @visited step rest stage entry r next added before after
      hd ha _ _ ihf iho =>
      intro hbare
      rw [droppedIn_called, droppedIn_append] at hbare
      have hf := ihf fun x hx => hbare x (List.mem_append_left _ hx)
      have ho := iho fun x hx => hbare x (List.mem_append_right _ hx)
      rw [Task.drive, List.cons_append, drive_ok hd ha, drive_eq_append,
        output_called, output_append]
      exact (hf.append ho).trans (PipelineOutput.further_append b _ _)
  | none => intro _; exact .refl _
  | @arrival steps stage f fs next before after _ _ ih₁ ih₂ =>
      intro hbare
      rw [droppedIn_entered, droppedIn_append] at hbare
      have h₁ := ih₁ fun x hx => hbare x (List.mem_append_left _ hx)
      have h₂ := ih₂ fun x hx => hbare x (List.mem_append_right _ hx)
      have hcons : (Task.arrivals (f :: fs)).drive (steps ++ b) .empty
          = (Task.onward next f).drive (steps ++ b) .empty
            ++ (Task.arrivals fs).drive (steps ++ b) .empty :=
        Task.drive_eq_append (steps ++ b) (.arrivals fs) _
      rw [hcons, output_entered, output_append]
      exact (h₁.append h₂).trans (PipelineOutput.further_append b _ _)

/-- One traversal of two lists against two traversals. -/
theorem traverse_append (a b : List PipelineStep) (r : Record)
    (hbare : ∀ x ∈ droppedIn (history a r), x.children = []) :
    (traverse (a ++ b) r).Alike (.further b (traverse a r)) := by
  have h := (history_course a r).split b hbare
  rw [output_history] at h
  exact h

-- ====================================================== processing

variable {σ : Type} [Stage σ]

/-- A started pipeline takes any list of records, one after the other. -/
theorem mapM_process {p : Pipeline σ} (hp : p.phase = .started)
    (environment : Environment) (rs : List Record) :
    rs.mapM (p.process environment)
      = .ok (rs.map (traverse (p.steps environment))) := by
  have hpure : p.process environment
      = fun r => pure (traverse (p.steps environment) r) :=
    funext (process_started hp environment)
  rw [hpure, List.mapM_pure]
  rfl

/-- A pipeline with the stages of two others, one list behind the other,
delivers what the second delivers of what the first delivers, in order, and
has the failures of all these runs, provided that no record which the first
drops has children. -/
theorem process_split (environment : Environment)
    (first second whole : Pipeline σ) (hfirst : first.phase = .started)
    (hsecond : second.phase = .started) (hwhole : whole.phase = .started)
    (hstages : whole.stages = first.stages ++ second.stages) (r : Record)
    (hbare : ∀ x ∈ droppedIn (history (first.steps environment) r),
      x.children = []) :
    ∃ out outs all, first.process environment r = .ok out
      ∧ out.records.mapM (second.process environment) = .ok outs
      ∧ whole.process environment r = .ok all
      ∧ all.records = outs.flatMap PipelineOutput.records
      ∧ all.failures.Perm
          (out.failures ++ outs.flatMap PipelineOutput.failures) := by
  have hsteps : whole.steps environment
      = first.steps environment ++ second.steps environment := by
    rw [Pipeline.steps, hstages, List.map_append, Pipeline.steps,
      Pipeline.steps]
  have halike := traverse_append _ (second.steps environment) r hbare
  rw [← hsteps] at halike
  refine ⟨_, _, _, process_started hfirst environment r,
    mapM_process hsecond environment _, process_started hwhole environment r,
    ?_, ?_⟩
  · rw [List.flatMap_map]
    exact halike.records
  · rw [List.flatMap_map]
    exact halike.failures

/-- Two halves of a pipeline: the first sends children on and drops their
parent, the second is the rest of the sample. -/
def halves : Pipeline CatalogStage × Pipeline CatalogStage :=
  ({ sample with stages := [.emitNestedChildren ⟨"emit", true⟩] },
    { sample with stages := sample.stages.tail })

/-- Both halves in one pipeline. -/
def joined : Pipeline CatalogStage :=
  { sample with stages := halves.1.stages ++ halves.2.stages }

/-- The first half drops `a` without its children and delivers `b`, which
fails in the second half, and `d`, which is dropped there and leaves `e`. -/
theorem process_split_family :
    halves.1.phase = .started ∧ halves.2.phase = .started
      ∧ joined.phase = .started
      ∧ joined.stages = halves.1.stages ++ halves.2.stages
      ∧ (droppedIn (history (halves.1.steps still) family)).map Record.id
          = ["a"]
      ∧ (∀ x ∈ droppedIn (history (halves.1.steps still) family),
          x.children = [])
      ∧ (∃ out outs all, halves.1.process still family = .ok out
          ∧ out.records.mapM (halves.2.process still) = .ok outs
          ∧ joined.process still family = .ok all
          ∧ all.records = outs.flatMap PipelineOutput.records
          ∧ all.failures.Perm
              (out.failures ++ outs.flatMap PipelineOutput.failures))
      ∧ (traverse (joined.steps still) family).records.map Record.id
          = ["e"] := by
  have hbare : ∀ x ∈ droppedIn (history (halves.1.steps still) family),
      x.children = [] := by decide
  exact ⟨rfl, rfl, rfl, rfl, by decide, hbare,
    process_split still halves.1 halves.2 joined rfl rfl rfl rfl family hbare,
    by decide⟩

end Traversal

end Intake
