/-
Replacing a record by its children at the end of a pipeline.

A stage may send the children on and drop their parent, or it may drop the
parent and leave the children to surface. The first takes them off the record
and hands them to the traversal, which asks them to join the run and looks at
their marks as they arrive; the second leaves both to what surfaces of a
dropped record. As the last stage of a pipeline each of them turns a record
into what surfaces of it (`traverse_emit`, `traverse_drop`).

That this is so for all that a pipeline gives rise to, whatever stages stand
in front, needs no more than that: steps at the end of a list may be exchanged
for steps that make the same of every record (`drive_append_congr`).
-/
import Intake.Proofs.Traversal.Surface

namespace Intake

-- ====================================================== stages of two kinds

/-- A stage of one kind or of another. -/
instance {σ τ : Type} [Stage σ] [Stage τ] : Stage (σ ⊕ τ) where
  name := Sum.elim Stage.name Stage.name
  start environment :=
    Sum.elim (fun stage => (Stage.start environment stage).within .inl)
      fun stage => (Stage.start environment stage).within .inr
  process environment :=
    Sum.elim (Stage.process environment) (Stage.process environment)
  stop := Sum.elim (fun stage => (Stage.stop stage).within .inl)
    fun stage => (Stage.stop stage).within .inr

/-- A pipeline with one more stage behind its own. -/
def Pipeline.followedBy {σ τ : Type} (p : Pipeline σ) (last : τ) :
    Pipeline (σ ⊕ τ) where
  name := p.name
  stages := p.stages.map .inl ++ [.inr last]
  phase := p.phase

/-- The steps of a pipeline with one more stage are its own and one more. -/
theorem Pipeline.steps_followedBy {σ τ : Type} [Stage σ] [Stage τ]
    (environment : Environment) (p : Pipeline σ) (last : τ) :
    (p.followedBy last).steps environment
      = p.steps environment
          ++ [⟨Stage.name last, Stage.process environment last⟩] := by
  rw [steps, followedBy, List.map_append, List.map_map]
  rfl

namespace Traversal

-- ====================================================== exchanging the end

/-- Steps at the end of a list may be exchanged for steps that make the same of
every record. -/
theorem drive_append_congr {b c : List PipelineStep}
    (h : ∀ r, traverse b r = traverse c r) (a : List PipelineStep) :
    ∀ (r : Record) (out : PipelineOutput), drive (a ++ b) r out
      = drive (a ++ c) r out := by
  induction a with
  | nil =>
      intro r out
      have hr : drive b r .empty = drive c r .empty := h r
      rw [List.nil_append, List.nil_append, drive_eq_append b,
        drive_eq_append c, hr]
  | cons step rest ih =>
      intro r out
      have hrest : (fun out f => drive (rest ++ b) f out)
          = fun out f => drive (rest ++ c) f out := by
        funext out f
        exact ih f out
      rw [List.cons_append, List.cons_append]
      cases hd : r.dropped with
      | true => rw [drive_dropped hd, drive_dropped hd]
      | false =>
          cases hres : (step.run r).result with
          | error e => rw [drive_error hd hres, drive_error hd hres]
          | ok added => rw [drive_ok hd hres, drive_ok hd hres, hrest, ih]

-- ====================================================== the two last stages

/-- A stage that sends children on and drops their parent takes all of them off
the record. -/
theorem emitNestedChildren_process {stage : EmitNestedChildren}
    (h : stage.dropParent = true) (r : Record) :
    (stage.process r).state = r.markDropped.withoutChildren
      ∧ ∃ added, (stage.process r).result = .ok added
        ∧ produced (stage.process r).state added
            = r.children.map (Record.inheritRun r.runId) := by
  rw [EmitNestedChildren.process, h]
  obtain ⟨id, own, fields, children, dropped⟩ := r
  cases children with
  | nil => exact ⟨rfl, none, rfl, rfl⟩
  | cons c children =>
      refine ⟨rfl, _, rfl, ?_⟩
      rw [produced, Option.getD_some, List.map_map]
      exact List.map_congr_left fun c _ => Record.inheritRun_inheritRun own c

/-- Sending children on and dropping their parent leaves what surfaces of
it. -/
theorem traverse_emit (name : String) {stage : EmitNestedChildren}
    (h : stage.dropParent = true) (r : Record) :
    traverse [⟨name, stage.process⟩] r = surfaced r := by
  show drive [⟨name, stage.process⟩] r .empty = surfaced r
  cases hd : r.dropped with
  | true => rw [drive_dropped hd, PipelineOutput.empty_append]
  | false =>
      obtain ⟨hstate, added, hadded, hproduced⟩ :=
        emitNestedChildren_process h r
      rw [drive_ok hd hadded, hproduced, foldl_drive, concat_drive_children,
        hstate, drive_dropped rfl, surfaced_bare rfl,
        PipelineOutput.append_empty]
      rfl

/-- Dropping a record leaves what surfaces of it. -/
theorem traverse_drop (name : String) {stage : DropRecord}
    (h : stage.filter = none) (r : Record) :
    traverse [⟨name, stage.process⟩] r = surfaced r := by
  show drive [⟨name, stage.process⟩] r .empty = surfaced r
  cases hd : r.dropped with
  | true => rw [drive_dropped hd, PipelineOutput.empty_append]
  | false =>
      have hmarks : PipelineStep.run ⟨name, stage.process⟩ r
          = .unchanged r.markDropped := by
        show stage.process r = _
        rw [DropRecord.process, DropRecord.isDropped, h]
        rfl
      rw [drive_ok hd (congrArg Outcome.result hmarks), hmarks]
      exact drive_dropped rfl _

-- ====================================================== processing

variable {σ : Type} [Stage σ]

/-- Behind the stages of a started pipeline it makes no difference whether the
last stage sends children on and drops their parent or just drops it. -/
theorem process_replaces (environment : Environment) (p : Pipeline σ)
    (hp : p.phase = .started) (emit : EmitNestedChildren)
    (hemit : emit.dropParent = true) (drop : DropRecord)
    (hdrop : drop.filter = none) (r : Record) :
    ∃ out, (p.followedBy emit).process environment r = .ok out
      ∧ (p.followedBy drop).process environment r = .ok out := by
  have hemitted := process_started (p := p.followedBy emit) hp environment r
  have hdropped := process_started (p := p.followedBy drop) hp environment r
  rw [Pipeline.steps_followedBy] at hemitted hdropped
  have hlast (x : Record) : traverse [⟨Stage.name drop, drop.process⟩] x
      = traverse [⟨Stage.name emit, emit.process⟩] x := by
    rw [traverse_drop _ hdrop, traverse_emit _ hemit]
  have hsame := drive_append_congr hlast (p.steps environment) r .empty
  exact ⟨_, hemitted, hdropped.trans (congrArg Except.ok hsame)⟩

/-- A record of a run with a live child, and with a dropped one that has a
child and is in another run. -/
def estate : Record :=
  let c := ((Record.withRunId "c" "old").addChild (Record.new "d")).markDropped
  ((Record.withRunId "a" "run").addChild (Record.new "b")).addChild c

/-- The sample without its first stage. -/
def plain : Pipeline CatalogStage :=
  { sample with stages := sample.stages.tail }

/-- Both ways `a` gives way to `b`, which joins its run, and to `d`, which
joins that of the dropped `c`. -/
theorem process_replaces_estate :
    plain.phase = .started
      ∧ (EmitNestedChildren.mk "emit" true).dropParent = true
      ∧ (DropRecord.mk "drop" none).filter = none
      ∧ ∃ out, (plain.followedBy (EmitNestedChildren.mk "emit" true)).process
          still estate = .ok out
        ∧ (plain.followedBy (DropRecord.mk "drop" none)).process still estate
            = .ok out
        ∧ out.records.map (fun x => (x.id, x.runId))
            = [("b", some "run"), ("d", some "old")] := by
  obtain ⟨out, hemitted, hdropped⟩ := process_replaces still plain rfl
    ⟨"emit", true⟩ rfl ⟨"drop", none⟩ rfl estate
  have hout :=
    Except.ok.inj (hdropped.symm.trans (process_started rfl still estate))
  refine ⟨rfl, rfl, rfl, out, hemitted, hdropped, ?_⟩
  rw [hout]
  decide

end Traversal

end Intake
