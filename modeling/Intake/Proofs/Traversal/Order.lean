/-
The depth-first order of a traversal.

`drive` threads one output through all that a record gives rise to. Two
facts make it a function of the record alone: it only appends
(`drive_append`), and so what it appends can be read off a run that starts
from the empty output (`drive_eq_append`).

The way of one record by itself is its `walk`: the steps that let it
through, each with the records that came along, and how the way ended. The
order theorem says that a run is the walk with every record that came along
replaced by a run of its own. The induction is on the steps that are left;
the fan-out of one step needs a second one on the list, which
`foldl_drive` settles once.
-/
import Intake.Pipeline.Lifecycle
import Intake.Stage.Catalog

-- ====================================================== outputs

namespace Intake.PipelineOutput

@[simp] theorem records_append (a b : PipelineOutput) :
    (a ++ b).records = a.records ++ b.records := rfl

@[simp] theorem failures_append (a b : PipelineOutput) :
    (a ++ b).failures = a.failures ++ b.failures := rfl

@[simp] theorem empty_append (a : PipelineOutput) : empty ++ a = a := rfl

@[simp] theorem append_empty (a : PipelineOutput) : a ++ empty = a := by
  ext1
  · exact List.append_nil _
  · exact List.append_nil _

theorem append_assoc (a b c : PipelineOutput) :
    a ++ b ++ c = a ++ (b ++ c) := by
  ext1
  · exact List.append_assoc _ _ _
  · exact List.append_assoc _ _ _

theorem emit_eq_append (out : PipelineOutput) (r : Record) :
    out.emit r = out ++ ⟨[r], []⟩ := by
  ext1
  · rfl
  · exact (List.append_nil _).symm

theorem fail_eq_append (out : PipelineOutput) (f : RecordFailure) :
    out.fail f = out ++ ⟨[], [f]⟩ := by
  ext1
  · exact (List.append_nil _).symm
  · rfl

/-- Outputs one behind the other. -/
def concat : List PipelineOutput → PipelineOutput
  | [] => empty
  | out :: outs => out ++ concat outs

theorem concat_append (a b : List PipelineOutput) :
    concat (a ++ b) = concat a ++ concat b := by
  induction a with
  | nil => rfl
  | cons out outs ih =>
      rw [List.cons_append, concat, concat, ih, append_assoc]

end Intake.PipelineOutput

namespace Intake.Traversal

variable {steps rest : List PipelineStep} {step : PipelineStep} {r : Record}

-- ====================================================== the four exits

/-- A dropped record leaves its children behind and sees no step. -/
theorem drive_dropped (h : r.dropped = true) (out : PipelineOutput) :
    drive steps r out = out ++ surfaced r := by
  cases steps with
  | nil => rw [drive, if_pos h]
  | cons step rest => rw [drive, if_pos h]

/-- A record behind the last step is delivered. -/
theorem drive_nil (h : r.dropped = false) (out : PipelineOutput) :
    drive [] r out = out.emit r := by
  rw [drive, if_neg (by simp [h])]

/-- A record that a step fails on is given up. -/
theorem drive_error {e : StageError} (h : r.dropped = false)
    (he : (step.run r).result = .error e) (out : PipelineOutput) :
    drive (step :: rest) r out
      = out.fail (step.failure (step.run r).state e) := by
  rw [drive, if_neg (by simp [h])]
  simp only [he]

/-- A record that a step lets through goes on behind its fan-out. -/
theorem drive_ok {added : Option (List Record)} (h : r.dropped = false)
    (ha : (step.run r).result = .ok added) (out : PipelineOutput) :
    drive (step :: rest) r out
      = drive rest (step.run r).state
          ((produced (step.run r).state added).foldl
            (fun out f => drive rest f out) out) := by
  rw [drive, if_neg (by simp [h])]
  simp only [ha]

-- ====================================================== only appending

/-- What is in the output already neither changes nor matters. -/
theorem drive_append (steps : List PipelineStep) :
    ∀ (r : Record) (a b : PipelineOutput),
      drive steps r (a ++ b) = a ++ drive steps r b := by
  induction steps with
  | nil =>
      intro r a b
      cases hd : r.dropped with
      | true =>
          rw [drive_dropped hd, drive_dropped hd, PipelineOutput.append_assoc]
      | false =>
          rw [drive_nil hd, drive_nil hd, PipelineOutput.emit_eq_append,
            PipelineOutput.emit_eq_append, PipelineOutput.append_assoc]
  | cons step rest ih =>
      intro r a b
      cases hd : r.dropped with
      | true =>
          rw [drive_dropped hd, drive_dropped hd, PipelineOutput.append_assoc]
      | false =>
          cases hres : (step.run r).result with
          | error e =>
              rw [drive_error hd hres, drive_error hd hres,
                PipelineOutput.fail_eq_append, PipelineOutput.fail_eq_append,
                PipelineOutput.append_assoc]
          | ok added =>
              rw [drive_ok hd hres, drive_ok hd hres, ← ih]
              congr 1
              -- the fan-out, one record after the other
              generalize produced (step.run r).state added = fs
              induction fs generalizing b with
              | nil => rfl
              | cons f fs ihf =>
                  rw [List.foldl_cons, List.foldl_cons, ih, ihf]

/-- A run appends what it gives from the empty output. -/
theorem drive_eq_append (steps : List PipelineStep) (r : Record)
    (out : PipelineOutput) :
    drive steps r out = out ++ drive steps r .empty := by
  rw [← drive_append, PipelineOutput.append_empty]

/-- A list of records, one run after the other. -/
theorem foldl_drive (steps : List PipelineStep) (fs : List Record) :
    ∀ out : PipelineOutput,
      fs.foldl (fun out f => drive steps f out) out
        = out ++ .concat (fs.map fun f => drive steps f .empty) := by
  induction fs with
  | nil =>
      intro out
      exact (PipelineOutput.append_empty out).symm
  | cons f fs ih =>
      intro out
      rw [List.foldl_cons, ih, drive_eq_append, List.map_cons,
        PipelineOutput.concat, PipelineOutput.append_assoc]

-- ====================================================== the way of one record

/-- A step that let a record through. -/
structure Visit where
  /-- the place of the step -/
  stage : Nat
  /-- the record as the step found it -/
  record : Record
  /-- the records that came along, as they enter behind the step -/
  added : List Record

/-- How the way of a record ends. -/
inductive Ending where
  | survived (r : Record)
  | dropped (r : Record)
  /-- the step at a place failed on the record it found -/
  | failed (stage : Nat) (r : Record) (failure : RecordFailure)

/-- What the end of a way leaves in the output. -/
def Ending.output : Ending → PipelineOutput
  | .survived r => ⟨[r], []⟩
  | .dropped r => surfaced r
  | .failed _ _ failure => ⟨[], [failure]⟩

/-- The way of one record: the steps that let it through, and how it ended. -/
structure Walk where
  visits : List Visit
  ending : Ending

/-- Follows one record through the steps that are left, the first of which
stands at a given place. The records that come along are noted and not
followed. -/
def walk : List PipelineStep → Nat → Record → Walk
  | [], _, r => ⟨[], if r.dropped then .dropped r else .survived r⟩
  | step :: rest, stage, r =>
    if r.dropped then ⟨[], .dropped r⟩
    else
      let after := step.run r
      match after.result with
      | .error e => ⟨[], .failed stage r (step.failure after.state e)⟩
      | .ok added =>
        let onward := walk rest (stage + 1) after.state
        ⟨⟨stage, r, produced after.state added⟩ :: onward.visits,
          onward.ending⟩

/-- Follows one record into a list of steps at a given place. -/
def walkFrom (steps : List PipelineStep) (first : Nat) (r : Record) : Walk :=
  walk (steps.drop first) first r

/-- The way of a dropped record ends before the next step. -/
theorem walk_dropped (h : r.dropped = true) (stage : Nat) :
    walk steps stage r = ⟨[], .dropped r⟩ := by
  cases steps with
  | nil => rw [walk, if_pos h]
  | cons step rest => rw [walk, if_pos h]

theorem walk_nil (h : r.dropped = false) (stage : Nat) :
    walk [] stage r = ⟨[], .survived r⟩ := by
  rw [walk, if_neg (by simp [h])]

/-- A step that fails ends the way. -/
theorem walk_error {e : StageError} (h : r.dropped = false)
    (he : (step.run r).result = .error e) (stage : Nat) :
    walk (step :: rest) stage r
      = ⟨[], .failed stage r (step.failure (step.run r).state e)⟩ := by
  rw [walk, if_neg (by simp [h])]
  simp only [he]

/-- A step that lets the record through is the first visit, and the way goes on
behind it. -/
theorem walk_ok {added : Option (List Record)} (h : r.dropped = false)
    (ha : (step.run r).result = .ok added) (stage : Nat) :
    walk (step :: rest) stage r
      = ⟨⟨stage, r, produced (step.run r).state added⟩
            :: (walk rest (stage + 1) (step.run r).state).visits,
          (walk rest (stage + 1) (step.run r).state).ending⟩ := by
  rw [walk, if_neg (by simp [h])]
  simp only [ha]

/-- Behind a step stands the rest of the list. -/
theorem drop_succ {all : List PipelineStep} {stage : Nat}
    (h : all.drop stage = step :: rest) : all.drop (stage + 1) = rest := by
  rw [← List.drop_drop, h, List.drop_one, List.tail_cons]

/-- The first of the steps that are left is the one at its place. -/
theorem getElem?_of_drop {all : List PipelineStep} {stage : Nat}
    (h : all.drop stage = step :: rest) : all[stage]? = some step := by
  rw [← Nat.add_zero stage, ← List.getElem?_drop, h]
  rfl

/-- What a way into a list of steps has to be: it leads from step to step
without a gap, each step was given a live record and let it through, and
behind these the record is past the last step, or dropped, or in front of a
step that fails on it. -/
structure Walk.Sound (all : List PipelineStep) (first : Nat) (w : Walk) :
    Prop where
  stages : w.visits.map Visit.stage = List.range' first w.visits.length
  visited : ∀ v ∈ w.visits, v.record.dropped = false
    ∧ ∃ step added, all[v.stage]? = some step
      ∧ (step.run v.record).result = .ok added
      ∧ v.added = produced (step.run v.record).state added
  survived : ∀ x, w.ending = .survived x →
    x.dropped = false ∧ all.length ≤ first + w.visits.length
  dropped : ∀ x, w.ending = .dropped x → x.dropped = true
  failed : ∀ stage x failure, w.ending = .failed stage x failure →
    x.dropped = false ∧ stage = first + w.visits.length
      ∧ ∃ step e, all[stage]? = some step ∧ (step.run x).result = .error e
        ∧ failure = ⟨(step.run x).state.id, (step.run x).state.runId,
            step.name, e.message⟩

/-- A way that ends before the first step. -/
theorem Walk.sound_dropped {all : List PipelineStep} {first : Nat}
    (h : r.dropped = true) : Walk.Sound all first ⟨[], .dropped r⟩ where
  stages := rfl
  visited := by intro v hv; cases hv
  survived := by intro x hx; cases hx
  dropped := by intro x hx; cases hx; exact h
  failed := by intro stage x failure hx; cases hx

/-- One more step in front of a way. -/
theorem Walk.Sound.cons {all : List PipelineStep} {stage : Nat} {w : Walk}
    {added : Option (List Record)} (h : r.dropped = false)
    (hstep : all[stage]? = some step) (ha : (step.run r).result = .ok added)
    (hw : w.Sound all (stage + 1)) :
    Walk.Sound all stage
      ⟨⟨stage, r, produced (step.run r).state added⟩ :: w.visits,
        w.ending⟩ where
  stages := by
    rw [List.map_cons, List.length_cons, List.range'_succ, hw.stages]
  visited := by
    intro v hv
    rcases List.mem_cons.mp hv with rfl | hv
    · exact ⟨h, step, added, hstep, ha, rfl⟩
    · exact hw.visited v hv
  survived := by
    intro x hx
    obtain ⟨hlive, hle⟩ := hw.survived x hx
    refine ⟨hlive, ?_⟩
    rw [List.length_cons]
    omega
  dropped := hw.dropped
  failed := by
    intro place x failure hx
    obtain ⟨hlive, hplace, hfail⟩ := hw.failed place x failure hx
    refine ⟨hlive, ?_, hfail⟩
    rw [List.length_cons]
    omega

/-- Every way into a list of steps is sound. -/
theorem walk_sound (all : List PipelineStep) :
    ∀ (steps : List PipelineStep) (stage : Nat) (r : Record),
      all.drop stage = steps → (walk steps stage r).Sound all stage := by
  intro steps
  induction steps with
  | nil =>
      intro stage r hall
      cases hd : r.dropped with
      | true => rw [walk_dropped hd]; exact Walk.sound_dropped hd
      | false =>
          rw [walk_nil hd]
          refine ⟨rfl, ?_, ?_, ?_, ?_⟩
          · intro v hv; cases hv
          · intro x hx
            cases hx
            exact ⟨hd, List.drop_eq_nil_iff.mp hall⟩
          · intro x hx; cases hx
          · intro stage x failure hx; cases hx
  | cons step rest ih =>
      intro stage r hall
      cases hd : r.dropped with
      | true => rw [walk_dropped hd]; exact Walk.sound_dropped hd
      | false =>
          cases hres : (step.run r).result with
          | error e =>
              rw [walk_error hd hres]
              refine ⟨rfl, ?_, ?_, ?_, ?_⟩
              · intro v hv; cases hv
              · intro x hx; cases hx
              · intro x hx; cases hx
              · intro place x failure hx
                cases hx
                exact ⟨hd, rfl, step, e, getElem?_of_drop hall, hres, rfl⟩
          | ok added =>
              rw [walk_ok hd hres]
              exact (ih (stage + 1) _ (drop_succ hall)).cons hd
                (getElem?_of_drop hall) hres

-- ====================================================== the order

/-- A run is the walk of its record with a run of its own in place of every
record that came along. -/
theorem drive_eq_walk (all : List PipelineStep) :
    ∀ (steps : List PipelineStep) (stage : Nat) (r : Record),
      all.drop stage = steps →
      drive steps r .empty
        = .concat ((walk steps stage r).visits.flatMap fun v =>
              v.added.map fun f => driveFrom all (v.stage + 1) f .empty)
          ++ (walk steps stage r).ending.output := by
  intro steps
  induction steps with
  | nil =>
      intro stage r _
      cases hd : r.dropped with
      | true => rw [drive_dropped hd, walk_dropped hd]; rfl
      | false => rw [drive_nil hd, walk_nil hd]; rfl
  | cons step rest ih =>
      intro stage r hall
      cases hd : r.dropped with
      | true => rw [drive_dropped hd, walk_dropped hd]; rfl
      | false =>
          cases hres : (step.run r).result with
          | error e => rw [drive_error hd hres, walk_error hd hres]; rfl
          | ok added =>
              have hrest := drop_succ hall
              rw [drive_ok hd hres, walk_ok hd hres, drive_eq_append,
                foldl_drive, ih (stage + 1) _ hrest, List.flatMap_cons,
                PipelineOutput.concat_append, PipelineOutput.empty_append,
                PipelineOutput.append_assoc]
              -- what came along runs through exactly the steps behind
              simp only [driveFrom, hrest]

-- ====================================================== a sample

/-- A world with nothing in it. -/
def still : Environment :=
  ⟨FileTree.empty, ⟨0, 0⟩, fun _ => ⟨⟨0, 0⟩, ⟨0, 0⟩⟩, fun _ => .error "none"⟩

/-- A started pipeline that sends children on, fails on records with a field
`x`, and drops the record `d`. -/
def sample : Pipeline CatalogStage where
  name := "sample"
  stages := [.emitNestedChildren ⟨"emit", false⟩,
    .copyFields ⟨"copy", [("x", "id")], .overwrite⟩,
    .dropRecord ⟨"drop", some ("id", ["d"])⟩]
  phase := .started

/-- A record with a child that has a field `x` and a child `d` with a child
of its own. -/
def family : Record :=
  let b := { Record.new "b" with
    fields :=
      ⟨[⟨"x", .single (some (.text "1")), some .text⟩], ValueType.all⟩ }
  let d := (Record.new "d").addChild (Record.new "e")
  ((Record.withRunId "a" "run").addChild b).addChild d

-- ====================================================== processing

variable {σ : Type} [Stage σ]

/-- A started pipeline takes a record through its steps. -/
theorem process_started {p : Pipeline σ} (hp : p.phase = .started)
    (environment : Environment) (r : Record) :
    p.process environment r = .ok (traverse (p.steps environment) r) := by
  rw [Pipeline.process, if_pos hp]

/-- Running a record from any place on appends to the output: for each step
that lets the record through, in order, the complete output of each record
that came along, run by itself behind that step; and at the end the record,
or what surfaces of it, or the one failure, which tells the id and the run
of the record as the step left it, the step, and the reason. -/
theorem process_depth_first (environment : Environment) (p : Pipeline σ)
    (hp : p.phase = .started) :
    (∀ r, p.process environment r
        = .ok (driveFrom (p.steps environment) 0 r .empty))
      ∧ ∀ (i : Nat) (r : Record) (out : PipelineOutput),
          let way := walkFrom (p.steps environment) i r
          way.Sound (p.steps environment) i
            ∧ driveFrom (p.steps environment) i r out
              = out
                ++ .concat (way.visits.flatMap fun v => v.added.map fun f =>
                    driveFrom (p.steps environment) (v.stage + 1) f .empty)
                ++ way.ending.output := by
  refine ⟨process_started hp environment, fun i r out => ⟨?_, ?_⟩⟩
  · exact walk_sound _ _ i r rfl
  · rw [PipelineOutput.append_assoc, walkFrom,
      ← drive_eq_walk (p.steps environment) _ i r rfl]
    exact drive_eq_append _ r out

/-- The child `b` fails behind the first step, `d` is dropped behind the
second and leaves `e`, and the parent comes last. -/
theorem process_depth_first_family :
    sample.phase = .started
      ∧ sample.process still family
          = .ok (driveFrom (sample.steps still) 0 family .empty)
      ∧ (walkFrom (sample.steps still) 0 family).Sound (sample.steps still) 0
      ∧ driveFrom (sample.steps still) 0 family .empty
          = .empty
            ++ .concat ((walkFrom (sample.steps still) 0 family).visits.flatMap
                fun v => v.added.map fun f =>
                  driveFrom (sample.steps still) (v.stage + 1) f .empty)
            ++ (walkFrom (sample.steps still) 0 family).ending.output
      ∧ (driveFrom (sample.steps still) 0 family .empty).records.map Record.id
          = ["e", "a"]
      ∧ (driveFrom (sample.steps still) 0 family .empty).failures
          = [⟨"b", some "run", "copy", "`id` is a reserved field name"⟩] := by
  obtain ⟨hprocess, hrun⟩ := process_depth_first still sample rfl
  obtain ⟨hsound, hout⟩ := hrun 0 family .empty
  exact ⟨rfl, hprocess family, hsound, hout, by decide, by decide⟩

end Intake.Traversal
