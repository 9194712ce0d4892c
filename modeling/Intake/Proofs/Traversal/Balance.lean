/-
The balance of a traversal: no record is lost, and none comes out twice.

For steps that keep the id of a record, the ids that come in are those of
the records that enter; the ids that go out are those of the records that
end (`Course.balanced`). Ending is delivery, failure or a drop, and a drop
puts the surfaced children in place of the record, so the ids that ended
and surfaced are those of the output and of the dropped records
(`ended_surfaced`). The balance is the two together.

That every record ends once and under the id it came with is a fact about
its walk and not about the balance: the projection of a history to one
record has one ending in it (`Passage.ends_once`).
-/
import Intake.Proofs.Traversal.Discipline

namespace Intake.Traversal

variable {steps all : List PipelineStep} {stage next : Nat} {task : Task}
  {events : List Event}

-- ====================================================== endings

/-- The id under which an event ends a record. -/
def Event.ended : Event → List String
  | .entered _ _ _ => []
  | .called _ _ _ => []
  | .emitted _ r => [r.id]
  | .failed _ failure => [failure.recordId]
  | .dropped _ r => [r.id]

/-- The record that an event drops. -/
def Event.lost : Event → List Record
  | .entered _ _ _ => []
  | .called _ _ _ => []
  | .emitted _ _ => []
  | .failed _ _ => []
  | .dropped _ r => [r]

/-- The ids of the records that ended, in order. -/
def endings (h : List Event) : List String := h.flatMap Event.ended

/-- The records that ended dropped, as they were then. -/
def droppedIn (h : List Event) : List Record := h.flatMap Event.lost

/-- The children that surface from a dropped record. -/
def surfacing (r : Record) : List Record :=
  Record.surfaceAll r.runId r.children

/-- The children that surfaced from dropped records. -/
def surfacedIn (h : List Event) : List Record :=
  (droppedIn h).flatMap surfacing

/-- A step that does not replace the id of a record. -/
def KeepsId (step : PipelineStep) : Prop :=
  ∀ r, (step.run r).state.id = r.id

theorem endings_append (a b : List Event) :
    endings (a ++ b) = endings a ++ endings b :=
  List.flatMap_append

theorem endings_entered (entry first : Nat) (r : Record) (h : List Event) :
    endings (.entered entry first r :: h) = endings h := rfl

theorem endings_called (entry stage : Nat) (r : Record) (h : List Event) :
    endings (.called entry stage r :: h) = endings h := rfl

theorem droppedIn_append (a b : List Event) :
    droppedIn (a ++ b) = droppedIn a ++ droppedIn b :=
  List.flatMap_append

theorem droppedIn_entered (entry first : Nat) (r : Record) (h : List Event) :
    droppedIn (.entered entry first r :: h) = droppedIn h := rfl

theorem droppedIn_called (entry stage : Nat) (r : Record) (h : List Event) :
    droppedIn (.called entry stage r :: h) = droppedIn h := rfl

-- ====================================================== in and out

/-- The ids that a task has to bring to an end besides those that enter
in it. -/
def Task.ids : Task → List String
  | .onward _ r => [r.id]
  | .arrivals _ => []

/-- The ids of the records that enter. -/
def idsIn (h : List Event) : List String :=
  (entrances h).map fun c => c.2.id

theorem idsIn_append (a b : List Event) :
    idsIn (a ++ b) = idsIn a ++ idsIn b := by
  rw [idsIn, entrances_append, List.map_append, idsIn, idsIn]

/-- What a task holds and what enters in it comes to an end in it. -/
theorem Course.balanced (h : Course steps stage task next events) :
    (∀ step ∈ steps, KeepsId step) →
      (task.ids ++ idsIn events).Perm (endings events) := by
  induction h with
  | dropped hd => intro _; exact .refl _
  | emitted hd => intro _; exact .refl _
  | @failed step rest stage entry r next e hd he =>
      intro hkeep
      have hid : (step.run r).state.id = r.id :=
        hkeep step List.mem_cons_self r
      rw [endings_called]
      show [r.id].Perm [(step.run r).state.id]
      rw [hid]
  | @visited step rest stage entry r next added before after
      hd ha _ _ ihf iho =>
      intro hkeep
      have hrest : ∀ s ∈ rest, KeepsId s :=
        fun s hs => hkeep s (List.mem_cons_of_mem _ hs)
      have hid : (step.run r).state.id = r.id :=
        hkeep step List.mem_cons_self r
      have ho := iho hrest
      rw [Task.ids, hid] at ho
      rw [endings_called, endings_append]
      show (r.id :: idsIn (before ++ after)).Perm _
      rw [idsIn_append]
      exact List.perm_middle.symm.trans ((ihf hrest).append ho)
  | none => intro _; exact .nil
  | @arrival steps stage f fs next before after _ _ ih₁ ih₂ =>
      intro hkeep
      rw [endings_entered, endings_append]
      show (f.id :: idsIn (before ++ after)).Perm _
      rw [idsIn_append]
      exact (ih₁ hkeep).append (ih₂ hkeep)

/-- One event: a drop puts what surfaces in place of the record, every other
ending puts the record or its failure into the output. -/
theorem Event.ended_surfaced (x : Event) :
    (x.ended ++ (x.lost.flatMap surfacing).map Record.id).Perm
      (x.output.records.map Record.id
        ++ x.output.failures.map RecordFailure.recordId
        ++ x.lost.map Record.id) := by
  cases x with
  | entered entry first r => exact .nil
  | called entry stage r => exact .nil
  | emitted entry r => exact .refl [r.id]
  | failed entry failure => exact .refl [failure.recordId]
  | dropped entry r =>
      show ([r.id] ++ (surfacing r ++ []).map Record.id).Perm
        ((surfacing r).map Record.id ++ [] ++ [r.id])
      rw [List.append_nil, List.append_nil]
      exact List.perm_append_comm

/-- What ended and what surfaced is what was delivered, failed or dropped. -/
theorem ended_surfaced (h : List Event) :
    (endings h ++ (surfacedIn h).map Record.id).Perm
      ((output h).records.map Record.id
        ++ (output h).failures.map RecordFailure.recordId
        ++ (droppedIn h).map Record.id) := by
  rw [List.perm_iff_count]
  intro id
  induction h with
  | nil => rfl
  | cons x h ih =>
      have hx := (Event.ended_surfaced x).count_eq id
      rw [output_cons, PipelineOutput.records_append,
        PipelineOutput.failures_append, endings, surfacedIn, droppedIn,
        List.flatMap_cons, List.flatMap_cons, List.flatMap_append]
      rw [endings, surfacedIn, droppedIn] at ih
      simp only [List.map_append, List.count_append] at hx ih ⊢
      omega

-- ====================================================== one ending

/-- The event is the last one of its record. -/
def Event.isEnding : Event → Bool
  | .entered _ _ _ => false
  | .called _ _ _ => false
  | .emitted _ _ => true
  | .failed _ _ => true
  | .dropped _ _ => true

/-- A way ends under the id it began with. -/
theorem walk_ended (steps : List PipelineStep) :
    ∀ (stage : Nat) (r : Record) (entry : Nat),
      (∀ step ∈ steps, KeepsId step) →
      ((walk steps stage r).ending.event entry).ended = [r.id] := by
  induction steps with
  | nil =>
      intro stage r entry _
      cases hd : r.dropped with
      | true => rw [walk_dropped hd]; rfl
      | false => rw [walk_nil hd]; rfl
  | cons step rest ih =>
      intro stage r entry hkeep
      have hid : (step.run r).state.id = r.id :=
        hkeep step List.mem_cons_self r
      cases hd : r.dropped with
      | true => rw [walk_dropped hd]; rfl
      | false =>
          cases hres : (step.run r).result with
          | error e =>
              rw [walk_error hd hres]
              show [(step.run r).state.id] = [r.id]
              rw [hid]
          | ok added =>
              rw [walk_ok hd hres,
                ih _ _ _ fun s hs => hkeep s (List.mem_cons_of_mem _ hs), hid]

/-- The last event of a way is an ending. -/
theorem Ending.isEnding_event (entry : Nat) (e : Ending) :
    (e.event entry).isEnding = true := by
  cases e with
  | survived r => rfl
  | dropped r => rfl
  | failed stage r failure => rfl

/-- Calls are no endings. -/
theorem Walk.filter_trace (entry : Nat) (w : Walk) :
    (w.trace entry).filter Event.isEnding = [w.ending.event entry] := by
  rw [Walk.trace, List.filter_append, List.filter_map]
  have hcalls : w.calls.filter
      (Event.isEnding ∘ fun call => .called entry call.1 call.2) = [] :=
    List.filter_eq_nil_iff.mpr fun call _ => by
      simp [Event.isEnding]
  rw [hcalls, List.filter_cons_of_pos (Ending.isEnding_event entry w.ending)]
  rfl

/-- A record that enters ends once, under the id it came with. -/
theorem Passage.ends_once {h : List Event} {entry : Nat}
    (hkeep : ∀ step ∈ all, KeepsId step) (hp : Passage all entry h) :
    ∃ first r ending, Event.entered entry first r ∈ h
      ∧ (proj entry h).filter Event.isEnding = [ending]
      ∧ ending.ended = [r.id] := by
  obtain ⟨first, r, -, hproj⟩ := hp
  refine ⟨first, r, (walkFrom all first r).ending.event entry, ?_, ?_, ?_⟩
  · have hmem : Event.entered entry first r ∈ proj entry h := by
      rw [hproj]
      exact List.mem_cons_self
    exact (List.mem_filter.mp hmem).1
  · rw [hproj, List.filter_cons_of_neg Bool.false_ne_true,
      Walk.filter_trace]
  · exact walk_ended _ first r entry fun s hs =>
      hkeep s (List.mem_of_mem_drop hs)

-- ====================================================== the balance

/-- The account of a record in front of a list of steps. -/
structure Balanced (all : List PipelineStep) (input : Record)
    (h : List Event) (out : PipelineOutput) : Prop where
  shown : out = output h
  /-- the records that enter are the input and what calls returned -/
  entering : (entrances h).Perm ((0, input) :: returned all h)
  /-- what enters or surfaces is delivered, failed or dropped -/
  ids : (idsIn h ++ (surfacedIn h).map Record.id).Perm
    (out.records.map Record.id ++ out.failures.map RecordFailure.recordId
      ++ (droppedIn h).map Record.id)
  /-- a record that enters has one ending, under the id it came with -/
  ends : ∀ entry < entries h, ∃ first r ending, Event.entered entry first r ∈ h
    ∧ (proj entry h).filter Event.isEnding = [ending]
    ∧ ending.ended = [r.id]

/-- The history of a record balances, if the steps keep ids. -/
theorem history_balanced {all : List PipelineStep}
    (hkeep : ∀ step ∈ all, KeepsId step) (r : Record) :
    Balanced all r (history all r) (traverse all r) where
  shown := (output_history all r).symm
  entering := (history_disciplined all r).entrances
  ids := by
    rw [← output_history]
    have hin := (history_course all r).balanced hkeep
    rw [Task.ids, List.nil_append] at hin
    exact (hin.append_right _).trans (ended_surfaced _)
  ends := by
    intro entry hentry
    obtain ⟨first, x, hle, hproj, -⟩ :=
      (history_disciplined all r).passages entry hentry
    exact Passage.ends_once hkeep ⟨first, x, hle, hproj⟩

-- ====================================================== stages that keep ids

/-- Sending the children on keeps the id of the record. -/
theorem emitNestedChildren_id (stage : EmitNestedChildren) (r : Record) :
    (stage.process r).state.id = r.id := by
  have hsend : ∀ x : Record,
      (if x.hasChildren
        then Outcome.ok x.withoutChildren
          (some (x.children.map (Record.inheritRun x.runId)))
        else StageResult.unchanged x : StageResult).state.id = x.id := by
    intro x
    split
    · rfl
    · rfl
  unfold EmitNestedChildren.process
  split
  · exact hsend r.markDropped
  · exact hsend r

/-- Dropping a record keeps its id. -/
theorem dropRecord_id (stage : DropRecord) (r : Record) :
    (stage.process r).state.id = r.id := by
  rw [DropRecord.process]
  split
  · rfl
  · rfl

/-- Writing to a field is no way to write to the id. -/
theorem update_id (r : Record) (name : String) (mode : UpdateMode)
    (values : List Value) : (r.update name mode values).state.id = r.id := by
  rw [Record.update, Record.onWritable]
  split
  · rfl
  · rfl

/-- What every step of a chain of changes keeps is kept by the chain. -/
theorem each_keeps {ε τ β γ : Type} {step : τ → β → Outcome ε τ Unit}
    (view : τ → γ) (hstep : ∀ s x, view (step s x).state = view s) :
    ∀ (xs : List β) (s : τ), view (Outcome.each step s xs).state = view s := by
  intro xs
  induction xs with
  | nil => intro s; rfl
  | cons x xs ih =>
      intro s
      rw [Outcome.each, Outcome.andThen]
      cases hres : (step s x).result with
      | error e => exact hstep s x
      | ok answer => rw [ih, hstep]

/-- A call that changes a record leaves what the change leaves. -/
theorem ofChange_state (change : Record.Change Unit) :
    (StageResult.ofChange change).state = change.state := by
  rw [StageResult.ofChange, Outcome.andThen, Outcome.mapError]
  cases change.result with
  | error e => rfl
  | ok answer => rfl

/-- Copying fields keeps the id. -/
theorem copyFields_id (stage : CopyFields) (r : Record) :
    (stage.process r).state.id = r.id := by
  rw [CopyFields.process, ofChange_state]
  refine each_keeps Record.id (fun s pair => ?_) _ r
  cases CopyFields.sourceValues s pair.1 with
  | none => rfl
  | some values => exact update_id s pair.2 stage.mode values

-- ====================================================== processing

variable {σ : Type} [Stage σ]

/-- A started pipeline of stages that keep ids loses no record and delivers
none twice: what enters or surfaces is delivered, failed or dropped, and a
record that enters is one of these once. -/
theorem process_balanced (environment : Environment) (p : Pipeline σ)
    (hp : p.phase = .started)
    (hid : ∀ stage ∈ p.stages, ∀ x,
      (Stage.process environment stage x).state.id = x.id)
    (r : Record) :
    ∃ out, p.process environment r = .ok out
      ∧ Balanced (p.steps environment) r
          (history (p.steps environment) r) out := by
  refine ⟨_, process_started hp environment r, history_balanced ?_ r⟩
  intro step hstep x
  obtain ⟨stage, hmem, rfl⟩ := List.mem_map.mp hstep
  exact hid stage hmem x

/-- In the sample `a`, `b` and `d` enter and `e` surfaces; `e` and `a` come
out, `b` fails and `d` is dropped. -/
theorem process_balanced_family :
    sample.phase = .started
      ∧ (∀ stage ∈ sample.stages, ∀ x,
          (Stage.process still stage x).state.id = x.id)
      ∧ (∃ out, sample.process still family = .ok out
          ∧ Balanced (sample.steps still) family
              (history (sample.steps still) family) out)
      ∧ idsIn (history (sample.steps still) family) = ["a", "b", "d"]
      ∧ (surfacedIn (history (sample.steps still) family)).map Record.id
          = ["e"]
      ∧ (droppedIn (history (sample.steps still) family)).map Record.id
          = ["d"] := by
  have hid : ∀ stage ∈ sample.stages, ∀ x,
      (Stage.process still stage x).state.id = x.id := by
    intro stage hstage x
    simp only [sample, List.mem_cons, List.not_mem_nil, or_false] at hstage
    rcases hstage with rfl | rfl | rfl
    · exact emitNestedChildren_id _ x
    · exact copyFields_id _ x
    · exact dropRecord_id _ x
  exact ⟨rfl, hid, process_balanced still sample rfl hid family,
    by decide, by decide, by decide⟩

end Intake.Traversal
