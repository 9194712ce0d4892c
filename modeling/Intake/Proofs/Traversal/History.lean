/-
The history of a traversal: everything that happens to every record, told
in the order in which it happens.

The records that enter a traversal are numbered as they enter, the input
being number 0; that number, and not the id, says which record an event is
about, since ids may repeat and steps may change them. `observe` is `drive`
with the history in place of the output, and `output_history` says that
nothing was lost by telling more: the output is what the history shows of
deliveries, failures and drops.

`observe` threads the history so far through a recursion with a loop in it.
What it adds is a `Course`: one rule for each thing that can happen, which
says what is told and how the numbers run on. Every fact about histories
is proved by induction on the rules.
-/
import Intake.Proofs.Traversal.Order

namespace Intake.Traversal

-- ====================================================== events

/-- What can happen to the record that entered as a given number. -/
inductive Event where
  /-- it enters in front of the step at a given place -/
  | entered (entry first : Nat) (r : Record)
  /-- a step is called, on the record as it is then -/
  | called (entry stage : Nat) (r : Record)
  | emitted (entry : Nat) (r : Record)
  | failed (entry : Nat) (failure : RecordFailure)
  | dropped (entry : Nat) (r : Record)

namespace Event

/-- The number of the record that an event is about. -/
def entry : Event → Nat
  | .entered entry _ _ => entry
  | .called entry _ _ => entry
  | .emitted entry _ => entry
  | .failed entry _ => entry
  | .dropped entry _ => entry

/-- The event is the first one of its record. -/
def isEntrance : Event → Bool
  | .entered _ _ _ => true
  | _ => false

/-- What an event puts into the output. -/
def output : Event → PipelineOutput
  | .entered _ _ _ => .empty
  | .called _ _ _ => .empty
  | .emitted _ r => ⟨[r], []⟩
  | .failed _ failure => ⟨[], [failure]⟩
  | .dropped _ r => surfaced r

end Event

/-- The number of records that entered. -/
def entries (h : List Event) : Nat := h.countP Event.isEntrance

/-- What a history shows of the output. -/
def output (h : List Event) : PipelineOutput := .concat (h.map Event.output)

-- ====================================================== telling

/-- Takes a numbered record through the steps that are left, the first of
which stands at a given place, and tells what happens. -/
def observe : List PipelineStep → Nat → Nat → Record → List Event → List Event
  | [], _, entry, r, h =>
    if r.dropped then h ++ [.dropped entry r] else h ++ [.emitted entry r]
  | step :: rest, stage, entry, r, h =>
    if r.dropped then h ++ [.dropped entry r]
    else
      let after := step.run r
      let h := h ++ [.called entry stage r]
      match after.result with
      | .error e => h ++ [.failed entry (step.failure after.state e)]
      | .ok added =>
        let h := (produced after.state added).foldl
          (fun h f => observe rest (stage + 1) (entries h) f
            (h ++ [.entered (entries h) (stage + 1) f])) h
        observe rest (stage + 1) entry after.state h

/-- The history of one record in front of a list of steps. -/
def history (steps : List PipelineStep) (r : Record) : List Event :=
  observe steps 0 0 r [.entered 0 0 r]

-- ====================================================== the rules

/-- What is still to be run: a record on its way, or records that are about
to enter. -/
inductive Task where
  | onward (entry : Nat) (r : Record)
  | arrivals (fs : List Record)

/-- The events of a task, with the steps that are left, the place of the
first of them and the number that the next entering record gets. -/
inductive Course : List PipelineStep → Nat → Task → Nat → List Event → Prop
  | dropped {steps stage entry r next} (hd : r.dropped = true) :
      Course steps stage (.onward entry r) next [.dropped entry r]
  | emitted {stage entry r next} (hd : r.dropped = false) :
      Course [] stage (.onward entry r) next [.emitted entry r]
  | failed {step rest stage entry r next e} (hd : r.dropped = false)
      (he : (step.run r).result = .error e) :
      Course (step :: rest) stage (.onward entry r) next
        [.called entry stage r,
          .failed entry (step.failure (step.run r).state e)]
  | visited {step rest stage entry r next added before after}
      (hd : r.dropped = false) (ha : (step.run r).result = .ok added)
      (fanOut : Course rest (stage + 1)
        (.arrivals (produced (step.run r).state added)) next before)
      (onward : Course rest (stage + 1) (.onward entry (step.run r).state)
        (next + entries before) after) :
      Course (step :: rest) stage (.onward entry r) next
        (.called entry stage r :: (before ++ after))
  | none {steps stage next} : Course steps stage (.arrivals []) next []
  | arrival {steps stage f fs next before after}
      (first : Course steps stage (.onward next f) (next + 1) before)
      (others : Course steps stage (.arrivals fs)
        (next + 1 + entries before) after) :
      Course steps stage (.arrivals (f :: fs)) next
        (.entered next stage f :: (before ++ after))

@[simp] theorem entries_nil : entries [] = 0 := rfl

@[simp] theorem entries_append (a b : List Event) :
    entries (a ++ b) = entries a + entries b :=
  List.countP_append

@[simp] theorem entries_cons (x : Event) (h : List Event) :
    entries (x :: h) = entries h + (if x.isEntrance then 1 else 0) :=
  List.countP_cons

/-- The loop over a fan-out adds the course of the arrivals, if each turn of
it adds the course of one record. -/
theorem foldl_observe {steps : List PipelineStep} {stage : Nat}
    (hone : ∀ (entry : Nat) (r : Record) (h : List Event),
      ∃ events, observe steps stage entry r h = h ++ events
        ∧ Course steps stage (.onward entry r) (entries h) events) :
    ∀ (fs : List Record) (h : List Event),
      ∃ events,
        fs.foldl (fun h f => observe steps stage (entries h) f
            (h ++ [.entered (entries h) stage f])) h = h ++ events
          ∧ Course steps stage (.arrivals fs) (entries h) events := by
  intro fs
  induction fs with
  | nil =>
      intro h
      exact ⟨[], (List.append_nil h).symm, .none⟩
  | cons f fs ih =>
      intro h
      obtain ⟨before, hb, hfirst⟩ :=
        hone (entries h) f (h ++ [.entered (entries h) stage f])
      obtain ⟨after, ha, hothers⟩ :=
        ih (h ++ [.entered (entries h) stage f] ++ before)
      have hnext : entries (h ++ [.entered (entries h) stage f])
          = entries h + 1 := by
        rw [entries_append]
        rfl
      rw [hnext] at hfirst
      rw [entries_append, hnext] at hothers
      refine ⟨.entered (entries h) stage f :: (before ++ after), ?_,
        .arrival hfirst hothers⟩
      rw [List.foldl_cons, hb, ha]
      simp only [List.append_assoc, List.cons_append, List.nil_append]

/-- What is told of a record is a course. -/
theorem observe_course (steps : List PipelineStep) :
    ∀ (stage entry : Nat) (r : Record) (h : List Event),
      ∃ events, observe steps stage entry r h = h ++ events
        ∧ Course steps stage (.onward entry r) (entries h) events := by
  induction steps with
  | nil =>
      intro stage entry r h
      cases hd : r.dropped with
      | true => exact ⟨_, by rw [observe, if_pos hd], .dropped hd⟩
      | false =>
          exact ⟨_, by rw [observe, if_neg (by simp [hd])], .emitted hd⟩
  | cons step rest ih =>
      intro stage entry r h
      cases hd : r.dropped with
      | true => exact ⟨_, by rw [observe, if_pos hd], .dropped hd⟩
      | false =>
          cases hres : (step.run r).result with
          | error e =>
              refine ⟨_, ?_, .failed hd hres⟩
              rw [observe, if_neg (by simp [hd])]
              simp only [hres, List.append_assoc, List.cons_append,
                List.nil_append]
          | ok added =>
              obtain ⟨before, hb, hfan⟩ := foldl_observe (ih (stage + 1))
                (produced (step.run r).state added)
                (h ++ [.called entry stage r])
              obtain ⟨after, ha, honward⟩ := ih (stage + 1) entry
                (step.run r).state (h ++ [.called entry stage r] ++ before)
              have hnext : entries (h ++ [.called entry stage r])
                  = entries h := by
                rw [entries_append]
                rfl
              rw [hnext] at hfan
              rw [entries_append, hnext] at honward
              refine ⟨_, ?_, .visited hd hres hfan honward⟩
              rw [observe, if_neg (by simp [hd])]
              simp only [hres]
              rw [hb, ha]
              simp only [List.append_assoc, List.cons_append, List.nil_append]

/-- In a history the input enters, and its course follows. -/
theorem history_eq (steps : List PipelineStep) (r : Record) :
    ∃ events, history steps r = .entered 0 0 r :: events
      ∧ Course steps 0 (.onward 0 r) 1 events :=
  observe_course steps 0 0 r [.entered 0 0 r]

/-- A history is the course of the arrival of its input. -/
theorem history_course (steps : List PipelineStep) (r : Record) :
    Course steps 0 (.arrivals [r]) 0 (history steps r) := by
  obtain ⟨events, he, hc⟩ := history_eq steps r
  have h : Course steps 0 (.arrivals [r]) 0
      (.entered 0 0 r :: (events ++ [])) := .arrival hc .none
  rw [List.append_nil] at h
  rw [he]
  exact h

-- ====================================================== the output

theorem output_cons (x : Event) (h : List Event) :
    output (x :: h) = x.output ++ output h := rfl

/-- A call by itself shows nothing. -/
theorem output_called (entry stage : Nat) (r : Record) (h : List Event) :
    output (.called entry stage r :: h) = output h := rfl

/-- An entrance by itself shows nothing. -/
theorem output_entered (entry first : Nat) (r : Record) (h : List Event) :
    output (.entered entry first r :: h) = output h := rfl

theorem output_singleton (x : Event) : output [x] = x.output :=
  PipelineOutput.append_empty _

theorem output_append (a b : List Event) :
    output (a ++ b) = output a ++ output b := by
  rw [output, List.map_append, PipelineOutput.concat_append, output, output]

/-- What a task does to the output. -/
def Task.drive (steps : List PipelineStep) (out : PipelineOutput) :
    Task → PipelineOutput
  | .onward _ r => Intake.drive steps r out
  | .arrivals fs => fs.foldl (fun out f => Intake.drive steps f out) out

/-- A course shows what its task appends to the output. -/
theorem Course.drive_eq {steps : List PipelineStep} {stage next : Nat}
    {task : Task} {events : List Event}
    (h : Course steps stage task next events) :
    ∀ out : PipelineOutput, task.drive steps out = out ++ output events := by
  induction h with
  | dropped hd =>
      intro out
      rw [Task.drive, drive_dropped hd, output_singleton, Event.output]
  | emitted hd =>
      intro out
      rw [Task.drive, drive_nil hd, PipelineOutput.emit_eq_append,
        output_singleton, Event.output]
  | failed hd he =>
      intro out
      rw [Task.drive, drive_error hd he, PipelineOutput.fail_eq_append,
        output_called, output_singleton, Event.output]
  | visited hd ha _ _ ihf iho =>
      intro out
      rw [Task.drive, drive_ok hd ha, output_called, output_append,
        ← PipelineOutput.append_assoc, ← ihf, ← iho]
      rfl
  | none =>
      intro out
      exact (PipelineOutput.append_empty out).symm
  | arrival _ _ ih₁ ih₂ =>
      intro out
      rw [Task.drive, List.foldl_cons, output_entered, output_append,
        ← PipelineOutput.append_assoc, ← ih₁, ← ih₂]
      rfl

/-- The output of a traversal is what its history shows. -/
theorem output_history (steps : List PipelineStep) (r : Record) :
    output (history steps r) = traverse steps r := by
  have h := (history_course steps r).drive_eq .empty
  rw [PipelineOutput.empty_append] at h
  exact h.symm

end Intake.Traversal
