/-
The discipline of a traversal: which records steps are called on, and
when.

Three things are read off the history. No step is called on a record that
is dropped at that moment (`Course.live`), and no dropped record is
delivered (`Course.delivered`), whichever way it came to be dropped. The
records that enter are the input and what calls returned, each in front of
the step behind the one that returned it (`Course.entrances`). And the
events of one record, picked out of the history by its number, are its
entrance and its walk (`Course.passages`): calls by consecutive steps up
to one ending, whatever else the history tells in between.

The last one needs the numbers to be fresh: a task tells of its own record
and of records numbered from `next` on, and of no other
(`Course.numbered`). So a fan-out that runs in the middle of a way leaves
no event in the projection to that way.
-/
import Intake.Proofs.Traversal.History

namespace Intake.Traversal

variable {steps all : List PipelineStep} {stage next : Nat} {task : Task}
  {events : List Event}

-- ====================================================== live records only

mutual

/-- What surfaces of a child is not dropped. -/
theorem surface_live (runId : Option String) :
    ∀ r : Record, ∀ x ∈ Record.surface runId r, x.dropped = false
  | ⟨id, own, fields, children, dropped⟩ => by
      intro x hx
      cases dropped with
      | true =>
          rw [Record.surface, if_pos rfl] at hx
          exact surfaceAll_live _ children x hx
      | false =>
          rw [Record.surface, if_neg Bool.false_ne_true] at hx
          rw [List.mem_singleton.mp hx]

/-- What surfaces of several children is not dropped. -/
theorem surfaceAll_live (runId : Option String) :
    ∀ rs : List Record, ∀ x ∈ Record.surfaceAll runId rs, x.dropped = false
  | [] => by
      intro x hx
      rw [Record.surfaceAll] at hx
      cases hx
  | r :: rs => by
      intro x hx
      rw [Record.surfaceAll] at hx
      rcases List.mem_append.mp hx with hx | hx
      · exact surface_live runId r x hx
      · exact surfaceAll_live runId rs x hx

end

/-- Calls are made on live records. -/
theorem Course.live (h : Course steps stage task next events) :
    ∀ entry place r, Event.called entry place r ∈ events →
      r.dropped = false := by
  induction h with
  | dropped hd => intro entry place r hr; simp at hr
  | emitted hd => intro entry place r hr; simp at hr
  | failed hd he =>
      intro entry place r hr
      simp only [List.mem_cons, Event.called.injEq, List.not_mem_nil, or_false,
        reduceCtorEq] at hr
      rw [hr.2.2]
      exact hd
  | visited hd ha _ _ ihf iho =>
      intro entry place r hr
      rcases List.mem_cons.mp hr with heq | hr
      · cases heq
        exact hd
      · rcases List.mem_append.mp hr with hr | hr
        · exact ihf _ _ _ hr
        · exact iho _ _ _ hr
  | none => intro entry place r hr; cases hr
  | arrival _ _ ih₁ ih₂ =>
      intro entry place r hr
      rcases List.mem_cons.mp hr with heq | hr
      · cases heq
      · rcases List.mem_append.mp hr with hr | hr
        · exact ih₁ _ _ _ hr
        · exact ih₂ _ _ _ hr

/-- Deliveries are of live records. -/
theorem Course.delivered (h : Course steps stage task next events) :
    ∀ x ∈ (output events).records, x.dropped = false := by
  induction h with
  | dropped hd =>
      intro x hx
      rw [output_singleton] at hx
      exact surfaceAll_live _ _ x hx
  | emitted hd =>
      intro x hx
      rw [output_singleton] at hx
      rw [List.mem_singleton.mp hx]
      exact hd
  | failed hd he => intro x hx; cases hx
  | visited hd ha _ _ ihf iho =>
      intro x hx
      rw [output_called, output_append] at hx
      rcases List.mem_append.mp hx with hx | hx
      · exact ihf x hx
      · exact iho x hx
  | none => intro x hx; cases hx
  | arrival _ _ ih₁ ih₂ =>
      intro x hx
      rw [output_entered, output_append] at hx
      rcases List.mem_append.mp hx with hx | hx
      · exact ih₁ x hx
      · exact ih₂ x hx

-- ====================================================== who enters

/-- The records that a step returns for a record, in the run of the record
it leaves; a step that fails returns none. -/
def fanOut (step : PipelineStep) (r : Record) : List Record :=
  match (step.run r).result with
  | .ok added => produced (step.run r).state added
  | .error _ => []

/-- An entrance: the record and the place of the step in front of it. -/
def Event.entrance : Event → List (Nat × Record)
  | .entered _ first r => [(first, r)]
  | .called _ _ _ => []
  | .emitted _ _ => []
  | .failed _ _ => []
  | .dropped _ _ => []

/-- What a call returned, each record with the place behind that step. -/
def Event.returned (all : List PipelineStep) : Event → List (Nat × Record)
  | .entered _ _ _ => []
  | .called _ stage r =>
    (all[stage]?.toList.flatMap fun step => fanOut step r).map (stage + 1, ·)
  | .emitted _ _ => []
  | .failed _ _ => []
  | .dropped _ _ => []

/-- The records that enter, in order. -/
def entrances (h : List Event) : List (Nat × Record) :=
  h.flatMap Event.entrance

/-- The records that calls returned, in order of the calls. -/
def returned (all : List PipelineStep) (h : List Event) :
    List (Nat × Record) :=
  h.flatMap (Event.returned all)

/-- The records a task starts with that have not entered yet. -/
def Task.arriving (stage : Nat) : Task → List (Nat × Record)
  | .onward _ _ => []
  | .arrivals fs => fs.map (stage, ·)

theorem entrances_append (a b : List Event) :
    entrances (a ++ b) = entrances a ++ entrances b :=
  List.flatMap_append

theorem entrances_entered (entry first : Nat) (r : Record) (h : List Event) :
    entrances (.entered entry first r :: h) = (first, r) :: entrances h := rfl

theorem entrances_called (entry stage : Nat) (r : Record) (h : List Event) :
    entrances (.called entry stage r :: h) = entrances h := rfl

theorem returned_append (a b : List Event) :
    returned all (a ++ b) = returned all a ++ returned all b :=
  List.flatMap_append

theorem returned_entered (entry first : Nat) (r : Record) (h : List Event) :
    returned all (.entered entry first r :: h) = returned all h := rfl

/-- What a call returns enters behind its step. -/
theorem returned_called {step : PipelineStep} {rest : List PipelineStep}
    (hall : all.drop stage = step :: rest) (entry : Nat) (r : Record)
    (h : List Event) :
    returned all (.called entry stage r :: h)
      = (fanOut step r).map (stage + 1, ·) ++ returned all h := by
  rw [returned, List.flatMap_cons, Event.returned, getElem?_of_drop hall,
    Option.toList_some, List.flatMap_singleton]
  rfl

/-- A call that fails returns nothing. -/
theorem fanOut_error {step : PipelineStep} {r : Record} {e : StageError}
    (he : (step.run r).result = .error e) : fanOut step r = [] := by
  rw [fanOut]
  simp only [he]

/-- A call that goes through returns what its step produces. -/
theorem fanOut_ok {step : PipelineStep} {r : Record}
    {added : Option (List Record)} (ha : (step.run r).result = .ok added) :
    fanOut step r = produced (step.run r).state added := by
  rw [fanOut]
  simp only [ha]

/-- What enters during a task is what it starts with and what the calls in
it return. -/
theorem Course.entrances (h : Course steps stage task next events) :
    all.drop stage = steps →
      (entrances events).Perm
        (task.arriving stage ++ returned all events) := by
  induction h with
  | dropped hd => intro _; exact .nil
  | emitted hd => intro _; exact .nil
  | failed hd he =>
      intro hall
      rw [returned_called hall, fanOut_error he]
      exact .nil
  | visited hd ha _ _ ihf iho =>
      intro hall
      have hrest := drop_succ hall
      rw [returned_called hall, fanOut_ok ha, returned_append,
        entrances_called, entrances_append, Task.arriving, List.nil_append,
        ← List.append_assoc]
      exact (ihf hrest).append (iho hrest)
  | none => intro _; exact .nil
  | arrival _ _ ih₁ ih₂ =>
      intro hall
      rw [entrances_entered, entrances_append, returned_entered,
        returned_append, Task.arriving, List.map_cons, List.cons_append]
      refine .cons _ (((ih₁ hall).append (ih₂ hall)).trans ?_)
      exact List.perm_append_comm_assoc _ _ _

-- ====================================================== numbers

/-- The events of one record, in order. -/
def proj (entry : Nat) (h : List Event) : List Event :=
  h.filter fun x => x.entry == entry

theorem proj_append (entry : Nat) (a b : List Event) :
    proj entry (a ++ b) = proj entry a ++ proj entry b :=
  List.filter_append _ _

theorem proj_cons_self {entry : Nat} {x : Event} (hx : x.entry = entry)
    (h : List Event) : proj entry (x :: h) = x :: proj entry h :=
  List.filter_cons_of_pos (by simpa using hx)

theorem proj_cons_ne {entry : Nat} {x : Event} (hx : x.entry ≠ entry)
    (h : List Event) : proj entry (x :: h) = proj entry h :=
  List.filter_cons_of_neg (by simpa using hx)

/-- A piece of a history without the record leaves nothing of it. -/
theorem proj_eq_nil {entry : Nat} {h : List Event}
    (hne : ∀ x ∈ h, x.entry ≠ entry) : proj entry h = [] :=
  List.filter_eq_nil_iff.mpr fun x hx => by simpa using hne x hx

/-- The record that a task is about, if it is about one. -/
def Task.Owns (entry : Nat) : Task → Prop
  | .onward own _ => entry = own
  | .arrivals _ => False

/-- A task tells of its own record and of those it numbers. -/
theorem Course.numbered (h : Course steps stage task next events) :
    ∀ x ∈ events, task.Owns x.entry
      ∨ (next ≤ x.entry ∧ x.entry < next + entries events) := by
  induction h with
  | dropped hd =>
      intro x hx
      rw [List.mem_singleton.mp hx]
      exact Or.inl rfl
  | emitted hd =>
      intro x hx
      rw [List.mem_singleton.mp hx]
      exact Or.inl rfl
  | failed hd he =>
      intro x hx
      simp only [List.mem_cons, List.not_mem_nil, or_false] at hx
      rcases hx with rfl | rfl
      · exact Or.inl rfl
      · exact Or.inl rfl
  | visited hd ha _ _ ihf iho =>
      intro x hx
      simp only [entries_cons, entries_append]
      rcases List.mem_cons.mp hx with rfl | hx
      · exact Or.inl rfl
      · rcases List.mem_append.mp hx with hx | hx
        · rcases ihf x hx with hown | hin
          · cases hown
          · exact Or.inr (by omega)
        · rcases iho x hx with hown | hin
          · exact Or.inl hown
          · exact Or.inr (by omega)
  | none => intro x hx; cases hx
  | arrival _ _ ih₁ ih₂ =>
      intro x hx
      simp only [entries_cons, entries_append, Event.isEntrance, if_true]
      rcases List.mem_cons.mp hx with rfl | hx
      · simp only [Event.entry]
        exact Or.inr (by omega)
      · rcases List.mem_append.mp hx with hx | hx
        · rcases ih₁ x hx with hown | hin
          · exact Or.inr (by rw [hown]; omega)
          · exact Or.inr (by omega)
        · rcases ih₂ x hx with hown | hin
          · cases hown
          · exact Or.inr (by omega)

/-- Records that are about to enter are told of under new numbers only. -/
theorem Course.fresh {fs : List Record}
    (h : Course steps stage (.arrivals fs) next events) :
    ∀ x ∈ events, next ≤ x.entry ∧ x.entry < next + entries events := by
  intro x hx
  rcases h.numbered x hx with hno | hin
  · cases hno
  · exact hin

-- ====================================================== passages

/-- The call that a failed way ends with. -/
def Ending.calls : Ending → List (Nat × Record)
  | .survived _ => []
  | .dropped _ => []
  | .failed stage r _ => [(stage, r)]

/-- The last event of a record. -/
def Ending.event (entry : Nat) : Ending → Event
  | .survived r => .emitted entry r
  | .dropped r => .dropped entry r
  | .failed _ _ failure => .failed entry failure

/-- All calls on a way, with the places of the steps. -/
def Walk.calls (w : Walk) : List (Nat × Record) :=
  w.visits.map (fun v => (v.stage, v.record)) ++ w.ending.calls

/-- What is told of a way: its calls and its end. -/
def Walk.trace (entry : Nat) (w : Walk) : List Event :=
  w.calls.map (fun call => .called entry call.1 call.2)
    ++ [w.ending.event entry]

/-- The calls on a way are of consecutive steps. -/
theorem Walk.Sound.calls {w : Walk} {first : Nat} (hw : w.Sound all first) :
    w.calls.map Prod.fst = List.range' first w.calls.length := by
  have hvisits : (w.visits.map fun v => (v.stage, v.record)).map Prod.fst
      = List.range' first w.visits.length := by
    rw [List.map_map]
    exact hw.stages
  rw [Walk.calls, List.map_append, hvisits, List.length_append,
    List.length_map]
  cases hend : w.ending with
  | survived x => simp [Ending.calls]
  | dropped x => simp [Ending.calls]
  | failed stage x failure =>
      obtain ⟨-, hstage, -⟩ := hw.failed stage x failure hend
      rw [Ending.calls, List.map_singleton, List.length_singleton,
        List.range'_concat, hstage, Nat.one_mul]

/-- The record that a task is about goes its way alone. -/
def Task.Alone (steps : List PipelineStep) (stage : Nat)
    (events : List Event) :
    Task → Prop
  | .onward entry r =>
    proj entry events = (walk steps stage r).trace entry
  | .arrivals _ => True

/-- The events of one record are its entrance and its walk from there. -/
def Passage (all : List PipelineStep) (entry : Nat) (h : List Event) : Prop :=
  ∃ first r, first ≤ all.length
    ∧ proj entry h
      = .entered entry first r :: (walkFrom all first r).trace entry

/-- A number that only one of two pieces of a history can tell of. -/
theorem Passage.left {a b : List Event} {entry : Nat}
    (h : Passage all entry a) (hb : ∀ x ∈ b, x.entry ≠ entry) :
    Passage all entry (a ++ b) := by
  obtain ⟨first, r, hle, hproj⟩ := h
  refine ⟨first, r, hle, ?_⟩
  rw [proj_append, hproj, proj_eq_nil hb, List.append_nil]

/-- The same, if the first of the two pieces does not tell of the number. -/
theorem Passage.right {a b : List Event} {entry : Nat}
    (h : Passage all entry b) (ha : ∀ x ∈ a, x.entry ≠ entry) :
    Passage all entry (a ++ b) := by
  obtain ⟨first, r, hle, hproj⟩ := h
  refine ⟨first, r, hle, ?_⟩
  rw [proj_append, hproj, proj_eq_nil ha, List.nil_append]

/-- An event of another record in front does not matter. -/
theorem Passage.cons {x : Event} {h : List Event} {entry : Nat}
    (hp : Passage all entry h) (hx : x.entry ≠ entry) :
    Passage all entry (x :: h) := by
  obtain ⟨first, r, hle, hproj⟩ := hp
  exact ⟨first, r, hle, by rw [proj_cons_ne hx, hproj]⟩

/-- Two pieces of a history, split at a number: the first tells of nothing
from there on, and the second of nothing between the lowest number and
there. -/
theorem passages_append {a b : List Event} {low mid high : Nat}
    (ha : ∀ x ∈ a, x.entry < mid)
    (hb : ∀ x ∈ b, x.entry < low ∨ mid ≤ x.entry)
    (hin : ∀ entry, low ≤ entry → entry < mid → Passage all entry a)
    (hout : ∀ entry, mid ≤ entry → entry < high → Passage all entry b) :
    ∀ entry, low ≤ entry → entry < high → Passage all entry (a ++ b) := by
  intro entry hlow hhigh
  by_cases hsplit : entry < mid
  · refine (hin entry hlow hsplit).left fun x hx => ?_
    have := hb x hx
    omega
  · refine (hout entry (by omega) hhigh).right fun x hx => ?_
    have := ha x hx
    omega

/-- In front of a step there is room for it. -/
theorem lt_of_drop {step : PipelineStep} {rest : List PipelineStep}
    (hall : all.drop stage = step :: rest) : stage < all.length := by
  have hlen := congrArg List.length hall
  rw [List.length_drop, List.length_cons] at hlen
  omega

/-- In a task, its own record goes its way alone, and so does each record
that enters. -/
theorem Course.passages (h : Course steps stage task next events) :
    all.drop stage = steps → stage ≤ all.length →
      (∀ entry, task.Owns entry → entry < next) →
      task.Alone steps stage events
        ∧ ∀ entry, next ≤ entry → entry < next + entries events →
            Passage all entry events := by
  induction h with
  | @dropped steps stage entry r next hd =>
      intro _ _ _
      refine ⟨?_, fun e h₁ h₂ => ?_⟩
      · rw [Task.Alone, walk_dropped hd, proj_cons_self]
        · rfl
        · rfl
      · have hnone : entries [.dropped entry r] = 0 := rfl
        omega
  | @emitted stage entry r next hd =>
      intro _ _ _
      refine ⟨?_, fun e h₁ h₂ => ?_⟩
      · rw [Task.Alone, walk_nil hd, proj_cons_self]
        · rfl
        · rfl
      · have hnone : entries [.emitted entry r] = 0 := rfl
        omega
  | @failed step rest stage entry r next e hd he =>
      intro _ _ _
      refine ⟨?_, fun e' h₁ h₂ => ?_⟩
      · rw [Task.Alone, walk_error hd he, proj_cons_self, proj_cons_self]
        · rfl
        · rfl
        · rfl
      · have hnone : entries [.called entry stage r,
            .failed entry (step.failure (step.run r).state e)] = 0 := rfl
        omega
  | @visited step rest stage entry r next added before after hd ha fan onward
      ihf iho =>
      intro hall _ hown
      have hentry : entry < next := hown entry rfl
      have hlen := lt_of_drop hall
      obtain ⟨-, hin⟩ := ihf (drop_succ hall) hlen (by intro e he; cases he)
      obtain ⟨halone, hout⟩ := iho (drop_succ hall) hlen
        (by intro e he; cases he; omega)
      have hafter : ∀ x ∈ after,
          x.entry = entry ∨ next + entries before ≤ x.entry := by
        intro x hx
        rcases onward.numbered x hx with hself | hnew
        · exact Or.inl hself
        · exact Or.inr hnew.1
      refine ⟨?_, fun e h₁ h₂ => ?_⟩
      · -- the fan-out has numbers of its own and leaves no trace
        have hnone : proj entry before = [] := proj_eq_nil fun x hx => by
          have := fan.fresh x hx
          omega
        rw [Task.Alone] at halone ⊢
        rw [walk_ok hd ha, proj_cons_self, proj_append, hnone,
          List.nil_append, halone]
        · rfl
        · rfl
      · have hsum : entries (.called entry stage r :: (before ++ after))
            = entries before + entries after := by
          rw [entries_cons, entries_append]
          rfl
        refine Passage.cons ?_ (by show entry ≠ e; omega)
        refine passages_append (fun x hx => (fan.fresh x hx).2)
          (fun x hx => ?_) hin hout e h₁ (by omega)
        have := hafter x hx
        omega
  | none =>
      intro _ _ _
      refine ⟨trivial, fun e h₁ h₂ => ?_⟩
      rw [entries_nil] at h₂
      omega
  | @arrival steps stage f fs next before after first others ih₁ ih₂ =>
      intro hall hlen _
      obtain ⟨halone, hin⟩ := ih₁ hall hlen (by intro e he; cases he; omega)
      obtain ⟨-, hout⟩ := ih₂ hall hlen (by intro e he; cases he)
      have hbefore : ∀ x ∈ before,
          next ≤ x.entry ∧ x.entry < next + 1 + entries before := by
        intro x hx
        rcases first.numbered x hx with hself | hin
        · cases hself
          omega
        · omega
      refine ⟨trivial, fun e h₁ h₂ => ?_⟩
      have hsum : entries (.entered next stage f :: (before ++ after))
          = entries before + entries after + 1 := by
        rw [entries_cons, entries_append]
        rfl
      by_cases hself : e = next
      · -- the record that enters here
        subst hself
        have hnone : proj e after = [] := proj_eq_nil fun x hx => by
          have := others.fresh x hx
          omega
        refine ⟨stage, f, hlen, ?_⟩
        rw [Task.Alone] at halone
        rw [proj_cons_self, proj_append, halone, hnone, List.append_nil,
          walkFrom, hall]
        rfl
      · refine Passage.cons ?_ (by show next ≠ e; omega)
        exact passages_append (fun x hx => (hbefore x hx).2)
          (fun x hx => Or.inr (others.fresh x hx).1) hin hout e (by omega)
          (by omega)

-- ====================================================== no other calls

/-- Two lists of steps do the same in the calls that a history tells. -/
def Agree (all other : List PipelineStep) (h : List Event) : Prop :=
  ∀ entry stage r, Event.called entry stage r ∈ h →
    ∃ step step', all[stage]? = some step ∧ other[stage]? = some step'
      ∧ step'.name = step.name ∧ step'.run r = step.run r

/-- Lists of steps that agree on a history agree on its parts. -/
theorem Agree.mono {other : List PipelineStep} {a b : List Event}
    (h : Agree all other b) (hsub : ∀ x ∈ a, x ∈ b) : Agree all other a :=
  fun entry stage r hr => h entry stage r (hsub _ hr)

/-- The step that another list has in the place of a called one. -/
theorem Agree.step {other : List PipelineStep} {step : PipelineStep}
    {rest : List PipelineStep} {entry : Nat} {r : Record} {h : List Event}
    (hag : Agree all other (.called entry stage r :: h))
    (hall : all.drop stage = step :: rest) :
    ∃ step', other.drop stage = step' :: other.drop (stage + 1)
      ∧ step'.name = step.name ∧ step'.run r = step.run r := by
  obtain ⟨s, step', hs, hs', hname, hrun⟩ :=
    hag entry stage r List.mem_cons_self
  rw [getElem?_of_drop hall] at hs
  cases hs
  obtain ⟨hlt, hget⟩ := List.getElem?_eq_some_iff.mp hs'
  refine ⟨step', ?_, hname, hrun⟩
  rw [List.drop_eq_getElem_cons hlt, hget]

/-- Steps that do the same in the calls of a course have that course. -/
theorem Course.congr (h : Course steps stage task next events)
    {other : List PipelineStep} (hlen : other.length = all.length) :
    all.drop stage = steps → Agree all other events →
      Course (other.drop stage) stage task next events := by
  induction h with
  | dropped hd => intro _ _; exact .dropped hd
  | emitted hd =>
      intro hall _
      rw [List.drop_eq_nil_iff, ← hlen, ← List.drop_eq_nil_iff] at hall
      rw [hall]
      exact .emitted hd
  | @failed step rest stage entry r next e hd he =>
      intro hall hag
      obtain ⟨step', hdrop, hname, hrun⟩ := hag.step hall
      have hfail : step.failure (step.run r).state e
          = step'.failure (step'.run r).state e := by
        rw [hrun, PipelineStep.failure, PipelineStep.failure, hname]
      rw [hdrop, hfail]
      exact .failed hd (by rw [hrun, he])
  | @visited step rest stage entry r next added before after
      hd ha _ _ ihf iho =>
      intro hall hag
      obtain ⟨step', hdrop, hname, hrun⟩ := hag.step hall
      have hrest := drop_succ hall
      have hf := ihf hrest (hag.mono fun x hx =>
        List.mem_cons_of_mem _ (List.mem_append_left _ hx))
      have ho := iho hrest (hag.mono fun x hx =>
        List.mem_cons_of_mem _ (List.mem_append_right _ hx))
      rw [hdrop]
      rw [← hrun] at ha hf ho
      exact .visited hd ha hf ho
  | none => intro _ _; exact .none
  | arrival _ _ ih₁ ih₂ =>
      intro hall hag
      exact .arrival
        (ih₁ hall (hag.mono fun x hx =>
          List.mem_cons_of_mem _ (List.mem_append_left _ hx)))
        (ih₂ hall (hag.mono fun x hx =>
          List.mem_cons_of_mem _ (List.mem_append_right _ hx)))

/-- What comes of a record depends on nothing that steps would do in calls
which the history does not tell. -/
theorem traverse_congr {other : List PipelineStep} {r : Record}
    (hlen : other.length = all.length)
    (hag : Agree all other (history all r)) :
    traverse other r = traverse all r := by
  have h := (history_course all r).congr hlen rfl hag
  rw [List.drop_zero] at h
  have hout := h.drive_eq .empty
  rw [PipelineOutput.empty_append, output_history] at hout
  exact hout

-- ====================================================== the discipline

/-- What the history of a record in front of a list of steps keeps to. -/
structure Disciplined (all : List PipelineStep) (input : Record)
    (h : List Event) : Prop where
  /-- no step is called on a record that is dropped then -/
  live : ∀ entry stage r, Event.called entry stage r ∈ h → r.dropped = false
  /-- besides the input in front of the first step, what enters are the
  records that calls returned, each in front of the step behind -/
  entrances : (Traversal.entrances h).Perm ((0, input) :: returned all h)
  /-- the input goes its way from the first step -/
  input : proj 0 h = .entered 0 0 input :: (walkFrom all 0 input).trace 0
  /-- every record goes its way from where it enters: consecutive steps are
  called on it until it ends -/
  passages : ∀ entry < entries h, ∃ first r, first ≤ all.length
    ∧ proj entry h
      = .entered entry first r :: (walkFrom all first r).trace entry
    ∧ (walkFrom all first r).calls.map Prod.fst
      = List.range' first (walkFrom all first r).calls.length
    ∧ (walkFrom all first r).Sound all first

/-- Every history keeps to the discipline. -/
theorem history_disciplined (all : List PipelineStep) (r : Record) :
    Disciplined all r (history all r) where
  live := (history_course all r).live
  entrances := (history_course all r).entrances rfl
  input := by
    obtain ⟨events, he, hc⟩ := history_eq all r
    obtain ⟨halone, -⟩ := hc.passages (rfl : all.drop 0 = all)
      (Nat.zero_le _)
      (by intro entry hentry; cases hentry; exact Nat.one_pos)
    rw [Task.Alone] at halone
    rw [he, proj_cons_self, halone]
    · rfl
    · rfl
  passages := by
    intro entry hentry
    obtain ⟨-, hpass⟩ := (history_course all r).passages
      (rfl : all.drop 0 = all) (Nat.zero_le _) (by intro e he; cases he)
    obtain ⟨first, x, hle, hproj⟩ := hpass entry (Nat.zero_le _) (by omega)
    have hsound : (walkFrom all first x).Sound all first :=
      walk_sound all _ first x rfl
    exact ⟨first, x, hle, hproj, hsound.calls, hsound⟩

variable {σ : Type} [Stage σ]

/-- Whatever the stages do, a started pipeline delivers no dropped record,
calls no stage on one, and takes every record through consecutive stages
from where it enters until it ends. The history tells all calls: stages
that do the same in these give the same output. -/
theorem process_disciplined (environment : Environment) (p : Pipeline σ)
    (hp : p.phase = .started) (r : Record) :
    ∃ out, p.process environment r = .ok out
      ∧ out = output (history (p.steps environment) r)
      ∧ (∀ x ∈ out.records, x.dropped = false)
      ∧ Disciplined (p.steps environment) r
          (history (p.steps environment) r)
      ∧ ∀ other : List PipelineStep,
          other.length = (p.steps environment).length →
          Agree (p.steps environment) other
            (history (p.steps environment) r) →
          traverse other r = out := by
  refine ⟨_, process_started hp environment r, ?_, ?_, ?_, ?_⟩
  · exact (output_history _ r).symm
  · rw [← output_history]
    exact (history_course _ r).delivered
  · exact history_disciplined _ r
  · intro other hlen hag
    exact traverse_congr hlen hag

/-- In the sample three records enter, the parent and its two children. -/
theorem process_disciplined_family :
    sample.phase = .started
      ∧ (∃ out, sample.process still family = .ok out
          ∧ out = output (history (sample.steps still) family)
          ∧ (∀ x ∈ out.records, x.dropped = false)
          ∧ Disciplined (sample.steps still) family
              (history (sample.steps still) family))
      ∧ (entrances (history (sample.steps still) family)).map
          (fun c => (c.1, c.2.id)) = [(0, "a"), (1, "b"), (1, "d")] := by
  obtain ⟨out, hprocess, hout, hlive, hdisc, -⟩ :=
    process_disciplined still sample rfl family
  exact ⟨rfl, ⟨out, hprocess, hout, hlive, hdisc⟩, by decide⟩

end Intake.Traversal
