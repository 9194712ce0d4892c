/-
Which stages of a session are started again.

A pipeline that fails to start is as it was created, but the stages in front
of the one that failed have started. The next start begins with the first
stage again. `session_startsOnce_iff` says that a session starts no stage
twice if and only if no start is requested behind one that failed halfway.

The places of the stages that a turn starts run from the first stage on
(`turn_startPlaces`), so the turn itself starts none twice. A pipeline that has
left the created phase starts none any more (`session_startPlaces`), which
leaves the turns behind a start that failed: there the first start that is
requested meets the first stage (`session_starts_first`).
-/
import Intake.Proofs.Pipeline.Session

namespace Intake.Pipeline

variable {σ : Type}

-- ====================================================== starting again

/-- The place of the stage that a call starts. -/
def StageCall.startPlace : StageCall → Option Nat
  | .start place _ => some place
  | .process _ _ => none
  | .stop _ _ => none

/-- The second call starts a stage that the first has started. -/
def StageCall.Repeats (earlier later : StageCall) : Prop :=
  ∃ place answer, earlier = .start place (.ok ()) ∧ later = .start place answer

/-- No stage is started again once it has started. -/
def StartsOnce (turns : List (Turn σ)) : Prop :=
  (turns.flatMap fun t => t.calls).Pairwise fun earlier later =>
    ¬earlier.Repeats later

/-- The places of the stages that a turn starts, in order. -/
def Turn.startPlaces (t : Turn σ) : List Nat :=
  t.calls.filterMap StageCall.startPlace

/-- A start, whatever comes of it. -/
def Turn.Starting (t : Turn σ) : Prop :=
  ∃ environment, t.request = .start environment

/-- A start that failed behind a stage that had started. -/
structure Turn.Halfway (t : Turn σ) : Prop where
  failed : ∃ e, t.outcome.result = .error e
  began : ∃ place, .start place (.ok ()) ∈ t.calls

/-- Both calls of a repetition start the stage at one place. -/
theorem StageCall.Repeats.startPlace {earlier later : StageCall}
    (h : earlier.Repeats later) :
    ∃ place, earlier.startPlace = some place
      ∧ later.startPlace = some place := by
  obtain ⟨place, answer, rfl, rfl⟩ := h
  exact ⟨place, rfl, rfl⟩

/-- Calls that start stages at places of their own start none twice. -/
theorem not_repeats_of_nodup {calls : List StageCall}
    (h : (calls.filterMap StageCall.startPlace).Nodup) :
    calls.Pairwise fun earlier later => ¬earlier.Repeats later := by
  rw [List.Nodup, List.pairwise_filterMap] at h
  refine h.imp fun hplaces hrepeats => ?_
  obtain ⟨place, hearlier, hlater⟩ := hrepeats.startPlace
  exact hplaces place hearlier place hlater rfl

/-- A turn that starts no stage repeats none. -/
theorem Turn.not_repeats_of_startPlaces {t : Turn σ} (h : t.startPlaces = []) :
    ∀ earlier : StageCall, ∀ later ∈ t.calls, ¬earlier.Repeats later := by
  intro earlier later hlater hrepeats
  obtain ⟨place, -, hplace⟩ := hrepeats.startPlace
  rw [List.filterMap_eq_nil_iff.mp h later hlater] at hplace
  cases hplace

-- ====================================================== the calls of one turn

/-- Good starts go through the places one after the other. -/
theorem startPlaces_goodStarts (place count : Nat) :
    (goodStarts place count).filterMap StageCall.startPlace
      = List.range' place count := by
  rw [goodStarts, List.filterMap_map]
  exact List.filterMap_some

variable [Stage σ]

/-- Processing starts no stage. -/
theorem startPlaces_callOf (events : List Traversal.Event) :
    (events.filterMap callOf).filterMap StageCall.startPlace = [] := by
  rw [List.filterMap_filterMap, List.filterMap_eq_nil_iff]
  intro event _
  cases event with
  | called entry place r => rfl
  | _ => rfl

/-- Stopping starts no stage. -/
theorem startPlaces_stops (stages : List (σ × Nat)) :
    (stages.map fun x => StageCall.stop x.2 (Stage.stop x.1).result).filterMap
      StageCall.startPlace = [] := by
  rw [List.filterMap_map, List.filterMap_eq_nil_iff]
  intro x _
  rfl

/-- What is told in a turn is a step of the pipeline. -/
theorem turn_step (p : Pipeline σ) (q : Request) :
    ∃ told, Step p q told ∧ p.turn q = ⟨told, q, p⟩ := ⟨_, p.tell_step q, rfl⟩

/-- A turn starts stages from the first on, and only if it is a start that
met the pipeline as created. -/
theorem turn_startPlaces (p : Pipeline σ) (q : Request) :
    ∃ count, (p.turn q).startPlaces = List.range' 0 count
      ∧ (count ≠ 0 → (p.turn q).Starting ∧ p.phase = .created) := by
  obtain ⟨told, hstep, hturn⟩ := p.turn_step q
  rw [hturn, Turn.startPlaces]
  cases hstep with
  | started hphase _ =>
      exact ⟨_, startPlaces_goodStarts _ _, fun _ => ⟨⟨_, rfl⟩, hphase⟩⟩
  | @halted _ before _ _ _ hphase _ _ _ =>
      refine ⟨before.length + 1, ?_, fun _ => ⟨⟨_, rfl⟩, hphase⟩⟩
      rw [List.filterMap_append, startPlaces_goodStarts, List.range'_concat]
      simp [StageCall.startPlace]
  | processed _ => exact ⟨0, startPlaces_callOf _, fun h => absurd rfl h⟩
  | stopped _ => exact ⟨0, startPlaces_stops _, fun h => absurd rfl h⟩
  | refused _ _ => exact ⟨0, rfl, fun h => absurd rfl h⟩

/-- A turn starts no stage unless it is a start of a new pipeline. -/
theorem turn_startPlaces_eq_nil {p : Pipeline σ} {q : Request}
    (h : ¬(p.turn q).Starting ∨ p.phase ≠ .created) :
    (p.turn q).startPlaces = [] := by
  obtain ⟨count, hplaces, hcount⟩ := p.turn_startPlaces q
  have hzero : count = 0 := Decidable.of_not_not fun hne =>
    h.elim (fun hnot => hnot (hcount hne).1) fun hnot => hnot (hcount hne).2
  rw [hplaces, hzero]
  rfl

/-- A turn starts no stage twice. -/
theorem turn_not_repeats (p : Pipeline σ) (q : Request) :
    (p.turn q).calls.Pairwise fun earlier later => ¬earlier.Repeats later := by
  obtain ⟨count, hplaces, -⟩ := p.turn_startPlaces q
  refine not_repeats_of_nodup ?_
  rw [← Turn.startPlaces, hplaces]
  exact List.nodup_range'

-- ===================================================== the turns of a session

/-- A pipeline that is past its creation stays so. -/
theorem turn_phase_ne_created {p : Pipeline σ} (h : p.phase ≠ .created)
    (q : Request) :
    (p.turn q).outcome.state.phase ≠ .created := by
  obtain ⟨told, hstep, hturn⟩ := p.turn_step q
  rw [hturn]
  cases hstep with
  | started hphase _ => exact absurd hphase h
  | halted hphase _ _ _ => exact absurd hphase h
  | processed _ => exact h
  | stopped _ =>
      intro hcreated
      cases hcreated
  | refused _ _ => exact h

/-- A pipeline that is past its creation starts no stage. -/
theorem session_startPlaces {requests : List Request} :
    ∀ {p : Pipeline σ}, p.phase ≠ .created →
      ∀ u ∈ session p requests, u.startPlaces = [] := by
  induction requests with
  | nil => exact fun _ u hu => nomatch hu
  | cons q qs ih =>
      intro p h u hu
      rcases List.mem_cons.mp hu with rfl | hu
      · exact turn_startPlaces_eq_nil (.inr h)
      · exact ih (turn_phase_ne_created h q) u hu

/-- A start begins with the first stage. -/
theorem turn_starts_first {p : Pipeline σ} (h : p.phase = .created)
    (hstages : p.stages ≠ []) (environment : Environment) :
    ∃ answer, .start 0 answer ∈ (p.turn (.start environment)).calls := by
  obtain ⟨told, hstep, hturn⟩ := p.turn_step (.start environment)
  rw [hturn]
  cases hstep with
  | started _ _ =>
      cases hcase : p.stages with
      | nil => exact absurd hcase hstages
      | cons stage rest => exact ⟨.ok (), List.mem_cons_self⟩
  | @halted _ before _ _ e _ _ _ _ =>
      cases before with
      | nil => exact ⟨.error e, List.mem_cons_self⟩
      | cons stage rest => exact ⟨.ok (), List.mem_cons_self⟩
  | refused hphase _ => exact absurd h hphase

/-- A created pipeline is as it was after any request but a start. -/
theorem turn_state {p : Pipeline σ} {q : Request} (h : p.phase = .created)
    (hq : ¬(p.turn q).Starting) : (p.turn q).outcome.state = p := by
  have hdue : p.phase ≠ q.due := by
    rw [h]
    cases q with
    | start environment => exact absurd ⟨environment, rfl⟩ hq
    | process environment r => exact nofun
    | stop => exact nofun
  have hrefused : (p.turn q).Refused := Step.refuses (p.tell_step q) hdue
  obtain ⟨-, detail, hfail⟩ := hrefused
  rw [hfail]
  rfl

/-- The first start that a created pipeline is asked for begins with the first
stage; what is asked before it changes nothing. -/
theorem session_starts_first {requests : List Request} {p : Pipeline σ}
    (h : p.phase = .created) (hstages : p.stages ≠ [])
    (hstart : ∃ u ∈ session p requests, u.Starting) :
    ∃ u ∈ session p requests, ∃ answer, .start 0 answer ∈ u.calls := by
  induction requests with
  | nil =>
      obtain ⟨u, hu, -⟩ := hstart
      cases hu
  | cons q qs ih =>
      by_cases hq : (p.turn q).Starting
      · obtain ⟨environment, rfl⟩ : ∃ environment, q = .start environment := hq
        exact ⟨_, List.mem_cons_self, turn_starts_first h hstages environment⟩
      · rw [session, turn_state h hq] at hstart ⊢
        obtain ⟨u, hu, hstarting⟩ := hstart
        rcases List.mem_cons.mp hu with rfl | hu
        · exact absurd hstarting hq
        · obtain ⟨u, hu, hfirst⟩ := ih ⟨u, hu, hstarting⟩
          exact ⟨u, List.mem_cons_of_mem _ hu, hfirst⟩

/-- A turn of a session that is no start starts no stage. -/
theorem session_startPlaces_of_not_starting {requests : List Request} :
    ∀ {p : Pipeline σ}, ∀ u ∈ session p requests, ¬u.Starting
      → u.startPlaces = [] := by
  induction requests with
  | nil => exact fun u hu => nomatch hu
  | cons q qs ih =>
      intro p u hu hstarting
      rcases List.mem_cons.mp hu with rfl | hu
      · exact turn_startPlaces_eq_nil (.inl hstarting)
      · exact ih u hu hstarting

-- ====================================================== starting once

/-- A start that failed halfway has started the first stage and leaves the
pipeline as created. -/
theorem turn_halfway {p : Pipeline σ} {q : Request} (h : (p.turn q).Halfway) :
    .start 0 (.ok ()) ∈ (p.turn q).calls
      ∧ (p.turn q).outcome.state.phase = .created
      ∧ (p.turn q).outcome.state.stages ≠ [] := by
  obtain ⟨⟨e, hfailed⟩, place, hbegan⟩ := h
  have hplace : place ∈ (p.turn q).startPlaces :=
    List.mem_filterMap.mpr ⟨_, hbegan, rfl⟩
  obtain ⟨told, hstep, hturn⟩ := p.turn_step q
  rw [hturn] at hfailed hbegan ⊢
  cases hstep with
  | started _ _ => cases hfailed
  | @halted _ before _ _ _ hphase _ _ _ =>
      cases before with
      | nil => cases List.mem_singleton.mp hbegan
      | cons stage rest =>
          exact ⟨List.mem_cons_self, hphase, List.cons_ne_nil _ _⟩
  | processed _ => cases hfailed
  | stopped hphase =>
      have hpast : p.phase ≠ .created := by
        rw [hphase]
        decide
      rw [turn_startPlaces_eq_nil (.inr hpast)] at hplace
      cases hplace
  | refused _ _ => cases hbegan

/-- A start that did not fail halfway leaves the pipeline past its creation,
if it has started a stage at all. -/
theorem turn_begun {p : Pipeline σ} {q : Request} {place : Nat}
    (hbegan : .start place (.ok ()) ∈ (p.turn q).calls)
    (h : ¬(p.turn q).Halfway) :
    (p.turn q).outcome.state.phase ≠ .created := by
  obtain ⟨told, hstep, hturn⟩ := p.turn_step q
  rw [hturn] at hbegan h ⊢
  cases hstep with
  | started _ _ =>
      intro hcreated
      cases hcreated
  | halted _ _ _ _ => exact absurd ⟨⟨_, rfl⟩, place, hbegan⟩ h
  | processed hphase =>
      intro hcreated
      cases hphase.symm.trans hcreated
  | stopped _ =>
      intro hcreated
      cases hcreated
  | refused _ _ => cases hbegan

/-- Nothing behind a turn starts a stage again that the turn has started, if
and only if no start is requested behind a turn that failed halfway. -/
theorem turn_not_repeated_iff (p : Pipeline σ) (q : Request)
    (qs : List Request) :
    (∀ earlier ∈ (p.turn q).calls, ∀ u ∈ session (p.turn q).outcome.state qs,
        ∀ later ∈ u.calls, ¬earlier.Repeats later)
      ↔ ∀ u ∈ session (p.turn q).outcome.state qs, (p.turn q).Halfway
          → ¬u.Starting := by
  constructor
  · intro hrepeats u hu hhalfway hstarting
    obtain ⟨hfirst, hphase, hstages⟩ := turn_halfway hhalfway
    obtain ⟨u, hu, answer, hagain⟩ :=
      session_starts_first hphase hstages ⟨u, hu, hstarting⟩
    exact hrepeats _ hfirst u hu _ hagain ⟨0, answer, rfl, rfl⟩
  · intro hstarting earlier hearlier u hu later hlater hrepeats
    obtain ⟨place, answer, rfl, -⟩ := id hrepeats
    have hplaces : u.startPlaces = [] := by
      by_cases hhalfway : (p.turn q).Halfway
      · exact
          session_startPlaces_of_not_starting u hu (hstarting u hu hhalfway)
      · exact session_startPlaces (turn_begun hearlier hhalfway) u hu
    exact Turn.not_repeats_of_startPlaces hplaces _ later hlater hrepeats

/-- A session starts no stage twice if and only if no start is requested
behind a start that failed halfway. -/
theorem session_startsOnce_iff (name : String) (stages : List σ)
    (requests : List Request) :
    StartsOnce (session (new name stages) requests)
      ↔ (session (new name stages) requests).Pairwise fun t u => t.Halfway
          → ¬u.Starting := by
  generalize new name stages = p
  induction requests generalizing p with
  | nil => exact iff_of_true .nil .nil
  | cons q qs ih =>
      rw [StartsOnce, session, List.flatMap_cons, List.pairwise_append,
        List.pairwise_cons, ← turn_not_repeated_iff, ← ih]
      constructor
      · rintro ⟨-, hrest, hbehind⟩
        exact ⟨fun earlier hearlier u hu later hlater =>
          hbehind earlier hearlier later
            (List.mem_flatMap.mpr ⟨u, hu, hlater⟩), hrest⟩
      · rintro ⟨hbehind, hrest⟩
        refine ⟨p.turn_not_repeats q, hrest,
          fun earlier hearlier later hlater => ?_⟩
        obtain ⟨u, hu, hlater⟩ := List.mem_flatMap.mp hlater
        exact hbehind earlier hearlier u hu later hlater

/-- The inlet is started again when the line is started a second time, after
the bypass was stiff. -/
theorem not_session_startsOnce :
    ¬∀ (σ : Type) [Stage σ] (name : String) (stages : List σ)
      (requests : List Request),
      StartsOnce (session (new name stages) requests) := by
  intro h
  have honce : StartsOnce [jammed, opened] :=
    h Valve "line" valves [.start Traversal.still, .start Traversal.still]
  have hjammed : StageCall.start 0 (.ok ()) ∈ jammed.calls :=
    List.mem_cons_self
  have hopened : StageCall.start 0 (.ok ()) ∈ opened.calls :=
    List.mem_cons_self
  rw [StartsOnce, List.flatMap_cons, List.pairwise_append] at honce
  refine honce.2.2 _ hjammed _ ?_ ⟨0, .ok (), rfl, rfl⟩
  exact List.mem_flatMap.mpr ⟨opened, List.mem_cons_self, hopened⟩

end Intake.Pipeline
