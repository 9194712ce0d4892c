/-
A pipeline in use: what it answers to a sequence of requests, and which calls
of its stages it makes for them.

The outcome of a request does not show which stages were called, so starting
and stopping are told again with their calls (`tellStart`, `tellStop`), and
`tell_outcome` says that nothing else was changed by telling more. The calls
of processing are those in the history of the traversal.

What one request can do is said once (`tell_step`): a request that is due in
the phase of the pipeline is carried out, and any other is refused without a
call. How the phase depends on the requests so far is `Tracks`, which every
turn preserves. `session_lifecycle` reads off what that means for the requests.
-/
import Intake.Pipeline.Lifecycle
import Intake.Proofs.Traversal.History

namespace Intake.Pipeline

variable {σ : Type}

-- ====================================================== calls

/-- A call of the stage at a given place. -/
inductive StageCall where
  | start (place : Nat) (answer : Except StageError Unit)
  | process (place : Nat) (r : Record)
  | stop (place : Nat) (answer : Except StageError Unit)

/-- An outcome with the calls that led to it. -/
structure Told (τ α : Type) where
  calls : List StageCall
  outcome : Outcome StageError τ α

-- ====================================================== requests

/-- What a pipeline can be asked to do. -/
inductive Request where
  | start (environment : Environment)
  | process (environment : Environment) (r : Record)
  | stop

/-- The phase in which a request is carried out. -/
def Request.due : Request → Phase
  | .start _ => .created
  | .process _ _ => .started
  | .stop => .started

-- ====================================================== turns

/-- A request, the pipeline that it met, and what came of it. -/
structure Turn (σ : Type) extends
    Told (Pipeline σ) (Option PipelineOutput) where
  request : Request
  found : Pipeline σ

namespace Turn

/-- A start that succeeded. -/
def Opens (t : Turn σ) : Prop :=
  (∃ environment, t.request = .start environment)
    ∧ ∃ answer, t.outcome.result = .ok answer

/-- An answer that the pipeline is in the wrong phase, without a call and
without a change. -/
def Refused (t : Turn σ) : Prop :=
  t.calls = []
    ∧ ∃ detail, t.outcome = .fail t.found (.lifecycle t.found.name detail)

/-- A turn that was refused has not succeeded. -/
theorem Refused.not_ok {t : Turn σ} (h : t.Refused) :
    ¬∃ answer, t.outcome.result = .ok answer := by
  rintro ⟨answer, hanswer⟩
  obtain ⟨-, detail, hfail⟩ := h
  rw [hfail] at hanswer
  cases hanswer

end Turn

/-- A stop was requested, successful or not. -/
def Stopped (turns : List (Turn σ)) : Prop := ∃ t ∈ turns, t.request = .stop

/-- A start succeeded, and what came after it is as `P` says. -/
def AfterOpening (P : List (Turn σ) → Prop) (before : List (Turn σ)) : Prop :=
  ∃ earlier t later, before = earlier ++ t :: later ∧ t.Opens ∧ P later

/-- A start succeeded, and no stop came after it. -/
def Open : List (Turn σ) → Prop := AfterOpening fun later => ¬Stopped later

/-- A start succeeded, and a stop came after it. -/
def Closed : List (Turn σ) → Prop := AfterOpening Stopped

/-- Some start succeeded, and what came after any that did is as `P` says. -/
structure SinceOpening (P : List (Turn σ) → Prop) (before : List (Turn σ)) :
    Prop where
  opened : ∃ t ∈ before, t.Opens
  later : ∀ earlier t later, before = earlier ++ t :: later → t.Opens → P later

/-- What a phase tells of the turns so far. -/
def Tracks (before : List (Turn σ)) : Phase → Prop
  | .created => ∀ t ∈ before, ¬t.Opens
  | .started => SinceOpening (fun later => ¬Stopped later) before
  | .stopped => SinceOpening Stopped before

section tracks

variable {before : List (Turn σ)} {t : Turn σ} {phase : Phase}
  {P Q : List (Turn σ) → Prop}

/-- A stop was requested before, or by the latest turn. -/
theorem stopped_concat :
    Stopped (before ++ [t]) ↔ Stopped before ∨ t.request = .stop := by
  simp [Stopped, or_and_right, exists_or]

/-- The last turn is a given one, or comes after it. -/
theorem concat_eq_split {earlier later : List (Turn σ)} {u : Turn σ}
    (h : before ++ [t] = earlier ++ u :: later) :
    (u = t ∧ later = [])
      ∨ ∃ rest, later = rest ++ [t] ∧ before = earlier ++ u :: rest := by
  rcases List.eq_nil_or_concat later with rfl | ⟨rest, v, rfl⟩
  · obtain ⟨-, hlast⟩ := List.append_inj' h rfl
    exact .inl ⟨(List.cons.inj hlast).1.symm, rfl⟩
  · rw [List.concat_eq_append, ← List.cons_append, ← List.append_assoc] at h
    obtain ⟨hbefore, hlast⟩ := List.append_inj' h rfl
    obtain rfl := (List.cons.inj hlast).1
    exact .inr ⟨rest, List.concat_eq_append, hbefore⟩

/-- What holds since every opening holds after one. -/
theorem SinceOpening.after (h : SinceOpening P before) :
    AfterOpening P before := by
  obtain ⟨t, ht, hopens⟩ := h.opened
  obtain ⟨earlier, later, rfl⟩ := List.append_of_mem ht
  exact ⟨earlier, t, later, rfl, hopens, h.later earlier t later rfl hopens⟩

/-- What came after the start that succeeded is not of two kinds. -/
theorem SinceOpening.not_after (h : SinceOpening P before)
    (hPQ : ∀ later, P later → ¬Q later) :
    ¬AfterOpening Q before := by
  rintro ⟨earlier, t, later, heq, hopens, hQ⟩
  exact hPQ later (h.later earlier t later heq hopens) hQ

/-- A turn that opens nothing goes to what came since the openings. -/
theorem SinceOpening.concat (h : SinceOpening P before) (ht : ¬t.Opens)
    (hPQ : ∀ later, P later → Q (later ++ [t])) :
    SinceOpening Q (before ++ [t]) := by
  obtain ⟨o, ho, hopens⟩ := h.opened
  refine
    ⟨⟨o, List.mem_append_left _ ho, hopens⟩, fun earlier u later heq hu => ?_⟩
  rcases concat_eq_split heq with ⟨rfl, -⟩ | ⟨rest, rfl, hbefore⟩
  · exact absurd hu ht
  · exact hPQ rest (h.later earlier u rest hbefore hu)

/-- The turn that opens a new pipeline starts it. -/
theorem Tracks.opened (h : Tracks before .created) (ht : t.Opens) :
    Tracks (before ++ [t]) .started := by
  refine ⟨⟨t, List.mem_append_right _ List.mem_cons_self, ht⟩,
    fun earlier u later heq hu => ?_⟩
  rcases concat_eq_split heq with ⟨-, rfl⟩ | ⟨rest, -, hbefore⟩
  · simp [Stopped]
  · have hmem : u ∈ before := by simp [hbefore]
    exact absurd hu (h u hmem)

/-- A stop of a started pipeline closes it. -/
theorem Tracks.closed (h : Tracks before .started) (ht : t.request = .stop) :
    Tracks (before ++ [t]) .stopped := by
  refine SinceOpening.concat h (fun hopens => ?_) fun later _ =>
    stopped_concat.mpr (.inr ht)
  obtain ⟨⟨environment, hstart⟩, -⟩ := hopens
  rw [ht] at hstart
  cases hstart

/-- A turn that opens nothing keeps the phase, unless it stops what runs. -/
theorem Tracks.kept (h : Tracks before phase) (ht : ¬t.Opens)
    (hstop : phase = .started → t.request ≠ .stop) :
    Tracks (before ++ [t]) phase := by
  cases phase with
  | created => exact List.forall_mem_append.mpr ⟨h, by simpa using ht⟩
  | started =>
      refine SinceOpening.concat h ht fun later hlater => ?_
      rw [stopped_concat]
      exact not_or_intro hlater (hstop rfl)
  | stopped =>
      exact SinceOpening.concat h ht fun later hlater =>
        stopped_concat.mpr (.inl hlater)

/-- Nothing has come after an opening while the pipeline is new. -/
theorem Tracks.not_after (h : Tracks before .created) :
    ¬AfterOpening P before := by
  rintro ⟨earlier, t, later, rfl, hopens, -⟩
  exact h t (by simp) hopens

/-- The pipeline is open just in the started phase. -/
theorem Tracks.open_iff (h : Tracks before phase) :
    Open before ↔ phase = .started := by
  cases phase with
  | created => exact iff_of_false h.not_after nofun
  | started => exact iff_of_true (SinceOpening.after h) rfl
  | stopped =>
      exact iff_of_false (SinceOpening.not_after h fun later => not_not_intro)
        nofun

/-- The pipeline is closed just in the stopped phase. -/
theorem Tracks.closed_iff (h : Tracks before phase) :
    Closed before ↔ phase = .stopped := by
  cases phase with
  | created => exact iff_of_false h.not_after nofun
  | started =>
      exact iff_of_false (SinceOpening.not_after h fun later => id) nofun
  | stopped => exact iff_of_true (SinceOpening.after h) rfl

end tracks

variable [Stage σ]

-- ====================================================== telling the calls

/-- Starts stages, the first of which stands at a given place, in order until
one fails. -/
def tellStart (environment : Environment) (place : Nat) :
    List σ → Told (List σ) Unit
  | [] => ⟨[], .ok [] ()⟩
  | stage :: rest =>
    let started := Stage.start environment stage
    let call := .start place started.result
    match started.result with
    | .error e => ⟨[call], .fail (started.state :: rest) e⟩
    | .ok () =>
      let others := tellStart environment (place + 1) rest
      ⟨call :: others.calls, others.outcome.within (started.state :: ·)⟩

/-- Stops stages, the first of which stands at a given place, in order. -/
def tellStop (place : Nat) : List σ → Told (List σ) Unit
  | [] => ⟨[], .ok [] ()⟩
  | stage :: rest =>
    let stopped := Stage.stop stage
    let others := tellStop (place + 1) rest
    ⟨.stop place stopped.result :: others.calls,
      ⟨stopped.state :: others.outcome.state,
        match stopped.result with
        | .error e => .error e
        | .ok () => others.outcome.result⟩⟩

/-- The call of the stage that an event of the history is, if it is one. -/
def callOf : Traversal.Event → Option StageCall
  | .called _ place r => some (.process place r)
  | _ => none

/-- Takes a record through the stages. -/
def tellProcess (environment : Environment) (p : Pipeline σ) (r : Record) :
    Told (Pipeline σ) PipelineOutput :=
  let history := Traversal.history (p.steps environment) r
  ⟨history.filterMap callOf, .ok p (Traversal.output history)⟩

/-- Telling the starts changes nothing of their outcome. -/
theorem tellStart_outcome (environment : Environment) (place : Nat)
    (stages : List σ) :
    (tellStart environment place stages).outcome
      = startAll environment stages := by
  induction stages generalizing place with
  | nil => rfl
  | cons stage rest ih =>
      rw [tellStart, startAll]
      cases hresult : (Stage.start environment stage).result with
      | error e => rfl
      | ok answer =>
          simp only
          rw [ih]

/-- Telling the stops changes nothing of their outcome. -/
theorem tellStop_outcome (place : Nat) (stages : List σ) :
    (tellStop place stages).outcome = stopAll stages := by
  induction stages generalizing place with
  | nil => rfl
  | cons stage rest ih =>
      cases hresult : (Stage.stop stage).result with
      | error e => simp only [tellStop, stopAll, hresult, ih]
      | ok answer => simp only [tellStop, stopAll, hresult, ih]

/-- What a pipeline answers to a request, and what it is afterwards. -/
def respond (p : Pipeline σ) :
    Request → Outcome StageError (Pipeline σ) (Option PipelineOutput)
  | .start environment =>
    let started := p.start environment
    ⟨started.state, started.result.map fun _ => none⟩
  | .process environment r => ⟨p, (p.process environment r).map some⟩
  | .stop =>
    let stopped := p.stop
    ⟨stopped.state, stopped.result.map fun _ => none⟩

/-- `respond` with the calls it makes. -/
def tell (p : Pipeline σ) : Request → Told (Pipeline σ) (Option PipelineOutput)
  | .start environment =>
    if p.phase = .created then
      let started := tellStart environment 0 p.stages
      match started.outcome.result with
      | .error e =>
          ⟨started.calls, .fail { p with stages := started.outcome.state } e⟩
      | .ok () =>
        ⟨started.calls,
          .ok { p with stages := started.outcome.state, phase := .started }
            none⟩
    else ⟨[], .fail p (.lifecycle p.name "pipeline already started")⟩
  | .process environment r =>
    if p.phase = .started then
      let processed := p.tellProcess environment r
      ⟨processed.calls,
        ⟨processed.outcome.state, processed.outcome.result.map some⟩⟩
    else
      ⟨[], .fail p
        (.lifecycle p.name "records can only be processed after start()")⟩
  | .stop =>
    if p.phase = .started then
      let stopped := tellStop 0 p.stages
      ⟨stopped.calls,
        ⟨{ p with stages := stopped.outcome.state, phase := .stopped },
          stopped.outcome.result.map fun _ => none⟩⟩
    else ⟨[], .fail p (.lifecycle p.name "pipeline is not running")⟩

/-- Telling the calls changes no answer and no pipeline. -/
theorem tell_outcome (p : Pipeline σ) (q : Request) :
    (p.tell q).outcome = p.respond q := by
  cases q with
  | start environment =>
      rw [tell, respond, start]
      split
      · simp only [tellStart_outcome]
        cases (startAll environment p.stages).result with
        | error e => rfl
        | ok answer => rfl
      · rfl
  | process environment r =>
      rw [tell, respond, process, tellProcess, Traversal.output_history]
      split
      · rfl
      · rfl
  | stop =>
      rw [tell, respond, stop]
      split
      · simp only [tellStop_outcome]
        rfl
      · rfl

-- ====================================================== starting and stopping

/-- The stage starts. -/
def Starts (environment : Environment) (stage : σ) : Prop :=
  (Stage.start environment stage).result = .ok ()

/-- The calls that start some number of stages, from a given place on. -/
def goodStarts (place count : Nat) : List StageCall :=
  (List.range' place count).map fun place => .start place (.ok ())

/-- What can come of starting stages: all of them start, or those in front of
one that does not. -/
inductive Starting (environment : Environment) (place : Nat) :
    List σ → Told (List σ) Unit → Prop where
  | all {stages : List σ} (h : ∀ stage ∈ stages, Starts environment stage) :
      Starting environment place stages
        ⟨goodStarts place stages.length,
          .ok (stages.map fun stage => (Stage.start environment stage).state)
            ()⟩
  | some (before : List σ) {after : List σ} {stage : σ} {e : StageError}
      (h : ∀ stage ∈ before, Starts environment stage)
      (he : (Stage.start environment stage).result = .error e) :
      Starting environment place (before ++ stage :: after)
        ⟨goodStarts place before.length
          ++ [.start (place + before.length) (.error e)],
          .fail ((before.map fun stage =>
            (Stage.start environment stage).state)
            ++ (Stage.start environment stage).state :: after) e⟩

/-- Starting stages comes to starting all of them, or those in front of one
that fails. -/
theorem tellStart_starting (environment : Environment) (place : Nat)
    (stages : List σ) :
    Starting environment place stages
      (tellStart environment place stages) := by
  induction stages generalizing place with
  | nil => exact .all nofun
  | cons stage rest ih =>
      rw [tellStart]
      cases hresult : (Stage.start environment stage).result with
      | error e => exact .some [] nofun hresult
      | ok answer =>
          have hrest := ih (place + 1)
          simp only
          generalize tellStart environment (place + 1) rest = told at hrest ⊢
          cases hrest with
          | all h => exact .all (List.forall_mem_cons.mpr ⟨hresult, h⟩)
          | some before h he =>
              have hplace :
                  place + 1 + before.length
                    = place + (stage :: before).length := by
                rw [List.length_cons]
                omega
              rw [hplace]
              exact .some (stage :: before)
                (List.forall_mem_cons.mpr ⟨hresult, h⟩) he

/-- The first failure among answers. -/
def firstFailure (answers : List (Except StageError Unit)) :
    Except StageError Unit :=
  (answers.find? fun answer => !answer.isOk).getD (.ok ())

/-- Stopping stages stops each of them, and the first failure is the answer. -/
theorem tellStop_eq (place : Nat) (stages : List σ) :
    tellStop place stages
      = ⟨(stages.zipIdx place).map fun x => .stop x.2 (Stage.stop x.1).result,
          stages.map fun stage => (Stage.stop stage).state,
          firstFailure (stages.map fun stage => (Stage.stop stage).result)⟩ :=
  by
  induction stages generalizing place with
  | nil => rfl
  | cons stage rest ih =>
      rw [tellStop, ih]
      cases hresult : (Stage.stop stage).result with
      | error e => simp [hresult, firstFailure, Except.isOk, Except.toBool]
      | ok answer => simp [hresult, firstFailure, Except.isOk, Except.toBool]

-- ====================================================== one request

/-- What can come of one request. -/
inductive Step (p : Pipeline σ) :
    Request → Told (Pipeline σ) (Option PipelineOutput) → Prop where
  | started {environment : Environment} (hphase : p.phase = .created)
      (h : ∀ stage ∈ p.stages, Starts environment stage) :
      Step p (.start environment)
        ⟨goodStarts 0 p.stages.length,
          .ok { p with
            stages := p.stages.map fun stage =>
              (Stage.start environment stage).state
            phase := .started } none⟩
  | halted {environment : Environment} {before after : List σ}
      {stage : σ} {e : StageError}
      (hphase : p.phase = .created)
        (hstages : p.stages = before ++ stage :: after)
      (h : ∀ stage ∈ before, Starts environment stage)
      (he : (Stage.start environment stage).result = .error e) :
      Step p (.start environment)
        ⟨goodStarts 0 before.length ++ [.start before.length (.error e)],
          .fail { p with
            stages :=
              (before.map fun stage => (Stage.start environment stage).state)
              ++ (Stage.start environment stage).state :: after } e⟩
  | processed {environment : Environment} {r : Record}
      (hphase : p.phase = .started) :
      Step p (.process environment r)
        ⟨(Traversal.history (p.steps environment) r).filterMap callOf,
          .ok p (some (traverse (p.steps environment) r))⟩
  | stopped (hphase : p.phase = .started) :
      Step p .stop
        ⟨p.stages.zipIdx.map fun x => .stop x.2 (Stage.stop x.1).result,
          { p with
            stages := p.stages.map fun stage => (Stage.stop stage).state
            phase := .stopped },
          (firstFailure
            (p.stages.map fun stage => (Stage.stop stage).result)).map fun _ =>
              none⟩
  | refused {q : Request} (hphase : p.phase ≠ q.due) (detail : String) :
      Step p q ⟨[], .fail p (.lifecycle p.name detail)⟩

/-- A request comes to one of the steps there are. -/
theorem tell_step (p : Pipeline σ) (q : Request) : Step p q (p.tell q) := by
  cases q with
  | start environment =>
      rw [tell]
      split
      · next hphase =>
        have hstart := tellStart_starting environment 0 p.stages
        generalize hstages : p.stages = stages at hstart
        generalize tellStart environment 0 stages = told at hstart
        cases hstart with
        | all h =>
            subst hstages
            exact .started hphase h
        | some before h he =>
            rw [Nat.zero_add]
            exact .halted hphase hstages h he
      · next hphase => exact .refused hphase _
  | process environment r =>
      rw [tell]
      split
      · next hphase =>
        rw [tellProcess, Traversal.output_history]
        exact .processed hphase
      · next hphase => exact .refused hphase _
  | stop =>
      rw [tell]
      split
      · next hphase =>
        rw [tellStop_eq]
        exact .stopped hphase
      · next hphase => exact .refused hphase _

-- ====================================================== sessions

/-- The turn that a pipeline takes at a request. -/
def turn (p : Pipeline σ) (q : Request) : Turn σ := ⟨p.tell q, q, p⟩

/-- The turns of a pipeline that is sent some requests in order. -/
def session (p : Pipeline σ) : List Request → List (Turn σ)
  | [] => []
  | q :: qs => p.turn q :: session (p.turn q).outcome.state qs

/-- A turn keeps the phase in step with the turns. -/
theorem Tracks.turn {before : List (Turn σ)} {p : Pipeline σ}
    (h : Tracks before p.phase) (q : Request) :
    Tracks (before ++ [p.turn q]) (p.turn q).outcome.state.phase := by
  have hstep := p.tell_step q
  rw [Pipeline.turn]
  generalize p.tell q = told at hstep ⊢
  cases hstep with
  | started hphase _ =>
      rw [hphase] at h
      exact h.opened ⟨⟨_, rfl⟩, _, rfl⟩
  | halted hphase _ _ _ =>
      refine Tracks.kept h (fun hopens => ?_) nofun
      obtain ⟨-, answer, hanswer⟩ := hopens
      cases hanswer
  | processed hphase =>
      refine Tracks.kept h (fun hopens => ?_) nofun
      obtain ⟨⟨environment, hstart⟩, -⟩ := hopens
      cases hstart
  | stopped hphase =>
      rw [hphase] at h
      exact h.closed rfl
  | refused hphase detail =>
      refine Tracks.kept h (fun hopens => ?_) fun hstarted hstop => ?_
      · obtain ⟨-, answer, hanswer⟩ := hopens
        cases hanswer
      · obtain rfl : q = .stop := hstop
        exact hphase hstarted

/-- No turn adds a stage or takes one away. -/
theorem turn_stages_length (p : Pipeline σ) (q : Request) :
    (p.turn q).outcome.state.stages.length = p.stages.length := by
  have hstep := p.tell_step q
  rw [turn]
  generalize p.tell q = told at hstep ⊢
  cases hstep with
  | started _ _ => exact List.length_map _
  | halted _ hstages _ _ => simp [Outcome.fail, hstages]
  | processed _ => rfl
  | stopped _ => exact List.length_map _
  | refused _ _ => rfl

section turns

variable {t : Turn σ}

/-- A request in the wrong phase is refused. -/
theorem Step.refuses (h : Step t.found t.request t.toTold)
    (hphase : t.found.phase ≠ t.request.due) : t.Refused := by
  obtain ⟨told, q, p⟩ := t
  replace h : Step p q told := h
  cases h with
  | started hcreated _ => exact absurd hcreated hphase
  | halted hcreated _ _ _ => exact absurd hcreated hphase
  | processed hstarted => exact absurd hstarted hphase
  | stopped hstarted => exact absurd hstarted hphase
  | refused _ detail => exact ⟨rfl, detail, rfl⟩

/-- A record in the started phase is taken through the stages. -/
theorem Step.processes {environment : Environment} {r : Record}
    (h : Step t.found t.request t.toTold)
    (hq : t.request = .process environment r)
    (hphase : t.found.phase = .started) :
    t.outcome.result
      = .ok (some (traverse (t.found.steps environment) r)) := by
  obtain ⟨told, q, p⟩ := t
  obtain rfl : q = .process environment r := hq
  replace h : Step p _ told := h
  cases h with
  | processed _ => rfl
  | refused hdue _ => exact absurd hphase hdue

/-- A start that succeeds has started every stage of a new pipeline, each with
one call. -/
theorem Step.starts {environment : Environment}
    (h : Step t.found t.request t.toTold) (hq : t.request = .start environment)
    (hok : ∃ answer, t.outcome.result = .ok answer) :
    t.found.phase = .created
      ∧ (∀ stage ∈ t.found.stages, Starts environment stage)
      ∧ t.calls = goodStarts 0 t.found.stages.length := by
  obtain ⟨told, q, p⟩ := t
  obtain rfl : q = .start environment := hq
  obtain ⟨answer, hanswer⟩ := hok
  replace h : Step p _ told := h
  cases h with
  | started hphase hstarts => exact ⟨hphase, hstarts, rfl⟩
  | halted _ _ _ _ => cases hanswer
  | refused _ _ => cases hanswer

/-- A stop in the started phase stops every stage, each with one call, and
answers with the first failure. -/
theorem Step.stops (h : Step t.found t.request t.toTold)
    (hq : t.request = .stop) (hphase : t.found.phase = .started) :
    t.calls = t.found.stages.zipIdx.map
      (fun x => .stop x.2 (Stage.stop x.1).result)
      ∧ t.outcome.result
        = (firstFailure
            (t.found.stages.map fun stage => (Stage.stop stage).result)).map
            fun _ => none := by
  obtain ⟨told, q, p⟩ := t
  obtain rfl : q = .stop := hq
  replace h : Step p _ told := h
  cases h with
  | stopped _ => exact ⟨rfl, rfl⟩
  | refused hdue _ => exact absurd hphase hdue

end turns

/-- Where a turn of a session stands. -/
theorem session_turn {requests : List Request} {before after : List (Turn σ)}
    {t : Turn σ} :
    ∀ {p : Pipeline σ} {earlier : List (Turn σ)},
      session p requests = before ++ t :: after → Tracks earlier p.phase →
        t = t.found.turn t.request ∧ t.found.stages.length = p.stages.length
          ∧ Tracks (earlier ++ before) t.found.phase := by
  induction before generalizing requests with
  | nil =>
      intro p earlier h htracks
      cases requests with
      | nil => cases h
      | cons q qs =>
          obtain ⟨rfl, -⟩ := List.cons.inj h
          rw [List.append_nil]
          exact ⟨rfl, rfl, htracks⟩
  | cons u before ih =>
      intro p earlier h htracks
      cases requests with
      | nil => cases h
      | cons q qs =>
          obtain ⟨rfl, hrest⟩ := List.cons.inj h
          obtain ⟨hturn, hlength, hphase⟩ := ih hrest (htracks.turn q)
          rw [List.append_assoc] at hphase
          exact ⟨hturn, hlength.trans (p.turn_stages_length q), hphase⟩

/-- The life of a pipeline, turn by turn. Records are taken exactly while it is
open. Only one start succeeds, and only if every stage starts. The stop that
follows stops every stage once, in order, and answers with the first failure.
From then on everything is refused. -/
theorem session_lifecycle {name : String} {stages : List σ}
    {requests : List Request} {before after : List (Turn σ)} {t : Turn σ}
    (h : session (new name stages) requests = before ++ t :: after) :
    (t.outcome = t.found.respond t.request
      ∧ t.found.stages.length = stages.length)
      ∧ (∀ environment r, t.request = .process environment r →
          ((∃ answer, t.outcome.result = .ok answer) ↔ Open before)
            ∧ (¬Open before → t.Refused))
      ∧ (∀ environment, t.request = .start environment →
          (∃ answer, t.outcome.result = .ok answer) →
          (∀ u ∈ before, ¬u.Opens)
            ∧ (∀ stage ∈ t.found.stages, Starts environment stage)
            ∧ t.calls = goodStarts 0 stages.length)
      ∧ (t.request = .stop → Open before →
          t.calls = t.found.stages.zipIdx.map
            (fun x => .stop x.2 (Stage.stop x.1).result)
            ∧ t.outcome.result
              = (firstFailure
                  (t.found.stages.map fun stage =>
                    (Stage.stop stage).result)).map
                  fun _ => none)
      ∧ (Closed before → t.Refused) := by
  have hcreated : Tracks ([] : List (Turn σ)) (new name stages).phase :=
    fun u hu => nomatch hu
  obtain ⟨hturn, hlength, htracks⟩ := session_turn h hcreated
  have hstep : Step t.found t.request t.toTold := by
    have htold : t.toTold = t.found.tell t.request :=
      congrArg Turn.toTold hturn
    rw [htold]
    exact t.found.tell_step t.request
  rw [List.nil_append] at htracks
  refine ⟨⟨?_, hlength⟩, fun environment r hq => ⟨?_, fun hopen => ?_⟩,
    fun environment hq hok => ?_, fun hq hopen => ?_, fun hclosed => ?_⟩
  · rw [← tell_outcome]
    exact congrArg (fun t => t.outcome) hturn
  · rw [htracks.open_iff]
    constructor
    · refine fun hok => Decidable.of_not_not fun hphase => ?_
      have hrefused : t.Refused := hstep.refuses (by rw [hq]; exact hphase)
      exact hrefused.not_ok hok
    · exact fun hphase => ⟨_, hstep.processes hq hphase⟩
  · rw [htracks.open_iff] at hopen
    exact hstep.refuses (by rw [hq]; exact hopen)
  · obtain ⟨hphase, hstarts, hcalls⟩ := hstep.starts hq hok
    rw [hphase] at htracks
    rw [hlength] at hcalls
    exact ⟨htracks, hstarts, hcalls⟩
  · exact hstep.stops hq (htracks.open_iff.mp hopen)
  · have hphase := htracks.closed_iff.mp hclosed
    refine hstep.refuses ?_
    rw [hphase]
    cases t.request with
    | start environment => exact nofun
    | process environment r => exact nofun
    | stop => exact nofun

-- ====================================================== valves

/-- A stage that starts after some attempts, and that may be stuck when it is
stopped. -/
structure Valve where
  name : String
  stiff : Nat
  stuck : Bool

instance : Stage Valve where
  name := Valve.name
  start _ valve := match valve.stiff with
    | 0 => .ok valve ()
    | stiff + 1 => .fail { valve with stiff } (.lifecycle valve.name "stiff")
  process _ _ r := .unchanged r
  stop valve :=
    if valve.stuck then .fail valve (.lifecycle valve.name "stuck")
    else .ok valve ()

/-- Three stages, of which one needs two attempts and the others are stuck when
they are stopped. -/
def valves : List Valve :=
  [⟨"inlet", 0, true⟩, ⟨"bypass", 1, false⟩, ⟨"outlet", 0, true⟩]

/-- A start that fails at the bypass, a start, a record, a stop, and a
start. -/
def usage : List Request :=
  [.start Traversal.still, .start Traversal.still,
    .process Traversal.still (.new "page"), .stop,
    .start Traversal.still]

/-- The start that fails at the bypass. -/
def jammed : Turn Valve := (new "line" valves).turn (.start Traversal.still)

/-- The start that succeeds. -/
def opened : Turn Valve := jammed.outcome.state.turn (.start Traversal.still)

/-- The turn that takes a record through. -/
def passed : Turn Valve :=
  opened.outcome.state.turn (.process Traversal.still (.new "page"))

/-- The stop, at which two stages are stuck. -/
def closed : Turn Valve := passed.outcome.state.turn .stop

/-- The start that comes too late. -/
def late : Turn Valve := closed.outcome.state.turn (.start Traversal.still)

/-- The second start opens the pipeline. -/
theorem opened_opens : opened.Opens := ⟨⟨Traversal.still, rfl⟩, none, rfl⟩

/-- A session in which every kind of turn is there. -/
theorem session_lifecycle_valves :
    session (new "line" valves) usage = [jammed, opened, passed, closed, late]
      ∧ opened.calls = goodStarts 0 3
      ∧ (∃ answer, passed.outcome.result = .ok answer)
      ∧ closed.calls
          = [.stop 0 (.error (.lifecycle "inlet" "stuck")), .stop 1 (.ok ()),
          .stop 2 (.error (.lifecycle "outlet" "stuck"))]
      ∧ closed.outcome.result = .error (.lifecycle "inlet" "stuck")
      ∧ late.Refused := by
  have hturns : session (new "line" valves) usage
    = [jammed, opened, passed, closed, late] := rfl
  have hopen : Open [jammed, opened] :=
    ⟨[jammed], opened, [], rfl, opened_opens, by simp [Stopped]⟩
  have hstill : Open [jammed, opened, passed] :=
    ⟨[jammed], opened, [passed], rfl, opened_opens,
      by simp [Stopped, passed, turn]⟩
  have hclosed : Closed [jammed, opened, passed, closed] :=
    ⟨[jammed], opened, [passed, closed], rfl, opened_opens,
      by simp [Stopped, closed, turn]⟩
  have hsecond : session (new "line" valves) usage = [jammed] ++ opened :: _ :=
    hturns
  have hthird : session (new "line" valves) usage
    = [jammed, opened] ++ passed :: _ := hturns
  have hfourth : session (new "line" valves) usage
      = [jammed, opened, passed] ++ closed :: _ := hturns
  have hfifth : session (new "line" valves) usage
      = [jammed, opened, passed, closed] ++ late :: _ := hturns
  obtain ⟨-, -, hstart, -, -⟩ := session_lifecycle hsecond
  obtain ⟨-, hprocess, -, -, -⟩ := session_lifecycle hthird
  obtain ⟨-, -, -, hstop, -⟩ := session_lifecycle hfourth
  obtain ⟨-, -, -, -, hafter⟩ := session_lifecycle hfifth
  obtain ⟨-, -, hstarts⟩ := hstart _ rfl opened_opens.2
  obtain ⟨hcalls, hanswer⟩ := hstop rfl hstill
  exact ⟨hturns, hstarts, (hprocess _ _ rfl).1.mpr hopen, hcalls,
    hanswer, hafter hclosed⟩

end Intake.Pipeline
