/-
A run in small steps, with any number of workers.

`drain` handles one record after the other. In a pool the sources publish
into a bounded queue while workers take records out of it, each worker asks
the sink once at a time, and the requests of several workers interleave as
they like. `Step` has a rule for each thing that can happen next.

Three facts hold of every schedule. No record is lost or taken twice: those
begun, held, waiting and still to come are the published ones in order
(`Steps.begun`). Every step leaves less to do, and as long as something is
left there is a step (`Step.remaining_lt`, `exists_step`), so every schedule
can be completed (`Steps.completed`). And with one worker there is nothing to
choose: `settle`, the outcome of finishing the work in order, is the same
before and after every step, so every completed schedule ends as `drain`
does (`Steps.settled`).
-/
import Intake.Proofs.Delivery.Journal
import Intake.Proofs.Run.Tally
import Intake.Run.Basic
import Mathlib.Algebra.Ring.Nat
import Mathlib.Logic.Relation

namespace Intake

/-- What a worker has in hand: the records it still has to deliver, how often
the first of them may still be rejected, and the tally so far. -/
structure Job where
  waiting : List Record
  retries : Nat
  tally : Tally

/-- The parts of a run on their way. -/
structure Pool (τ : Type) where
  /-- records that the sources have yet to publish -/
  coming : List Record
  queue : PublishQueue
  /-- a record out of the queue that no worker has taken yet -/
  held : Option Record
  /-- records that a worker has taken, in order -/
  begun : List Record
  jobs : List Job
  sink : τ
  tally : Tally

variable {σ τ : Type} [Stage σ] [Sink τ]

-- ====================================================== jobs

namespace Job

/-- A worker begins with what the pipeline makes of a record. -/
def begin (environment : Environment) (p : Pipeline σ) (retries : Nat)
    (r : Record) : Job :=
  match p.process environment r with
  | .error e => ⟨[], retries, .ofFailure r.id r.runId e.message⟩
  | .ok output => ⟨output.records, retries, Run.tallyAll output.failures⟩

/-- The job after the sink answered for the first of its records. -/
def answered (job : Job) (retries : Nat) (r : Record) (rest : List Record) :
    Except Failure Unit → Job
  | .ok () => ⟨rest, retries, job.tally ++ .ofSuccess r.id r.runId⟩
  | .error e =>
    match job.retries with
    | 0 => ⟨rest, retries, job.tally ++ .ofFailure r.id r.runId e.message⟩
    | left + 1 => { job with retries := left }

/-- The number of steps that a job takes at most. -/
def remaining (retries : Nat) (job : Job) : Nat :=
  match job.waiting with
  | [] => 1
  | _ :: rest => 1 + (job.retries + 1) + rest.length * (retries + 1)

/-- The outcome of a job that is carried through at once. -/
def settle (retries : Nat) (sink : τ) (job : Job) : Handled τ :=
  match job.waiting with
  | [] => ⟨sink, job.tally⟩
  | r :: rest =>
    let delivery := Delivery.attempt sink r job.retries
    let tally := match delivery.result with
      | .ok () => Tally.ofSuccess r.id r.runId
      | .error reason => Tally.ofFailure r.id r.runId reason
    let others := Run.deliverAll retries delivery.sink rest
    ⟨others.sink, job.tally ++ (tally ++ others.tally)⟩

end Job

-- ====================================================== steps

namespace Pool

/-- A pool in front of sources that have not published anything. -/
def start (runId : String) (capacity : Nat) (sources : List SourceRun)
    (sink : τ) : Pool τ :=
  ⟨sources.flatMap SourceRun.records, .new runId capacity,
    none, [], [], sink, .empty⟩

variable (environment : Environment) (p : Pipeline σ) (workers retries : Nat)

/-- What can happen next in a pool of workers. -/
inductive Step : Pool τ → Pool τ → Prop
  | publish {s : Pool τ} {r : Record} {rest : List Record}
    {queue : PublishQueue}
      (hcoming : s.coming = r :: rest)
        (hqueue : s.queue.tryPublish r = (queue, .accepted)) :
      Step s { s with coming := rest, queue }
  | receive {s : Pool τ} {r : Record} {queue : PublishQueue}
      (hheld : s.held = none) (hqueue : s.queue.receive = (queue, some r)) :
      Step s { s with queue, held := some r }
  | take {s : Pool τ} {r : Record} (hheld : s.held = some r)
      (hroom : s.jobs.length < max workers 1) :
      Step s { s with
        held := none, begun := s.begun ++ [r],
        jobs := s.jobs ++ [Job.begin environment p retries r] }
  | deliver {s : Pool τ} {before after : List Job} {job : Job}
      {r : Record} {rest : List Record}
      (hjobs : s.jobs = before ++ job :: after)
        (hwaiting : job.waiting = r :: rest) :
      Step s { s with
        jobs := before ++ job.answered retries r rest
          (Sink.deliver s.sink r).result :: after,
        sink := (Sink.deliver s.sink r).state }
  | finish {s : Pool τ} {before after : List Job} {job : Job}
      (hjobs : s.jobs = before ++ job :: after) (hwaiting : job.waiting = []) :
      Step s { s with jobs := before ++ after, tally := s.tally ++ job.tally }

/-- Any number of steps. -/
def Steps : Pool τ → Pool τ → Prop :=
  Relation.ReflTransGen (Step environment p workers retries)

/-- Nothing is left to do. -/
structure Finished (s : Pool τ) : Prop where
  coming : s.coming = []
  waiting : s.queue.waiting = []
  held : s.held = none
  jobs : s.jobs = []

end Pool

-- ====================================================== the queue

namespace PublishQueue

/-- A record is accepted by an open queue with room for it. -/
theorem tryPublish_accepted {q q' : PublishQueue} {r : Record}
    (h : q.tryPublish r = (q', .accepted)) :
    q' = { q with
      waiting := q.waiting ++ [r.stamp q.runId]
      published := q.published + 1 } := by
  rw [tryPublish] at h
  split at h
  · cases h
  · split at h
    · cases h
    · cases h
      rfl

/-- What is received is the first of those that wait. -/
theorem receive_some {q q' : PublishQueue} {r : Record}
    (h : q.receive = (q', some r)) :
    q.waiting = r :: q'.waiting ∧ q' = { q with waiting := q'.waiting } := by
  rw [receive] at h
  split at h
  · cases h
  · next hwaiting =>
      cases h
      exact ⟨hwaiting, rfl⟩

end PublishQueue

namespace Pool

variable {environment : Environment} {p : Pipeline σ} {workers retries : Nat}
  {s t : Pool τ}

/-- The records of the run in order: begun, held, waiting and to come. -/
def order (s : Pool τ) : List Record :=
  s.begun ++ s.held.toList ++ s.queue.waiting
    ++ s.coming.map (Record.stamp s.queue.runId)

/-- What all steps keep. -/
structure Flow (s t : Pool τ) : Prop where
  order : t.order = s.order
  runId : t.queue.runId = s.queue.runId
  capacity : t.queue.capacity = s.queue.capacity
  isOpen : t.queue.isOpen = s.queue.isOpen
  published : t.queue.published + t.coming.length
    = s.queue.published + s.coming.length

omit [Sink τ] in
theorem Flow.refl (s : Pool τ) : Flow s s := ⟨rfl, rfl, rfl, rfl, rfl⟩

omit [Sink τ] in
theorem Flow.trans {u : Pool τ} (h : Flow s t) (h' : Flow t u) : Flow s u where
  order := h'.order.trans h.order
  runId := h'.runId.trans h.runId
  capacity := h'.capacity.trans h.capacity
  isOpen := h'.isOpen.trans h.isOpen
  published := h'.published.trans h.published

/-- Records move from one place to the next, and their order over all places
stays. -/
theorem Step.flow (h : Step environment p workers retries s t) : Flow s t := by
  cases h with
  | publish hcoming hqueue =>
      rw [PublishQueue.tryPublish_accepted hqueue]
      refine ⟨?_, rfl, rfl, rfl, ?_⟩
      · simp [order, hcoming]
      · rw [hcoming, List.length_cons]
        exact Nat.add_right_comm _ _ _
  | receive hheld hqueue =>
      obtain ⟨hwaiting, hq⟩ := PublishQueue.receive_some hqueue
      rw [hq]
      refine ⟨?_, rfl, rfl, rfl, rfl⟩
      simp [order, hheld, hwaiting]
  | take hheld hroom =>
      refine ⟨?_, rfl, rfl, rfl, rfl⟩
      simp [order, hheld]
  | deliver hjobs hwaiting => exact ⟨rfl, rfl, rfl, rfl, rfl⟩
  | finish hjobs hwaiting => exact ⟨rfl, rfl, rfl, rfl, rfl⟩

/-- The same along a whole schedule. -/
theorem Steps.flow (h : Steps environment p workers retries s t) :
    Flow s t := by
  induction h with
  | refl => exact .refl s
  | tail _ hstep ih => exact ih.trans hstep.flow

/-- In the end every published record was taken by a worker once, in order. -/
theorem Steps.begun {runId : String} {capacity : Nat}
    {sources : List SourceRun} {sink : τ}
    (h : Steps environment p workers retries
      (start runId capacity sources sink) s)
    (hs : Finished s) :
    s.begun = Run.published runId sources
      ∧ s.queue.published = (Run.published runId sources).length := by
  have hflow := h.flow
  have horder := hflow.order
  have hpublished := hflow.published
  rw [order, hs.held, hs.waiting, hs.coming] at horder
  rw [hs.coming] at hpublished
  constructor
  · simpa [order, start, Run.published, PublishQueue.new] using horder
  · simpa [start, Run.published, PublishQueue.new] using hpublished

end Pool

-- ====================================================== completion

/-- An answer leaves the job less to do. -/
theorem Job.answered_remaining {job : Job} {r : Record} {rest : List Record}
    (hwaiting : job.waiting = r :: rest) (retries : Nat)
    (answer : Except Failure Unit) :
    (job.answered retries r rest answer).remaining retries
      < job.remaining retries := by
  have hnext :
      ∀ tally, (Job.mk rest retries tally).remaining retries
        < job.remaining retries := by
    intro tally
    rw [remaining, remaining, hwaiting]
    cases rest with
    | nil => simp
    | cons r' rest' =>
        simp only [List.length_cons]
        rw [Nat.succ_mul]
        omega
  cases answer with
  | ok _ => exact hnext _
  | error e =>
      rw [answered]
      cases hretries : job.retries with
      | zero => exact hnext _
      | succ left =>
          simp only [remaining, hwaiting, hretries]
          omega

namespace Pool

/-- The number of steps that are left at most. -/
def remaining (environment : Environment) (p : Pipeline σ) (retries : Nat)
    (s : Pool τ) : Nat :=
  let cost (r : Record) : Nat :=
    (Job.begin environment p retries r).remaining retries
  (s.coming.map fun r => cost (r.stamp s.queue.runId) + 3).sum
    + (s.queue.waiting.map fun r => cost r + 2).sum
    + (s.held.toList.map fun r => cost r + 1).sum
    + (s.jobs.map (Job.remaining retries)).sum

variable {environment : Environment} {p : Pipeline σ} {workers retries : Nat}
  {s t : Pool τ}

/-- Every step leaves less to do: what moves on has one step fewer in front
of it. -/
theorem Step.remaining_lt (h : Step environment p workers retries s t) :
    t.remaining environment p retries < s.remaining environment p retries := by
  cases h with
  | publish hcoming hqueue =>
      rw [PublishQueue.tryPublish_accepted hqueue]
      simp only [remaining, hcoming, List.map_cons, List.sum_cons,
        List.map_append, List.sum_append, List.map_nil, List.sum_nil]
      omega
  | receive hheld hqueue =>
      obtain ⟨hwaiting, hq⟩ := PublishQueue.receive_some hqueue
      rw [hq]
      simp only [remaining, hheld, hwaiting, Option.toList_some,
        Option.toList_none, List.map_cons, List.sum_cons, List.map_nil,
        List.sum_nil]
      omega
  | take hheld hroom =>
      simp only [remaining, hheld, Option.toList_some, Option.toList_none,
        List.map_append, List.sum_append, List.map_cons, List.sum_cons,
        List.map_nil, List.sum_nil]
      omega
  | @deliver before after job r rest hjobs hwaiting =>
      have hless :=
        Job.answered_remaining hwaiting retries (Sink.deliver s.sink r).result
      simp only [remaining, hjobs, List.map_append, List.sum_append,
        List.map_cons, List.sum_cons]
      omega
  | @finish before after job hjobs hwaiting =>
      have hone : job.remaining retries = 1 := by rw [Job.remaining, hwaiting]
      simp only [remaining, hjobs, List.map_append, List.sum_append,
        List.map_cons, List.sum_cons, hone]
      omega

/-- A queue that is still read and has room for a record when it is empty. -/
def Ready (s : Pool τ) : Prop := s.queue.isOpen = true ∧ 0 < s.queue.capacity

omit [Sink τ] in
/-- No step closes the queue or changes its size. -/
theorem Flow.ready (h : Flow s t) (hs : Ready s) : Ready t := by
  rw [Ready, h.isOpen, h.capacity]
  exact hs

/-- As long as something is left to do there is a step. -/
theorem exists_step (environment : Environment) (p : Pipeline σ)
    (workers retries : Nat) (hready : Ready s) (h : ¬Finished s) :
    ∃ t, Step environment p workers retries s t := by
  cases hjobs : s.jobs with
  | cons job jobs =>
      have hsplit : s.jobs = [] ++ job :: jobs := hjobs
      cases hwaiting : job.waiting with
      | nil => exact ⟨_, .finish hsplit hwaiting⟩
      | cons r rest => exact ⟨_, .deliver hsplit hwaiting⟩
  | nil =>
      cases hheld : s.held with
      | some r =>
          refine ⟨_, .take hheld ?_⟩
          rw [hjobs]
          exact Nat.lt_of_lt_of_le Nat.zero_lt_one (Nat.le_max_right workers 1)
      | none =>
          cases hqueue : s.queue.waiting with
          | cons r rest =>
              have hreceive :
                  s.queue.receive
                    = ({ s.queue with waiting := rest }, some r) := by
                rw [PublishQueue.receive, hqueue]
              exact ⟨_, .receive hheld hreceive⟩
          | nil =>
              cases hcoming : s.coming with
              | nil => exact absurd ⟨hcoming, hqueue, hheld, hjobs⟩ h
              | cons r rest =>
                  have hroom : ¬s.queue.capacity ≤ s.queue.waiting.length := by
                    rw [hqueue]
                    exact Nat.not_le.mpr hready.2
                  have hpublish : s.queue.tryPublish r = ({ s.queue with
                      waiting := s.queue.waiting ++ [r.stamp s.queue.runId],
                      published := s.queue.published + 1 }, .accepted) := by
                    rw [PublishQueue.tryPublish, if_neg (by simp [hready.1]),
                      if_neg hroom]
                  exact ⟨_, .publish hcoming hpublish⟩

/-- Every schedule can be completed. -/
theorem exists_finished (environment : Environment) (p : Pipeline σ)
    (workers retries : Nat) (s : Pool τ) (hready : Ready s) :
    ∃ t, Steps environment p workers retries s t ∧ Finished t := by
  by_cases hs : Finished s
  · exact ⟨s, .refl, hs⟩
  · obtain ⟨t, hstep⟩ := exists_step environment p workers retries hready hs
    have hless := hstep.remaining_lt
    obtain ⟨u, hsteps, hu⟩ :=
      exists_finished environment p workers retries t (hstep.flow.ready hready)
    exact ⟨u, .head hstep hsteps, hu⟩
termination_by s.remaining environment p retries

omit [Sink τ] in
/-- A pool starts with an open queue that has room. -/
theorem start_ready (runId : String) (capacity : Nat)
    (sources : List SourceRun) (sink : τ) :
    Ready (start runId capacity sources sink) :=
  ⟨rfl, Nat.lt_of_lt_of_le Nat.zero_lt_one (Nat.le_max_right capacity 1)⟩

/-- However a run has been scheduled so far, it can be completed. -/
theorem Steps.completed {runId : String} {capacity : Nat}
    {sources : List SourceRun} {sink : τ}
    (h : Steps environment p workers retries
      (start runId capacity sources sink) s) :
    ∃ t, Steps environment p workers retries s t ∧ Finished t :=
  exists_finished environment p workers retries s
    (h.flow.ready (start_ready runId capacity sources sink))

end Pool

-- ====================================================== one worker

namespace Job

/-- A job at the start of a record delivers what waits. -/
theorem settle_fresh (waiting : List Record) (retries : Nat) (tally : Tally)
    (sink : τ) :
    (Job.mk waiting retries tally).settle retries sink
      = ⟨(Run.deliverAll retries sink waiting).sink,
        tally ++ (Run.deliverAll retries sink waiting).tally⟩ := by
  cases waiting with
  | nil =>
      rw [settle, Run.deliverAll]
      exact congrArg (Handled.mk sink) (Tally.append_empty tally).symm
  | cons r rest => rfl

/-- A job that has begun comes to what handling its record does. -/
theorem settle_begin (environment : Environment) (p : Pipeline σ)
    (retries : Nat) (sink : τ) (r : Record) :
    (begin environment p retries r).settle retries sink
      = Run.handle environment p retries sink r := by
  rw [begin, Run.handle]
  cases p.process environment r with
  | error e => rfl
  | ok output => exact settle_fresh output.records retries _ sink

/-- An answer leaves the outcome of a job as it was. -/
theorem settle_answered {job : Job} {r : Record} {rest : List Record}
    (hwaiting : job.waiting = r :: rest) (retries : Nat) (sink : τ) :
    (job.answered retries r rest (Sink.deliver sink r).result).settle retries
        (Sink.deliver sink r).state = job.settle retries sink := by
  obtain ⟨waiting, left, tally⟩ := job
  cases hwaiting
  rw [settle.eq_def retries sink]
  cases hanswer : (Sink.deliver sink r).result with
  | ok _ =>
      rw [answered, settle_fresh, Tally.append_assoc]
      simp only [Delivery.attempt_ok hanswer]
  | error e =>
      cases left with
      | zero =>
          show (Job.mk rest retries _).settle retries _ = _
          rw [settle_fresh, Tally.append_assoc]
          simp only [Delivery.attempt_last hanswer]
      | succ left =>
          simp only [Delivery.attempt_again hanswer]
          rfl

end Job

namespace Pool

/-- What is left of a run when its jobs are carried through and the rest is
handled in order. -/
def settle (environment : Environment) (p : Pipeline σ) (retries : Nat)
    (s : Pool τ) : Handled τ :=
  let job : Handled τ := match s.jobs with
    | [] => ⟨s.sink, .empty⟩
    | job :: _ => job.settle retries s.sink
  let others := Run.handleAll environment p retries job.sink
    (s.held.toList ++ s.queue.waiting
      ++ s.coming.map (Record.stamp s.queue.runId))
  ⟨others.sink, s.tally ++ (job.tally ++ others.tally)⟩

variable {environment : Environment} {p : Pipeline σ} {workers retries : Nat}
  {s t : Pool τ}

/-- One worker has one job at most. -/
theorem Step.single (h : Step environment p 1 retries s t)
    (hs : s.jobs.length ≤ 1) :
    t.jobs.length ≤ 1 := by
  cases h with
  | publish hcoming hqueue => exact hs
  | receive hheld hqueue => exact hs
  | take hheld hroom =>
      rw [List.length_append, List.length_singleton]
      exact hroom
  | deliver hjobs hwaiting =>
      rw [hjobs] at hs
      simpa using hs
  | finish hjobs hwaiting =>
      rw [hjobs] at hs
      simp only [List.length_append, List.length_cons] at hs ⊢
      omega

omit [Sink τ] in
/-- Where there is one job at most, the job that is there is the only one. -/
theorem only_job {before after : List Job} {job : Job}
    (h : s.jobs = before ++ job :: after) (hs : s.jobs.length ≤ 1) :
    before = [] ∧ after = [] := by
  rw [h, List.length_append, List.length_cons] at hs
  exact ⟨List.length_eq_zero_iff.mp (by omega),
    List.length_eq_zero_iff.mp (by omega)⟩

/-- With one worker the outcome is settled before every step. -/
theorem Step.settle (h : Step environment p 1 retries s t)
    (hs : s.jobs.length ≤ 1) :
    t.settle environment p retries = s.settle environment p retries := by
  cases h with
  | publish hcoming hqueue =>
      rw [PublishQueue.tryPublish_accepted hqueue]
      simp [Pool.settle, hcoming]
  | receive hheld hqueue =>
      obtain ⟨hwaiting, hq⟩ := PublishQueue.receive_some hqueue
      rw [hq]
      simp [Pool.settle, hheld, hwaiting]
  | @take r hheld hroom =>
      have hjobs : s.jobs = [] :=
        List.length_eq_zero_iff.mp (Nat.lt_one_iff.mp hroom)
      simp only [Pool.settle, hheld, hjobs, List.nil_append, Job.settle_begin,
        Option.toList_some, Option.toList_none, Run.handleAll,
        Tally.empty_append, List.cons_append]
  | @deliver before after job r rest hjobs hwaiting =>
      obtain ⟨rfl, rfl⟩ := only_job hjobs hs
      have hjob := Job.settle_answered hwaiting retries s.sink
      simp only [Pool.settle, hjobs, List.nil_append, hjob]
  | @finish before after job hjobs hwaiting =>
      obtain ⟨rfl, rfl⟩ := only_job hjobs hs
      have hjob : job.settle retries s.sink = ⟨s.sink, job.tally⟩ := by
        rw [Job.settle.eq_def, hwaiting]
      simp only [Pool.settle, hjobs, List.nil_append, hjob, Tally.empty_append,
        Tally.append_assoc]

/-- The same along a whole schedule. -/
theorem Steps.single (h : Steps environment p 1 retries s t)
    (hs : s.jobs.length ≤ 1) :
    t.jobs.length ≤ 1 := by
  induction h with
  | refl => exact hs
  | tail _ hstep ih => exact hstep.single ih

/-- The outcome that was settled at first is settled all along. -/
theorem Steps.settle (h : Steps environment p 1 retries s t)
    (hs : s.jobs.length ≤ 1) :
    t.settle environment p retries = s.settle environment p retries := by
  induction h with
  | refl => rfl
  | tail hsteps hstep ih =>
      exact (hstep.settle (Steps.single hsteps hs)).trans ih

/-- However one worker is scheduled, in the end it has done what draining the
sources does. -/
theorem Steps.settled {runId : String} {capacity : Nat}
    {sources : List SourceRun} {sink : τ}
    (h : Steps environment p 1 retries (start runId capacity sources sink) s)
    (hs : Finished s) :
    let handled :=
      Run.handleAll environment p retries sink (Run.published runId sources)
    s.sink = handled.sink ∧ s.tally = handled.tally := by
  have hsettle := h.settle (Nat.zero_le 1)
  simpa [Pool.settle, hs.jobs, hs.held, hs.waiting, hs.coming, start,
    PublishQueue.new, Run.published, Run.handleAll] using hsettle

end Pool

end Intake
