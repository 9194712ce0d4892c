/-
One run, one run id.

What enters the pipeline of a run was stamped on its way through the queue
and is of the run, and what comes out of the pipeline is too, with everything
below it. `Safe` carries this through a pool, from the queue over the jobs to
the journal of the sink and the receipts, for any number of workers. What
draining the sources does is what a pool of one worker ends with, so a run
needs no argument of its own (`drain_safe`).
-/
import Intake.Proofs.Files.Append
import Intake.Proofs.Run.Accounting
import Intake.Proofs.Source.Runless
import Intake.Proofs.Text.Utf8

namespace Intake

variable {runId : String}

-- ====================================================== receipts

/-- Every receipt is of the run. -/
def Tally.InRun (runId : String) (t : Tally) : Prop :=
  ∀ receipt ∈ t.receipts, receipt.runId = runId

namespace Tally.InRun

theorem empty : InRun runId .empty := nofun

theorem append {a b : Tally} (ha : a.InRun runId) (hb : b.InRun runId) :
    (a ++ b).InRun runId :=
  fun receipt h => (List.mem_append.mp h).elim (ha receipt) (hb receipt)

/-- A record of the run that was delivered has a receipt of the run. -/
theorem ofSuccess {recordId : String} :
    InRun runId (.ofSuccess recordId (some runId)) :=
  fun _ h => List.mem_singleton.mp h ▸ rfl

/-- A record of the run that failed has a receipt of the run. -/
theorem ofFailure {recordId reason : String} :
    InRun runId (.ofFailure recordId (some runId) reason) :=
  fun _ h => List.mem_singleton.mp h ▸ rfl

/-- Failures on records of the run have receipts of the run. -/
theorem tallyAll {failures : List RecordFailure}
    (h : ∀ f ∈ failures, f.runId = some runId) :
    (Run.tallyAll failures).InRun runId := by
  induction failures with
  | nil => exact empty
  | cons f failures ih =>
      rw [List.forall_mem_cons] at h
      have hf : (Run.tallyOf f).InRun runId := by
        rw [Run.tallyOf, h.1]
        exact ofFailure
      exact hf.append (ih h.2)

end Tally.InRun

-- ====================================================== jobs

/-- What a worker has in hand is of the run. -/
structure Job.InRun (runId : String) (job : Job) : Prop where
  waiting : ∀ r ∈ job.waiting, r.InRun runId
  tally : job.tally.InRun runId

/-- A job on a record of the run is of the run. -/
theorem Job.InRun.begin {environment : Environment} {p : Pipeline CatalogStage}
    (hp : p.phase = .started) (retries : Nat) {r : Record}
    (hr : r.InRun runId) :
    (Job.begin environment p retries r).InRun runId := by
  have hcarries :=
    Traversal.traverse_carries
      (Traversal.inRun_invariant environment p runId) hr
  rw [Job.begin, Traversal.process_started hp]
  refine ⟨hcarries.records, .tallyAll fun f hf => ?_⟩
  obtain ⟨x, hx, -, hrunId⟩ := hcarries.failures f hf
  rw [hrunId, hx.own]

/-- It stays so whatever the sink answers. -/
theorem Job.InRun.answered {job : Job} {r : Record} {rest : List Record}
    (h : job.InRun runId) (hwaiting : job.waiting = r :: rest) (retries : Nat)
    (answer : Except Failure Unit) :
    (job.answered retries r rest answer).InRun runId := by
  have hall := h.waiting
  rw [hwaiting, List.forall_mem_cons] at hall
  cases answer with
  | ok _ =>
      rw [Job.answered, hall.1.own]
      exact ⟨hall.2, h.tally.append .ofSuccess⟩
  | error e =>
      rw [Job.answered]
      cases job.retries with
      | zero =>
          rw [hall.1.own]
          exact ⟨hall.2, h.tally.append .ofFailure⟩
      | succ left => exact ⟨h.waiting, h.tally⟩

-- ====================================================== pools

namespace Pool

variable {τ : Type} [Sink τ]

/-- Everything in a pool is of the run, or will be. -/
structure Safe (runId : String) (s : Pool (Journaled τ)) : Prop where
  coming : ∀ r ∈ s.coming, r.Runless
  queue : s.queue.runId = runId
  waiting : ∀ r ∈ s.queue.waiting, r.InRun runId
  held : ∀ r, s.held = some r → r.InRun runId
  jobs : ∀ job ∈ s.jobs, job.InRun runId
  journal : ∀ asked ∈ s.sink.journal, asked.record.InRun runId
  tally : s.tally.InRun runId

variable {environment : Environment} {p : Pipeline CatalogStage}
  {workers retries : Nat} {s t : Pool (Journaled τ)}

/-- No step takes in anything of another run: records enter by being stamped,
and what comes of them is of their run. -/
theorem Step.safe (hp : p.phase = .started)
    (h : Step environment p workers retries s t) (hs : Safe runId s) :
    Safe runId t := by
  cases h with
  | @publish r rest queue hcoming hqueue =>
      have hall := hs.coming
      rw [hcoming, List.forall_mem_cons] at hall
      rw [PublishQueue.tryPublish_accepted hqueue, hs.queue]
      refine
        { hs with coming := hall.2, queue := rfl, waiting := fun x hx => ?_ }
      rcases List.mem_append.mp hx with hx | hx
      · exact hs.waiting x hx
      · rw [List.mem_singleton.mp hx]
        exact hall.1.stamp runId
  | @receive r queue hheld hqueue =>
      obtain ⟨hwaiting, hq⟩ := PublishQueue.receive_some hqueue
      have hall := hs.waiting
      rw [hwaiting, List.forall_mem_cons] at hall
      rw [hq]
      exact { hs with
        waiting := hall.2
        held := fun x hx => Option.some.inj hx ▸ hall.1 }
  | @take r hheld hroom =>
      refine { hs with held := nofun, jobs := fun job hjob => ?_ }
      rcases List.mem_append.mp hjob with hjob | hjob
      · exact hs.jobs job hjob
      · rw [List.mem_singleton.mp hjob]
        exact .begin hp retries (hs.held r hheld)
  | @deliver before after job r rest hjobs hwaiting =>
      have hall := hs.jobs
      rw [hjobs, List.forall_mem_append, List.forall_mem_cons] at hall
      obtain ⟨hbefore, hjob, hafter⟩ := hall
      have hr : r.InRun runId := hjob.waiting r (hwaiting ▸ List.mem_cons_self)
      refine { hs with jobs := ?_, journal := fun asked hasked => ?_ }
      · rw [List.forall_mem_append, List.forall_mem_cons]
        exact ⟨hbefore, hjob.answered hwaiting retries _, hafter⟩
      · rcases List.mem_append.mp hasked with hasked | hasked
        · exact hs.journal asked hasked
        · rw [List.mem_singleton.mp hasked]
          exact hr
  | @finish before after job hjobs hwaiting =>
      have hall := hs.jobs
      rw [hjobs, List.forall_mem_append, List.forall_mem_cons] at hall
      obtain ⟨hbefore, hjob, hafter⟩ := hall
      refine { hs with jobs := ?_, tally := hs.tally.append hjob.tally }
      rw [List.forall_mem_append]
      exact ⟨hbefore, hafter⟩

/-- A pool over sources of records without a run is safe, however far it
got. -/
theorem Steps.safe (hp : p.phase = .started) {capacity : Nat}
    {sources : List SourceRun}
    (hsources : ∀ source ∈ sources, ∀ r ∈ source.records, r.Runless) {sink : τ}
    (h : Steps environment p workers retries
      (start runId capacity sources (Journaled.start sink)) s) :
    Safe runId s := by
  induction h with
  | refl =>
      refine ⟨fun r hr => ?_, rfl, nofun, nofun, nofun, nofun, .empty⟩
      obtain ⟨source, hsource, hr⟩ := List.mem_flatMap.mp hr
      exact hsources source hsource r hr
  | tail _ hstep ih => exact hstep.safe hp ih

end Pool

-- ====================================================== runs

namespace Run

variable {τ : Type} [Sink τ] (environment : Environment)
  {p : Pipeline CatalogStage}

/-- Draining sources of records without a run asks the sink for records of
the run only, and gives receipts of the run only. -/
theorem drain_safe (hp : p.phase = .started) {sources : List SourceRun}
    (hsources : ∀ source ∈ sources, ∀ r ∈ source.records, r.Runless)
    (runId : String) (retries : Nat) (sink : τ) :
    let drained :=
      drain environment runId sources p retries (Journaled.start sink)
    (∀ asked ∈ drained.1.journal, asked.record.InRun runId)
      ∧ drained.2.tally.InRun runId := by
  obtain ⟨s, hsteps, hfinished⟩ :=
    Pool.exists_finished environment p 1 retries _
    (Pool.start_ready runId 1 sources (Journaled.start sink))
  obtain ⟨-, -, -, -, -, hjournal, htally⟩ := hsteps.safe hp hsources
  obtain ⟨hsink, hsame⟩ := hsteps.settled hfinished
  rw [hsink] at hjournal
  rw [hsame] at htally
  exact ⟨hjournal, htally⟩

/-- What a run does to a journal it does by draining, and its summary, if
there is one, is that of draining. -/
theorem conduct_drain (hp : p.phase = .started) (runId : String)
    (sources : List SourceRun) (retries : Nat) (j : Journaled τ) :
    let after := conduct environment runId sources p retries j
    let drained := drain environment runId sources p retries j
    after.state.journal = drained.1.journal
      ∧ ∀ summary, after.result = .ok summary → summary = drained.2 := by
  generalize hdrained : drain environment runId sources p retries j = drained
  obtain ⟨left, told⟩ := drained
  intro after
  have hafter : after = ((Sink.close left).mapError
      (Failure.during "Failed to close indexer")).andThen fun sink _ =>
        .ok sink told := by
    show conduct environment runId sources p retries j = _
    rw [conduct, stopPipeline_ok hp, hdrained]
  rw [hafter, Outcome.andThen]
  split
  · exact ⟨rfl, fun summary h => (Except.ok.inj h).symm⟩
  · exact ⟨rfl, fun summary h => by cases h⟩

/-- A run fails before it has asked the sink for anything, or it is conducted
with the sources that were chosen. -/
theorem run_cases (runId : String) (config : Config)
    (sources : List Source) (choice : Option String) (sink : τ) :
    (∃ e, run environment runId config StageRegistry.catalog
      sources choice sink = .fail sink e)
      ∨ ∃ chosen p, Source.select sources choice = .ok chosen
        ∧ startPipeline environment config.pipeline StageRegistry.catalog
            = .ok p
        ∧ run environment runId config StageRegistry.catalog
            sources choice sink
          = conduct environment runId (chosen.map (Source.run environment)) p
              config.sink.maxRetries sink := by
  rw [run]
  cases Source.select sources choice with
  | error e => exact .inl ⟨e, rfl⟩
  | ok chosen =>
      cases startPipeline environment config.pipeline
        StageRegistry.catalog with
      | error e => exact .inl ⟨e, rfl⟩
      | ok p => exact .inr ⟨chosen, p, rfl, rfl, rfl⟩

/-- A run comes to the same with and without a journal. -/
theorem run_erase (runId : String) (config : Config)
    (sources : List Source) (choice : Option String) (j : Journaled τ) :
    (run environment runId config StageRegistry.catalog sources
      choice j).result
      = (run environment runId config StageRegistry.catalog
          sources choice j.sink).result := by
  rw [run, run]
  cases Source.select sources choice with
  | error e => rfl
  | ok chosen =>
      cases startPipeline environment config.pipeline
        StageRegistry.catalog with
      | error e => rfl
      | ok p =>
          exact conduct_erase environment runId _ p config.sink.maxRetries j

-- ====================================================== a stale file

/-- A line with a record whose descendants are in an old run. -/
def staleLine : String :=
  "\x7b\"id\":\"a\",\".children\":[\x7b\"id\":\"b\",\"run_id\":\"old\","
    ++ "\".children\":[\x7b\"id\":\"c\",\"run_id\":\"old\"\x7d]\x7d]\x7d"

/-- The record on it, with both descendants. -/
def staleRecord : Record :=
  (Record.new "a").addChild
    ((Record.withRunId "b" "old").addChild (Record.withRunId "c" "old"))

/-- There is one file, with that line. -/
def staleFile : Environment :=
  { Traversal.still with files := ⟨[(["f"], .file (Utf8.ofText staleLine))]⟩ }

/-- A configuration whose one stage drops the record `a`. -/
def dropConfig : Config where
  runner := {}
  pipeline :=
    { name := "drop",
      stages := [⟨[("type", .text "drop_record"), ("field", .text "id"),
        ("values", .array [.text "a"])]⟩] }
  sink := {}
  sources := {}

/-- Its pipeline, started. -/
def dropping : Pipeline CatalogStage where
  name := "drop"
  stages := [.dropRecord ⟨"drop_record", some ("id", ["a"])⟩]
  phase := .started

/-- The text of the file is one line, and the document on it is that of the
record. -/
theorem staleLine_document :
    JsonLinesSource.lines staleLine.toList = [staleLine.toList]
      ∧ Text.isBlank staleLine.toList = false
      ∧ Json.parse staleLine = some staleRecord.toJson := by
  have hchars : staleLine.toList = _ :=
    String.toList_append.trans
      (congrArg₂ (· ++ ·) String.toList_ofList String.toList_ofList)
  rw [Json.parse, hchars]
  exact ⟨by decide, by decide, rfl⟩

/-- The line is read, and the old run is gone. -/
theorem parseLine_stale :
    JsonLinesSource.parseLine "" staleLine = .ok staleRecord.withoutRuns := by
  have hrecord : Record.ofJsonWith (fun id => "" ++ id) staleRecord.toJson
      = .ok staleRecord := rfl
  rw [JsonLinesSource.parseLine, staleLine_document.2.2]
  dsimp only
  rw [hrecord]

/-- The source gives the one record of the file, without the old run. -/
theorem source_run_stale : Source.run staleFile (.jsonl "in" ⟨"f", ""⟩)
    = ⟨.ok (), ⟨[staleRecord.withoutRuns], .ok ()⟩, .ok ()⟩ := by
  obtain ⟨hlines, hblank, -⟩ := staleLine_document
  have hrecords : JsonLinesSource.records staleFile.files ⟨"f", ""⟩
      = .ok [staleRecord.withoutRuns] := by
    rw [JsonLinesSource.records, staleFile, FileTree.read_f]
    dsimp only [Except.toOption, Option.bind]
    rw [Utf8.ofText, Utf8.decode_encode]
    dsimp only
    rw [JsonLinesSource.recordsOf, hlines]
    simp [hblank, parseLine_stale, Except.toOption]
  rw [Source.run, JsonLinesSource.run, hrecords]
  rfl

/-- A run over the file with the dropping stage is conducted with that source
and that pipeline. -/
theorem run_stale {τ : Type} [Sink τ] (sink : τ) :
    run staleFile "first" dropConfig StageRegistry.catalog
      [.jsonl "in" ⟨"f", ""⟩] none sink
      = conduct staleFile "first"
          [⟨.ok (), ⟨[staleRecord.withoutRuns], .ok ()⟩, .ok ()⟩]
          dropping 3 sink := by
  rw [← source_run_stale]
  rfl

-- ================================================ the runs of a configuration

/-- A run over the configured sources, through whatever stages of the catalog
and into whatever sink, asks the sink for records of the run only, and gives
receipts of the run only; and so does a pool of any number of workers in any
schedule, however far it got. -/
theorem run_in_one_run (environment : Environment) (runId : String)
    (config : Config) (sources : List Source) (choice : Option String)
    (sink : τ) :
    (∀ asked ∈ (run environment runId config StageRegistry.catalog
      sources choice
        (Journaled.start sink)).state.journal, asked.record.InRun runId)
      ∧ (∀ summary,
          (run environment runId config StageRegistry.catalog
            sources choice sink).result
            = .ok summary →
          summary.runId = runId
            ∧ ∀ receipt ∈ summary.receipts, receipt.runId = runId)
      ∧ ∀ (chosen : List Source) (p : Pipeline CatalogStage),
          Source.select sources choice = .ok chosen →
          startPipeline environment config.pipeline StageRegistry.catalog
            = .ok p →
          ∀ (workers capacity : Nat) (s : Pool (Journaled τ)),
            Pool.Steps environment p workers config.sink.maxRetries
              (.start runId capacity (chosen.map (Source.run environment))
                (Journaled.start sink)) s →
            (∀ asked ∈ s.sink.journal, asked.record.InRun runId)
              ∧ ∀ receipt ∈ s.tally.receipts, receipt.runId = runId := by
  have hrunless :
      ∀ chosen : List Source, ∀ source ∈ chosen.map (Source.run environment),
        ∀ r ∈ source.records, r.Runless := by
    intro chosen source hsource r hr
    obtain ⟨source, -, rfl⟩ := List.mem_map.mp hsource
    exact Source.runless hr
  rw [← and_assoc]
  constructor
  · have herase :
        _ = (run environment runId config StageRegistry.catalog sources choice
          sink).result := run_erase environment runId config sources choice
          (Journaled.start sink)
    rw [← herase]
    rcases run_cases environment runId config sources choice
      (Journaled.start sink) with
      ⟨e, hrun⟩ | ⟨chosen, p, -, hp, hrun⟩
    · rw [hrun]
      exact ⟨nofun, nofun⟩
    · have hstarted := startPipeline_started hp
      obtain ⟨hasked, hreceipts⟩ := drain_safe environment hstarted
        (hrunless chosen) runId config.sink.maxRetries sink
      obtain ⟨hjournal, hsummary⟩ := conduct_drain environment hstarted runId
        (chosen.map (Source.run environment)) config.sink.maxRetries
          (Journaled.start sink)
      rw [hrun]
      refine ⟨hjournal ▸ hasked, fun summary hresult => ?_⟩
      rw [hsummary summary hresult]
      exact ⟨rfl, hreceipts⟩
  · intro chosen p _ hp workers capacity s hsteps
    have hsafe := hsteps.safe (startPipeline_started hp) (hrunless chosen)
    exact ⟨hsafe.journal, hsafe.tally⟩

/-- In the file `a` is dropped and `b` comes out in its place, in the new run,
with `c` in none. -/
theorem run_in_one_run_stale :
    (∃ journal, (run staleFile "first" dropConfig StageRegistry.catalog
          [.jsonl "in" ⟨"f", ""⟩] none
            (Journaled.start (PickySink.mk ""))).state.journal = journal
        ∧ (journal.map fun asked =>
            asked.record.tree.map fun x => (x.id, x.runId))
          = [[("b", some "first"), ("c", none)]]
        ∧ ∀ asked ∈ journal, asked.record.InRun "first")
      ∧ ∃ summary, (run staleFile "first" dropConfig StageRegistry.catalog
            [.jsonl "in" ⟨"f", ""⟩] none (PickySink.mk "")).result
              = .ok summary
          ∧ summary.receipts = [.succeeded "b" "first"]
          ∧ ∀ receipt ∈ summary.receipts, receipt.runId = "first" := by
  obtain ⟨hjournal, hsummary, -⟩ := run_in_one_run staleFile "first" dropConfig
    [.jsonl "in" ⟨"f", ""⟩] none (PickySink.mk "")
  rw [run_stale] at hjournal hsummary
  rw [run_stale, run_stale]
  exact ⟨⟨_, rfl, by decide +kernel, hjournal⟩, _, rfl,
    by decide +kernel, (hsummary _ rfl).2⟩

end Run

end Intake
