/-
The books of a run.

Every record that is published gets an account: the record, the stages that
failed on what came of it, and a dispatch for every record that came out.
Handling records writes their accounts one behind the other, into the
journal of the sink and into the tally alike (`handleAll_accounts`), so the
numbers of a summary are read off the accounts, and so are its receipts, as
long as every record that comes out is in a run.
-/
import Intake.Proofs.Run.Membership
import Intake.Proofs.Run.Pool

namespace Intake

-- ====================================================== accounts

namespace Dispatch

/-- What the dispatch adds to a tally. -/
def tally (d : Dispatch) : Tally :=
  match d.result with
  | .ok () => .ofSuccess d.record.id d.record.runId
  | .error reason => .ofFailure d.record.id d.record.runId reason

/-- The receipt of the dispatch, which takes a run to be written. -/
def receipt (d : Dispatch) : Option Receipt :=
  d.record.runId.map fun runId =>
    match d.result with
    | .ok () => .succeeded d.record.id runId
    | .error reason => .failed d.record.id runId reason

/-- A dispatch is acknowledged when its result is a success. -/
theorem acknowledged_iff (d : Dispatch) : d.acknowledged = d.result.isOk := by
  rw [acknowledged, result]
  cases d.answer with
  | ok _ => rfl
  | error e => rfl

/-- An acknowledged dispatch counts as delivered, and only such a one. -/
theorem tally_delivered (d : Dispatch) :
    d.tally.delivered = if d.acknowledged then 1 else 0 := by
  rw [tally, acknowledged_iff]
  cases d.result with
  | ok _ => rfl
  | error reason => rfl

/-- A dispatch that was not acknowledged counts as failed. -/
theorem tally_failed (d : Dispatch) :
    d.tally.failed = if d.acknowledged then 0 else 1 := by
  rw [tally, acknowledged_iff]
  cases d.result with
  | ok _ => rfl
  | error reason => rfl

/-- The receipt of the dispatch is the one receipt it adds, if it is in a
run. -/
theorem tally_receipts (d : Dispatch) :
    d.tally.receipts = d.receipt.toList := by
  rw [tally, receipt]
  cases d.result with
  | ok _ => rfl
  | error reason => rfl

/-- What a dispatch adds has its receipt, if the record is in a run. -/
theorem tally_receipted {d : Dispatch} (h : d.record.runId.isSome = true) :
    d.tally.Receipted := by
  rw [tally]
  cases d.result with
  | ok _ => exact Tally.receipted_ofSuccess h
  | error reason => exact Tally.receipted_ofFailure h

end Dispatch

/-- The receipt of a record that a stage failed on. -/
def RecordFailure.receipt (f : RecordFailure) : Option Receipt :=
  f.runId.map fun runId =>
    .failed f.recordId runId ("stage " ++ f.stage ++ ": " ++ f.reason)

/-- What became of one record that was published. -/
structure Account where
  record : Record
  failures : List RecordFailure
  dispatches : List Dispatch

namespace Account

/-- What the pipeline made of the record. -/
def output (a : Account) : PipelineOutput :=
  ⟨a.dispatches.map Dispatch.record, a.failures⟩

/-- All that the sink was asked on behalf of the record. -/
def requests (a : Account) : List Asked :=
  a.dispatches.flatMap Dispatch.requests

/-- What the record adds to the tally of the run: its failures, then its
dispatches. -/
def tally (a : Account) : Tally :=
  Run.tallyAll a.failures ++ .concat (a.dispatches.map Dispatch.tally)

/-- The receipts of the record in the same order, as far as they can be
written. -/
def receipts (a : Account) : List (Option Receipt) :=
  a.failures.map RecordFailure.receipt ++ a.dispatches.map Dispatch.receipt

/-- The account is that of one pass through a pipeline, and no dispatch went
beyond the retries. -/
structure Sound {σ : Type} [Stage σ] (environment : Environment)
    (p : Pipeline σ) (retries : Nat) (a : Account) : Prop where
  processed : p.process environment a.record = .ok a.output
  settled : ∀ d ∈ a.dispatches, d.Settled retries

end Account

-- ====================================================== handling

namespace Run

variable {σ τ : Type} [Stage σ] [Sink τ]

/-- Delivering records writes a dispatch for each. -/
theorem deliverAll_dispatches (retries : Nat) (rs : List Record) :
    ∀ j : Journaled τ, ∃ ds : List Dispatch, ds.map Dispatch.record = rs
      ∧ (∀ d ∈ ds, d.Settled retries)
      ∧ (deliverAll retries j rs).sink.journal
          = j.journal ++ ds.flatMap Dispatch.requests
      ∧ (deliverAll retries j rs).tally = .concat (ds.map Dispatch.tally) := by
  induction rs with
  | nil => exact fun j => ⟨[], rfl, nofun, (List.append_nil _).symm, rfl⟩
  | cons r rs ih =>
      intro j
      obtain ⟨d, rfl, hsettled, hjournal, hresult⟩ :=
        Delivery.attempt_dispatch j r retries
      obtain ⟨ds, rfl, hall, hjournals, htally⟩ :=
        ih (Delivery.attempt j d.record retries).sink
      refine ⟨d :: ds, rfl, List.forall_mem_cons.mpr ⟨hsettled, hall⟩, ?_, ?_⟩
      · show (deliverAll retries (Delivery.attempt j d.record retries).sink
          _).sink.journal = _
        rw [hjournals, hjournal, List.flatMap_cons, List.append_assoc]
      · rw [deliverAll.eq_def]
        simp only [hresult, htally]
        rfl

variable (environment : Environment) {p : Pipeline σ}

/-- Handling a record writes one account of it. -/
theorem handle_account (hp : p.phase = .started) (retries : Nat)
    (j : Journaled τ) (r : Record) :
    ∃ a : Account, a.record = r ∧ a.Sound environment p retries
      ∧ (handle environment p retries j r).sink.journal
          = j.journal ++ a.requests
      ∧ (handle environment p retries j r).tally = a.tally := by
  have hprocess := Traversal.process_started hp environment r
  obtain ⟨ds, hrecords, hsettled, hjournal, htally⟩ :=
    deliverAll_dispatches retries (traverse (p.steps environment) r).records j
  refine ⟨⟨r, (traverse (p.steps environment) r).failures, ds⟩,
    rfl, ⟨?_, hsettled⟩, ?_, ?_⟩
  · rw [hprocess, Account.output, hrecords]
  · rw [handle, hprocess]
    exact hjournal
  · rw [handle, hprocess, Account.tally, ← htally]

/-- Handling records writes their accounts in order. -/
theorem handleAll_accounts (hp : p.phase = .started) (retries : Nat)
    (rs : List Record) :
    ∀ j : Journaled τ, ∃ accounts : List Account, accounts.map Account.record
      = rs
      ∧ (∀ a ∈ accounts, a.Sound environment p retries)
      ∧ (handleAll environment p retries j rs).sink.journal
          = j.journal ++ accounts.flatMap Account.requests
      ∧ (handleAll environment p retries j rs).tally
          = .concat (accounts.map Account.tally) := by
  induction rs with
  | nil => exact fun j => ⟨[], rfl, nofun, (List.append_nil _).symm, rfl⟩
  | cons r rs ih =>
      intro j
      obtain ⟨a, rfl, hsound, hjournal, htally⟩ :=
        handle_account environment hp retries j r
      obtain ⟨accounts, rfl, hall, hjournals, htallies⟩ :=
        ih (handle environment p retries j a.record).sink
      refine
        ⟨a :: accounts, rfl, List.forall_mem_cons.mpr ⟨hsound, hall⟩, ?_, ?_⟩
      · rw [handleAll]
        dsimp only
        rw [hjournals, hjournal, List.flatMap_cons, List.append_assoc]
      · rw [handleAll]
        dsimp only
        rw [htallies, htally, List.map_cons, Tally.concat_cons]

end Run

-- ====================================================== reading the books

/-- The tally of failures is theirs one behind the other. -/
theorem Run.tallyAll_eq (failures : List RecordFailure) :
    tallyAll failures = .concat (failures.map tallyOf) :=
  List.foldr_map.symm

/-- Of some dispatches those that were acknowledged are delivered. -/
theorem Tally.delivered_dispatches (ds : List Dispatch) :
    (concat (ds.map Dispatch.tally)).delivered
      = ds.countP Dispatch.acknowledged := by
  induction ds with
  | nil => rfl
  | cons d ds ih =>
      rw [List.map_cons, concat_cons, delivered_append, ih, d.tally_delivered,
        List.countP_cons, Nat.add_comm]

/-- Of some dispatches those that were not acknowledged failed. -/
theorem Tally.failed_dispatches (ds : List Dispatch) :
    (concat (ds.map Dispatch.tally)).failed = ds.countP fun d =>
      !d.acknowledged := by
  induction ds with
  | nil => rfl
  | cons d ds ih =>
      rw [List.map_cons, concat_cons, failed_append, ih, d.tally_failed,
        List.countP_cons, Nat.add_comm]
      cases d.acknowledged with
      | true => rfl
      | false => rfl

/-- Failures of stages deliver nothing. -/
theorem Tally.delivered_failures (failures : List RecordFailure) :
    (Run.tallyAll failures).delivered = 0 := by
  induction failures with
  | nil => rfl
  | cons f failures ih => exact (Nat.zero_add _).trans ih

/-- Each failure of a stage counts as failed. -/
theorem Tally.failed_failures (failures : List RecordFailure) :
    (Run.tallyAll failures).failed = failures.length := by
  induction failures with
  | nil => rfl
  | cons f failures ih =>
      rw [List.length_cons, ← ih, Nat.add_comm]
      rfl

/-- What is always there need not be optional. -/
theorem map_some_flatMap {α : Type} {xs : List (Option α)}
    (h : ∀ x ∈ xs, x.isSome = true) :
    (xs.flatMap Option.toList).map some = xs := by
  induction xs with
  | nil => rfl
  | cons x xs ih =>
      rw [List.forall_mem_cons] at h
      obtain ⟨y, rfl⟩ := Option.isSome_iff_exists.mp h.1
      exact congrArg (some y :: ·) (ih h.2)

namespace Account

/-- Whatever came of the record is in a run. -/
structure Placed (a : Account) : Prop where
  failures : ∀ f ∈ a.failures, f.runId.isSome = true
  dispatches : ∀ d ∈ a.dispatches, d.record.runId.isSome = true

/-- What came of one record was delivered as often as it was acknowledged. -/
theorem tally_delivered (a : Account) :
    a.tally.delivered = a.dispatches.countP Dispatch.acknowledged := by
  rw [tally, Tally.delivered_append, Tally.delivered_failures,
    Tally.delivered_dispatches, Nat.zero_add]

/-- It failed as often as a stage failed on it or the sink refused it. -/
theorem tally_failed (a : Account) :
    a.tally.failed = a.failures.length + a.dispatches.countP fun d =>
      !d.acknowledged := by
  rw [tally, Tally.failed_append, Tally.failed_failures,
    Tally.failed_dispatches]

/-- The receipts in the tally of a record are its receipts. -/
theorem tally_receipts (a : Account) :
    a.tally.receipts = a.receipts.flatMap Option.toList := by
  rw [tally, receipts, Tally.receipts_append, Run.tallyAll_eq,
    Tally.receipts_concat, Tally.receipts_concat, List.flatMap_append,
    List.flatMap_map, List.flatMap_map, List.flatMap_map, List.flatMap_map]
  simp only [Dispatch.tally_receipts]
  rfl

/-- Every receipt of a record that is placed can be written. -/
theorem receipts_isSome {a : Account} (h : a.Placed) :
    ∀ receipt ∈ a.receipts, receipt.isSome = true := by
  intro receipt hreceipt
  rcases List.mem_append.mp hreceipt with hmem | hmem
  · obtain ⟨f, hf, rfl⟩ := List.mem_map.mp hmem
    rw [RecordFailure.receipt, Option.isSome_map]
    exact h.failures f hf
  · obtain ⟨d, hd, rfl⟩ := List.mem_map.mp hmem
    rw [Dispatch.receipt, Option.isSome_map]
    exact h.dispatches d hd

/-- What a placed record adds has its receipts. -/
theorem tally_receipted {a : Account} (h : a.Placed) : a.tally.Receipted := by
  rw [tally, Run.tallyAll_eq]
  refine .append (.concat fun t ht => ?_) (.concat fun t ht => ?_)
  · obtain ⟨f, hf, rfl⟩ := List.mem_map.mp ht
    exact Tally.receipted_ofFailure (h.failures f hf)
  · obtain ⟨d, hd, rfl⟩ := List.mem_map.mp ht
    exact Dispatch.tally_receipted (h.dispatches d hd)

/-- What the catalog's stages make of a record that is in a run is in a run. -/
theorem Sound.placed {environment : Environment} {p : Pipeline CatalogStage}
    {retries : Nat} {a : Account} (h : a.Sound environment p retries)
    (hp : p.phase = .started) (hrun : a.record.runId.isSome = true) :
    a.Placed := by
  have hprocessed := h.processed
  rw [Traversal.process_started hp] at hprocessed
  have hcarries :=
    Traversal.traverse_carries (Traversal.isSome_invariant environment p) hrun
  rw [Except.ok.inj hprocessed] at hcarries
  constructor
  · intro f hf
    obtain ⟨x, hx, -, hrunId⟩ := hcarries.failures f hf
    rw [hrunId]
    exact hx
  · intro d hd
    exact hcarries.records d.record (List.mem_map_of_mem hd)

end Account

-- ====================================================== all accounts

/-- All accounts together deliver what was acknowledged in any of them. -/
theorem Tally.delivered_accounts (accounts : List Account) :
    (concat (accounts.map Account.tally)).delivered
      = (accounts.flatMap Account.dispatches).countP
          Dispatch.acknowledged := by
  induction accounts with
  | nil => rfl
  | cons a accounts ih =>
      rw [List.map_cons, concat_cons, delivered_append, a.tally_delivered, ih,
        List.flatMap_cons, List.countP_append]

/-- All accounts together fail what failed in any of them. -/
theorem Tally.failed_accounts (accounts : List Account) :
    (concat (accounts.map Account.tally)).failed
      = (accounts.flatMap Account.failures).length
        + (accounts.flatMap Account.dispatches).countP fun d =>
            !d.acknowledged := by
  induction accounts with
  | nil => rfl
  | cons a accounts ih =>
      rw [List.map_cons, concat_cons, failed_append, a.tally_failed, ih,
        List.flatMap_cons, List.flatMap_cons, List.length_append,
        List.countP_append]
      exact Nat.add_add_add_comm _ _ _ _

/-- Their receipts are those of the accounts in order. -/
theorem Tally.receipts_accounts {accounts : List Account}
    (h : ∀ a ∈ accounts, a.Placed) :
    (concat (accounts.map Account.tally)).receipts.map some
      = accounts.flatMap Account.receipts := by
  rw [receipts_concat, List.flatMap_map]
  simp only [Account.tally_receipts]
  rw [← List.flatMap_assoc]
  refine map_some_flatMap fun receipt hreceipt => ?_
  obtain ⟨a, ha, hreceipt⟩ := List.mem_flatMap.mp hreceipt
  exact Account.receipts_isSome (h a ha) receipt hreceipt

/-- There is a receipt for every record they count. -/
theorem Tally.receipted_accounts {accounts : List Account}
    (h : ∀ a ∈ accounts, a.Placed) :
    Receipted (concat (accounts.map Account.tally)) := by
  refine .concat fun t ht => ?_
  obtain ⟨a, ha, rfl⟩ := List.mem_map.mp ht
  exact Account.tally_receipted (h a ha)

-- ==================================================== journals change nothing

namespace Run

section erasure

variable {σ τ : Type} [Stage σ] [Sink τ]

/-- The journal of a sink is written and not read, so deliveries go as without
it. -/
theorem deliverAll_erase (retries : Nat) (rs : List Record) :
    ∀ j : Journaled τ,
      (deliverAll retries j rs).sink.sink = (deliverAll retries j.sink rs).sink
        ∧ (deliverAll retries j rs).tally
            = (deliverAll retries j.sink rs).tally := by
  induction rs with
  | nil => exact fun j => ⟨rfl, rfl⟩
  | cons r rs ih =>
      intro j
      obtain ⟨hsink, hresult⟩ := Delivery.attempt_erase j r retries
      obtain ⟨hsinks, htally⟩ := ih (Delivery.attempt j r retries).sink
      rw [hsink] at hsinks htally
      rw [deliverAll.eq_def, deliverAll.eq_def retries j.sink]
      simp only [hresult, hsinks, htally]
      exact ⟨trivial, trivial⟩

/-- Handling a record comes to the same with and without a journal. -/
theorem handle_erase (environment : Environment) (p : Pipeline σ)
    (retries : Nat) (j : Journaled τ) (r : Record) :
    (handle environment p retries j r).sink.sink
        = (handle environment p retries j.sink r).sink
      ∧ (handle environment p retries j r).tally
        = (handle environment p retries j.sink r).tally := by
  rw [handle, handle]
  cases p.process environment r with
  | error e => exact ⟨rfl, rfl⟩
  | ok output =>
      obtain ⟨hsink, htally⟩ := deliverAll_erase retries output.records j
      exact ⟨hsink, congrArg (tallyAll output.failures ++ ·) htally⟩

/-- Handling many records comes to the same with and without a journal. -/
theorem handleAll_erase (environment : Environment) (p : Pipeline σ)
    (retries : Nat) (rs : List Record) :
    ∀ j : Journaled τ,
      (handleAll environment p retries j rs).sink.sink
          = (handleAll environment p retries j.sink rs).sink
        ∧ (handleAll environment p retries j rs).tally
          = (handleAll environment p retries j.sink rs).tally := by
  induction rs with
  | nil => exact fun j => ⟨rfl, rfl⟩
  | cons r rs ih =>
      intro j
      obtain ⟨hsink, htally⟩ := handle_erase environment p retries j r
      obtain ⟨hsinks, htallies⟩ := ih (handle environment p retries j r).sink
      rw [hsink] at hsinks htallies
      rw [handleAll, handleAll]
      dsimp only
      rw [htally, htallies]
      exact ⟨hsinks, rfl⟩

/-- Draining the sources of a run does, too. -/
theorem drain_erase (environment : Environment) (runId : String)
    (sources : List SourceRun) (p : Pipeline σ) (retries : Nat)
    (j : Journaled τ) :
    (drain environment runId sources p retries j).1.sink
        = (drain environment runId sources p retries j.sink).1
      ∧ (drain environment runId sources p retries j).2
        = (drain environment runId sources p retries j.sink).2 := by
  obtain ⟨hsink, htally⟩ :=
    handleAll_erase environment p retries (published runId sources) j
  rw [drain, drain]
  dsimp only
  rw [htally]
  exact ⟨hsink, rfl⟩

/-- A run comes to the same with and without a journal. -/
theorem conduct_erase (environment : Environment) (runId : String)
    (sources : List SourceRun) (p : Pipeline σ) (retries : Nat)
    (j : Journaled τ) :
    (conduct environment runId sources p retries j).result
      = (conduct environment runId sources p retries j.sink).result := by
  have herase := drain_erase environment runId sources p retries j
  rw [conduct, conduct]
  generalize drain environment runId sources p retries j = drained at herase
  generalize drain environment runId sources p retries j.sink = plain at herase
  obtain ⟨left, told⟩ := drained
  obtain ⟨sink, summary⟩ := plain
  obtain ⟨rfl, rfl⟩ := herase
  cases stopPipeline p with
  | error e => rfl
  | ok _ =>
      have hclose : (Sink.close left).result = (Sink.close left.sink).result :=
        rfl
      simp only [Outcome.andThen, Outcome.mapError, hclose]
      cases (Sink.close left.sink).result with
      | ok _ => rfl
      | error e => rfl

end erasure

-- ====================================================== starting and stopping

section lifecycle

variable {σ : Type} [Stage σ] {environment : Environment}

/-- A start that succeeds leaves the pipeline started. -/
theorem start_phase {p : Pipeline σ}
    (h : (p.start environment).result = .ok ()) :
    (p.start environment).state.phase = .started := by
  rw [Pipeline.start] at h ⊢
  by_cases hcreated : p.phase = .created
  · rw [if_pos hcreated] at h ⊢
    cases hstages : (Pipeline.startAll environment p.stages).result with
    | error e =>
        simp only [hstages] at h
        cases h
    | ok _ => simp only [hstages, Outcome.ok]
  · rw [if_neg hcreated] at h
    cases h

/-- A pipeline that was built and started for a run is in its started phase. -/
theorem startPipeline_started {config : PipelineConfig}
    {registry : StageRegistry σ} {p : Pipeline σ}
    (h : startPipeline environment config registry = .ok p) :
    p.phase = .started := by
  rw [startPipeline] at h
  split at h
  · cases h
  · next created hassemble =>
      dsimp only at h
      split at h
      · cases h
      · next hstart =>
          cases h
          exact start_phase hstart

/-- No stage of the catalog refuses to be stopped. -/
theorem CatalogStage.stop_result (stage : CatalogStage) :
    (Stage.stop stage).result = .ok () := by
  cases stage <;> rfl

/-- Stopping all stages of the catalog goes through. -/
theorem stopAll_result (stages : List CatalogStage) :
    (Pipeline.stopAll stages).result = .ok () := by
  induction stages with
  | nil => rfl
  | cons stage stages ih =>
      rw [Pipeline.stopAll]
      simp only [CatalogStage.stop_result, ih]

/-- A started pipeline of the catalog's stages can be stopped. -/
theorem stopPipeline_ok {p : Pipeline CatalogStage} (hp : p.phase = .started) :
    stopPipeline p = .ok () := by
  rw [stopPipeline, Pipeline.stop, if_pos hp]
  show (Pipeline.stopAll p.stages).result.mapError _ = _
  rw [stopAll_result]
  rfl

end lifecycle

-- ====================================================== runs

/-- How a summary accounts for what sources published. -/
structure Accounted {σ : Type} [Stage σ] (environment : Environment)
    (p : Pipeline σ) (retries : Nat) (runId : String)
    (sources : List SourceRun) (summary : RunSummary)
    (accounts : List Account) : Prop where
  run : summary.runId = runId
  published : summary.published = (sources.map fun s => s.records.length).sum
  sourceFailures : summary.sourceFailures = sources.countP SourceRun.failed
  /-- every published record has one account, and they come in order -/
  records : accounts.map Account.record = Run.published runId sources
  sound : ∀ a ∈ accounts, a.Sound environment p retries
  delivered : summary.tally.delivered
    = (accounts.flatMap Account.dispatches).countP Dispatch.acknowledged
  failed : summary.tally.failed = (accounts.flatMap Account.failures).length
    + (accounts.flatMap Account.dispatches).countP fun d => !d.acknowledged
  receipts : summary.receipts.map some = accounts.flatMap Account.receipts
  succeeded : summary.succeeded = summary.tally.delivered
  receiptFailures : summary.receiptFailures.length = summary.tally.failed
  receiptCount :
    summary.receipts.length = summary.tally.delivered + summary.tally.failed

section runs

variable {τ : Type} [Sink τ] (environment : Environment)
  {p : Pipeline CatalogStage}

/-- What is published is in the run. -/
theorem stamp_isSome (runId : String) (sources : List SourceRun) :
    ∀ r ∈ published runId sources, r.runId.isSome = true := by
  intro r hr
  obtain ⟨r, -, rfl⟩ := List.mem_map.mp hr
  rfl

/-- Draining sources accounts for all they published, and the journal holds
the requests of the accounts. -/
theorem drain_accounted (hp : p.phase = .started) (runId : String)
    (sources : List SourceRun) (retries : Nat) (j : Journaled τ) :
    ∃ accounts,
      Accounted environment p retries runId sources
          (drain environment runId sources p retries j).2 accounts
        ∧ (drain environment runId sources p retries j).1.journal
          = j.journal ++ accounts.flatMap Account.requests := by
  obtain ⟨accounts, hrecords, hsound, hjournal, htally⟩ :=
    handleAll_accounts environment hp retries (published runId sources) j
  have hplaced : ∀ a ∈ accounts, a.Placed := by
    intro a ha
    refine (hsound a ha).placed hp (stamp_isSome runId sources a.record ?_)
    rw [← hrecords]
    exact List.mem_map_of_mem ha
  have hreceipted := Tally.receipted_accounts hplaced
  rw [← htally] at hreceipted
  refine ⟨accounts,
    ⟨rfl, ?_, List.countP_eq_length_filter.symm, hrecords, hsound, ?_, ?_, ?_,
    hreceipted.delivered, hreceipted.failed, hreceipted.length⟩, hjournal⟩
  · show (published runId sources).length = _
    rw [published, List.length_map, List.length_flatMap]
  · show (handleAll environment p retries j
      (published runId sources)).tally.delivered = _
    rw [htally, Tally.delivered_accounts]
  · show (handleAll environment p retries j
      (published runId sources)).tally.failed = _
    rw [htally, Tally.failed_accounts]
  · show (handleAll environment p retries j
      (published runId sources)).tally.receipts.map _ = _
    rw [htally, Tally.receipts_accounts hplaced]

/-- Conducting a run comes to draining, if nothing fails behind it. -/
theorem conduct_ok (hp : p.phase = .started)
    (hclose : ∀ sink : τ, (Sink.close sink).result = .ok ())
    (runId : String) (sources : List SourceRun) (retries : Nat) (sink : τ) :
    (conduct environment runId sources p retries sink).result
        = .ok (drain environment runId sources p retries sink).2
      ∧ (conduct environment runId sources p retries sink).state
        = (Sink.close
            (drain environment runId sources p retries sink).1).state := by
  rw [conduct, stopPipeline_ok hp]
  dsimp only
  rw [Outcome.andThen, Outcome.mapError, hclose]
  exact ⟨rfl, rfl⟩

/-- A run through a pipeline of the catalog's stages into a sink that can be
closed gives a summary, and accounts for every record that the sources
published. The requests to the sink are those of the accounts, and a pool of
one worker, with a queue of any capacity and in any schedule, takes the same
records and ends with the same tally and the same requests. -/
theorem conduct_accounted {config : PipelineConfig}
    (hp : startPipeline environment config StageRegistry.catalog = .ok p)
    (hclose : ∀ sink : τ, (Sink.close sink).result = .ok ())
    (runId : String) (sources : List SourceRun) (retries : Nat) (sink : τ) :
    ∃ summary accounts,
      (conduct environment runId sources p retries sink).result = .ok summary
        ∧ Accounted environment p retries runId sources summary accounts
        ∧ (conduct environment runId sources p retries
            (Journaled.start sink)).state.journal
          = accounts.flatMap Account.requests
        ∧ ∀ (capacity : Nat) (s : Pool (Journaled τ)),
            Pool.Steps environment p 1 retries
              (.start runId capacity sources (Journaled.start sink)) s →
            Pool.Finished s →
              s.begun = published runId sources
                ∧ s.queue.published = summary.published
                ∧ s.tally = summary.tally
                ∧ s.sink.journal = accounts.flatMap Account.requests := by
  have hstarted := startPipeline_started hp
  obtain ⟨accounts, haccounted, hjournal⟩ :=
    drain_accounted environment hstarted
    runId sources retries (Journaled.start sink)
  have hjournal :
    (drain environment runId sources p retries
      (Journaled.start sink)).1.journal
      = accounts.flatMap Account.requests := hjournal.trans (List.nil_append _)
  have hsummary :=
    (drain_erase environment runId sources p retries (Journaled.start sink)).2
  have hclosed : ∀ j : Journaled τ, (Sink.close j).result = .ok () :=
    fun j => hclose j.sink
  refine ⟨_, accounts,
    (conduct_ok environment hstarted hclose runId sources retries sink).1,
    hsummary ▸ haccounted, ?_, ?_⟩
  · rw [(conduct_ok environment hstarted hclosed runId sources retries
      (Journaled.start sink)).2]
    exact hjournal
  · intro capacity s hsteps hfinished
    obtain ⟨hbegun, hpublished⟩ := hsteps.begun hfinished
    obtain ⟨hsink, htally⟩ := hsteps.settled hfinished
    refine ⟨hbegun, hpublished,
      htally.trans (congrArg RunSummary.tally hsummary), ?_⟩
    rw [hsink]
    exact hjournal

end runs

/-- A sink that takes every record but those with a given id. -/
structure PickySink where
  refused : String

instance : Sink PickySink where
  name _ := "picky"
  deliver sink r :=
    if r.id = sink.refused then .fail sink (.told "refused") else .ok sink ()
  close sink := .ok sink ()

/-- The stages of the sample pipeline as options. -/
def sampleConfig : PipelineConfig where
  name := "sample"
  stages :=
    [⟨[("type", .text "emit_nested_children"), ("name", .text "emit")]⟩,
      ⟨[("type", .text "copy_fields"), ("name", .text "copy"),
        ("field_mapping", .object [("x", .text "id")])]⟩,
      ⟨[("type", .text "drop_record"), ("name", .text "drop"),
        ("field", .text "id"),
        ("values", .array [.text "d"])]⟩]

/-- A source that publishes the sample family and then fails, and one that is
not ready. -/
def familySources : List SourceRun :=
  [⟨.ok (), ⟨[Traversal.family], .error (.told "cut off")⟩, .ok ()⟩,
    ⟨.error (.told "not there"), ⟨[], .ok ()⟩, .ok ()⟩]

/-- Of the sample family `a` is delivered, `b` fails in a stage, and `e` is
refused twice. -/
theorem conduct_accounted_family :
    startPipeline Traversal.still sampleConfig StageRegistry.catalog
      = .ok Traversal.sample
      ∧ (∀ sink : PickySink, (Sink.close sink).result = .ok ())
      ∧ ∃ summary accounts,
          (conduct Traversal.still "first" familySources Traversal.sample 1
              (PickySink.mk "e")).result = .ok summary
            ∧ Accounted Traversal.still Traversal.sample 1
                "first" familySources summary accounts
            ∧ (conduct Traversal.still "first" familySources Traversal.sample 1
                (Journaled.start (PickySink.mk "e"))).state.journal
              = accounts.flatMap Account.requests
            ∧ summary.published = 1
            ∧ summary.sourceFailures = 2
            ∧ summary.receipts
                = [.failed "b" "first"
                    "stage copy: `id` is a reserved field name",
                .failed "e" "first" "refused", .succeeded "a" "first"] := by
  have hstart :
      startPipeline Traversal.still sampleConfig StageRegistry.catalog
        = .ok Traversal.sample := rfl
  have hclose : ∀ sink : PickySink, (Sink.close sink).result = .ok () :=
    fun _ => rfl
  obtain ⟨summary, accounts, hresult, haccounted, hjournal, -⟩ :=
    conduct_accounted Traversal.still hstart hclose "first" familySources 1
      (PickySink.mk "e")
  refine ⟨hstart, hclose, summary, accounts, hresult, haccounted, hjournal, ?_⟩
  cases hresult
  exact ⟨rfl, rfl, by decide +kernel⟩

end Run

end Intake
