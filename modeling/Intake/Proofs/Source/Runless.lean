/-
What sources publish is in no run.

Rows and files become new records, which nothing but fields is written to,
and the record on a line loses every run that its tree came with. So a
record carries no stale run into the run that publishes it.
-/
import Intake.Proofs.Record.Reading
import Intake.Proofs.Run.Membership
import Intake.Source.Catalog
import Intake.Delivery.Queue

namespace Intake

-- ====================================================== records without a run

namespace Record

/-- No record of the tree is in a run. -/
def Runless (r : Record) : Prop := ∀ x ∈ r.tree, x.runId = none

/-- Being in no run, in terms of the children. -/
theorem runless_iff {r : Record} :
    r.Runless ↔ r.runId = none ∧ ∀ c ∈ r.children, c.Runless := forall_tree

/-- A tree in no run is in no other run. -/
theorem Runless.within {r : Record} (h : r.Runless) (runId : String) :
    r.Within runId :=
  fun x hx => .inl (h x hx)

/-- A record without a run, stamped, is a record of the run. -/
theorem Runless.stamp {r : Record} (h : r.Runless) (runId : String) :
    (r.stamp runId).InRun runId :=
  inRun_iff.mpr ⟨rfl, fun c hc => ((runless_iff.mp h).2 c hc).within runId⟩

/-- A new record whose fields were written has no run and no children. -/
theorem Kept.runless {id : String} {r : Record} (h : Kept (new id) r) :
    r.Runless := by
  rw [runless_iff, h.children]
  exact ⟨h.runId, nofun⟩

theorem allWithoutRuns_eq_map (rs : List Record) :
    allWithoutRuns rs = rs.map withoutRuns := by
  induction rs with
  | nil => rfl
  | cons r rs ih => rw [allWithoutRuns, ih, List.map_cons]

/-- A record that lost its runs is in none. -/
theorem withoutRuns_runless (r : Record) : r.withoutRuns.Runless := by
  induction r using tree_induction with
  | step r ih =>
      obtain ⟨id, runId, fields, children, dropped⟩ := r
      rw [withoutRuns, runless_iff, allWithoutRuns_eq_map]
      refine ⟨rfl, fun c hc => ?_⟩
      obtain ⟨d, hd, rfl⟩ := List.mem_map.mp hc
      exact ih d hd

end Record

-- ====================================================== sources

/-- Every result of a list of steps that all succeed comes from a step. -/
theorem exists_of_mem_mapM {ε α β : Type} {f : α → Except ε β} {y : β} :
    ∀ {xs : List α} {ys : List β}, xs.mapM f = .ok ys → y ∈ ys
      → ∃ x ∈ xs, f x = .ok y := by
  intro xs
  induction xs with
  | nil =>
      intro ys h hy
      cases h
      cases hy
  | cons x xs ih =>
      intro ys h hy
      rw [List.mapM_cons] at h
      obtain ⟨z, hz, h⟩ := Record.bind_eq_ok.mp h
      obtain ⟨zs, hzs, h⟩ := Record.bind_eq_ok.mp h
      cases h
      rcases List.mem_cons.mp hy with rfl | hy
      · exact ⟨x, List.mem_cons_self, hz⟩
      · obtain ⟨x', hx', h⟩ := ih hzs hy
        exact ⟨x', List.mem_cons_of_mem _ hx', h⟩

/-- A source that reads its records at once publishes what it read. -/
theorem SourceRun.mem_records {prepared finished : Except Failure Unit}
    {records : Except Failure (List Record)} {r : Record}
    (h : r ∈ (SourceRun.mk prepared (.ofRecords records) finished).records) :
    ∃ rs, records = .ok rs ∧ r ∈ rs := by
  rw [SourceRun.records] at h
  split at h
  · cases records with
    | error e => cases h
    | ok rs => exact ⟨rs, rfl, h⟩
  · cases h

/-- Rows become new records, which are in no run. -/
theorem CsvSource.runless {environment : Environment} {config : CsvConfig}
    {r : Record} (h : r ∈ (CsvSource.run environment config).records) :
    r.Runless := by
  obtain ⟨rs, hrs, hr⟩ := SourceRun.mem_records h
  rw [CsvSource.records] at hrs
  split at hrs
  · cases hrs
  · cases hrs
  · obtain ⟨table, -, hrs⟩ := Record.bind_eq_ok.mp hrs
    obtain ⟨idColumn, -, hrs⟩ := Record.bind_eq_ok.mp hrs
    obtain ⟨row, -, hrow⟩ := exists_of_mem_mapM hrs hr
    rw [CsvSource.recordOf] at hrow
    split at hrow
    · cases hrow
      exact (Record.kept_each _ _ fun r _ =>
        (Record.setField_edited r _ _).kept).runless
    · cases hrow

/-- Files become new records, too. -/
theorem FilesystemSource.runless {environment : Environment}
    {config : FilesystemConfig} {r : Record}
    (h : r ∈ (FilesystemSource.run environment config).records) :
    r.Runless := by
  obtain ⟨rs, hrs, hr⟩ := SourceRun.mem_records h
  obtain ⟨paths, -, rfl⟩ := Record.map_eq_ok.mp hrs
  obtain ⟨path, -, hpath⟩ := List.mem_filterMap.mp hr
  rw [FilesystemSource.recordOf?] at hpath
  split at hpath
  · cases hpath
  · obtain ⟨-, -, rfl⟩ := Option.map_eq_some_iff.mp hpath
    exact (Record.kept_each _ _ fun r _ =>
      (Record.setField_edited r _ _).kept).runless

/-- Records on lines may have been in a run, but they lose it. -/
theorem JsonLinesSource.runless {environment : Environment}
    {config : JsonlConfig} {r : Record}
    (h : r ∈ (JsonLinesSource.run environment config).records) :
    r.Runless := by
  obtain ⟨rs, hrs, hr⟩ := SourceRun.mem_records h
  rw [JsonLinesSource.records] at hrs
  split at hrs
  · cases hrs
  · cases hrs
    obtain ⟨line, -, hline⟩ := List.mem_filterMap.mp hr
    rw [JsonLinesSource.parseLine] at hline
    split at hline
    · cases hline
    · split at hline
      · cases hline
        exact Record.withoutRuns_runless _
      · cases hline

/-- No source publishes records that are in a run. -/
theorem Source.runless {environment : Environment} {source : Source}
    {r : Record} (h : r ∈ (source.run environment).records) : r.Runless := by
  cases source with
  | filesystem name config => exact FilesystemSource.runless h
  | jsonl name config => exact JsonLinesSource.runless h
  | csv name config => exact CsvSource.runless h

end Intake
