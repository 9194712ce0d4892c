/-
Records that went to a file come from it again.

A sink puts the text of a record on a line of its own; no character of it
ends the line, and none is lost at its end. So a source that reads the file
finds the lines as they were written, and on each the record under other ids
and in no run (`replayed`). Delivering adds one line to the file at a time,
which is what the induction over the records goes by (`deliver_all`).
-/
import Intake.Proofs.Files.Append
import Intake.Proofs.Record.Exact
import Intake.Proofs.Record.RoundTrip
import Intake.Proofs.Source.Runless
import Intake.Proofs.Text.Utf8
import Intake.Run.Basic

namespace Intake

namespace Record

-- ====================================================== other ids, no runs

mutual

/-- The record with a text in front of every id of its tree, and in no run. -/
def replayed (lead : String) : Record → Record
  | ⟨id, _, fields, children, dropped⟩ =>
    ⟨lead ++ id, none, fields, replayedAll lead children, dropped⟩

/-- Several trees, each replayed. -/
def replayedAll (lead : String) : List Record → List Record
  | [] => []
  | r :: rs => replayed lead r :: replayedAll lead rs

end

theorem replayedAll_eq_map (lead : String) (rs : List Record) :
    replayedAll lead rs = rs.map (replayed lead) := by
  induction rs with
  | nil => rfl
  | cons r rs ih => rw [replayedAll, ih, List.map_cons]

/-- Steps that all succeed, up to what is made of their results. -/
theorem exists_mapM {ε α β γ : Type} {f : α → Except ε β} {g : β → γ}
    {k : α → γ} {xs : List α} (h : ∀ x ∈ xs, ∃ y, f x = .ok y ∧ g y = k x) :
    ∃ ys, xs.mapM f = .ok ys ∧ ys.map g = xs.map k := by
  induction xs with
  | nil => exact ⟨[], rfl, rfl⟩
  | cons x xs ih =>
      rw [List.forall_mem_cons] at h
      obtain ⟨y, hy, hgy⟩ := h.1
      obtain ⟨ys, hys, hgys⟩ := ih h.2
      refine ⟨y :: ys, ?_, ?_⟩
      · rw [List.mapM_cons, hy, hys]
        rfl
      · rw [List.map_cons, List.map_cons, hgy, hgys]

/-- A tree whose fields are read back as they were is read back under other
ids, in whatever runs it was. -/
theorem reread_replayed {r : Record}
    (h : ∀ x ∈ r.tree, Tidy x ∧ x.dropped = false ∧
      ∀ f ∈ x.fields.fields, f.reread = .ok f) (lead : String) :
    ∃ r', r.reread (fun id => lead ++ id) = .ok r'
      ∧ r'.withoutRuns = r.replayed lead := by
  induction r using tree_induction with
  | step r ih =>
      obtain ⟨⟨htidy, hdropped, hfields⟩, hbelow⟩ := forall_tree.mp h
      obtain ⟨children', hchildren, hreplayed⟩ :=
        exists_mapM fun c hc => ih c hc (hbelow c hc)
      have hsupported := htidy.supported
      obtain ⟨id, runId, ⟨fields, supported⟩, children, dropped⟩ := r
      cases hsupported
      cases hdropped
      refine ⟨⟨lead ++ id, runId, ⟨fields, ValueType.all⟩, children', false⟩,
        ?_, ?_⟩
      · rw [reread, rereadAll_eq_mapM, hchildren, mapM_eq_self.mpr hfields]
        rfl
      · rw [withoutRuns, allWithoutRuns_eq_map, hreplayed, replayed,
          replayedAll_eq_map]
        rfl

/-- What a record needs to come back from a line: reading keeps its fields as
they are and its text as a document, and follows the document to its end. -/
structure Replayable (r : Record) : Prop where
  built : Built r
  faithful : ∀ x ∈ r.tree, Faithful x
  values : ∀ x ∈ r.tree, ∀ f ∈ x.fields.fields, f.Exact
  depth : r.toJson.depth ≤ Json.nestingLimit

namespace Replayable

variable {r : Record} (h : Replayable r)

include h

/-- Its document is exact, so it is read back from its text. -/
theorem exact_document : r.toJson.Exact :=
  exact_toJson fun x hx => ⟨h.built.tidy x hx, h.values x hx⟩

/-- The text of the record is read as the record under other ids. -/
theorem parseLine (lead : String) :
    JsonLinesSource.parseLine lead r.toJsonText = .ok (r.replayed lead) := by
  have htidy := h.built.tidy
  have hfields (x : Record) (hx : x ∈ r.tree) :
      ∀ f ∈ x.fields.fields, f.reread = .ok f :=
    fun f hf => Field.reread_of_restorable ((h.faithful x hx).values f hf)
      ((h.faithful x hx).types f hf)
  obtain ⟨r', hread, hreplayed⟩ :=
    reread_replayed
      (fun x hx => ⟨htidy x hx, (h.faithful x hx).dropped, hfields x hx⟩) lead
  rw [JsonLinesSource.parseLine, toJsonText,
    h.exact_document.parse_render h.depth]
  simp only [ofJsonWith_toJson fun x hx => ⟨htidy x hx, (h.faithful x hx).id⟩,
    hread, hreplayed]

end Replayable

end Record

-- ====================================================== lines

namespace JsonLinesSource

/-- A line goes up to its line feed. -/
theorem linesFrom_append {line : List Char} (h : '\n' ∉ line)
    (reversed rest : List Char) :
    linesFrom reversed (line ++ '\n' :: rest)
      = withoutReturn (reversed.reverse ++ line) :: linesFrom [] rest := by
  induction line generalizing reversed with
  | nil => rw [List.nil_append, linesFrom, List.append_nil]
  | cons c line ih =>
      rw [List.mem_cons, not_or] at h
      rw [List.cons_append, linesFrom, ih h.2, List.reverse_cons,
        List.append_assoc, List.singleton_append]
      exact fun hc => h.1 hc.symm

/-- The line of a record is read first, and the others as if they stood
alone. -/
theorem recordsOf_toLine {r : Record} (h : r.Replayable) (lead : String)
    (rest : List Char) :
    recordsOf lead (r.toLine.toList ++ rest)
      = r.replayed lead :: recordsOf lead rest := by
  obtain ⟨members, hmembers⟩ : ∃ members, r.toJson = .object members :=
    ⟨_, r.toJson_eq⟩
  obtain ⟨front, hbrace⟩ := Json.write_object_brace members
  rw [← hmembers] at hbrace
  have hline : r.toLine.toList = Json.write r.toJson ++ ['\n'] := by
    rw [Record.toLine, String.toList_append, Record.toJsonText, Json.render,
      String.toList_ofList]
    rfl
  have hreturn : withoutReturn (Json.write r.toJson)
      = Json.write r.toJson := by
    rw [withoutReturn, if_neg]
    rw [hbrace, List.getLast?_concat]
    decide
  have hblank : Text.isBlank (Json.write r.toJson) = false := by
    rw [Text.isBlank, hbrace, List.all_append, Bool.and_eq_false_iff]
    exact .inr (by decide)
  rw [recordsOf, lines, hline, List.append_assoc, List.singleton_append,
    linesFrom_append h.exact_document.not_mem_write, List.reverse_nil,
    List.nil_append, hreturn, List.filter_cons_of_pos (by rw [hblank]; rfl),
    List.filterMap_cons_some]
  · rfl
  · rw [show String.ofList _ = r.toJsonText from rfl, h.parseLine]
    rfl

/-- From the lines of records the records are read, all of them and in
order. -/
theorem recordsOf_toLines {rs : List Record} (h : ∀ r ∈ rs, r.Replayable)
    (lead : String) :
    recordsOf lead (rs.flatMap fun r => r.toLine.toList)
      = rs.map (Record.replayed lead) := by
  induction rs with
  | nil => rfl
  | cons r rs ih =>
      rw [List.forall_mem_cons] at h
      rw [List.flatMap_cons, recordsOf_toLine h.1, ih h.2, List.map_cons]

end JsonLinesSource

-- ====================================================== delivery

namespace FileSink

/-- A delivery adds the line of the record to the file and touches nothing else
of the sink. -/
theorem deliver_read {sink : FileSink} {before : List UInt8}
    (h : sink.files.read sink.path = .ok before) (r : Record) :
    ∃ files, Sink.deliver sink r = .ok { sink with files } ()
      ∧ files.read sink.path = .ok (before ++ Utf8.ofText r.toLine) := by
  obtain ⟨files, happend, hread⟩ :=
    FileTree.read_append h (Utf8.ofText r.toLine)
  refine ⟨files, ?_, hread⟩
  simp only [Sink.deliver, happend]

/-- Records are delivered one behind the other, and their lines are behind
what the file held. -/
theorem deliver_all (rs : List Record) {sink : FileSink} {before : List UInt8}
    (h : sink.files.read sink.path = .ok before) :
    ∃ files, Outcome.each Sink.deliver sink rs = .ok { sink with files } ()
      ∧ files.read sink.path
          = .ok (before
              ++ Utf8.encode (rs.flatMap fun r => r.toLine.toList)) := by
  induction rs generalizing sink before with
  | nil =>
      refine ⟨sink.files, rfl, ?_⟩
      rw [h]
      exact congrArg Except.ok (List.append_nil before).symm
  | cons r rs ih =>
      obtain ⟨files, hdeliver, hread⟩ := deliver_read h r
      obtain ⟨files', hrest, hread'⟩ := @ih ⟨files, sink.path⟩ _ hread
      refine ⟨files', ?_, ?_⟩
      · rw [Outcome.each, hdeliver]
        exact hrest
      · rw [hread', List.append_assoc, List.flatMap_cons, Utf8.encode,
          Utf8.encode, List.flatMap_append]
        rfl

end FileSink

-- ====================================================== replay

namespace JsonLinesSource

/-- Records that are delivered into an empty file are published from it by a
source: all of them in their order, with the text of the source in front of
every id, the roots in the new run and what is below them in none. -/
theorem run_replays {sink : FileSink} {rs : List Record}
    (hempty : sink.files.read sink.path = .ok [])
    (hrs : ∀ r ∈ rs, r.Replayable) (environment : Environment)
    (lead runId : String) :
    ∃ files, Outcome.each Sink.deliver sink rs = .ok { sink with files } () ∧
      (run { environment with files } ⟨sink.path, lead⟩).result = .ok () ∧
      Run.published runId [run { environment with files } ⟨sink.path, lead⟩]
        = rs.map fun r => { r.replayed lead with runId := some runId } := by
  obtain ⟨files, hdeliver, hread⟩ := FileSink.deliver_all rs hempty
  have hrecords : records files ⟨sink.path, lead⟩
      = .ok (rs.map (Record.replayed lead)) := by
    rw [records, hread]
    simp only [List.nil_append, Except.toOption, Option.bind_some,
      Utf8.decode_encode, recordsOf_toLines hrs]
  refine ⟨files, hdeliver, ?_, ?_⟩
  · rw [run, hrecords]
    rfl
  · rw [run, hrecords]
    simp [Run.published, SourceRun.records, Harvest.ofRecords, Record.stamp]

/-- A note of two lines, and a desk in an old run with such a note on it. -/
def noteOperations : List Record.Operation :=
  [.setField "body" (.text "one\r\ntwo\r"),
    .setValues "kept" [some (.bool true), none]]

/-- The note. -/
def note : Record :=
  noteOperations.foldl Record.Operation.apply (.withRunId "note" "old")

/-- The desk, with the note as its child. -/
def deskOperations : List Record.Operation :=
  [.setField "size" (.long (-7)),
    .setField "grid"
      (.json (.array [.object [("rows", Json.ofLong 2)], .null])),
    .addChild note]

/-- The desk itself, in an old run. -/
def desk : Record :=
  deskOperations.foldl Record.Operation.apply (.withRunId "desk" "old")

/-- The note has all that is needed to come back. -/
theorem note_replayable : note.Replayable where
  built := Record.Built.foldl noteOperations (.withRunId _ _)
    (by simp [noteOperations, Record.Operation.adopted])
  faithful := by
    rw [Record.forall_tree]
    refine ⟨⟨by decide, rfl, ?_, ?_⟩, fun c hc => by cases hc⟩
    · show ∀ f ∈ [_, _], _
      simp [Field.Restorable, Slot.values, Value.Restorable]
    · show ∀ f ∈ [_, _], _
      simp only [List.forall_mem_cons, Field.declares_iff]
      exact ⟨rfl, rfl, fun f hf => by cases hf⟩
  values := by
    rw [Record.forall_tree]
    refine ⟨?_, fun c hc => by cases hc⟩
    show ∀ f ∈ [_, _], _
    simp [Field.Exact, Slot.values, Value.Exact]
  depth := by decide

/-- So has the desk, whose note brings it along. -/
theorem desk_replayable : desk.Replayable where
  built := Record.Built.foldl deskOperations (.withRunId _ _)
    (by simp [deskOperations, Record.Operation.adopted, note_replayable.built])
  faithful := by
    rw [Record.forall_tree]
    refine ⟨⟨by decide, rfl, ?_, ?_⟩, ?_⟩
    · show ∀ f ∈ [_, _], _
      simp [Field.Restorable, Slot.values, Value.Restorable, Json.isComposite]
    · show ∀ f ∈ [_, _], _
      simp only [List.forall_mem_cons, Field.declares_iff]
      exact ⟨rfl, rfl, fun f hf => by cases hf⟩
    · show ∀ c ∈ [note], _
      exact List.forall_mem_singleton.mpr note_replayable.faithful
  values := by
    rw [Record.forall_tree]
    have hgrid :
        (Json.array [.object [("rows", Json.ofLong 2)], .null]).Exact := by
      refine .array
        (List.forall_mem_cons.mpr ⟨?_, List.forall_mem_singleton.mpr .null⟩)
      exact .object (List.nodup_singleton _)
        (List.forall_mem_singleton.mpr (.int _ _))
    refine ⟨?_, ?_⟩
    · show ∀ f ∈ [_, _], _
      simp [Field.Exact, Slot.values, Value.Exact, hgrid]
    · show ∀ c ∈ [note], _
      exact List.forall_mem_singleton.mpr note_replayable.values
  depth := by decide

/-- Both records come back in the next run, under new ids. -/
theorem run_replays_desk :
    ∃ files,
      Outcome.each Sink.deliver (FileSink.mk ⟨[(["f"], .file [])]⟩ "f")
          [desk, note]
        = .ok ⟨files, "f"⟩ () ∧
      (run { Traversal.still with files } ⟨"f", "new-"⟩).result = .ok () ∧
      Run.published "next" [run { Traversal.still with files } ⟨"f", "new-"⟩]
        = [desk, note].map fun r =>
            { r.replayed "new-" with runId := some "next" } :=
  run_replays (FileTree.read_f [])
    (List.forall_mem_cons.mpr ⟨desk_replayable,
      List.forall_mem_singleton.mpr note_replayable⟩)
    Traversal.still "new-" "next"

end JsonLinesSource

end Intake
