/-
The children that a text is divided into.

Making a child writes six fields into a new record. As long as the field of the
text is not one of the other five, their names are different and none of them
is refused (`child_ok`), so the loop over the chunks never stops on the way: it
puts a child behind the others for every chunk and leaves the rest of the
record alone (`addChildren_ok`). The number and the offset that it carries
along are read off the place of a chunk among the others
(`getElem?_madeChildren`).

A started stage splits every text, whatever its method. So processing does not
fail at all, and what the children are is what the chunks are
(`process_attaches`).
-/
import Intake.Proofs.Chunk.Places
import Intake.Proofs.Record.NewFields
import Intake.Proofs.Stage.Chunking
import Intake.Proofs.Text.Trim

namespace Intake

/-- A chunk that is cut off at a length is not longer than that. -/
theorem Chunk.length_truncate_le (greatest : Nat) (chunk : List Char) :
    (truncate greatest chunk).length ≤ greatest := by
  unfold truncate
  split
  · exact Nat.le_trans (Text.length_trim_le _) (List.length_take_le _ _)
  · omega

namespace ChunkText

open Record (bind_eq_ok Reserved)
open Text (isBlank)

variable {o : StageOptions} {stage : ChunkText} {dest parent : String}
  {total number offset k : Nat} {chunk : List Char} {chunks : List (List Char)}

-- ====================================================== one child

/-- The names of the fields that tell the place of a chunk. -/
def placeFields : List String :=
  ["parent_id", "chunk_number", "total_chunks", "offset", "length"]

/-- A field that the text of a chunk can be written to. -/
structure Free (dest : String) : Prop where
  unreserved : ¬Reserved dest
  other : dest ∉ placeFields

/-- What is written into a child, in this order. -/
def entries (dest parent : String) (total number offset : Nat)
    (chunk : List Char) : List (String × Value) :=
  [("parent_id", .text parent), ("chunk_number", long number),
    ("total_chunks", long total), ("offset", long offset),
    ("length", long chunk.length), (dest, .text (String.ofList chunk))]

/-- The record that a chunk becomes. -/
def madeChild (dest parent : String) (total number offset : Nat)
    (chunk : List Char) : Record :=
  (Record.new (parent ++ "-" ++ toString number)).extend
    ((entries dest parent total number offset chunk).map Field.ofEntry)

/-- The names under which a child is written. -/
theorem map_fst_entries :
    (entries dest parent total number offset chunk).map Prod.fst
      = placeFields ++ [dest] := rfl

/-- The place of a chunk can be written. -/
theorem not_reserved_placeFields : ∀ name ∈ placeFields, ¬Reserved name :=
  by decide

namespace Free

variable (h : Free dest)

include h

/-- The six names of a child differ. -/
theorem nodup_names : (placeFields ++ [dest]).Nodup := by
  rw [List.nodup_append]
  refine ⟨by decide, List.nodup_singleton dest, ?_⟩
  rintro name hname _ hdest rfl
  obtain rfl := List.mem_singleton.mp hdest
  exact h.other hname

/-- Nothing that is written into a child has a reserved name. -/
theorem not_reserved_entries :
    ∀ entry ∈ entries dest parent total number offset chunk,
      ¬Reserved entry.1 := by
  intro entry hentry
  have hname : entry.1 ∈ placeFields ++ [dest] := by
    rw [← map_fst_entries]
    exact List.mem_map_of_mem hentry
  rcases List.mem_append.mp hname with hname | hname
  · exact not_reserved_placeFields entry.1 hname
  · rw [List.mem_singleton.mp hname]
    exact h.unreserved

/-- None of the fields of a child is refused. -/
theorem child_ok (parent : String) (total number offset : Nat)
    (chunk : List Char) :
    child dest parent total number offset chunk
      = .ok (madeChild dest parent total number offset chunk) () :=
  Record.setFields_ok rfl h.not_reserved_entries h.nodup_names

/-- What was written into a child is read from it. -/
theorem getOne_madeChild {entry : String × Value}
    (hentry : entry ∈ entries dest parent total number offset chunk) :
    (madeChild dest parent total number offset chunk).getOne entry.1
      = some entry.2 :=
  Record.getOne_extend_new (map_fst_entries ▸ h.nodup_names) hentry

end Free

-- =================================================== one child for each chunk

/-- The children for chunks, of which the first has a given number and that
many characters before it. -/
def madeChildren (dest parent : String) (total : Nat) :
    Nat → Nat → List (List Char) → List Record
  | _, _, [] => []
  | number, offset, chunk :: rest =>
    madeChild dest parent total number offset chunk
      :: madeChildren dest parent total (number + 1)
          (offset + chunk.length) rest

/-- The loop goes through to its end, with a child for each chunk. -/
theorem addChildren_ok (h : Free dest) (total number offset : Nat) (r : Record)
    (chunks : List (List Char)) :
    addChildren dest total number offset r chunks
      = .ok { r with
          children := r.children
            ++ madeChildren dest r.id total number offset chunks } () := by
  -- the record grows by a child in every turn, but keeps the id that children
  -- are named after
  induction chunks generalizing number offset r with
  | nil =>
      cases r
      rw [madeChildren, List.append_nil, addChildren]
  | cons chunk rest ih =>
      unfold addChildren
      rw [h.child_ok]
      show addChildren dest total _ _ (r.addChild _) rest = _
      rw [ih, madeChildren]
      show Outcome.ok { r with children := r.children ++ [_] ++ _ } () = _
      rw [List.append_assoc]
      rfl

/-- There are as many children as chunks. -/
theorem length_madeChildren :
    (madeChildren dest parent total number offset chunks).length
      = chunks.length := by
  induction chunks generalizing number offset with
  | nil => rfl
  | cons chunk rest ih =>
      rw [madeChildren, List.length_cons, ih, List.length_cons]

/-- The loop counts the chunks and their characters from where it began. -/
theorem getElem?_madeChildren (h : chunks[k]? = some chunk) :
    (madeChildren dest parent total number offset chunks)[k]?
      = some (madeChild dest parent total (number + k)
          (offset + Chunk.offsetOf chunks k) chunk) := by
  induction chunks generalizing number offset k with
  | nil => cases h
  | cons first rest ih =>
      rw [madeChildren]
      cases k with
      | zero =>
          cases h
          rfl
      | succ k =>
          rw [List.getElem?_cons_succ] at h ⊢
          rw [ih h, Chunk.offsetOf_cons, Nat.add_assoc, Nat.add_assoc,
            Nat.add_comm 1]

/-- The child of the chunk at a place, with its text and its place told. -/
structure IsChild (dest parent : String) (chunks : List (List Char)) (k : Nat)
    (chunk : List Char) (child : Record) : Prop where
  id : child.id = parent ++ "-" ++ toString (k + 1)
  names : child.fieldNames = placeFields ++ [dest]
  parentId : child.getText "parent_id" = some parent
  number : child.getLong "chunk_number" = some (Int64.ofNat (k + 1))
  total : child.getLong "total_chunks" = some (Int64.ofNat chunks.length)
  offset : child.getLong "offset"
    = some (Int64.ofNat (Chunk.offsetOf chunks k))
  length : child.getLong "length" = some (Int64.ofNat chunk.length)
  text : child.getText dest = some (String.ofList chunk)

/-- A child for each chunk, in order. -/
structure Attached (dest parent : String) (chunks : List (List Char))
    (made : List Record) : Prop where
  length : made.length = chunks.length
  child : ∀ k chunk, chunks[k]? = some chunk →
    ∃ child, made[k]? = some child ∧ IsChild dest parent chunks k chunk child

/-- The child that is made for a chunk tells its text and its place. -/
theorem Free.isChild (h : Free dest) :
    IsChild dest parent chunks k chunk
      (madeChild dest parent chunks.length (k + 1)
        (Chunk.offsetOf chunks k) chunk) := by
  have hentries :
      ∀ entry ∈ entries dest parent chunks.length (k + 1)
        (Chunk.offsetOf chunks k) chunk,
        (madeChild dest parent chunks.length (k + 1)
          (Chunk.offsetOf chunks k) chunk).getOne entry.1
          = some entry.2 := fun _ => h.getOne_madeChild
  simp only [entries, List.forall_mem_cons] at hentries
  obtain ⟨hparent, hnumber, htotal, hoffset, hlength, htext, -⟩ := hentries
  exact
    { id := rfl
      names := rfl
      parentId := Record.getText_of_getOne (by decide) hparent
      number := Record.getLong_of_getOne hnumber
      total := Record.getLong_of_getOne htotal
      offset := Record.getLong_of_getOne hoffset
      length := Record.getLong_of_getOne hlength
      text := Record.getText_of_getOne h.unreserved htext }

/-- The children that are made are the ones for the chunks. -/
theorem Free.attached (h : Free dest) (parent : String)
    (chunks : List (List Char)) :
    Attached dest parent chunks
      (madeChildren dest parent chunks.length 1 0 chunks) where
  length := length_madeChildren
  child := by
    intro k chunk hchunk
    refine ⟨_, getElem?_madeChildren hchunk, ?_⟩
    rw [Nat.add_comm 1, Nat.zero_add]
    exact h.isChild

-- ====================================================== chunks

/-- A stage that has been started splits every text. -/
theorem chunk_ok (hstarted : stage.started = true) (text : List Char) :
    ∃ pieces, stage.chunk text = .ok (stage.refine pieces) := by
  have hsplit : ∃ pieces, stage.split text = .ok pieces := by
    unfold split
    cases stage.method with
    | fixed size => exact ⟨_, rfl⟩
    | paragraph => exact ⟨_, rfl⟩
    | sentence => exact ⟨_, if_pos hstarted⟩
    | custom separator => exact ⟨_, rfl⟩
  obtain ⟨pieces, hpieces⟩ := hsplit
  refine ⟨pieces, ?_⟩
  rw [chunk, hpieces]
  rfl

/-- No chunk is longer than the last limit, also after trimming. -/
theorem length_le_of_mem_refine {limit : Nat}
    (hlimit : stage.limit = some limit) {pieces : List (List Char)}
    (h : chunk ∈ stage.refine pieces) : chunk.length ≤ limit := by
  unfold refine at h
  rw [hlimit] at h
  obtain ⟨longer, -, rfl⟩ := List.mem_map.mp h
  exact Chunk.length_truncate_le limit longer

/-- Options that leave the pieces of a text as they are. -/
structure Unrefined (o : StageOptions) : Prop where
  cleans : o.getBool "clean_chunks" ≠ .ok (some true)
  leastLength : o.has "pre_merge_min_chunk_len" = false
  greatestLength : o.has "pre_merge_max_chunk_len" = false
  merged : ∀ i, o.getLong "chunks_to_merge" = .ok (some i) → i = 1
  shared : o.has "chunks_to_overlap" = false
  borrowed : ∀ i, o.getLong "overlap_percentage" = .ok (some i) → i = 0
  limit : o.has "character_limit" = false

/-- Chunks that are not asked to be cleaned are not. -/
theorem cleans_eq_false (h : o.getBool "clean_chunks" ≠ .ok (some true))
    {cleans : Bool}
    (hread : (o.getBool "clean_chunks").map (·.getD false) = .ok cleans) :
    cleans = false := by
  cases hgiven : o.getBool "clean_chunks" with
  | error e =>
      rw [hgiven] at hread
      cases hread
  | ok given =>
      rw [hgiven] at hread
      cases hread
      rcases given with _ | _ | _
      · rfl
      · rfl
      · exact absurd hgiven h

/-- Pieces come out of the refinement as they went in. -/
theorem Unrefined.refine_eq (ho : Unrefined o) (hnew : new o = .ok stage)
    (pieces : List (List Char)) : stage.refine pieces = pieces := by
  obtain ⟨merged, borrowed, h⟩ := new_ok hnew
  have hcleans : stage.cleans = false := cleans_eq_false ho.cleans h.cleans
  have hleast : stage.leastLength = none :=
    Except.ok.inj
      (h.leastLength.symm.trans (positive_of_absent ho.leastLength))
  have hgreatest : stage.greatestLength = none :=
    Except.ok.inj
      (h.greatestLength.symm.trans (positive_of_absent ho.greatestLength))
  have hlimit : stage.limit = none :=
    Except.ok.inj (h.limit.symm.trans (positive_of_absent ho.limit))
  have hshared : stage.shared = none :=
    Except.ok.inj (h.shared.symm.trans (readShared_of_absent ho.shared _ _))
  have hmerged : stage.merged = 1 := by
    rw [h.merged, readMerged_eq_one ho.merged h.readMerged]
    rfl
  have hborrowed : stage.borrowed = 0 := by
    rw [h.borrowed, readBorrowed_eq_zero ho.borrowed h.readBorrowed]
    rfl
  simp [refine, combine, truncateAll, hcleans, hleast, hgreatest, hlimit,
    hshared, hmerged, hborrowed]

/-- A fixed size that was accepted is positive. -/
theorem size_pos {size : Nat} (h : readMethod o = .ok (.fixed size)) :
    0 < size := by
  obtain ⟨name, -, h⟩ := bind_eq_ok.mp h
  obtain ⟨program, -, h⟩ := bind_eq_ok.mp h
  obtain ⟨given, hgiven, h⟩ := bind_eq_ok.mp h
  cases name with
  | fixed =>
      cases given with
      | none => cases h
      | some size =>
          cases h
          exact pos_of_positive hgiven
  | paragraph => cases h
  | sentence => cases h
  | custom => cases h

/-- Pieces of a fixed size that nothing is done to. -/
theorem cut_of_fixed {size : Nat} (hsize : 0 < size)
    (hmethod : stage.method = .fixed size)
    (hrefine : ∀ pieces, stage.refine pieces = pieces) {text : List Char}
    (h : stage.chunk text = .ok chunks) : Chunk.Cut size text chunks := by
  have hsplit : stage.split text = .ok (Chunk.groupsOf size text) := by
    unfold split
    rw [hmethod]
  have hchunk :
      stage.chunk text = .ok (stage.refine (Chunk.groupsOf size text)) := by
    rw [chunk, hsplit]
    rfl
  rw [hrefine, h] at hchunk
  cases hchunk
  exact Chunk.cut_groupsOf hsize text

-- =================================================== what becomes of a record

variable {r : Record} {text : String}

/-- Without a text, or with a blank one, the record is left alone. -/
theorem process_of_blank
    (h : ∀ text, r.getText stage.source = some text
      → isBlank text.toList = true) :
    stage.process r = .ok r none := by
  unfold process
  cases htext : r.getText stage.source with
  | none => rfl
  | some text => exact if_pos (h text htext)

/-- The chunks of a text become children behind the others. -/
theorem process_of_text (hdest : Free stage.dest)
    (htext : r.getText stage.source = some text)
    (hblank : isBlank text.toList = false)
    (hchunk : stage.chunk text.toList = .ok chunks) :
    stage.process r = .ok { r with
      children := r.children
        ++ madeChildren stage.dest r.id chunks.length 1 0 chunks } none := by
  unfold process
  simp only [htext, hblank, hchunk, addChildren_ok hdest]
  rfl

/-- With accepted options, whose field for the text is free, a started stage
leaves a record alone that has no text, and gives any other one a child for
each chunk of its text, behind the children that it has, and changes nothing
else. No chunk is longer than the last limit, and chunks of a fixed size that
nothing is done to are the text, cut into pieces of this size. -/
theorem process_attaches (hnew : new o = .ok stage) (hdest : Free stage.dest)
    (env : Environment) :
    ∃ started, Stage.start env stage = .ok started () ∧ ∀ r : Record,
      ((∀ text, r.getText stage.source = some text
          → isBlank text.toList = true) →
          Stage.process env started r = .ok r none)
        ∧ ∀ text, r.getText stage.source = some text
          → isBlank text.toList = false →
          ∃ chunks made, started.chunk text.toList = .ok chunks
            ∧ Stage.process env started r
                = .ok { r with children := r.children ++ made } none
            ∧ Attached stage.dest r.id chunks made
            ∧ (∀ limit, stage.limit = some limit → ∀ chunk ∈ chunks,
                chunk.length ≤ limit)
            ∧ (∀ size, stage.method = .fixed size → Unrefined o →
                Chunk.Cut size text.toList chunks) := by
  let started : ChunkText := { stage with started := true }
  refine ⟨started, rfl, fun r => ⟨?_, ?_⟩⟩
  · intro hblank
    show started.process r = _
    exact process_of_blank hblank
  · intro text htext hblank
    have hpieces :
        ∃ pieces, started.chunk text.toList = .ok (started.refine pieces) :=
      chunk_ok rfl text.toList
    obtain ⟨pieces, hchunk⟩ := hpieces
    refine ⟨started.refine pieces, _, hchunk,
      process_of_text hdest htext hblank hchunk,
      hdest.attached r.id _, ?_, ?_⟩
    · intro limit hlimit chunk hmem
      exact length_le_of_mem_refine hlimit hmem
    · intro size hmethod hplain
      obtain ⟨_, _, h⟩ := new_ok hnew
      have hsize : 0 < size :=
        size_pos (h.method.trans (congrArg Except.ok hmethod))
      have hfixed : started.method = .fixed size := hmethod
      have hrefine : ∀ pieces, stage.refine pieces = pieces :=
        hplain.refine_eq hnew
      exact cut_of_fixed hsize hfixed hrefine hchunk

/-- Pieces of five characters, as they are. -/
def fiveOptions : StageOptions :=
  ⟨[("source", .text "body"), ("chunking_method", .text "fixed"),
    ("length_to_split", Json.ofLong 5)]⟩

/-- The stage that these options make. -/
def fiveStage : ChunkText :=
  { name := "chunk_text", source := "body", dest := "chunk",
    method := .fixed 5, cleans := false,
    leastLength := none, greatestLength := none,
    merged := 1, shared := none, borrowed := 0,
    limit := none, started := false }

/-- The options are accepted and make the stage. -/
theorem fiveOptions_new : new fiveOptions = .ok fiveStage := rfl

/-- The options leave the pieces as they are. -/
theorem fiveOptions_unrefined : Unrefined fiveOptions where
  cleans := by
    have hgiven : fiveOptions.getBool "clean_chunks" = .ok none := rfl
    rw [hgiven]
    exact nofun
  leastLength := rfl
  greatestLength := rfl
  merged := nofun
  shared := rfl
  borrowed := nofun
  limit := rfl

/-- A record with a text and a child. -/
def page : Record :=
  { (Record.new "page").extend
    [Field.ofEntry ("body", .text "abcdefghijklmn")] with
    children := [Record.new "note"] }

/-- The page keeps its note and gets a child for each piece of its text. -/
theorem process_attaches_page :
    new fiveOptions = .ok fiveStage ∧ Free fiveStage.dest
      ∧ ∃ started,
        Stage.start
            ⟨FileTree.empty, ⟨0, 0⟩, fun _ => ⟨⟨0, 0⟩, ⟨0, 0⟩⟩,
              fun _ => .error "none"⟩
            fiveStage
          = .ok started ()
          ∧ ∃ chunks made,
            Stage.process
                ⟨FileTree.empty, ⟨0, 0⟩, fun _ => ⟨⟨0, 0⟩, ⟨0, 0⟩⟩,
                  fun _ => .error "none"⟩
                started page
              = .ok { page with children := Record.new "note" :: made } none
              ∧ Attached "chunk" "page" chunks made
              ∧ Chunk.Cut 5 "abcdefghijklmn".toList chunks := by
  have hdest : Free fiveStage.dest := ⟨by decide, by decide⟩
  refine ⟨fiveOptions_new, hdest, ?_⟩
  obtain ⟨started, hstart, hprocess⟩ := process_attaches fiveOptions_new hdest
    ⟨FileTree.empty, ⟨0, 0⟩, fun _ => ⟨⟨0, 0⟩, ⟨0, 0⟩⟩, fun _ => .error "none"⟩
  obtain ⟨chunks, made, -, hmade, hattached, -, hcut⟩ :=
    (hprocess page).2 "abcdefghijklmn" rfl (by decide)
  exact ⟨started, hstart, chunks, made, hmade, hattached,
    hcut 5 rfl fiveOptions_unrefined⟩

end ChunkText

end Intake
