/-
Dividing a text loses none of it, unless the options ask for that.

Four options take something away or say something twice: shared chunks,
borrowed text and the two limits. Without them, and with a method that keeps
what is between its matches, every step from the splitter on keeps the ink
of the text (`Proofs/Chunk/Ink`). What is left is to read off accepted
options that the stage they make has none of the four.
-/
import Intake.Stage.ChunkText
import Intake.Proofs.Chunk.Ink
import Intake.Proofs.Record.Reading
import Intake.Proofs.Stage.Checks

namespace Intake.ChunkText

open Record (bind_eq_ok)
open Text (ink)

variable {o : StageOptions} {stage : ChunkText}

-- ====================================================== options

/-- What accepted options say about the stage that they make. -/
structure Configured (o : StageOptions) (m b : Int) (stage : ChunkText) :
    Prop where
  valid : spec.validate o = .ok ()
  method : readMethod o = .ok stage.method
  readMerged : readMerged o = .ok m
  merged : stage.merged = m.toNat
  readBorrowed : readBorrowed o = .ok b
  borrowed : stage.borrowed = b.toNat
  shared : readShared o m b = .ok stage.shared
  cleans : (o.getBool "clean_chunks").map (·.getD false) = .ok stage.cleans
  leastLength : positive o "pre_merge_min_chunk_len" = .ok stage.leastLength
  greatestLength :
    positive o "pre_merge_max_chunk_len" = .ok stage.greatestLength
  limit : positive o "character_limit" = .ok stage.limit

/-- Options that were accepted were read one after the other. -/
theorem new_ok (h : new o = .ok stage) : ∃ m b, Configured o m b stage := by
  obtain ⟨_, hvalid, h⟩ := bind_eq_ok.mp h
  obtain ⟨method, hmethod, h⟩ := bind_eq_ok.mp h
  obtain ⟨merged, hmerged, h⟩ := bind_eq_ok.mp h
  obtain ⟨borrowed, hborrowed, h⟩ := bind_eq_ok.mp h
  obtain ⟨shared, hshared, h⟩ := bind_eq_ok.mp h
  obtain ⟨source, -, h⟩ := bind_eq_ok.mp h
  obtain ⟨dest, -, h⟩ := bind_eq_ok.mp h
  obtain ⟨cleans, hcleans, h⟩ := bind_eq_ok.mp h
  obtain ⟨leastLength, hleast, h⟩ := bind_eq_ok.mp h
  obtain ⟨greatestLength, hgreatest, h⟩ := bind_eq_ok.mp h
  obtain ⟨limit, hlimit, h⟩ := bind_eq_ok.mp h
  cases h
  exact
    ⟨merged, borrowed, hvalid, hmethod, hmerged, rfl, hborrowed, rfl, hshared,
      by rw [hcleans]; rfl, hleast, hgreatest, hlimit⟩

/-- Chunks are merged by one at least. -/
theorem readMerged_ok {merged : Int} (h : readMerged o = .ok merged) :
    1 ≤ merged := by
  obtain ⟨given, -, h⟩ := bind_eq_ok.mp h
  simp only at h
  split at h
  · cases h
  · cases h
    omega

/-- A size that is not given is no size. -/
theorem positive_of_absent {key : String} (h : o.has key = false) :
    positive o key = .ok none := by
  rw [positive, StageOptions.getLong, StageOptions.read_of_absent h]
  rfl

/-- An option that is its default whenever it is there. -/
theorem getD_of_getLong {key : String} {default : Int}
    (h : ∀ i, o.getLong key = .ok (some i) → i = default) {given : Option Int}
    (hgiven : o.getLong key = .ok given) : given.getD default = default := by
  cases given with
  | none => rfl
  | some i => exact h i hgiven

/-- A percentage that is zero whenever it is given is zero. -/
theorem readBorrowed_eq_zero
    (h : ∀ i, o.getLong "overlap_percentage" = .ok (some i) → i = 0)
    {borrowed : Int} (hread : readBorrowed o = .ok borrowed) :
    borrowed = 0 := by
  obtain ⟨given, hgiven, hread⟩ := bind_eq_ok.mp hread
  simp only [getD_of_getLong h hgiven] at hread
  cases hread
  rfl

/-- A number that is one whenever it is given is one. -/
theorem readMerged_eq_one
    (h : ∀ i, o.getLong "chunks_to_merge" = .ok (some i) → i = 1)
    {merged : Int} (hread : readMerged o = .ok merged) : merged = 1 := by
  obtain ⟨given, hgiven, hread⟩ := bind_eq_ok.mp hread
  simp only [getD_of_getLong h hgiven] at hread
  cases hread
  rfl

/-- Without the option there are no windows that share chunks. -/
theorem readShared_of_absent (h : o.has "chunks_to_overlap" = false)
    (merged borrowed : Int) :
    readShared o merged borrowed = .ok none := by
  rw [readShared, StageOptions.getLong, StageOptions.read_of_absent h]
  rfl

/-- Sizes are positive. -/
theorem pos_of_positive {key : String} {n : Nat}
    (h : positive o key = .ok (some n)) : 0 < n := by
  obtain ⟨given, -, h⟩ := bind_eq_ok.mp h
  cases given with
  | none => cases h
  | some i =>
      simp only at h
      split at h
      · cases h
        omega
      · cases h

-- ====================================================== nothing taken away

/-- Options that take nothing of a text away and say nothing of it twice. -/
structure Lossless (o : StageOptions) : Prop where
  method : readName o ≠ .ok .custom
  shared : ∀ i, o.getLong "chunks_to_overlap" = .ok (some i) → i = 0
  borrowed : ∀ i, o.getLong "overlap_percentage" = .ok (some i) → i = 0
  greatestLength : o.has "pre_merge_max_chunk_len" = false
  limit : o.has "character_limit" = false

namespace Lossless

variable (h : Lossless o)

include h

/-- The method is not the one with a separator of its own. -/
theorem method_ne {method : ChunkMethod} (hmethod : readMethod o = .ok method)
    (separator : Pattern.Program) : method ≠ .custom separator := by
  obtain ⟨name, hname, hmethod⟩ := bind_eq_ok.mp hmethod
  obtain ⟨program, -, hmethod⟩ := bind_eq_ok.mp hmethod
  obtain ⟨size, -, hmethod⟩ := bind_eq_ok.mp hmethod
  rintro rfl
  cases name with
  | custom => exact h.method hname
  | fixed => cases size <;> cases hmethod
  | paragraph => cases hmethod
  | sentence => cases hmethod

/-- The windows share nothing, if there are windows. -/
theorem readShared_eq {merged borrowed : Int} {shared : Option Nat}
    (hshared : readShared o merged borrowed = .ok shared) :
    shared = none ∨ shared = some 0 := by
  obtain ⟨given, hgiven, hshared⟩ := bind_eq_ok.mp hshared
  cases given with
  | none =>
      cases hshared
      exact .inl rfl
  | some i =>
      obtain rfl := h.shared i hgiven
      simp only at hshared
      split at hshared
      · cases hshared
      · split at hshared
        · cases hshared
        · cases hshared
          exact .inr rfl

end Lossless

-- ====================================================== what the stage keeps

/-- A stage that neither takes away nor repeats anything of a text. -/
structure Keeping (stage : ChunkText) : Prop where
  method : ∀ separator, stage.method ≠ .custom separator
  merged : 1 ≤ stage.merged
  shared : stage.shared = none ∨ stage.shared = some 0
  borrowed : stage.borrowed = 0
  greatestLength : stage.greatestLength = none
  limit : stage.limit = none

/-- Such options make a stage that keeps all of a text. -/
theorem Lossless.keeping (ho : Lossless o) (hnew : new o = .ok stage) :
    Keeping stage := by
  obtain ⟨merged, borrowed, h⟩ := new_ok hnew
  have hmerged := readMerged_ok h.readMerged
  have hborrowed := readBorrowed_eq_zero ho.borrowed h.readBorrowed
  have hgreatest :=
    h.greatestLength.symm.trans (positive_of_absent ho.greatestLength)
  have hlimit := h.limit.symm.trans (positive_of_absent ho.limit)
  exact
    { method := ho.method_ne h.method
      merged := by rw [h.merged]; omega
      shared := ho.readShared_eq h.shared
      borrowed := by rw [h.borrowed, hborrowed]; rfl
      greatestLength := Except.ok.inj hgreatest
      limit := Except.ok.inj hlimit }

namespace Keeping

variable (h : Keeping stage)

include h

/-- Starting the stage does not change that. -/
theorem started : Keeping { stage with started := true } :=
  ⟨h.method, h.merged, h.shared, h.borrowed, h.greatestLength, h.limit⟩

/-- The pieces of a text have its ink, whatever the method. -/
theorem ink_split (hstarted : stage.started = true) (text : List Char) :
    ∃ pieces, stage.split text = .ok pieces
      ∧ ink pieces.flatten = ink text := by
  rw [split]
  cases hmethod : stage.method with
  | fixed size =>
      exact ⟨_, rfl, congrArg ink (Chunk.flatten_groupsOf size text)⟩
  | paragraph => exact ⟨_, rfl, Chunk.ink_paragraphs text⟩
  | sentence => exact ⟨_, if_pos hstarted, Sentence.ink_detect text⟩
  | custom separator => exact absurd hmethod (h.method separator)

/-- Merging keeps the ink. -/
theorem ink_combine (chunks : List (List Char)) :
    ink (stage.combine chunks).flatten = ink chunks.flatten := by
  rw [combine]
  rcases h.shared with hshared | hshared
  · simp only [hshared, h.borrowed, Nat.lt_irrefl, if_false]
    split
    · exact Chunk.ink_merge _ _
    · rfl
  · rw [hshared]
    exact Chunk.ink_mergeShared h.merged chunks

/-- Refining the pieces keeps the ink, for none of the limits is set. -/
theorem ink_refine (pieces : List (List Char)) :
    ink (stage.refine pieces).flatten = ink pieces.flatten := by
  have hcleaned :
      ink (if stage.cleans then pieces.map Chunk.clean else pieces).flatten
        = ink pieces.flatten := by
    split
    · rw [Text.ink_flatten_map fun piece _ => Chunk.ink_clean piece,
        List.map_id']
    · rfl
  simp only [refine, h.greatestLength, h.limit, truncateAll, h.ink_combine]
  split
  · rw [Chunk.ink_mergeToLength, hcleaned]
  · exact hcleaned

/-- The chunks of a text have its ink. -/
theorem ink_chunk (hstarted : stage.started = true) (text : List Char) :
    ∃ chunks, stage.chunk text = .ok chunks
      ∧ ink chunks.flatten = ink text := by
  obtain ⟨pieces, hsplit, hpieces⟩ := h.ink_split hstarted text
  refine ⟨stage.refine pieces, ?_, ?_⟩
  · rw [chunk, hsplit]
    rfl
  · rw [h.ink_refine, hpieces]

end Keeping

/-- Accepted options that take nothing away make a stage that, once started,
divides every text, and its chunks in their order differ from the text in
white space alone. -/
theorem chunk_keeps_ink (hnew : new o = .ok stage) (ho : Lossless o)
    (env : Environment) (text : List Char) :
    ∃ started, Stage.start env stage = .ok started () ∧
      ∃ chunks, started.chunk text = .ok chunks
        ∧ ink chunks.flatten = ink text :=
  ⟨{ stage with started := true }, rfl,
    (ho.keeping hnew).started.ink_chunk rfl text⟩

/-- Cleaned sentences of some length, joined in pairs that share nothing. -/
def pairOptions : StageOptions :=
  ⟨[("source", .text "body"), ("chunking_method", .text "Sentence"),
    ("clean_chunks", .bool true),
    ("pre_merge_min_chunk_len", Json.ofLong 8),
    ("chunks_to_merge", Json.ofLong 2),
    ("chunks_to_overlap", Json.ofLong 0),
    ("overlap_percentage", Json.ofLong 0)]⟩

/-- The stage that these options make. -/
def pairStage : ChunkText :=
  { name := "chunk_text", source := "body", dest := "chunk",
    method := .sentence, cleans := true,
    leastLength := some 8, greatestLength := none,
    merged := 2, shared := some 0, borrowed := 0,
    limit := none, started := false }

/-- The options are accepted and make the stage. -/
theorem pairOptions_new : new pairOptions = .ok pairStage := rfl

/-- They take nothing away. -/
theorem pairOptions_lossless : Lossless pairOptions where
  method := by
    have hname : readName pairOptions = .ok .sentence := rfl
    rw [hname]
    exact nofun
  shared := by
    rintro i h
    cases h
    rfl
  borrowed := by
    rintro i h
    cases h
    rfl
  greatestLength := rfl
  limit := rfl

/-- The sentences of a text keep its ink when they are joined in pairs. -/
theorem chunk_keeps_ink_pairs :
    ∃ started,
      Stage.start
          ⟨FileTree.empty, ⟨0, 0⟩, fun _ => ⟨⟨0, 0⟩, ⟨0, 0⟩⟩,
            fun _ => .error "none"⟩
          pairStage
        = .ok started () ∧
      ∃ chunks,
        started.chunk "Is it?  It is. So\nbe it!".toList = .ok chunks ∧
        ink chunks.flatten = ink "Is it?  It is. So\nbe it!".toList :=
  chunk_keeps_ink pairOptions_new pairOptions_lossless _ _

end Intake.ChunkText
