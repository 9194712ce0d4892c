/-
Windows that share chunks with their neighbours.

Windows of `count` chunks move on by what they do not share. Where they begin
is a list of multiples of that step (`windowStarts_eq`), and all there is to
know of the last of them is that it lies in front of what the windows share at
the end, while the next one would not. From these two bounds follow the size of
every window, what neighbours have in common and that no chunk is left out
(`slides_windows`).

The options that a stage accepts have the windows share less than they hold, so
the step is positive and nothing is subtracted from less.
-/
import Intake.Proofs.Stage.Chunking
import Mathlib.Data.List.Range
import Mathlib.Order.Interval.Finset.Nat

namespace Intake.Chunk

-- ====================================================== windows

/-- Places of a list in a row, from one on and in front of another. -/
structure Window where
  start : Nat
  stop : Nat

namespace Window

/-- The places themselves. -/
def places (w : Window) : Finset Nat := Finset.Ico w.start w.stop

/-- The items of a list at these places. -/
def of {α : Type} (w : Window) (items : List α) : List α :=
  (items.drop w.start).take (w.stop - w.start)

/-- A window has as many places as it is long. -/
theorem card_places (w : Window) : w.places.card = w.stop - w.start :=
  Nat.card_Ico _ _

/-- A place is in a window between its start and its stop. -/
theorem mem_places {w : Window} {place : Nat} :
    place ∈ w.places ↔ w.start ≤ place ∧ place < w.stop := Finset.mem_Ico

/-- Two windows have in common what lies between the later start and the
earlier stop. -/
theorem card_inter (a b : Window) :
    (a.places ∩ b.places).card = min a.stop b.stop - max a.start b.start := by
  unfold places
  rw [Finset.Ico_inter_Ico, Nat.card_Ico]

end Window

/-- Windows of `count` places over a list, of which neighbours share
`shared`. -/
structure Slides (count shared length : Nat) (windows : List Window) :
    Prop where
  first : windows.head?.map Window.start = some 0
  steps : windows.IsChain fun a b => b.start = a.start + (count - shared)
  full : ∀ w ∈ windows.dropLast, w.places.card = count
  atMost : ∀ w ∈ windows, w.places.card ≤ count
  shares : windows.IsChain fun a b => (a.places ∩ b.places).card = shared
  last : ∃ w, windows.getLast? = some w ∧ w.stop = length
    ∧ shared < w.places.card
  covers : ∀ place < length, ∃ w ∈ windows, place ∈ w.places

-- ====================================================== where windows begin

variable {count shared length last number : Nat}

/-- The window of a number; the last one ends with the list. -/
def window (count shared length number : Nat) : Window :=
  ⟨number * (count - shared), min (number * (count - shared) + count) length⟩

/-- The last window holds a place behind those that it shares, and the next
one would not. -/
structure IsLast (count shared length last : Nat) : Prop where
  shared_lt : shared < count
  within : last * (count - shared) + shared < length
  reaches : length ≤ last * (count - shared) + count

/-- Windows begin at the multiples of their step, up to the last one. -/
theorem windowStarts_eq (hshared : shared < count) (hlength : count ≤ length) :
    ∃ last, IsLast count shared length last
      ∧ windowStarts count shared length
        = (List.range (last + 1)).map (· * (count - shared)) := by
  have hstep : 0 < count - shared := by omega
  have hpos : 0 < (length - shared + (count - shared) - 1)
      / (count - shared) := by
    apply Nat.div_pos _ hstep
    omega
  obtain ⟨last, hlast⟩ := Nat.exists_eq_add_one_of_ne_zero (Nat.ne_of_gt hpos)
  have hlow : (last + 1) * (count - shared)
      ≤ length - shared + (count - shared) - 1 := by
    rw [← Nat.le_div_iff_mul_le hstep, hlast]
  have hhigh : length - shared + (count - shared) - 1
      < (last + 1 + 1) * (count - shared) := by
    rw [← Nat.div_lt_iff_lt_mul hstep, hlast]
    exact Nat.lt_succ_self _
  simp only [Nat.add_mul, Nat.one_mul] at hlow hhigh
  refine ⟨last, ⟨hshared, by omega, by omega⟩, ?_⟩
  simp only [windowStarts, hlast]

namespace IsLast

variable (h : IsLast count shared length last)

include h

/-- A window that is not the last one ends in front of the end of the list. -/
theorem stop_lt (hnumber : number < last) :
    number * (count - shared) + count < length := by
  have hnext : (number + 1) * (count - shared) ≤ last * (count - shared) :=
    Nat.mul_le_mul_right _ hnumber
  rw [Nat.add_mul, Nat.one_mul] at hnext
  have hshared := h.shared_lt
  have hwithin := h.within
  omega

/-- A window that is not the last one is full. -/
theorem window_stop (hnumber : number < last) :
    (window count shared length number).stop
      = number * (count - shared) + count :=
  Nat.min_eq_left (Nat.le_of_lt (h.stop_lt hnumber))

/-- The last window ends with the list. -/
theorem window_last_stop : (window count shared length last).stop = length :=
  Nat.min_eq_right h.reaches

/-- The next window begins with the places that this one shares with it, and
reaches at least as far. -/
theorem card_inter_window (hnumber : number < last) :
    ((window count shared length number).places
      ∩ (window count shared length (number + 1)).places).card = shared := by
  have hstop := h.stop_lt hnumber
  have hshared := h.shared_lt
  rw [Window.card_inter]
  simp only [window, Nat.add_mul, Nat.one_mul]
  omega

/-- A place lies in the window that begins last in front of it. -/
theorem exists_window {place : Nat} (hplace : place < length) :
    ∃ number ≤ last, place ∈ (window count shared length number).places := by
  have hstep : 0 < count - shared := Nat.sub_pos_of_lt h.shared_lt
  have hlow := Nat.div_mul_le_self place (count - shared)
  have hhigh : place < (place / (count - shared) + 1) * (count - shared) := by
    rw [← Nat.div_lt_iff_lt_mul hstep]
    exact Nat.lt_succ_self _
  rw [Nat.add_mul, Nat.one_mul] at hhigh
  by_cases hnumber : place / (count - shared) ≤ last
  · refine ⟨_, hnumber, Window.mem_places.mpr ⟨hlow, ?_⟩⟩
    simp only [window]
    omega
  · have hbefore :
        last * (count - shared)
          ≤ place / (count - shared) * (count - shared) :=
      Nat.mul_le_mul_right _ (by omega)
    refine ⟨last, Nat.le_refl _, Window.mem_places.mpr ⟨?_, ?_⟩⟩
    · exact Nat.le_trans hbefore hlow
    · rw [h.window_last_stop]
      exact hplace

/-- The windows up to the last one slide over the list. -/
theorem slides :
    Slides count shared length
      ((List.range (last + 1)).map (window count shared length)) where
  first := by
    rw [List.range_succ_eq_map, List.map_cons, List.head?_cons]
    simp [window]
  steps := by
    rw [List.isChain_map, List.isChain_range_succ]
    intro number _
    simp only [window, Nat.succ_mul]
  full := by
    rw [List.range_succ, List.map_append, List.map_singleton,
      List.dropLast_concat]
    intro w hw
    obtain ⟨number, hnumber, rfl⟩ := List.mem_map.mp hw
    rw [Window.card_places, h.window_stop (List.mem_range.mp hnumber)]
    simp [window]
  atMost := by
    intro w hw
    obtain ⟨number, -, rfl⟩ := List.mem_map.mp hw
    rw [Window.card_places]
    simp only [window]
    omega
  shares := by
    rw [List.isChain_map, List.isChain_range_succ]
    exact fun number hnumber => h.card_inter_window hnumber
  last := by
    refine ⟨window count shared length last, ?_, h.window_last_stop, ?_⟩
    · rw [List.range_succ, List.map_append, List.map_singleton,
        List.getLast?_concat]
    · have hwithin := h.within
      rw [Window.card_places, h.window_last_stop]
      simp only [window]
      omega
  covers := by
    intro place hplace
    obtain ⟨number, hnumber, hmem⟩ := h.exists_window hplace
    exact ⟨_, List.mem_map_of_mem (List.mem_range.mpr (by omega)), hmem⟩

end IsLast

-- ====================================================== chunks in windows

variable {chunks : List (List Char)}

/-- Chunks that do not fill a window are left alone. -/
theorem mergeShared_of_lt (h : chunks.length < count) :
    mergeShared count shared chunks = chunks := by
  unfold mergeShared
  rw [if_pos (by simp [h])]

/-- The window of a number shows the chunks from its start on, as many as it
holds. -/
theorem window_of (number : Nat) :
    (window count shared chunks.length number).of chunks
      = (chunks.drop (number * (count - shared))).take count := by
  simp only [Window.of, window]
  rw [List.take_eq_take_iff, List.length_drop]
  omega

/-- Chunks that fill a window are joined in windows that slide over them. -/
theorem mergeShared_slides (hshared : shared < count)
    (hlength : count ≤ chunks.length) :
    ∃ windows, Slides count shared chunks.length windows
      ∧ mergeShared count shared chunks = windows.map fun w =>
          join (w.of chunks) := by
  obtain ⟨last, hlast, hstarts⟩ := windowStarts_eq hshared hlength
  refine ⟨_, hlast.slides, ?_⟩
  have hfilled : chunks ≠ [] := List.ne_nil_of_length_pos (by omega)
  unfold mergeShared
  rw [if_neg (by simp [hfilled, hlength]), hstarts, List.map_map, List.map_map]
  apply List.map_congr_left
  intro number _
  simp only [Function.comp, window_of]

/-- Windows that share nothing are the groups of a plain merge. -/
theorem mergeShared_zero (hcount : 0 < count)
    (hlength : count ≤ chunks.length) :
    mergeShared count 0 chunks = merge count chunks := by
  have hfilled : chunks ≠ [] := List.ne_nil_of_length_pos (by omega)
  unfold mergeShared merge
  rw [if_neg (by simp [hfilled, hlength]), ← windows_eq_groupsOf hcount,
    List.map_map]
  rfl

end Intake.Chunk

namespace Intake.ChunkText

open Record (bind_eq_ok)

variable {o : StageOptions} {stage : ChunkText} {shared : Nat}

/-- Accepted options have windows share less than they hold. -/
theorem shared_lt_merged (hnew : new o = .ok stage)
    (hshared : stage.shared = some shared) :
    shared < stage.merged := by
  obtain ⟨merged, borrowed, h⟩ := new_ok hnew
  have hmerged := readMerged_ok h.readMerged
  obtain ⟨given, -, hread⟩ := bind_eq_ok.mp h.shared
  rw [hshared] at hread
  cases given with
  | none => cases hread
  | some i =>
      simp only at hread
      split at hread
      · cases hread
      · split at hread
        · cases hread
        · cases hread
          rw [h.merged]
          omega

/-- With accepted options, chunks that do not fill a window are left as they
are. All others are joined in windows that slide over them, with nothing
subtracted from less, and as in a plain merge if the windows share nothing. -/
theorem mergeShared_windows (hnew : new o = .ok stage)
    (hshared : stage.shared = some shared) (chunks : List (List Char)) :
    (chunks.length < stage.merged
      → Chunk.mergeShared stage.merged shared chunks = chunks)
      ∧ (stage.merged ≤ chunks.length →
          shared < stage.merged ∧ shared ≤ chunks.length
            ∧ (∃ windows,
                Chunk.Slides stage.merged shared chunks.length windows
                ∧ Chunk.mergeShared stage.merged shared chunks
                  = windows.map fun w => Chunk.join (w.of chunks))
            ∧ (shared = 0 → Chunk.mergeShared stage.merged shared chunks
                = Chunk.merge stage.merged chunks)) := by
  have hless := shared_lt_merged hnew hshared
  refine ⟨Chunk.mergeShared_of_lt, fun hlength => ⟨hless, by omega, ?_, ?_⟩⟩
  · exact Chunk.mergeShared_slides hless hlength
  · rintro rfl
    exact Chunk.mergeShared_zero hless hlength

/-- Windows of three paragraphs that share one. -/
def tripleOptions : StageOptions :=
  ⟨[("source", .text "body"), ("chunking_method", .text "paragraph"),
    ("chunks_to_merge", Json.ofLong 3), ("chunks_to_overlap", Json.ofLong 1)]⟩

/-- The stage that these options make. -/
def tripleStage : ChunkText :=
  { name := "chunk_text", source := "body", dest := "chunk",
    method := .paragraph, cleans := false,
    leastLength := none, greatestLength := none,
    merged := 3, shared := some 1, borrowed := 0,
    limit := none, started := false }

/-- The options are accepted and make the stage. -/
theorem tripleOptions_new : new tripleOptions = .ok tripleStage := rfl

/-- Six chunks. -/
def letters : List (List Char) := [['a'], ['b'], ['c'], ['d'], ['e'], ['f']]

/-- The letters come in windows, each of which shares a letter with the
next. -/
theorem mergeShared_windows_letters :
    new tripleOptions = .ok tripleStage ∧ tripleStage.shared = some 1
      ∧ 3 ≤ letters.length
      ∧ ∃ windows, Chunk.Slides 3 1 letters.length windows
          ∧ Chunk.mergeShared 3 1 letters = windows.map fun w =>
              Chunk.join (w.of letters) := by
  have hlength : tripleStage.merged ≤ letters.length := by decide
  have hwindows :=
    (mergeShared_windows tripleOptions_new rfl letters).2 hlength
  exact ⟨tripleOptions_new, rfl, hlength, hwindows.2.2.1⟩

-- the last window is shorter than the others
example :
    Chunk.mergeShared 3 1 letters
      = ["a b c".toList, "c d e".toList, "e f".toList] := by
  decide

end Intake.ChunkText
