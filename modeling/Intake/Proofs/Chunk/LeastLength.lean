/-
Joining neighbours to a least length.

The chunks are trimmed, so nothing is lost of them in between: a group of them
is joined as it is spaced, and its length with one more space is what is
counted of it (`counted_eq`). While chunks are taken into a group, every front
of it is short (`Open`); the chunk that ends this closes the group
(`closeGroups_closes`). What is left open at the end is short itself and goes
to the group before it, the only one that gets longer than it had to be.
-/
import Intake.Chunk.Sentence
import Intake.Proofs.Chunk.Ink
import Intake.Proofs.Text.Trim
import Mathlib.Data.List.Infix

namespace Intake.Chunk

open Text (Trimmed)

variable {least : Nat} {group chunks : List (List Char)}

-- ====================================================== spaced groups

theorem spaced_cons_cons (a b : List Char) (rest : List (List Char)) :
    spaced (a :: b :: rest) = a ++ (' ' :: spaced (b :: rest)) := by
  unfold spaced List.intercalate
  rw [List.intersperse_cons_cons, List.flatten_cons, List.flatten_cons,
    List.singleton_append]

/-- One space stands between two groups. -/
theorem spaced_append {a b : List (List Char)} (ha : a ≠ []) (hb : b ≠ []) :
    spaced (a ++ b) = spaced a ++ ' ' :: spaced b := by
  induction a with
  | nil => exact absurd rfl ha
  | cons chunk rest ih =>
      cases rest with
      | nil =>
          obtain ⟨next, others, rfl⟩ := List.exists_cons_of_ne_nil hb
          rw [List.singleton_append, spaced_cons_cons]
          simp [spaced]
      | cons next rest =>
          have hrest := ih (List.cons_ne_nil _ _)
          rw [List.cons_append, List.cons_append, spaced_cons_cons,
            ← List.cons_append, hrest, spaced_cons_cons, List.append_assoc]
          rfl

/-- A group of trimmed chunks is trimmed with the spaces between them. -/
theorem trimmed_spaced (hgroup : group ≠ [])
    (h : ∀ chunk ∈ group, Trimmed chunk) :
    Trimmed (spaced group) := by
  induction group with
  | nil => exact absurd rfl hgroup
  | cons chunk rest ih =>
      obtain ⟨hchunk, hrest⟩ := List.forall_mem_cons.mp h
      cases rest with
      | nil => simpa [spaced] using hchunk
      | cons next rest =>
          rw [spaced_cons_cons]
          exact hchunk.append (ih (List.cons_ne_nil _ _) hrest) [' ']

/-- Trimmed chunks are joined by spaces alone. -/
theorem join_eq_spaced (hgroup : group ≠ [])
    (h : ∀ chunk ∈ group, Trimmed chunk) :
    join group = spaced group :=
  (trimmed_spaced hgroup h).trim_eq

/-- The length of a group with a space counted behind every chunk. -/
def counted (group : List (List Char)) : Nat :=
  group.flatten.length + group.length

/-- A chunk adds its characters and one space to the count. -/
theorem counted_concat (group : List (List Char)) (chunk : List Char) :
    counted (group ++ [chunk]) = counted group + chunk.length + 1 := by
  unfold counted
  simp only [List.flatten_append, List.flatten_singleton, List.length_append,
    List.length_singleton]
  omega

/-- The count is one more than the length of the joined group. -/
theorem counted_eq (hgroup : group ≠ []) :
    counted group = (spaced group).length + 1 := by
  induction group with
  | nil => exact absurd rfl hgroup
  | cons chunk rest ih =>
      cases rest with
      | nil => simp [counted, spaced]
      | cons next rest =>
          have hrest := ih (List.cons_ne_nil _ _)
          unfold counted at hrest ⊢
          rw [spaced_cons_cons, List.flatten_cons]
          simp only [List.length_append, List.length_cons] at hrest ⊢
          omega

-- ===================================================== groups that are closed

/-- With one more space the joined group stays below the least length. -/
def Short (least : Nat) (group : List (List Char)) : Prop :=
  (spaced group).length + 1 < least

/-- The last chunk of the group is the first one that brings it to the least
length. -/
structure Closes (least : Nat) (group : List (List Char)) : Prop where
  filled : group ≠ []
  reaches : least ≤ (spaced group).length + 1
  first : ∀ front, front <+: group → front ≠ [] → front ≠ group
    → Short least front

/-- No chunk has brought the group to the least length. -/
def Open (least : Nat) (group : List (List Char)) : Prop :=
  ∀ front, front <+: group → front ≠ [] → Short least front

/-- A group without chunks has reached no length. -/
theorem open_nil (least : Nat) : Open least [] := by
  intro front hfront hne
  exact absurd (List.prefix_nil.mp hfront) hne

/-- A chunk leaves a group open that is still too short behind it. -/
theorem Open.concat {chunk : List Char} (h : Open least group)
    (hshort : counted (group ++ [chunk]) < least) :
    Open least (group ++ [chunk]) := by
  intro front hfront hne
  rcases List.prefix_concat_iff.mp hfront with rfl | hfront
  · rw [counted_eq hne] at hshort
    exact hshort
  · exact h front hfront hne

/-- A chunk closes an open group if it brings it to the least length. -/
theorem Open.closes {chunk : List Char} (h : Open least group)
    (hlong : least ≤ counted (group ++ [chunk])) :
    Closes least (group ++ [chunk]) where
  filled := by simp
  reaches := by
    rw [← counted_eq (by simp)]
    exact hlong
  first := by
    intro front hfront hne hother
    rcases List.prefix_concat_iff.mp hfront with rfl | hfront
    · exact absurd rfl hother
    · exact h front hfront hne

/-- From an open group on, groups are closed where they reach the least length,
and what is left is open. -/
theorem closeGroups_closes {length : Nat} (hlength : length = counted group)
    (hopen : Open least group) (chunks : List (List Char)) :
    (∀ closed ∈ (closeGroups least group length chunks).1, Closes least closed)
      ∧ Open least (closeGroups least group length chunks).2 := by
  fun_induction closeGroups least group length chunks with
  | case1 group length => exact ⟨List.forall_mem_nil _, hopen⟩
  | case2 group length chunk rest length' group' hshort ih =>
      have hcounted : length' = counted group' := by
        rw [counted_concat, ← hlength]
      rw [hcounted] at hshort
      exact ih hcounted (hopen.concat hshort)
  | case3 group length chunk rest length' group' hlong closed
      left hclosed ih =>
      have hcounted : length' = counted group' := by
        rw [counted_concat, ← hlength]
      rw [hcounted, Nat.not_lt] at hlong
      obtain ⟨hall, hleft⟩ := ih rfl (open_nil least)
      rw [hclosed] at hall hleft
      exact ⟨List.forall_mem_cons.mpr ⟨hopen.closes hlong, hall⟩, hleft⟩

-- ====================================================== all groups

/-- The groups of chunks that are joined: all but the last one are closed by
their last chunks, and the last one too but for a tail that is short by itself.
If no group is closed there is one group only. -/
structure Grouped (least : Nat) (chunks : List (List Char))
    (groups : List (List (List Char))) :
    Prop where
  flatten : groups.flatten = chunks
  filled : ∀ group ∈ groups, group ≠ []
  closes : ∀ group ∈ groups.dropLast, Closes least group
  last : ∃ head tail, groups.getLast? = some (head ++ tail)
    ∧ (Closes least head ∨ head = [] ∧ groups.length = 1)
    ∧ (tail = [] ∨ Short least tail)

/-- A tail makes a group longer. -/
theorem length_spaced_le {head : List (List Char)} (hhead : head ≠ [])
    (tail : List (List Char)) :
    (spaced head).length ≤ (spaced (head ++ tail)).length := by
  by_cases htail : tail = []
  · rw [htail, List.append_nil]
  · rw [spaced_append hhead htail, List.length_append]
    exact Nat.le_add_right _ _

/-- There is one group, or all groups have the least length. -/
theorem Grouped.long {groups : List (List (List Char))}
    (h : Grouped least chunks groups) :
    groups.length = 1
      ∨ ∀ group ∈ groups, least ≤ (spaced group).length + 1 := by
  obtain ⟨head, tail, hlast, hhead, -⟩ := h.last
  rcases hhead with hhead | ⟨-, hone⟩
  · right
    intro group hgroup
    rw [← List.dropLast_append_getLast? _ hlast, List.mem_append,
      List.mem_singleton] at hgroup
    rcases hgroup with hgroup | rfl
    · exact (h.closes group hgroup).reaches
    · have hreaches := hhead.reaches
      have hlength := length_spaced_le hhead.filled tail
      omega
  · exact Or.inl hone

/-- Chunks that close no group are one group. -/
theorem grouped_open (hfilled : group ≠ []) (hopen : Open least group) :
    Grouped least group [group] where
  flatten := List.flatten_singleton
  filled := List.forall_mem_singleton.mpr hfilled
  closes := List.forall_mem_nil _
  last := ⟨[], group, rfl, Or.inr ⟨rfl, rfl⟩,
    Or.inr (hopen group List.prefix_rfl hfilled)⟩

/-- Behind closed groups an open one goes to the last of them. -/
theorem grouped_concat {others : List (List (List Char))}
    {head tail : List (List Char)}
    (hothers : ∀ group ∈ others, Closes least group)
    (hhead : Closes least head) (hopen : Open least tail) :
    Grouped least ((others ++ [head]).flatten ++ tail)
      (others ++ [head ++ tail]) where
  flatten := by simp
  filled := by
    intro group hgroup
    rcases List.mem_append.mp hgroup with hgroup | hgroup
    · exact (hothers group hgroup).filled
    · rw [List.mem_singleton.mp hgroup]
      exact List.append_ne_nil_of_left_ne_nil hhead.filled tail
  closes := by
    rw [List.dropLast_concat]
    exact hothers
  last := by
    refine ⟨head, tail, List.getLast?_concat, Or.inl hhead, ?_⟩
    by_cases htail : tail = []
    · exact Or.inl htail
    · exact Or.inr (hopen tail List.prefix_rfl htail)

-- ====================================================== joined groups

/-- The open group goes behind the last closed one, which is joined already. -/
theorem foldTail_concat {others : List (List Char)}
    {head tail : List (List Char)} (hhead : head ≠ [])
    (h : ∀ chunk ∈ head ++ tail, Trimmed chunk) :
    foldTail (others ++ [join head]) tail
      = others ++ [spaced (head ++ tail)] := by
  have hjoin : join head = spaced head :=
    join_eq_spaced hhead fun chunk hchunk =>
      h chunk (List.mem_append_left _ hchunk)
  have hspaced : Trimmed (spaced (head ++ tail)) :=
    trimmed_spaced (by simp [hhead]) h
  unfold foldTail
  by_cases htail : tail = []
  · rw [if_pos (by simp [htail]), hjoin, htail, List.append_nil]
  · rw [if_neg (by simp [htail]), List.getLast?_concat]
    simp only [List.dropLast_concat]
    rw [hjoin, ← spaced_append hhead htail, hspaced.trim_eq]

/-- The groups that are closed and the one that is left make groups of all
chunks, be the last one closed or not. -/
theorem foldTail_grouped {closed : List (List (List Char))}
    {left : List (List Char)} (hclosed : ∀ group ∈ closed, Closes least group)
    (hopen : Open least left) (hflatten : closed.flatten ++ left = chunks)
    (hchunks : ∀ chunk ∈ chunks, Trimmed chunk) (hfilled : chunks ≠ []) :
    ∃ groups, Grouped least chunks groups
      ∧ foldTail (closed.map join) left = groups.map spaced := by
  subst hflatten
  rcases List.eq_nil_or_concat' closed with rfl | ⟨others, head, rfl⟩
  · -- nothing is closed, so all chunks are left
    rw [List.flatten_nil, List.nil_append] at hchunks hfilled ⊢
    refine ⟨[left], grouped_open hfilled hopen, ?_⟩
    unfold foldTail
    rw [if_neg (by simp [hfilled])]
    show [join left] = [spaced left]
    rw [join_eq_spaced hfilled hchunks]
  · rw [List.forall_mem_append, List.forall_mem_singleton] at hclosed
    obtain ⟨hothers, hhead⟩ := hclosed
    refine ⟨others ++ [head ++ left], grouped_concat hothers hhead hopen, ?_⟩
    simp only [List.flatten_append, List.flatten_singleton,
      List.append_assoc] at hchunks
    rw [List.forall_mem_append] at hchunks
    obtain ⟨hbefore, hlast⟩ := hchunks
    have hjoined : others.map join = others.map spaced := by
      apply List.map_congr_left
      intro group hgroup
      apply join_eq_spaced (hothers group hgroup).filled
      exact fun chunk hchunk =>
        hbefore chunk (List.mem_flatten_of_mem hgroup hchunk)
    rw [List.map_append, List.map_singleton,
      foldTail_concat hhead.filled hlast, hjoined, List.map_append,
      List.map_singleton]

/-- Trimmed chunks are joined, with spaces, in groups of neighbours that are
closed as soon as they reach the least length, and every text has this length,
counting one more space, unless it is the only one. -/
theorem mergeToLength_grouped (least : Nat) (hcount : 2 ≤ chunks.length)
    (hchunks : ∀ chunk ∈ chunks, Trimmed chunk) :
    ∃ groups, Grouped least chunks groups
      ∧ mergeToLength least chunks = groups.map spaced
      ∧ ((mergeToLength least chunks).length = 1
          ∨ ∀ text ∈ mergeToLength least chunks, least ≤ text.length + 1) := by
  obtain ⟨hclosed, hleft⟩ := closeGroups_closes rfl (open_nil least) chunks
  have hfilled : chunks ≠ [] := List.ne_nil_of_length_pos (by omega)
  obtain ⟨groups, hgroups, htexts⟩ :=
    foldTail_grouped hclosed hleft (flatten_closeGroups least [] 0 chunks)
      hchunks hfilled
  have hmerged : mergeToLength least chunks = groups.map spaced := by
    unfold mergeToLength
    rw [if_neg (by omega)]
    exact htexts
  refine ⟨groups, hgroups, hmerged, ?_⟩
  rw [hmerged, List.length_map, List.forall_mem_map]
  exact hgroups.long

end Intake.Chunk

namespace Intake.Sentence

open Text (Trimmed)

/-- A sentence that is kept was trimmed and is not blank. -/
theorem trimmed_of_mem_trimmed {cs sentence : List Char}
    (h : sentence ∈ trimmed cs) :
    Trimmed sentence := by
  unfold trimmed at h
  split at h
  · cases h
  · next hblank =>
      rw [List.mem_singleton.mp h]
      exact Text.trimmed_trim (by simpa using hblank)

/-- Every sentence is trimmed, whatever sentence was begun. -/
theorem trimmed_of_mem_detectFrom {reversed cs sentence : List Char}
    (h : sentence ∈ detectFrom reversed cs) : Trimmed sentence := by
  fun_induction detectFrom reversed cs with
  | case1 reversed => exact trimmed_of_mem_trimmed h
  | case2 reversed c cs hc run reversed' hends ih =>
      rcases List.mem_append.mp h with h | h
      · exact trimmed_of_mem_trimmed h
      · exact ih h
  | case3 reversed c cs hc run reversed' hgoes ih => exact ih h
  | case4 reversed c cs hc ih => exact ih h

/-- The sentences of a text can be joined to a least length. -/
theorem trimmed_of_mem_detect {text sentence : List Char}
    (h : sentence ∈ detect text) :
    Trimmed sentence :=
  trimmed_of_mem_detectFrom h

end Intake.Sentence

namespace Intake.Chunk

/-- A text of four short sentences. -/
def answers : List Char := "Is it? It is. So be it. No!".toList

/-- Four sentences are found there. -/
theorem length_detect_answers : (Sentence.detect answers).length = 4 :=
  by decide +kernel

/-- The four sentences can be grouped, as there are more than one. -/
theorem mergeToLength_grouped_answers :
    2 ≤ (Sentence.detect answers).length
      ∧ ∃ groups, Grouped 12 (Sentence.detect answers) groups
          ∧ mergeToLength 12 (Sentence.detect answers)
              = groups.map spaced := by
  have hcount : 2 ≤ (Sentence.detect answers).length := by
    rw [length_detect_answers]
    decide
  obtain ⟨groups, hgroups, htexts, -⟩ :=
    mergeToLength_grouped 12 hcount fun _ => Sentence.trimmed_of_mem_detect
  exact ⟨hcount, groups, hgroups, htexts⟩

-- `No!` is too short for a group of its own
example : mergeToLength 12 (Sentence.detect answers)
    = ["Is it? It is.".toList, "So be it. No!".toList] := by decide +kernel

end Intake.Chunk
