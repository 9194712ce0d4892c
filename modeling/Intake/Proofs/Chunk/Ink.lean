/-
Cutting a text and joining the pieces keeps its ink.

Every splitter is followed along its own recursion: what it has put aside and
what it still has to read make up the text at every step, but for white space
that it leaves out. Pieces of one size leave nothing out, paragraphs the runs
between them, sentences what is trimmed off them.

What comes behind the splitters takes pieces to pieces. Cleaning works on one
piece; the merges work on groups of neighbours, so all there is to say of them
is that the groups, one behind the other, are the pieces in order
(`flatten_groupsOf`, `flatten_closeGroups`), and that joining a group puts in
or takes out white space only.
-/
import Intake.Chunk.Clean
import Intake.Chunk.Merge
import Intake.Chunk.Sentence
import Intake.Proofs.Text.Ink

namespace Intake

open Text (ink isWhitespace trim)

-- ====================================================== white space

namespace Chunk

/-- Line breaks are white space. -/
theorem isWhitespace_of_isLineBreak {c : Char} (h : isLineBreak c = true) :
    isWhitespace c = true := by
  simp only [isLineBreak, Bool.or_eq_true, beq_iff_eq] at h
  rcases h with (((((rfl | rfl) | rfl) | rfl) | rfl) | rfl) | rfl <;> decide

/-- Separators are white space. -/
theorem isWhitespace_of_isSeparator {c : Char} (h : isSeparator c = true) :
    isWhitespace c = true := by
  simp only [isSeparator, Bool.or_eq_true, beq_iff_eq] at h
  rcases h with (rfl | rfl) | h
  · decide
  · decide
  · exact isWhitespace_of_isLineBreak h

/-- Blanks are white space. -/
theorem isWhitespace_of_isAsciiBlank {c : Char} (h : isAsciiBlank c = true) :
    isWhitespace c = true := by
  simp only [isAsciiBlank, Bool.or_eq_true, beq_iff_eq] at h
  rcases h with ((((rfl | rfl) | rfl) | rfl) | rfl) | rfl <;> decide

-- ====================================================== pieces of one size

/-- Groups of one size leave nothing out. -/
theorem flatten_groupsOf {α : Type} (size : Nat) (items : List α) :
    (groupsOf size items).flatten = items := by
  fun_induction groupsOf size items with
  | case1 => rfl
  | case2 x xs ih =>
      rw [List.flatten_cons, ih, List.cons_append, List.take_append_drop]

-- ====================================================== paragraphs

/-- Dividing into paragraphs loses nothing but white space, whatever piece was
begun. -/
theorem ink_paragraphsFrom (reversed cs : List Char) :
    ink (paragraphsFrom reversed cs).flatten
      = ink (reversed.reverse ++ cs) := by
  fun_induction paragraphsFrom reversed cs with
  | case1 reversed => simp
  | case2 reversed c cs hc run rest hbreaks ih =>
      have hrest : ink rest = ink cs :=
        Text.ink_dropWhile (fun _ => isWhitespace_of_isSeparator) cs
      rw [List.flatten_cons, Text.ink_append, ih, List.reverse_nil,
        List.nil_append, hrest, Text.ink_append,
        Text.ink_cons_of_isWhitespace (isWhitespace_of_isSeparator hc)]
  | case3 reversed c cs hc run rest hbreaks ih =>
      have hrun : run ++ rest = c :: cs :=
        congrArg (c :: ·) (List.takeWhile_append_dropWhile (p := isSeparator))
      rw [ih, List.reverse_append, List.reverse_reverse, List.append_assoc,
        hrun]
  | case4 reversed c cs hc ih =>
      rw [ih, List.reverse_cons, List.append_assoc]
      rfl

/-- Pieces without characters do not count. -/
theorem flatten_dropTrailingEmpty (pieces : List (List Char)) :
    (dropTrailingEmpty pieces).flatten = pieces.flatten := by
  have hlast (last : List (List Char)) :
      (last.dropWhile List.isEmpty).reverse.flatten
        = last.reverse.flatten := by
    induction last with
    | nil => rfl
    | cons piece last ih =>
        cases piece with
        | nil =>
            rw [List.reverse_cons, List.flatten_append, ← ih]
            exact (List.append_nil _).symm
        | cons c cs => rfl
  rw [dropTrailingEmpty, hlast, List.reverse_reverse]

/-- A text and its paragraphs have the same ink. -/
theorem ink_paragraphs (text : List Char) :
    ink (paragraphs text).flatten = ink text := by
  rw [paragraphs, flatten_dropTrailingEmpty, ink_paragraphsFrom]
  rfl

-- ====================================================== cleaning

/-- Joining the lines of a chunk takes no ink. -/
theorem ink_joinLines (cs : List Char) : ink (joinLines cs) = ink cs := by
  have hdrop :=
    Text.ink_dropWhile fun c => isWhitespace_of_isAsciiBlank (c := c)
  fun_induction joinLines cs with
  | case1 => rfl
  | case2 c cs hc rest hwide ih =>
      -- the break behind the blanks goes too
      have hbreak : ink (rest.drop 1) = ink rest := by
        cases hrest : rest with
        | nil => rfl
        | cons d ds =>
            rw [hrest, startsWide, Bool.and_eq_true] at hwide
            exact (Text.ink_cons_of_isWhitespace
              (isWhitespace_of_isLineBreak hwide.1) ds).symm
      rw [Text.ink_space, ih, hdrop, hbreak, hdrop,
        Text.ink_cons_of_isWhitespace (isWhitespace_of_isAsciiBlank hc)]
  | case3 c cs hc run rest hwide ih =>
      have hrun : ink run = [] := by
        rw [Text.ink_cons_of_isWhitespace (isWhitespace_of_isAsciiBlank hc)]
        exact Text.ink_takeWhile (fun c => isWhitespace_of_isAsciiBlank) cs
      have hjoined : ink (if run.any isLineBreak then [' '] else run)
          = [] := by
        split
        · exact Text.ink_space []
        · exact hrun
      rw [Text.ink_append, hjoined, List.nil_append, ih, hdrop,
        Text.ink_cons_of_isWhitespace (isWhitespace_of_isAsciiBlank hc)]
  | case4 c cs hc hbreak ih =>
      rw [Text.ink_space, ih, hdrop,
        Text.ink_cons_of_isWhitespace (isWhitespace_of_isLineBreak hbreak)]
  | case5 c cs hc hbreak ih => rw [Text.ink_cons, ih, ← Text.ink_cons]

/-- Cleaning a chunk takes no ink. -/
theorem ink_clean (chunk : List Char) : ink (clean chunk) = ink chunk := by
  rw [clean, Text.ink_trim, ink_joinLines]

-- ====================================================== groups of pieces

/-- Joining with spaces adds no ink. -/
theorem ink_spaced (group : List (List Char)) :
    ink (spaced group) = ink group.flatten := by
  rw [spaced, List.intercalate]
  induction group with
  | nil => rfl
  | cons chunk group ih =>
      cases group with
      | nil => rfl
      | cons next group =>
          rw [List.intersperse_cons_cons, List.flatten_cons, List.flatten_cons,
            Text.ink_append, List.singleton_append, Text.ink_space, ih,
            ← Text.ink_append, ← List.flatten_cons]

/-- Joining chunks takes no ink; they are trimmed when they are joined. -/
theorem ink_join (group : List (List Char)) :
    ink (join group) = ink group.flatten := by
  rw [join, Text.ink_trim, ink_spaced]

/-- Joined groups have the ink of all their pieces. -/
theorem ink_map_join (groups : List (List (List Char))) :
    ink (groups.map join).flatten = ink groups.flatten.flatten := by
  rw [Text.ink_flatten_map fun group _ => ink_join group,
    ← List.flatten_flatten]

/-- Merging chunks in groups takes no ink. -/
theorem ink_merge (count : Nat) (chunks : List (List Char)) :
    ink (merge count chunks).flatten = ink chunks.flatten := by
  rw [merge, ink_map_join, flatten_groupsOf]

-- ====================================================== a least length

/-- The closed groups and the open one are the pieces in order. -/
theorem flatten_closeGroups (least : Nat) (group : List (List Char))
    (length : Nat) (chunks : List (List Char)) :
    (closeGroups least group length chunks).1.flatten
      ++ (closeGroups least group length chunks).2 = group ++ chunks := by
  fun_induction closeGroups least group length chunks with
  | case1 group length => simp
  | case2 group length chunk rest length' group' hshort ih =>
      simpa [group'] using ih
  | case3 group length chunk rest length' group' hlong closed
      left hclosed ih =>
      rw [hclosed] at ih
      rw [List.flatten_cons, List.append_assoc, ih]
      simp [group']

/-- The chunks that were left over keep their ink when they go to the last
group. -/
theorem ink_foldTail (closed left : List (List Char)) :
    ink (foldTail closed left).flatten
      = ink (closed.flatten ++ left.flatten) := by
  rw [foldTail]
  split
  · next hleft => simp [List.isEmpty_iff.mp hleft]
  · split
    · next hclosed => simp [List.getLast?_eq_none_iff.mp hclosed, ink_join]
    · next last hlast =>
        obtain ⟨others, rfl⟩ := List.getLast?_eq_some_iff.mp hlast
        simp [ink_spaced]

/-- Merging chunks to a least length takes no ink. -/
theorem ink_mergeToLength (least : Nat) (chunks : List (List Char)) :
    ink (mergeToLength least chunks).flatten = ink chunks.flatten := by
  have hgroups := flatten_closeGroups least [] 0 chunks
  rw [mergeToLength]
  split
  · rfl
  · rw [ink_foldTail, Text.ink_append, ink_map_join, ← Text.ink_append,
      ← List.flatten_append, hgroups]
    rfl

-- ====================================================== windows

/-- One more group is needed for every `count` items. -/
theorem groups_succ {count length : Nat} (hcount : 0 < count)
    (hlength : 0 < length) :
    (length + count - 1) / count
      = (length - count + count - 1) / count + 1 := by
  rw [← Nat.add_div_right _ hcount]
  by_cases hfull : count ≤ length
  · congr 1
    omega
  · have hless : length - count = 0 := by omega
    rw [hless, Nat.div_eq_of_lt_le (k := 1) (by omega) (by omega),
      Nat.div_eq_of_lt_le (k := 1) (by omega) (by omega)]

/-- Windows that share nothing are groups of one size. -/
theorem windows_eq_groupsOf {α : Type} {count : Nat} (hcount : 0 < count)
    (items : List α) :
    (windowStarts count 0 items.length).map
      (fun start => (items.drop start).take count)
      = groupsOf count items := by
  simp only [windowStarts, Nat.sub_zero, List.map_map]
  fun_induction groupsOf count items with
  | case1 =>
      rw [List.length_nil, Nat.zero_add, Nat.div_eq_of_lt (by omega)]
      rfl
  | case2 x xs ih =>
      obtain ⟨size, rfl⟩ :=
        Nat.exists_eq_add_one_of_ne_zero (show count ≠ 0 by omega)
      rw [groups_succ hcount (by simp), List.range_succ_eq_map, List.map_cons,
        List.map_map, ← ih, List.length_drop, List.length_cons,
        Nat.add_sub_add_right, Nat.add_sub_cancel]
      congr 1
      · simp
      refine List.map_congr_left fun i _ => ?_
      have hstart : (i + 1) * (size + 1) = size + i * (size + 1) + 1 := by
        rw [Nat.add_mul, Nat.one_mul]
        omega
      simp only [Function.comp, Nat.succ_eq_add_one, hstart,
        List.drop_succ_cons, List.drop_drop]

/-- Merging chunks in windows that share none takes no ink. -/
theorem ink_mergeShared {count : Nat} (hcount : 0 < count)
    (chunks : List (List Char)) :
    ink (mergeShared count 0 chunks).flatten = ink chunks.flatten := by
  rw [mergeShared]
  split
  · rfl
  · have hwindows :=
      congrArg (List.map join) (windows_eq_groupsOf hcount chunks)
    rw [List.map_map] at hwindows
    exact (congrArg (fun texts => ink (List.flatten texts)) hwindows).trans
      (ink_merge count chunks)

end Chunk

-- ====================================================== sentences

namespace Sentence

/-- Splitting off a run divides the text. -/
theorem splitRun_append (cs : List Char) :
    (splitRun cs).1 ++ (splitRun cs).2 = cs := by
  simp only [splitRun, List.append_assoc, List.takeWhile_append_dropWhile]

/-- A run goes over from the text ahead to the text in reverse. -/
theorem reverse_splitRun (reversed : List Char) (c : Char) (cs : List Char) :
    ((splitRun cs).1.reverse ++ c :: reversed).reverse ++ (splitRun cs).2
      = reversed.reverse ++ c :: cs := by
  rw [List.reverse_append, List.reverse_reverse, List.reverse_cons,
    List.append_assoc, splitRun_append, List.append_assoc]
  rfl

/-- Trimming a sentence takes no ink, nor does leaving a blank one out. -/
theorem ink_trimmed (cs : List Char) : ink (trimmed cs).flatten = ink cs := by
  rw [trimmed]
  split
  · next hblank => exact (Text.ink_of_isBlank hblank).symm
  · simp

/-- Finding sentences takes no ink, whatever sentence was begun. -/
theorem ink_detectFrom (reversed cs : List Char) :
    ink (detectFrom reversed cs).flatten = ink (reversed.reverse ++ cs) := by
  fun_induction detectFrom reversed cs with
  | case1 reversed => rw [ink_trimmed, List.append_nil]
  | case2 reversed c cs hc run reversed' hends ih =>
      rw [List.flatten_append, Text.ink_append, ink_trimmed, ih,
        List.reverse_nil, List.nil_append, ← Text.ink_append, reverse_splitRun]
  | case3 reversed c cs hc run reversed' hgoes ih =>
      rw [ih, reverse_splitRun]
  | case4 reversed c cs hc ih =>
      rw [ih, List.reverse_cons, List.append_assoc]
      rfl

/-- A text and its sentences have the same ink. -/
theorem ink_detect (text : List Char) : ink (detect text).flatten = ink text :=
  ink_detectFrom [] text

end Sentence

end Intake
