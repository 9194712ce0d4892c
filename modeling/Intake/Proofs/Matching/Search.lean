/-
What the search for terms tells: every occurrence of every term, once.

`Hit.Marks` says that a hit tells the truth about a text: the term of its index
stands there, between the offsets of the hit. It is said once for octets and
for characters, which are as wide as the octets they are written in.

The search reads a text from its beginning and looks at the end of what it has
read. So the invariant is on the part that is read: what is still to be told
are the occurrences that end behind it (`mem_searchBehind`).
-/
import Intake.Matching.WordMatcher

namespace Intake

/-- The term of a hit stands in a text where the hit says, between what is
before it and what is after it. -/
structure Hit.Marks {α : Type} (width : List α → Nat) (terms : List (List α))
    (text before word after : List α) (hit : Hit) : Prop where
  term : terms[hit.term]? = some word
  text : text = before ++ word ++ after
  start : hit.start = width before
  stop : hit.stop = width (before ++ word)

/-- A hit stays where it is when more text comes behind. -/
theorem Hit.Marks.append {α : Type} {width : List α → Nat}
    {terms : List (List α)} {text before word after : List α} {hit : Hit}
    (h : hit.Marks width terms text before word after) (more : List α) :
    hit.Marks width terms (text ++ more) before word (after ++ more) :=
  { h with text := by rw [h.text, List.append_assoc] }

namespace WordMatcher

variable {terms : List (List UInt8)} {read rest text : List UInt8} {hit : Hit}
  {stop : Nat}

-- =================================================== occurrences with one end

/-- What is found behind an octet ends there. -/
theorem stop_of_mem_endingBehind (h : hit ∈ endingBehind terms stop read) :
    hit.stop = stop := by
  obtain ⟨⟨term, index⟩, -, hhit⟩ := List.mem_filterMap.mp h
  rw [Option.ite_none_right_eq_some] at hhit
  rw [← Option.some.inj hhit.2]

/-- They are told in the order of their terms. -/
theorem endingBehind_pairwise (terms : List (List UInt8)) (stop : Nat)
    (read : List UInt8) :
    (endingBehind terms stop read).Pairwise fun a b => a.term < b.term := by
  rw [endingBehind, List.pairwise_filterMap]
  have hindex : terms.zipIdx.Pairwise fun a b => a.2 < b.2 := by
    rw [← List.pairwise_map (f := Prod.snd) (R := (· < ·)),
      List.zipIdx_map_snd]
    exact List.pairwise_lt_range'
  refine hindex.imp fun {a b} hlt x hx y hy => ?_
  rw [Option.ite_none_right_eq_some] at hx hy
  rw [← Option.some.inj hx.2, ← Option.some.inj hy.2]
  exact hlt

/-- Behind one octet no term is found twice. -/
theorem nodup_endingBehind (terms : List (List UInt8)) (stop : Nat)
    (read : List UInt8) :
    (endingBehind terms stop read).Nodup := by
  refine (endingBehind_pairwise terms stop read).imp fun hlt heq => ?_
  rw [heq] at hlt
  exact Nat.lt_irrefl _ hlt

/-- The occurrences that end behind some octets are the terms that these end
with. -/
theorem mem_endingBehind :
    hit ∈ endingBehind (terms.map List.reverse) read.length read
      ↔ ∃ before word,
          hit.Marks List.length terms read.reverse before word [] := by
  rw [endingBehind, List.mem_filterMap]
  constructor
  · rintro ⟨⟨term, index⟩, hterm, hhit⟩
    rw [Option.ite_none_right_eq_some, List.isPrefixOf_iff_prefix] at hhit
    obtain ⟨⟨others, rfl⟩, hhit⟩ := hhit
    obtain rfl := Option.some.inj hhit
    rw [List.mem_zipIdx_iff_getElem?, List.getElem?_map,
      Option.map_eq_some_iff] at hterm
    obtain ⟨word, hword, rfl⟩ := hterm
    refine ⟨others.reverse, word, hword, ?_, ?_, ?_⟩
    · rw [List.reverse_append, List.reverse_reverse, List.append_nil]
    · simp
    · simp [Nat.add_comm]
  · rintro ⟨before, word, hmarks⟩
    have hread : read = word.reverse ++ before.reverse := by
      rw [← List.reverse_append, ← List.append_nil (before ++ word),
        ← hmarks.text, List.reverse_reverse]
    refine ⟨(word.reverse, hit.term), ?_, ?_⟩
    · rw [List.mem_zipIdx_iff_getElem?, List.getElem?_map, hmarks.term]
      rfl
    · rw [Option.ite_none_right_eq_some, List.isPrefixOf_iff_prefix]
      refine ⟨⟨before.reverse, hread.symm⟩, congrArg some ?_⟩
      obtain ⟨term, start, stop⟩ := hit
      obtain ⟨-, -, rfl, rfl⟩ := hmarks
      simp [hread, Nat.add_comm]

-- ====================================================== all occurrences

/-- What is found later ends later. -/
theorem lt_of_mem_searchBehind (h : hit ∈ searchBehind terms stop read rest) :
    stop < hit.stop := by
  induction rest generalizing stop read with
  | nil => cases h
  | cons b rest ih =>
      rw [searchBehind, List.mem_append] at h
      rcases h with h | h
      · rw [stop_of_mem_endingBehind h]
        exact Nat.lt_succ_self stop
      · exact Nat.lt_of_succ_lt (ih h)

/-- No hit is found twice, as each place is looked at once. -/
theorem nodup_searchBehind (terms : List (List UInt8)) (rest : List UInt8) :
    ∀ (stop : Nat) (read : List UInt8),
      (searchBehind terms stop read rest).Nodup := by
  induction rest with
  | nil => exact fun _ _ => List.nodup_nil
  | cons b rest ih =>
      intro stop read
      rw [searchBehind, List.nodup_append]
      refine ⟨nodup_endingBehind _ _ _, ih _ _, fun x hx y hy hxy => ?_⟩
      have hlt := lt_of_mem_searchBehind hy
      rw [← hxy, stop_of_mem_endingBehind hx] at hlt
      exact Nat.lt_irrefl _ hlt

/-- Occurrences that end together are told in the order of their terms. -/
theorem searchBehind_pairwise (terms : List (List UInt8)) (rest : List UInt8) :
    ∀ (stop : Nat) (read : List UInt8),
      (searchBehind terms stop read rest).Pairwise fun a b => a.stop = b.stop
        → a.term < b.term := by
  induction rest with
  | nil => exact fun _ _ => List.Pairwise.nil
  | cons b rest ih =>
      intro stop read
      rw [searchBehind, List.pairwise_append]
      refine ⟨?_, ih _ _, fun x hx y hy hstop => ?_⟩
      · refine (endingBehind_pairwise terms (stop + 1) (b :: read)).imp ?_
        exact fun hlt _ => hlt
      · have hlt := lt_of_mem_searchBehind hy
        rw [← hstop, stop_of_mem_endingBehind hx] at hlt
        exact absurd hlt (Nat.lt_irrefl _)

/-- What is still to be told are the occurrences that end behind what is
read. -/
theorem mem_searchBehind :
    hit ∈ searchBehind (terms.map List.reverse) read.length read rest
      ↔ read.length < hit.stop ∧ ∃ before word after,
          hit.Marks List.length terms (read.reverse ++ rest)
            before word after := by
  induction rest generalizing read with
  | nil =>
      refine iff_of_false List.not_mem_nil ?_
      rintro ⟨hlt, before, word, after, hmarks⟩
      have hlength := congrArg List.length hmarks.text
      rw [List.append_nil, List.length_reverse, List.length_append,
        ← hmarks.stop] at hlength
      omega
  | cons b rest ih =>
      have htext : read.reverse ++ b :: rest
        = (b :: read).reverse ++ rest := by simp
      have hstop : read.length + 1 = (b :: read).length := rfl
      rw [searchBehind, List.mem_append, htext, hstop, mem_endingBehind, ih]
      constructor
      · rintro (⟨before, word, hmarks⟩ | ⟨hlt, hmarks⟩)
        · refine ⟨?_, before, word, rest, hmarks.append rest⟩
          rw [hmarks.stop, ← List.append_nil (before ++ word), ← hmarks.text,
            List.length_reverse]
          exact Nat.lt_succ_self _
        · exact ⟨Nat.lt_of_succ_lt hlt, hmarks⟩
      · rintro ⟨hlt, before, word, after, hmarks⟩
        by_cases hend : hit.stop = (b :: read).length
        · left
          have hlength :
              (b :: read).reverse.length = (before ++ word).length := by
            rw [List.length_reverse, ← hend, hmarks.stop]
          obtain ⟨hread, -⟩ := List.append_inj hmarks.text hlength
          exact ⟨before, word, hmarks.term,
            by rw [hread, List.append_nil], hmarks.start,
            hmarks.stop⟩
        · exact Or.inr ⟨Nat.lt_of_le_of_ne hlt (Ne.symm hend),
            before, word, after, hmarks⟩

/-- The search tells an occurrence once. -/
theorem nodup_search (terms : List (List UInt8)) (text : List UInt8) :
    (search terms text).Nodup :=
  nodup_searchBehind _ _ _ _

/-- The search tells every occurrence of terms that are not empty. -/
theorem mem_search (hfilled : ∀ term ∈ terms, term ≠ []) :
    hit ∈ search terms text ↔ ∃ before word after,
      hit.Marks List.length terms text before word after := by
  have hread := @mem_searchBehind terms [] text hit
  rw [List.length_nil, List.reverse_nil, List.nil_append] at hread
  rw [search, hread]
  refine and_iff_right_of_imp ?_
  rintro ⟨before, word, after, hmarks⟩
  have hword :=
    List.length_pos_iff.mpr (hfilled word (List.mem_of_getElem? hmarks.term))
  rw [hmarks.stop, List.length_append]
  exact Nat.add_pos_right _ hword

end WordMatcher

end Intake
