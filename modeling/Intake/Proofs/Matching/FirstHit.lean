/-
The order of hits, down to hits that span the same octets.

Two terms can be the same as they are compared, and their hits then have the
same span. Sorting keeps these in the order of the search, which tells the hits
with one end in the order of their terms. So of all hits in a text the first is
the leftmost, of those the longest, and of those the one of the earliest term
(`precedes_of_head?`).

A hit of the whole text leads all others, and none begins behind it. So where a
text is a term, resolving overlaps leaves the hit of the first such term alone.
-/
import Intake.Proofs.Matching.Leftmost

namespace Intake

-- ============================================ sorting keeps the order of ties

section ties

variable {α : Type} {a b : α} {l : List α}

/-- Of two elements of a list, one stands in front of the other. -/
theorem pair_sublist_or (ha : a ∈ l) (hb : b ∈ l) (hne : a ≠ b) :
    [a, b].Sublist l ∨ [b, a].Sublist l := by
  induction l with
  | nil => cases ha
  | cons c l ih =>
      rcases List.mem_cons.mp ha with rfl | hal
      · have hbl := (List.mem_cons.mp hb).resolve_left (Ne.symm hne)
        exact .inl ((List.singleton_sublist.mpr hbl).cons_cons a)
      · rcases List.mem_cons.mp hb with rfl | hbl
        · exact .inr ((List.singleton_sublist.mpr hal).cons_cons b)
        · exact (ih hal hbl).imp (·.cons c) (·.cons c)

/-- Without repetitions no two members stand in either order. -/
theorem not_pair_sublist_swap (hl : l.Nodup) (hab : [a, b].Sublist l) :
    ¬[b, a].Sublist l := by
  intro hba
  induction l with
  | nil => cases hab
  | cons c l ih =>
      obtain ⟨hc, hl⟩ := List.nodup_cons.mp hl
      cases hab with
      | cons _ hab =>
          cases hba with
          | cons _ hba => exact ih hl hab hba
          | cons_cons _ ha =>
              exact hc (hab.subset (List.mem_cons_of_mem _ List.mem_cons_self))
      | cons_cons _ hb =>
          cases hba with
          | cons _ hba =>
              exact hc (hba.subset (List.mem_cons_of_mem _ List.mem_cons_self))
          | cons_cons _ ha => exact hc (List.singleton_sublist.mp hb)

/-- What holds between the members of a list in their order holds after sorting
between those that sorting sees no difference in. -/
theorem pairwise_mergeSort_ties (le : α → α → Bool) {R : α → α → Prop}
    (htrans : ∀ a b c, le a b = true → le b c = true → le a c = true)
    (htotal : ∀ a b, (le a b || le b a) = true) (hl : l.Nodup)
    (h : l.Pairwise R) :
    (l.mergeSort le).Pairwise fun a b => le b a = true → R a b := by
  rw [List.pairwise_iff_forall_sublist]
  intro a b hab hle
  have hsorted : (l.mergeSort le).Nodup :=
    (List.mergeSort_perm l le).nodup_iff.mpr hl
  have hne : a ≠ b := by
    have := hsorted.sublist hab
    simpa using this
  have ha : a ∈ l := List.mem_mergeSort.mp (hab.subset (by simp))
  have hb : b ∈ l := List.mem_mergeSort.mp (hab.subset (by simp))
  rcases pair_sublist_or ha hb hne with hkept | hswapped
  · exact List.pairwise_iff_forall_sublist.mp h hkept
  · have hswapped := List.pair_sublist_mergeSort htrans htotal hle hswapped
    exact absurd hswapped (not_pair_sublist_swap hsorted hab)

end ties

/-- The hit starts first, or is the longer of two that start together, or is of
the earlier term of two with the same span. -/
def Hit.Precedes (a b : Hit) : Prop :=
  a.start < b.start ∨ a.start = b.start
    ∧ (b.stop < a.stop ∨ a.stop = b.stop ∧ a.term < b.term)

/-- Of two hits only one can come first. -/
theorem Hit.Precedes.asymm {a b : Hit} (h : a.Precedes b) : ¬b.Precedes a := by
  rw [Precedes] at h ⊢
  omega

namespace WordMatcher

variable {m : WordMatcher} {hit other : Hit}

-- ====================================================== all hits

/-- The hits are sorted down to their terms. -/
theorem findAll_pairwise (m : WordMatcher) (text : String) :
    (m.findAll text).Pairwise Hit.Precedes := by
  have hties := pairwise_mergeSort_ties (fun a b => decide (a.Leads b))
    (fun a b c hab hbc =>
      decide_eq_true ((of_decide_eq_true hab).trans (of_decide_eq_true hbc)))
    (fun a b => by simpa using a.leads_total b)
    ((nodup_search (m.terms.map Utf8.encode)
      (Utf8.encode (normalize m.ignoreCase text))).filter
      (m.accepts (normalize m.ignoreCase text)))
    ((searchBehind_pairwise _ _ _ _).filter _)
  refine ((sorted_findAll m text).and hties).imp fun {a b} hab => ?_
  obtain ⟨hleads, hterm⟩ := hab
  rw [Hit.Precedes]
  rw [Hit.Leads] at hleads
  by_cases hspan : a.start = b.start ∧ a.stop = b.stop
  · have hback : b.Leads a := by
      rw [Hit.Leads]
      omega
    have hlt := hterm (decide_eq_true hback) hspan.2
    omega
  · omega

/-- The first of the hits precedes all others. -/
theorem precedes_of_head? {text : String}
    (h : (m.findAll text).head? = some hit) :
    ∀ other ∈ m.findAll text, other ≠ hit → hit.Precedes other := by
  obtain ⟨rest, hrest⟩ := List.head?_eq_some_iff.mp h
  have hsorted := findAll_pairwise m text
  rw [hrest, List.pairwise_cons] at hsorted
  intro other hother hne
  rw [hrest] at hother
  exact hsorted.1 other ((List.mem_cons.mp hother).resolve_left hne)

-- ====================================================== a text that is a term

/-- No hit ends beyond the text. -/
theorem stop_le_width {text : String} (h : hit ∈ m.findAll text) :
    hit.stop ≤ Utf8.width (normalize m.ignoreCase text) := by
  obtain ⟨before, word, after, hmarks, -⟩ := mem_findAll.mp h
  rw [hmarks.stop, hmarks.text, Utf8.width_append (before ++ word)]
  exact Nat.le_add_right _ _

/-- Only the empty text has no octets. -/
theorem eq_nil_of_width {cs : List Char} (h : Utf8.width cs = 0) :
    cs = [] := by
  by_contra hne
  have hpos := Utf8.width_pos hne
  omega

/-- What spans a text is the text. -/
theorem eq_of_spans {terms : List (List Char)}
    {text before word after : List Char}
    (hmarks : hit.Marks Utf8.width terms text before word after)
    (hstart : hit.start = 0) (hstop : hit.stop = Utf8.width text) :
    text = word := by
  have htext := hmarks.text
  have hbefore : before = [] :=
    eq_nil_of_width (hmarks.start.symm.trans hstart)
  have hafter : after = [] := by
    apply eq_nil_of_width
    rw [hmarks.stop, htext, Utf8.width_append (before ++ word)] at hstop
    omega
  rw [htext, hbefore, hafter, List.nil_append, List.append_nil]

/-- The first term that is the whole of a text leads all hits in it. -/
theorem head?_findAll_whole {text : String} {index : Nat}
    (hindex : m.terms[index]? = some (normalize m.ignoreCase text))
    (hfirst : ∀ i < index, m.terms[i]? ≠ some (normalize m.ignoreCase text)) :
    (m.findAll text).head?
      = some ⟨index, 0, Utf8.width (normalize m.ignoreCase text)⟩ := by
  have hwhole :
      ⟨index, 0, Utf8.width (normalize m.ignoreCase text)⟩
        ∈ m.findAll text := by
    refine mem_findAll.mpr ⟨[], normalize m.ignoreCase text,
      [], ⟨hindex, by simp, rfl, rfl⟩, ?_⟩
    rw [apart_iff]
    exact fun _ => rfl
  obtain ⟨first, rest, hcons⟩ :=
    List.exists_cons_of_ne_nil (List.ne_nil_of_mem hwhole)
  have hhead : (m.findAll text).head? = some first := by
    rw [hcons, List.head?_cons]
  have hmem : first ∈ m.findAll text := List.mem_of_head? hhead
  rw [hhead]
  by_contra hne
  rw [Option.some.injEq] at hne
  have hprecedes := precedes_of_head? hhead _ hwhole (Ne.symm hne)
  have hstop := stop_le_width hmem
  rw [Hit.Precedes] at hprecedes
  dsimp only at hprecedes
  obtain ⟨hstart, hspan, hterm⟩ : first.start = 0
      ∧ first.stop = Utf8.width (normalize m.ignoreCase text)
      ∧ first.term < index := by omega
  obtain ⟨before, word, after, hmarks, -⟩ := mem_findAll.mp hmem
  have hword : normalize m.ignoreCase text = word :=
    eq_of_spans hmarks hstart hspan
  exact hfirst first.term hterm (hword ▸ hmarks.term)

/-- Hits that all begin within what is covered are left out. -/
theorem leftmost_eq_nil {hits : List Hit} {bound : Nat}
    (h : ∀ hit ∈ hits, hit.start < bound ∧ hit.start < hit.stop) :
    leftmost bound hits = [] := by
  rw [List.eq_nil_iff_forall_not_mem]
  intro hit hmem
  have hle := le_of_mem_leftmost (fun hit hhit => (h hit hhit).2) hmem
  have hlt := (h hit ((leftmost_sublist bound hits).subset hmem)).1
  omega

/-- Where a text is a term, the hit of the first such term is the only one that
stays. -/
theorem findLeftmost_whole {text : String} {index : Nat}
    (hindex : m.terms[index]? = some (normalize m.ignoreCase text))
    (hfirst : ∀ i < index, m.terms[i]? ≠ some (normalize m.ignoreCase text)) :
    m.findLeftmost text
      = [⟨index, 0, Utf8.width (normalize m.ignoreCase text)⟩] := by
  obtain ⟨rest, hrest⟩ :=
    List.head?_eq_some_iff.mp (head?_findAll_whole hindex hfirst)
  have hothers :
      ∀ hit ∈ rest, hit.start < Utf8.width (normalize m.ignoreCase text)
        ∧ hit.start < hit.stop := by
    intro hit hhit
    have hmem : hit ∈ m.findAll text := by
      rw [hrest]
      exact List.mem_cons_of_mem _ hhit
    have hlt := start_lt_stop hmem
    have hle := stop_le_width hmem
    omega
  rw [findLeftmost, hrest, leftmost, if_pos (Nat.zero_le _),
    leftmost_eq_nil hothers]

end WordMatcher

end Intake
