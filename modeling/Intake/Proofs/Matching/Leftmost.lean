/-
Hits without overlap.

One pass over the sorted hits keeps a hit that begins where the last one kept
has ended or behind it, so every hit is compared with one other only. That one
stands for all that are kept before it, as the bound of the pass: nothing kept
later begins in front of the bound (`le_of_mem_leftmost`), and only what begins
there is left out for a hit kept before (`leftmost_covers`). The first keeps
all the hits apart, and by the second none is left out without need.
-/
import Intake.Proofs.Matching.Hits

namespace Intake

/-- Two hits share an octet. -/
def Hit.Overlaps (a b : Hit) : Prop := a.start < b.stop ∧ b.start < a.stop

/-- A hit does not start behind one that it leads. -/
theorem Hit.Leads.start_le {a b : Hit} (h : a.Leads b) :
    a.start ≤ b.start := by
  rw [Hit.Leads] at h
  omega

namespace WordMatcher

variable {hits : List Hit} {hit : Hit} {bound : Nat}

-- ====================================================== one pass

/-- Hits are only left out. -/
theorem leftmost_sublist (bound : Nat) (hits : List Hit) :
    (leftmost bound hits).Sublist hits := by
  induction hits generalizing bound with
  | nil => exact List.Sublist.refl _
  | cons first hits ih =>
      rw [leftmost]
      split
      · exact (ih first.stop).cons_cons first
      · exact (ih bound).cons first

/-- Nothing is kept that begins in front of the bound. -/
theorem le_of_mem_leftmost (hspan : ∀ hit ∈ hits, hit.start < hit.stop)
    (h : hit ∈ leftmost bound hits) : bound ≤ hit.start := by
  induction hits generalizing bound with
  | nil => cases h
  | cons first hits ih =>
      obtain ⟨hfirst, hspan⟩ := List.forall_mem_cons.mp hspan
      rw [leftmost] at h
      split at h
      · next hbound =>
          rcases List.mem_cons.mp h with rfl | h
          · exact hbound
          · have hstop := ih hspan h
            omega
      · exact ih hspan h

/-- What is kept ends before anything kept later begins. -/
theorem leftmost_pairwise (bound : Nat)
    (hspan : ∀ hit ∈ hits, hit.start < hit.stop) :
    (leftmost bound hits).Pairwise fun a b => a.stop ≤ b.start := by
  induction hits generalizing bound with
  | nil => exact List.Pairwise.nil
  | cons first hits ih =>
      obtain ⟨-, hspan⟩ := List.forall_mem_cons.mp hspan
      rw [leftmost]
      split
      · exact List.pairwise_cons.mpr ⟨fun _ h => le_of_mem_leftmost hspan h,
          ih first.stop hspan⟩
      · exact ih bound hspan

/-- A hit is left out because it begins in front of the bound, or for one that
is kept, leads it and overlaps it. -/
theorem leftmost_covers (bound : Nat) (hsorted : hits.Pairwise Hit.Leads)
    (hspan : ∀ hit ∈ hits, hit.start < hit.stop) :
    ∀ hit ∈ hits, hit ∉ leftmost bound hits →
      hit.start < bound ∨ ∃ kept ∈ leftmost bound hits, kept.Leads hit
        ∧ kept.Overlaps hit := by
  induction hits generalizing bound with
  | nil => exact fun _ h => absurd h List.not_mem_nil
  | cons first hits ih =>
      obtain ⟨hfirst, hsorted⟩ := List.pairwise_cons.mp hsorted
      obtain ⟨-, htails⟩ := List.forall_mem_cons.mp hspan
      intro hit hhit hout
      rw [leftmost] at hout ⊢
      by_cases hbound : bound ≤ first.start
      · rw [if_pos hbound] at hout ⊢
        rw [List.mem_cons, not_or] at hout
        obtain ⟨hne, hout⟩ := hout
        have htail := (List.mem_cons.mp hhit).resolve_left hne
        right
        rcases ih first.stop hsorted htails hit htail hout with
          hstart | ⟨kept, hkept, hleads⟩
        · -- the hit begins within the first one, which leads all behind it
          have hbefore := (hfirst hit htail).start_le
          have hlt := htails hit htail
          exact ⟨first, List.mem_cons_self, hfirst hit htail, by omega, hstart⟩
        · exact ⟨kept, List.mem_cons_of_mem _ hkept, hleads⟩
      · rw [if_neg hbound] at hout ⊢
        rcases List.mem_cons.mp hhit with rfl | htail
        · exact Or.inl (Nat.lt_of_not_le hbound)
        · exact ih bound hsorted htails hit htail hout

/-- The first hit is always kept. -/
theorem head?_leftmost_zero (hits : List Hit) :
    (leftmost 0 hits).head? = hits.head? := by
  cases hits with
  | nil => rfl
  | cons first hits =>
      rw [leftmost, if_pos (Nat.zero_le _), List.head?_cons, List.head?_cons]

-- ====================================================== the hits of a matcher

/-- A text matches if there is a hit in it. -/
theorem isMatch_iff (m : WordMatcher) (text : String) :
    m.isMatch text = true ↔ m.findAll text ≠ [] := by
  rw [isMatch, findAll, List.any_eq_true, Ne, ← List.length_eq_zero_iff,
    List.length_mergeSort, List.length_eq_zero_iff, List.filter_eq_nil_iff]
  simp

/-- The hits without overlap are the leftmost, and of those the longest. What
is left out overlaps one that is kept, so no text is without hits for it. -/
theorem findLeftmost_resolves (m : WordMatcher) (text : String) :
    (m.findLeftmost text).Sublist (m.findAll text)
      ∧ (m.findLeftmost text).Pairwise (fun a b => a.stop ≤ b.start)
      ∧ (∀ hit ∈ m.findAll text, hit ∉ m.findLeftmost text →
          ∃ kept ∈ m.findLeftmost text, kept.Leads hit ∧ kept.Overlaps hit)
      ∧ (m.isMatch text = true ↔ m.findAll text ≠ [])
      ∧ (m.findAll text ≠ [] ↔ m.findLeftmost text ≠ [])
      ∧ (m.findLeftmost text).head? = (m.findAll text).head? := by
  have hspan : ∀ hit ∈ m.findAll text, hit.start < hit.stop :=
    fun _ h => start_lt_stop h
  have hhead : (m.findLeftmost text).head? = (m.findAll text).head? :=
    head?_leftmost_zero _
  refine
    ⟨leftmost_sublist 0 _, leftmost_pairwise 0 hspan, fun hit hhit hout => ?_,
    isMatch_iff m text, ?_, hhead⟩
  · rcases leftmost_covers 0 (sorted_findAll m text) hspan hit hhit hout with
      hstart | hkept
    · exact absurd hstart (Nat.not_lt_zero _)
    · exact hkept
  · rw [Ne, Ne, ← List.head?_eq_none_iff, ← List.head?_eq_none_iff, hhead]

-- the first word of a hit is a hit too, but left out; `renew` has none
example :
    (new ["new", "new york"] true).toOption.map
      (fun m => m.findLeftmost "renew in New York")
      = some [⟨1, 9, 17⟩] := by cbv

end WordMatcher

end Intake
