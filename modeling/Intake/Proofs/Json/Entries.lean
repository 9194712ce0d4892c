/-
Entries under keys, in whatever order they stand.

Objects and stores are compared entry by entry through their keys, and are
digested in the order of their keys. `forall₂_byKey_iff` brings the two
together: one list of entries has a partner in another for each of its own,
and there are no others, if and only if the two lists correspond place by
place once both are sorted. After that nothing has to be said of orders any
more.
-/
import Intake.Json.Basic
import Mathlib.Data.List.Forall2
import Mathlib.Data.List.Nodup
import Mathlib.Data.List.Perm.Subperm

namespace Intake.Json

variable {α β : Type}

/-- No key occurs twice. -/
def Keyed (entries : List (String × α)) : Prop := (entries.map Prod.fst).Nodup

-- ====================================================== lists in step

section steps

variable {γ : Type} {R : α → β → Prop} {xs : List α} {ys : List β}

/-- What stands in one of two lists in step has a partner in the other. -/
theorem exists_of_forall₂ (h : List.Forall₂ R xs ys) {x : α} (hx : x ∈ xs) :
    ∃ y ∈ ys, R x y := by
  induction h with
  | nil => cases hx
  | cons hr _ ih =>
      rcases List.mem_cons.mp hx with rfl | hx
      · exact ⟨_, List.mem_cons_self, hr⟩
      · obtain ⟨y, hy, hr⟩ := ih hx
        exact ⟨y, List.mem_cons_of_mem _ hy, hr⟩

/-- A relation may be replaced by another that follows from it for the elements
of the first list. -/
theorem forall₂_imp_of_mem {S : α → β → Prop} (h : List.Forall₂ R xs ys)
    (hS : ∀ x ∈ xs, ∀ y, R x y → S x y) : List.Forall₂ S xs ys := by
  induction h with
  | nil => exact .nil
  | cons hr _ ih =>
      rw [List.forall_mem_cons] at hS
      exact .cons (hS.1 _ hr) (ih hS.2)

/-- Two relations in step give one between the outer lists. -/
theorem forall₂_trans_of_mem {S : β → γ → Prop} {T : α → γ → Prop}
    {zs : List γ} (h : List.Forall₂ R xs ys) (h' : List.Forall₂ S ys zs)
    (hT : ∀ x ∈ xs, ∀ y z, R x y → S y z → T x z) : List.Forall₂ T xs zs := by
  induction h generalizing zs with
  | nil =>
      cases h'
      exact .nil
  | cons hr _ ih =>
      cases h' with
      | cons hs h' =>
          rw [List.forall_mem_cons] at hT
          exact .cons (hT.1 _ _ hr hs) (ih h' hT.2)

/-- A comparison of lists that goes through both item by item. -/
theorem forall₂_iff_of_cons {same : α → β → Bool}
    {all : List α → List β → Bool} (hnil : all [] [] = true)
    (hleft : ∀ x xs, all (x :: xs) [] = false)
    (hright : ∀ y ys, all [] (y :: ys) = false)
    (hcons : ∀ x xs y ys, all (x :: xs) (y :: ys) = (same x y && all xs ys)) :
    all xs ys = true ↔ List.Forall₂ (fun x y => same x y = true) xs ys := by
  induction xs generalizing ys with
  | nil =>
      cases ys with
      | nil => exact iff_of_true hnil .nil
      | cons y ys =>
          exact iff_of_false (by rw [hright]; exact Bool.false_ne_true) nofun
  | cons x xs ih =>
      cases ys with
      | nil =>
          exact iff_of_false (by rw [hleft]; exact Bool.false_ne_true) nofun
      | cons y ys => rw [hcons, Bool.and_eq_true, ih, List.forall₂_cons]

end steps

-- ====================================================== sorting

/-- Sorting by key only changes the order. -/
theorem byKey_perm (xs : List (String × α)) : (byKey xs).Perm xs :=
  List.mergeSort_perm _ _

/-- Sorting by key loses no entry and adds none. -/
theorem mem_byKey {x : String × α} {xs : List (String × α)} :
    x ∈ byKey xs ↔ x ∈ xs :=
  (byKey_perm xs).mem_iff

/-- Entries sorted by key stand in the order of their keys. -/
theorem pairwise_byKey (xs : List (String × α)) :
    (byKey xs).Pairwise fun a b => a.1 ≤ b.1 := by
  have htrans : ∀ a b c : String × α, decide (a.1 ≤ b.1) = true
    → decide (b.1 ≤ c.1) = true →
      decide (a.1 ≤ c.1) = true := by
    intro a b c hab hbc
    exact decide_eq_true
      (String.le_trans (of_decide_eq_true hab) (of_decide_eq_true hbc))
  have htotal :
      ∀ a b : String × α, (decide (a.1 ≤ b.1) || decide (b.1 ≤ a.1))
        = true := by
    intro a b
    rw [Bool.or_eq_true, decide_eq_true_eq, decide_eq_true_eq]
    exact String.le_total a.1 b.1
  exact (List.pairwise_mergeSort htrans htotal xs).imp fun hab =>
    of_decide_eq_true hab

/-- Entries are sorted by their keys alone. -/
theorem byKey_map (f : α → β) (xs : List (String × α)) :
    byKey (xs.map fun x => (x.1, f x.2)) = (byKey xs).map fun x =>
      (x.1, f x.2) := by
  rw [byKey, byKey]
  exact (List.map_mergeSort (f := fun x : String × α => (x.1, f x.2))
    fun _ _ _ _ => rfl).symm

/-- The order in which entries with different keys stand has no effect. -/
theorem byKey_congr {xs ys : List (String × α)} (hkeys : Keyed xs)
    (h : xs.Perm ys) :
    byKey xs = byKey ys := by
  refine
    List.Perm.eq_of_pairwise (fun a b ha hb hab hba => ?_) (pairwise_byKey xs)
    (pairwise_byKey ys) ((byKey_perm xs).trans (h.trans (byKey_perm ys).symm))
  have hb : b ∈ xs := h.mem_iff.mpr (mem_byKey.mp hb)
  exact List.inj_on_of_nodup_map hkeys (mem_byKey.mp ha) hb
    (String.le_antisymm hab hba)

-- ====================================================== correspondence

/-- Two entries under one key with related values. -/
def Under (R : α → β → Prop) (x : String × α) (y : String × β) : Prop :=
  x.1 = y.1 ∧ R x.2 y.2

section correspondence

variable {R : α → β → Prop} {xs : List (String × α)} {ys : List (String × β)}

/-- Entries that have partners can be written down beside them. -/
theorem exists_pairs (h : ∀ x ∈ xs, ∃ y ∈ ys, Under R x y) :
    ∃ pairs : List (String × α × β), xs = (pairs.map fun p => (p.1, p.2.1))
      ∧ (∀ p ∈ pairs, (p.1, p.2.2) ∈ ys) ∧ ∀ p ∈ pairs, R p.2.1 p.2.2 := by
  induction xs with
  | nil => exact ⟨[], rfl, nofun, nofun⟩
  | cons x xs ih =>
      obtain ⟨pairs, rfl, hmem, hrel⟩ :=
        ih fun x hx => h x (List.mem_cons_of_mem _ hx)
      obtain ⟨⟨key, value⟩, hy, hkey, hvalue⟩ := h x List.mem_cons_self
      obtain rfl : x.1 = key := hkey
      exact
        ⟨(x.1, x.2, value) :: pairs, rfl, List.forall_mem_cons.mpr ⟨hy, hmem⟩,
        List.forall_mem_cons.mpr ⟨hvalue, hrel⟩⟩

/-- Entries with different keys have partners, with none left over, if and only
if they correspond in the order of the keys. -/
theorem forall₂_byKey_iff (hx : Keyed xs) :
    List.Forall₂ (Under R) (byKey xs) (byKey ys)
      ↔ xs.length = ys.length ∧ ∀ x ∈ xs, ∃ y ∈ ys, Under R x y := by
  constructor
  · intro h
    refine ⟨?_, fun x hmem => ?_⟩
    · rw [← (byKey_perm xs).length_eq, h.length_eq, (byKey_perm ys).length_eq]
    · obtain ⟨y, hy, hunder⟩ := exists_of_forall₂ h (mem_byKey.mpr hmem)
      exact ⟨y, mem_byKey.mp hy, hunder⟩
  · rintro ⟨hlength, hpartner⟩
    obtain ⟨pairs, rfl, hmem, hrel⟩ := exists_pairs hpartner
    -- as many different keys as there are partners leave no partner out
    have hys : Keyed (pairs.map fun p => (p.1, p.2.2)) := by
      rw [Keyed, List.map_map] at hx ⊢
      exact hx
    have hperm : (pairs.map fun p => (p.1, p.2.2)).Perm ys := by
      refine (List.subperm_of_subset (List.Nodup.of_map _ hys)
        ?_).perm_of_length_le ?_
      · intro y hy
        obtain ⟨p, hp, rfl⟩ := List.mem_map.mp hy
        exact hmem p hp
      · exact
          Nat.le_of_eq (by rw [← hlength, List.length_map, List.length_map])
    rw [← byKey_congr hys hperm, byKey_map Prod.fst, byKey_map Prod.snd,
      List.forall₂_map_left_iff, List.forall₂_map_right_iff, List.forall₂_same]
    exact fun p hp => ⟨rfl, hrel p (mem_byKey.mp hp)⟩

/-- Sorting by key leaves the keys distinct. -/
theorem keyed_byKey : Keyed (byKey xs) ↔ Keyed xs :=
  ((byKey_perm xs).map Prod.fst).nodup_iff

/-- Lists that correspond entry by entry have the same keys. -/
theorem map_fst_of_forall₂ (h : List.Forall₂ (Under R) xs ys) :
    xs.map Prod.fst = ys.map Prod.fst := by
  induction h with
  | nil => rfl
  | cons hunder _ ih => rw [List.map_cons, List.map_cons, hunder.1, ih]

/-- What corresponds to entries with different keys has different keys. -/
theorem Keyed.of_forall₂ (hx : Keyed xs)
    (h : List.Forall₂ (Under R) (byKey xs) (byKey ys)) :
    Keyed ys := by
  rw [← keyed_byKey] at hx ⊢
  rw [Keyed, ← map_fst_of_forall₂ h]
  exact hx

end correspondence

end Intake.Json
