/-
Tallies add up.

A tally is counts and receipts, and one tally behind another adds the counts
and puts the receipts in order. As long as every record that is counted is
in a run, each has its receipt (`Receipted`), and adding keeps it so.
-/
import Intake.Run.Summary
import Mathlib.Data.List.Basic

namespace Intake

namespace Tally

@[simp] theorem delivered_append (a b : Tally) :
    (a ++ b).delivered = a.delivered + b.delivered := rfl

@[simp] theorem failed_append (a b : Tally) :
    (a ++ b).failed = a.failed + b.failed :=
  rfl

@[simp] theorem receipts_append (a b : Tally) :
    (a ++ b).receipts = a.receipts ++ b.receipts := rfl

theorem append_assoc (a b c : Tally) : a ++ b ++ c = a ++ (b ++ c) := by
  show Tally.mk _ _ _ = Tally.mk _ _ _
  rw [Tally.mk.injEq]
  exact ⟨Nat.add_assoc _ _ _, Nat.add_assoc _ _ _, List.append_assoc _ _ _⟩

@[simp] theorem append_empty (a : Tally) : a ++ empty = a := by
  show Tally.mk _ _ _ = a
  rw [empty, List.append_nil]
  rfl

@[simp] theorem empty_append (a : Tally) : empty ++ a = a := by
  show Tally.mk _ _ _ = a
  rw [empty, Nat.zero_add, Nat.zero_add, List.nil_append]

/-- Tallies one behind the other. -/
def concat (ts : List Tally) : Tally := ts.foldr (· ++ ·) empty

theorem concat_cons (t : Tally) (ts : List Tally) :
    concat (t :: ts) = t ++ concat ts :=
  rfl

theorem receipts_concat (ts : List Tally) :
    (concat ts).receipts = ts.flatMap receipts := by
  induction ts with
  | nil => rfl
  | cons t ts ih => rw [concat_cons, receipts_append, ih, List.flatMap_cons]

/-- There is a receipt for every record that was counted, of either kind. -/
structure Receipted (t : Tally) : Prop where
  delivered : (t.receipts.filter Receipt.isSuccess).length = t.delivered
  failed : (t.receipts.filter fun r => !r.isSuccess).length = t.failed

theorem Receipted.empty : Receipted empty := ⟨rfl, rfl⟩

/-- Receipts for both parts are receipts for the whole. -/
theorem Receipted.append {a b : Tally} (ha : Receipted a) (hb : Receipted b) :
    Receipted (a ++ b) where
  delivered := by
    rw [receipts_append, List.filter_append, List.length_append, ha.delivered,
      hb.delivered, delivered_append]
  failed := by
    rw [receipts_append, List.filter_append, List.length_append, ha.failed,
      hb.failed, failed_append]

/-- Receipts for all parts are receipts for the whole. -/
theorem Receipted.concat {ts : List Tally} (h : ∀ t ∈ ts, Receipted t) :
    Receipted (concat ts) := by
  induction ts with
  | nil => exact .empty
  | cons t ts ih =>
      rw [List.forall_mem_cons] at h
      exact h.1.append (ih h.2)

/-- Every receipt is of one kind or the other. -/
theorem Receipted.length {t : Tally} (h : Receipted t) :
    t.receipts.length = t.delivered + t.failed := by
  rw [← h.delivered, ← h.failed]
  exact List.length_eq_length_filter_add _

/-- A delivered record that is in a run has its receipt. -/
theorem receipted_ofSuccess {recordId : String} {runId : Option String}
    (h : runId.isSome = true) : Receipted (ofSuccess recordId runId) := by
  obtain ⟨runId, rfl⟩ := Option.isSome_iff_exists.mp h
  exact ⟨rfl, rfl⟩

/-- A failed record that is in a run has its receipt. -/
theorem receipted_ofFailure {recordId reason : String} {runId : Option String}
    (h : runId.isSome = true) :
    Receipted (ofFailure recordId runId reason) := by
  obtain ⟨runId, rfl⟩ := Option.isSome_iff_exists.mp h
  exact ⟨rfl, rfl⟩

end Tally

end Intake
