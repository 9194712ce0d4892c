/-
Records as trees.

A record owns its children and these own theirs, so whatever is said of all
records of a tree is said by `tree`, the record and everything below it,
every record ahead of its own children. `tree_induction` is the induction
that goes with it: a record has a property once all its children have it.
-/
import Intake.Record.Basic

namespace Intake.Record

mutual

/-- A record and all its descendants. -/
def tree : Record → List Record
  | ⟨id, runId, fields, children, dropped⟩ =>
    ⟨id, runId, fields, children, dropped⟩ :: forest children

/-- The trees of several records, one after the other. -/
def forest : List Record → List Record
  | [] => []
  | r :: rs => tree r ++ forest rs

end

/-- What is below a record. -/
def descendants (r : Record) : List Record := forest r.children

theorem tree_eq (r : Record) : r.tree = r :: r.descendants := by
  obtain ⟨id, runId, fields, children, dropped⟩ := r
  rw [tree, descendants]

/-- A record is in a forest if it is in one of the trees. -/
theorem mem_forest {x : Record} :
    ∀ {rs : List Record}, x ∈ forest rs ↔ ∃ r ∈ rs, x ∈ r.tree := by
  intro rs
  induction rs with
  | nil => simp [forest]
  | cons r rs ih => rw [forest, List.mem_append, ih]; simp

/-- What holds throughout a tree holds of the record and throughout the trees
of its children. -/
theorem forall_tree {P : Record → Prop} {r : Record} :
    (∀ x ∈ r.tree, P x) ↔ P r ∧ ∀ c ∈ r.children, ∀ x ∈ c.tree, P x := by
  rw [tree_eq, descendants]
  constructor
  · intro h
    refine ⟨h r List.mem_cons_self, fun c hc x hx => ?_⟩
    exact h x (List.mem_cons_of_mem _ (mem_forest.mpr ⟨c, hc, hx⟩))
  · rintro ⟨hr, hc⟩ x hx
    rcases List.mem_cons.mp hx with rfl | hx
    · exact hr
    · obtain ⟨c, hmem, hx⟩ := mem_forest.mp hx
      exact hc c hmem x hx

theorem mem_descendants {x r : Record} :
    x ∈ r.descendants ↔ ∃ c ∈ r.children, x ∈ c.tree := mem_forest

/-- A child is smaller than its record. -/
theorem sizeOf_child {c r : Record} (h : c ∈ r.children) :
    sizeOf c < sizeOf r := by
  have hc := List.sizeOf_lt_of_mem h
  obtain ⟨id, runId, fields, children, dropped⟩ := r
  rw [Record.mk.sizeOf_spec]
  simp only at hc
  omega

/-- Induction from children to their record. -/
theorem tree_induction {P : Record → Prop}
    (step : ∀ r, (∀ c ∈ r.children, P c) → P r) (r : Record) : P r :=
  step r fun c _ => tree_induction step c
termination_by sizeOf r
decreasing_by exact sizeOf_child ‹_›

end Intake.Record
