/-
Writing fields under names that may come again.

Writing a single value replaces what stood under its name, so of several writes
under one name the last one stays, and the fields that were there before stay
under all other names (`find?_putAll`).
-/
import Intake.Proofs.Record.NewFields

namespace Intake

namespace FieldStore

variable {s : FieldStore}

/-- Puts single values one after the other. -/
def putAll (s : FieldStore) (entries : List (String × Value)) : FieldStore :=
  entries.foldl
    (fun s entry => s.put entry.1 (.single (some entry.2)) (some entry.2.type))
    s

/-- The last of several entries stays. -/
theorem find?_putAll (s : FieldStore) (entries : List (String × Value))
    (name : String) :
    (s.putAll entries).find? name
      = ((entries.reverse.find? (·.1 == name)).map Field.ofEntry).or
          (s.find? name) := by
  induction entries using List.reverseRecOn with
  | nil => rfl
  | append_singleton entries entry ih =>
      have hput : s.putAll (entries ++ [entry])
          = (s.putAll entries).put entry.1 (.single (some entry.2))
              (some entry.2.type) := by
        unfold putAll
        rw [List.foldl_append]
        rfl
      rw [hput, List.reverse_append, List.reverse_singleton,
        List.singleton_append, List.find?_cons]
      by_cases hname : entry.1 = name
      · subst hname
        rw [beq_self_eq_true, find?_put_self]
        rfl
      · have hframe : Frame (· = name) (s.putAll entries)
            ((s.putAll entries).put entry.1 (.single (some entry.2))
              (some entry.2.type)) := by
          apply put_frame
          exact hname
        rw [beq_eq_false_iff_ne.mpr hname, hframe.found name rfl, ih]

/-- Writes leave the names distinct. -/
theorem distinct_putAll (h : s.Distinct) (entries : List (String × Value)) :
    (s.putAll entries).Distinct := by
  induction entries generalizing s with
  | nil => exact h
  | cons entry entries ih =>
      have hframe : Frame (fun _ => False) s
          (s.put entry.1 (.single (some entry.2)) (some entry.2.type)) :=
        put_frame not_false _ _
      exact ih (hframe.distinct h)

end FieldStore

namespace Record

/-- Fields whose names are not reserved are all written. -/
theorem setFields_putAll {r : Record} {entries : List (String × Value)}
    (hall : r.fields.supported = ValueType.all)
    (hfree : ∀ entry ∈ entries, ¬Reserved entry.1) :
    Outcome.each (fun r (entry : String × Value) => r.setField entry.1 entry.2)
      r entries
      = .ok { r with fields := r.fields.putAll entries } () := by
  induction entries generalizing r with
  | nil =>
      cases r
      rfl
  | cons entry entries ih =>
      obtain ⟨hentry, hentries⟩ := List.forall_mem_cons.mp hfree
      unfold Outcome.each
      rw [setField_put hall hentry]
      exact
        ih (r := { r with fields := r.fields.putAll [entry] }) hall hentries

end Record

end Intake
