/-
Equality of values and of stores, and how far their digests follow it.

Only documents can be equal without being the same (`Value.same_cases`), so
what holds of documents passes to values, from there to the slots that hold
them and, in the order of the names, to stores. The signs of the zeros go
along at every level: those of a value are those of its document, and those of
a store are put together field by field as its digest is.
-/
import Intake.Proofs.Field.Frame
import Intake.Proofs.Json.Equality

namespace Intake

open Json (Keyed Parallel Under byKey mem_byKey)

-- ====================================================== values

namespace Value

variable {v w x : Value}

/-- A value that is a document has no key twice in any of its objects. -/
def Proper : Value → Prop
  | .json j => j.Proper
  | _ => True

/-- The signs of the zeros in documents. Other zeros with different signs are
different values. -/
def signs : Value → List Bool
  | .json j => j.signs
  | _ => []

/-- Equal values are the same or are equal documents. -/
theorem same_cases (h : (v == w) = true) :
    v = w ∨ ∃ i j, v = .json i ∧ w = .json j ∧ i.same j = true := by
  cases v with
  | text a =>
      cases w with
      | text b => exact .inl (congrArg text (eq_of_beq h))
      | _ => cases h
  | int a =>
      cases w with
      | int b => exact .inl (congrArg int (eq_of_beq h))
      | _ => cases h
  | long a =>
      cases w with
      | long b => exact .inl (congrArg long (eq_of_beq h))
      | _ => cases h
  | bool a =>
      cases w with
      | bool b => exact .inl (congrArg bool (eq_of_beq h))
      | _ => cases h
  | float a =>
      cases w with
      | float b => exact .inl (congrArg float (eq_of_beq h))
      | _ => cases h
  | timestamp a =>
      cases w with
      | timestamp b => exact .inl (congrArg timestamp (eq_of_beq h))
      | _ => cases h
  | bytes a =>
      cases w with
      | bytes b => exact .inl (congrArg bytes (eq_of_beq h))
      | _ => cases h
  | json i =>
      cases w with
      | json j => exact .inr ⟨i, j, rfl, rfl, h⟩
      | _ => cases h

/-- Equality of proper values is reflexive. -/
theorem Proper.same_refl (hv : v.Proper) : (v == v) = true := by
  cases v with
  | json j => exact Json.Proper.same_refl hv
  | text a | int a | long a | bool a | float a | timestamp a | bytes a =>
      exact beq_self_eq_true a

/-- Equality of proper values is symmetric. -/
theorem Proper.same_symm (hv : v.Proper) (h : (v == w) = true) :
    (w == v) = true := by
  rcases same_cases h with rfl | ⟨i, j, rfl, rfl, hsame⟩
  · exact h
  · exact Json.Proper.same_symm hv hsame

/-- Equality of proper values is transitive. -/
theorem Proper.same_trans (hv : v.Proper) (h : (v == w) = true)
    (h' : (w == x) = true) :
    (v == x) = true := by
  rcases same_cases h with rfl | ⟨i, j, rfl, rfl, hsame⟩
  · exact h'
  · rcases same_cases h' with rfl | ⟨j', k, heq, rfl, hsame'⟩
    · exact h
    · cases heq
      exact Json.Proper.same_trans hv hsame hsame'

/-- Equal values have the same digest, but for the signs of their zeros. -/
theorem Proper.parallel (hv : v.Proper) (h : (v == w) = true) :
    Parallel v.digest w.digest v.signs w.signs := by
  rcases same_cases h with rfl | ⟨i, j, rfl, rfl, hsame⟩
  · exact .refl _ _
  · exact (Json.Proper.parallel hv hsame).prefixed [_]

end Value

-- ====================================================== slots

namespace Slot

variable {a b : Slot}

/-- A slot whose values are all proper. -/
def Proper (a : Slot) : Prop := ∀ v, some v ∈ a.values → v.Proper

/-- The signs of the zeros of a value that may be null. -/
def signsValue : Option Value → List Bool
  | none => []
  | some v => v.signs

/-- The signs of the zeros of all values, in their order. -/
def signs (a : Slot) : List Bool := a.values.flatMap signsValue

/-- Lists of values are equal if they are one by one. -/
theorem values_iff {xs ys : List (Option Value)} :
    (xs == ys) = true ↔ List.Forall₂ (fun x y => (x == y) = true) xs ys :=
  Json.forall₂_iff_of_cons rfl (fun _ _ => rfl) (fun _ _ => rfl) fun _ _ _ _ =>
    rfl

/-- Equal values have the same digest, be they null or not, but for the signs
of their zeros. -/
theorem parallel_value {x y : Option Value} (hx : ∀ v, x = some v → v.Proper)
    (h : (x == y) = true) :
    Parallel (digestValue x) (digestValue y) (signsValue x)
      (signsValue y) := by
  cases x with
  | none =>
      cases y with
      | none => exact .refl _ _
      | some w => cases h
  | some v =>
      cases y with
      | none => cases h
      | some w => exact ((hx v rfl).parallel h).prefixed [_]

/-- Equal slots have the same digest, but for the signs of their zeros. -/
theorem Proper.parallel (ha : a.Proper) (h : a.same b = true) :
    Parallel a.digest b.digest a.signs b.signs := by
  rw [same, Bool.and_eq_true, values_iff, beq_iff_eq] at h
  obtain ⟨hmulti, hvalues⟩ := h
  have hflat := Parallel.flatMap hvalues fun x hx y hxy =>
    parallel_value (fun v hv => ha v (hv ▸ hx)) hxy
  cases a with
  | single x =>
      cases b with
      | single y =>
          rw [values, values, List.flatMap_singleton,
            List.flatMap_singleton] at hflat
          exact hflat.prefixed [_]
      | multi ys => cases hmulti
  | multi xs =>
      cases b with
      | single y => cases hmulti
      | multi ys =>
          have hlength : xs.length = ys.length := hvalues.length_eq
          rw [digest, digest, hlength]
          exact hflat.prefixed [_, _]

end Slot

-- ====================================================== stores

namespace FieldStore

variable {s t : FieldStore}

/-- No name occurs twice, and every value is proper. -/
structure Proper (s : FieldStore) : Prop where
  distinct : s.Distinct
  slots : ∀ f ∈ s.fields, f.slot.Proper

/-- The fields under their names. -/
def entries (s : FieldStore) : List (String × Field) :=
  s.fields.map fun f => (f.name, f)

/-- The signs of the zeros in a store, field by field in the order of the
names. -/
def signs (s : FieldStore) : List Bool :=
  (byKey s.entries).flatMap fun entry => entry.2.slot.signs

/-- The entries of a store have different keys if its names are distinct. -/
theorem keyed_entries : Keyed s.entries ↔ s.Distinct := by
  rw [Keyed, entries, List.map_map, Distinct, names]
  rfl

/-- Each field is an entry under its own name. -/
theorem mem_entries {entry : String × Field} :
    entry ∈ s.entries ↔ entry.2 ∈ s.fields ∧ entry.2.name = entry.1 := by
  rw [entries, List.mem_map]
  constructor
  · rintro ⟨f, hf, rfl⟩
    exact ⟨hf, rfl⟩
  · rintro ⟨hf, hname⟩
    exact ⟨entry.2, hf, Prod.ext hname rfl⟩

/-- The digest of a store is that of its fields in the order of their names. -/
theorem digest_eq (s : FieldStore) :
    s.digest = .count s.entries.length
      :: (byKey s.entries).flatMap fun entry =>
          .word entry.1 :: digestField entry.2 := by
  have hmap : (s.fields.map fun f => (f.name, digestField f))
      = s.entries.map fun entry => (entry.1, digestField entry.2) := by
    rw [entries, List.map_map]
    rfl
  rw [digest, hmap, Json.byKey_map, List.flatMap_map, entries, List.length_map]

/-- The fields of equal stores correspond in the order of their names. -/
theorem entries_of_same (hs : s.Distinct) (h : (s == t) = true) :
    List.Forall₂ (Under fun f g => f.slot.same g.slot = true
      ∧ f.declared = g.declared)
      (byKey s.entries) (byKey t.entries) := by
  obtain ⟨hlength, hpartner⟩ := Bool.and_eq_true_iff.mp h
  refine (Json.forall₂_byKey_iff (keyed_entries.mpr hs)).mpr
    ⟨?_, fun entry hentry => ?_⟩
  · rw [entries, entries, List.length_map, List.length_map]
    exact eq_of_beq hlength
  · obtain ⟨hf, hname⟩ := mem_entries.mp hentry
    have hfield := List.all_eq_true.mp hpartner entry.2 hf
    cases hfind : t.find? entry.2.name with
    | none =>
        rw [hfind] at hfield
        cases hfield
    | some g =>
        rw [hfind, Bool.and_eq_true, beq_iff_eq] at hfield
        rw [find?] at hfind
        have hg := List.find?_some hfind
        rw [beq_iff_eq] at hg
        exact ⟨(entry.1, g),
          mem_entries.mpr ⟨List.mem_of_find?_eq_some hfind, hg.trans hname⟩,
          rfl, hfield⟩

/-- Fields of one type with equal slots have the same digest, but for the signs
of their zeros. -/
theorem parallel_field {f g : Field} (hf : f.slot.Proper)
    (h : f.slot.same g.slot = true) (hdeclared : f.declared = g.declared) :
    Parallel (digestField f) (digestField g) f.slot.signs g.slot.signs := by
  rw [digestField, digestField, hdeclared]
  exact (hf.parallel h).prefixed _

/-- Equal stores have equal digests just when the zeros in them have the same
signs. -/
theorem Proper.parallel (hs : s.Proper) (h : (s == t) = true) :
    Parallel s.digest t.digest s.signs t.signs := by
  rw [digest_eq, digest_eq, signs, signs]
  refine Parallel.entries (f := digestField) (g := fun f => f.slot.signs)
    (keyed_entries.mpr hs.distinct) (entries_of_same hs.distinct h)
      fun entry hentry g hg => ?_
  exact parallel_field (hs.slots _ (mem_entries.mp hentry).1) hg.1 hg.2

end FieldStore

end Intake
