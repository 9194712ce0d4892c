/-
What writing a field leaves alone.

Every operation of a store works on a few fields that it is given by name.
`Frame kept` says what all of them share, whether they succeed or not: names
stay distinct, the accepted types stay, and a field with a kept name is found
as it was. An operation frames every set of kept names that its own names
are not in, so a chain of operations frames what all of them frame.
-/
import Intake.Field.Store
import Mathlib.Data.List.Nodup

namespace Intake.FieldStore

/-- No name occurs twice. -/
def Distinct (s : FieldStore) : Prop := s.names.Nodup

/-- What stays as it was when one store becomes another. -/
structure Frame (kept : String → Prop) (s t : FieldStore) : Prop where
  supported : t.supported = s.supported
  distinct : s.Distinct → t.Distinct
  found : ∀ name, kept name → t.find? name = s.find? name

namespace Frame

variable {kept : String → Prop} {s t u : FieldStore}

theorem refl (s : FieldStore) : Frame kept s s := ⟨rfl, id, fun _ _ => rfl⟩

theorem trans (h : Frame kept s t) (h' : Frame kept t u) : Frame kept s u where
  supported := h'.supported.trans h.supported
  distinct := fun hs => h'.distinct (h.distinct hs)
  found := fun name hn => (h'.found name hn).trans (h.found name hn)

end Frame

-- ====================================================== placing

/-- The names after a field was placed: its own is new or stands already. -/
theorem map_name_place (f : Field) (fs : List Field) :
    (place f fs).map Field.name
      = if f.name ∈ fs.map Field.name then fs.map Field.name
        else fs.map Field.name ++ [f.name] := by
  induction fs with
  | nil => rfl
  | cons g gs ih =>
      rw [place]
      by_cases hg : g.name = f.name
      · rw [if_pos hg, List.map_cons, List.map_cons, hg,
          if_pos List.mem_cons_self]
      · rw [if_neg hg, List.map_cons, List.map_cons, ih]
        have hmem : f.name ∈ g.name :: gs.map Field.name
            ↔ f.name ∈ gs.map Field.name := by
          rw [List.mem_cons]
          exact or_iff_right fun h => hg h.symm
        by_cases hf : f.name ∈ gs.map Field.name
        · rw [if_pos hf, if_pos (hmem.mpr hf)]
        · rw [if_neg hf, if_neg (fun h => hf (hmem.mp h)), List.cons_append]

/-- Placing a field leaves its name to one field only. -/
theorem nodup_place {f : Field} {fs : List Field}
    (h : (fs.map Field.name).Nodup) : ((place f fs).map Field.name).Nodup := by
  rw [map_name_place]
  split
  · exact h
  · next hf =>
      refine List.nodup_append.mpr ⟨h, List.nodup_singleton _, ?_⟩
      intro a ha b hb hab
      rw [List.mem_singleton] at hb
      exact hf (hb ▸ hab ▸ ha)

/-- Another name is looked up past the placed field. -/
theorem find?_place_ne {f : Field} {name : String} (h : f.name ≠ name)
    (fs : List Field) :
    (place f fs).find? (·.name == name) = fs.find? (·.name == name) := by
  have hf : (f.name == name) = false := beq_eq_false_iff_ne.mpr h
  induction fs with
  | nil => rw [place, List.find?_cons, hf]
  | cons g gs ih =>
      rw [place]
      by_cases hg : g.name = f.name
      · have hg' : (g.name == name) = false := by rw [hg]; exact hf
        rw [if_pos hg, List.find?_cons, List.find?_cons, hf, hg']
      · rw [if_neg hg, List.find?_cons, List.find?_cons, ih]

/-- The field that was placed is found. -/
theorem find?_place_self (f : Field) (fs : List Field) :
    (place f fs).find? (·.name == f.name) = some f := by
  induction fs with
  | nil => exact List.find?_cons_of_pos (beq_self_eq_true f.name)
  | cons g gs ih =>
      rw [place]
      by_cases hg : g.name = f.name
      · rw [if_pos hg]
        exact List.find?_cons_of_pos (beq_self_eq_true f.name)
      · rw [if_neg hg, List.find?_cons, beq_eq_false_iff_ne.mpr hg, ih]

/-- A field whose name is new comes last. -/
theorem place_of_not_mem {f : Field} {fs : List Field}
    (h : f.name ∉ fs.map Field.name) : place f fs = fs ++ [f] := by
  induction fs with
  | nil => rfl
  | cons g gs ih =>
      rw [List.map_cons, List.mem_cons, not_or] at h
      rw [place, if_neg (fun hg => h.1 hg.symm), ih h.2, List.cons_append]

/-- Placing a field adds that field at most. -/
theorem mem_place {e f : Field} {fs : List Field} (h : e ∈ place f fs) :
    e = f ∨ e ∈ fs := by
  induction fs with
  | nil => exact .inl (List.mem_singleton.mp h)
  | cons g gs ih =>
      rw [place] at h
      split at h
      · exact (List.mem_cons.mp h).imp_right (List.mem_cons_of_mem _)
      · rcases List.mem_cons.mp h with rfl | h
        · exact .inr List.mem_cons_self
        · exact (ih h).imp_right (List.mem_cons_of_mem _)

/-- Of two fields placed under one name the second stays. -/
theorem place_place {f g : Field} (h : g.name = f.name) (fs : List Field) :
    place f (place g fs) = place f fs := by
  induction fs with
  | nil =>
      show place f [g] = [f]
      rw [place, if_pos h]
  | cons e es ih =>
      rw [place, place]
      by_cases he : e.name = g.name
      · rw [if_pos he, if_pos (he.trans h), place, if_pos h]
      · rw [if_neg he, if_neg (fun heq => he (heq.trans h.symm)), place,
          if_neg (fun heq => he (heq.trans h.symm)), ih]

/-- Of two fields put under one name, the second one stays. -/
theorem put_put (s : FieldStore) (name : String) (a b : Slot)
    (t u : Option ValueType) :
    (s.put name a t).put name b u = s.put name b u :=
  congrArg (fun fields => { s with fields })
    (place_place (f := ⟨name, b, u⟩) (g := ⟨name, a, t⟩) rfl s.fields)

variable {kept : String → Prop} {s : FieldStore} {name : String}

/-- Distinct names lead to the fields that bear them. -/
theorem find?_of_mem {f : Field} (h : s.Distinct) (hf : f ∈ s.fields) :
    s.find? f.name = some f := by
  rw [Distinct, names] at h
  rw [find?]
  generalize s.fields = fs at h hf
  induction fs with
  | nil => cases hf
  | cons g gs ih =>
      rw [List.map_cons, List.nodup_cons] at h
      rcases List.mem_cons.mp hf with rfl | hf
      · exact List.find?_cons_of_pos (beq_self_eq_true f.name)
      · have hne : g.name ≠ f.name :=
          fun heq => h.1 (heq ▸ List.mem_map_of_mem hf)
        rw [List.find?_cons, beq_eq_false_iff_ne.mpr hne]
        exact ih h.2 hf

/-- Putting a field keeps all others. -/
theorem put_frame (h : ¬kept name) (slot : Slot)
    (declared : Option ValueType) :
    Frame kept s (s.put name slot declared) where
  supported := rfl
  distinct := nodup_place
  found := by
    intro n hn
    have hne : name ≠ n := fun hname => h (hname ▸ hn)
    exact find?_place_ne hne s.fields

/-- The field that was put is found. -/
theorem find?_put_self (s : FieldStore) (name : String) (slot : Slot)
    (declared : Option ValueType) :
    (s.put name slot declared).find? name = some ⟨name, slot, declared⟩ :=
  find?_place_self ⟨name, slot, declared⟩ s.fields

/-- Taking a field out keeps all others. -/
theorem erase_frame (h : ¬kept name) : Frame kept s (s.erase name) where
  supported := rfl
  distinct := fun hs => hs.sublist (List.filter_sublist.map _)
  found := by
    intro n hn
    rw [erase, find?, find?, List.find?_filter]
    congr 1
    funext f
    by_cases hf : f.name = n
    · have hne : f.name ≠ name := fun hname => h (hname ▸ hf ▸ hn)
      simp [hf, hf ▸ hne]
    · simp [hf]

-- ====================================================== the operations

/-- Making a field single-valued keeps all others. -/
theorem putOne_frame (h : ¬kept name) (value : Option Value) :
    Frame kept s (s.putOne name value).state := by
  unfold putOne
  split
  · exact put_frame h _ _
  · split
    · exact put_frame h _ _
    · exact .refl s

/-- Making a field multi-valued keeps all others. -/
theorem putMany_frame (h : ¬kept name) (values : List (Option Value)) :
    Frame kept s (s.putMany name values).state := by
  rw [putMany]
  split
  · exact put_frame h _ _
  · exact .refl s

/-- Adding to a field keeps all others. -/
theorem add_frame (h : ¬kept name) (value : Option Value) :
    Frame kept s (s.add name value).state := by
  rw [add]
  split
  · exact .refl s
  · split
    · exact put_frame h _ _
    · split
      · split
        · exact put_frame h _ _
        · exact .refl s
      · exact put_frame h _ _

/-- Setting or adding to a field keeps all others. -/
theorem setOrAdd_frame (h : ¬kept name) (value : Option Value) :
    Frame kept s (s.setOrAdd name value).state := by
  rw [setOrAdd]
  split
  · exact add_frame h value
  · exact putOne_frame h value

/-- Removing a field keeps all others. -/
theorem remove_frame (h : ¬kept name) :
    Frame kept s (s.remove name).state := by
  rw [remove]
  split
  · exact erase_frame h
  · exact .refl s

/-- Taking a value of a field keeps all others. -/
theorem removeAt_frame (h : ¬kept name) (index : Nat) :
    Frame kept s (s.removeAt name index).state := by
  rw [removeAt]
  split
  · exact .refl s
  · split
    · exact put_frame h _ _
    · exact .refl s

/-- Taking out the repeated values of a field keeps all others. -/
theorem dedup_frame (h : ¬kept name) : Frame kept s (s.dedup name).state := by
  rw [dedup]
  split
  · exact .refl s
  · exact put_frame h _ _

/-- A store has a field under a name if and only if the name is among its
names. -/
theorem contains_iff : s.contains name = true ↔ name ∈ s.names := by
  rw [contains, find?, List.find?_isSome, names, List.mem_map]
  simp

/-- Renaming gives one field a name that no other has. -/
theorem nodup_renamed {old new : String} {fs : List Field}
    (hnew : new ∉ fs.map Field.name) (h : (fs.map Field.name).Nodup) :
    ((fs.map fun f => if f.name = old then { f with name := new } else f).map
      Field.name).Nodup := by
  have hmap :
      (fs.map fun f => if f.name = old then { f with name := new } else f).map
          Field.name
        = (fs.map Field.name).map fun n => if n = old then new else n := by
    rw [List.map_map, List.map_map]
    refine List.map_congr_left fun f _ => ?_
    rw [Function.comp, Function.comp]
    split
    · rfl
    · rfl
  rw [hmap]
  refine h.map_on fun a ha b hb hab => ?_
  by_cases h₁ : a = old
  · by_cases h₂ : b = old
    · rw [h₁, h₂]
    · rw [if_pos h₁, if_neg h₂] at hab
      exact absurd (hab ▸ hb) hnew
  · by_cases h₂ : b = old
    · rw [if_neg h₁, if_pos h₂] at hab
      exact absurd (hab ▸ ha) hnew
    · rw [if_neg h₁, if_neg h₂] at hab
      exact hab

/-- A name that takes no part is looked up past the renamed field. -/
theorem find?_renamed {old new name : String} (hold : old ≠ name)
    (hnew : new ≠ name) (fs : List Field) :
    (fs.map fun f => if f.name = old then { f with name := new } else f).find?
      (·.name == name) = fs.find? (·.name == name) := by
  induction fs with
  | nil => rfl
  | cons f fs ih =>
      rw [List.map_cons, List.find?_cons, List.find?_cons, ih]
      by_cases hf : f.name = old
      · rw [if_pos hf, hf, beq_eq_false_iff_ne.mpr hold]
        rw [show ((({ f with name := new } : Field).name == name) = false) from
          beq_eq_false_iff_ne.mpr hnew]
      · rw [if_neg hf]

/-- Renaming keeps the fields under other names than the two. -/
theorem rename_frame {old new : String} (hold : ¬kept old) (hnew : ¬kept new) :
    Frame kept s (s.rename old new).state := by
  rw [rename]
  split
  · exact .refl s
  · split
    · exact .refl s
    · next hcontains =>
        rw [contains_iff] at hcontains
        refine ⟨rfl, nodup_renamed hcontains, fun n hn => ?_⟩
        have h₁ : old ≠ n := fun h => hold (h ▸ hn)
        have h₂ : new ≠ n := fun h => hnew (h ▸ hn)
        exact find?_renamed h₁ h₂ s.fields

end Intake.FieldStore
