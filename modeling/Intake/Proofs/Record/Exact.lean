/-
Records whose documents are exact.

What a record writes besides its values is text: ids, runs, and keys that
are all different as long as the record is tidy. So the document of a tree
is exact when its values are, and is read back from its text.
-/
import Intake.Proofs.Record.WriteRead

namespace Intake

-- ====================================================== exact values

/-- No double and no document with one, or with a key that occurs twice. -/
def Value.Exact : Value → Prop
  | .float _ => False
  | .json j => j.Exact
  | _ => True

/-- An exact value has an exact document. -/
theorem Value.exact_toJson {v : Value} (h : v.Exact) : v.toJson.Exact := by
  cases v with
  | text s => exact .text s
  | int i => exact .int _ _
  | long i => exact .int _ _
  | bool b => exact .bool b
  | float x => exact h.elim
  | timestamp t => exact .text _
  | bytes b => exact .text _
  | json j => exact h

/-- A field whose values are all exact. -/
def Field.Exact (f : Field) : Prop := ∀ v, some v ∈ f.slot.values → v.Exact

namespace Record

/-- An exact value or a null has an exact document. -/
theorem exact_valueToJson {v : Option Value} (h : ∀ w, v = some w → w.Exact) :
    (valueToJson v).Exact := by
  cases v with
  | none => exact .null
  | some w => exact Value.exact_toJson (h w rfl)

/-- So it has in the form of a single value, which adds a wrapper at most. -/
theorem exact_singleToJson {v : Option Value} (h : ∀ w, v = some w → w.Exact) :
    (singleToJson v).Exact := by
  have hplain := exact_valueToJson h
  rw [singleToJson.eq_def]
  split
  · next j =>
      split
      · refine .object (List.nodup_singleton _) fun m hm => ?_
        rw [List.mem_singleton.mp hm]
        exact hplain
      · exact hplain
  · exact hplain

/-- A field of exact values has an exact document. -/
theorem exact_slotToJson {f : Field} (h : f.Exact) :
    (slotToJson f.slot).Exact := by
  obtain ⟨name, slot, declared⟩ := f
  cases slot with
  | single v =>
      exact exact_singleToJson fun w hw => h w (hw ▸ List.mem_singleton_self _)
  | multi vs =>
      refine .array fun j hj => ?_
      obtain ⟨v, hv, rfl⟩ := List.mem_map.mp hj
      exact exact_valueToJson fun w hw => h w (hw ▸ hv)

-- ====================================================== exact documents

theorem childrenToJson_eq_map (rs : List Record) :
    childrenToJson rs = rs.map toJson := by
  induction rs with
  | nil => rfl
  | cons r rs ih => rw [childrenToJson, ih, List.map_cons]

/-- No two members of the document of a tidy record share a key. -/
theorem Tidy.nodup_members {r : Record} (h : Tidy r) :
    ((r.headMembers ++ r.fields.fields.map member ++ r.tailMembers).map
      Prod.fst).Nodup := by
  have hhead : (r.headMembers.map Prod.fst).Nodup := by
    rw [headMembers]
    cases r.runId with
    | none => exact List.nodup_singleton _
    | some runId => simp [idField, runIdField]
  have hfields : ((r.fields.fields.map member).map Prod.fst).Nodup := by
    rw [List.map_map]
    exact h.distinct
  have htail : (r.tailMembers.map Prod.fst).Nodup
      ∧ ∀ key ∈ r.tailMembers.map Prod.fst, key = childrenField := by
    rw [tailMembers]
    split
    · exact ⟨List.nodup_nil, fun _ hkey => absurd hkey List.not_mem_nil⟩
    · exact
        ⟨List.nodup_singleton _, fun key hkey => List.mem_singleton.mp hkey⟩
  rw [List.map_append, List.nodup_append, List.map_append, List.nodup_append]
  refine ⟨⟨hhead, hfields, ?_⟩, htail.1, ?_⟩
  · rintro key hkey _ hname rfl
    obtain ⟨m, hm, rfl⟩ := List.mem_map.mp hname
    obtain ⟨f, hf, rfl⟩ := List.mem_map.mp hm
    exact h.name_not_mem_headMembers hf hkey
  · rintro key hkey _ hlast rfl
    rw [htail.2 key hlast, ← List.map_append] at hkey
    exact h.childrenField_not_mem hkey

/-- The document of a tree of exact values is exact. -/
theorem exact_toJson {r : Record}
    (h : ∀ x ∈ r.tree, Tidy x ∧ ∀ f ∈ x.fields.fields, f.Exact) :
    r.toJson.Exact := by
  induction r using tree_induction with
  | step r ih =>
      obtain ⟨⟨htidy, hfields⟩, hbelow⟩ := forall_tree.mp h
      rw [toJson_members htidy]
      refine .object htidy.nodup_members fun m hm => ?_
      rw [List.mem_append, List.mem_append] at hm
      rcases hm with (hm | hm) | hm
      · rw [headMembers, List.mem_cons] at hm
        rcases hm with rfl | hm
        · exact .text _
        · obtain ⟨runId, -, rfl⟩ :=
            Option.map_eq_some_iff.mp (Option.mem_toList.mp hm)
          exact .text _
      · obtain ⟨f, hf, rfl⟩ := List.mem_map.mp hm
        exact exact_slotToJson (hfields f hf)
      · rw [tailMembers] at hm
        split at hm
        · cases hm
        · rw [List.mem_singleton.mp hm]
          refine .array fun j hj => ?_
          rw [childrenToJson_eq_map] at hj
          obtain ⟨c, hc, rfl⟩ := List.mem_map.mp hj
          exact ih c hc (hbelow c hc)

end Record

end Intake
