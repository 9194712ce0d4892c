/-
Writing fields that a record does not have yet.

A field under a new name that is not reserved goes behind the others, so a row
of such writes goes through to its end (`setFields_ok`) and leaves the fields
in the order in which they were written. Under different names each of them is
found with its value.
-/
import Intake.Proofs.Record.WriteRead

namespace Intake

/-- The field that a single value makes. -/
def Field.ofEntry (entry : String × Value) : Field :=
  ⟨entry.1, .single (some entry.2), some entry.2.type⟩

/-- Fields that are made of entries have the names of these. -/
theorem Field.map_name_ofEntry (entries : List (String × Value)) :
    (entries.map Field.ofEntry).map Field.name = entries.map Prod.fst := by
  rw [List.map_map]
  rfl

namespace Record

variable {r : Record}

/-- A record with fields behind its own. -/
def extend (r : Record) (fs : List Field) : Record :=
  { r with fields := r.fields.extend fs }

theorem extend_nil (r : Record) : r.extend [] = r := by
  cases r
  unfold extend
  rw [FieldStore.extend_nil]

/-- Fields are added one behind the other. -/
theorem extend_extend (r : Record) (fs gs : List Field) :
    (r.extend fs).extend gs = r.extend (fs ++ gs) := by
  unfold extend
  rw [FieldStore.extend_extend]

/-- The names of added fields come last. -/
theorem fieldNames_extend (r : Record) (fs : List Field) :
    (r.extend fs).fieldNames = r.fieldNames ++ fs.map Field.name :=
  FieldStore.names_extend _ _

/-- A field that is not reserved takes the value, whatever it has had. -/
theorem setField_put (hall : r.fields.supported = ValueType.all)
    {name : String} (hfree : ¬Reserved name) (value : Value) :
    r.setField name value
      = .ok { r with
          fields := r.fields.put name (.single (some value))
            (some value.type) } () := by
  unfold setField onWritable onFields
  rw [if_neg hfree]
  show ((r.fields.putOne name (some value)).within fun fields =>
    { r with fields }) = _
  rw [FieldStore.putOne_of_all hall]
  rfl

/-- A new field is added behind the others. -/
theorem setField_ok (hall : r.fields.supported = ValueType.all) {name : String}
    (hfree : ¬Reserved name) (hnew : name ∉ r.fieldNames) (value : Value) :
    r.setField name value = .ok (r.extend [Field.ofEntry (name, value)])
      () := by
  rw [setField_put hall hfree, FieldStore.put_of_not_mem hnew]
  rfl

/-- Fields of new names that are not reserved are written behind the others. -/
theorem setFields_ok {entries : List (String × Value)}
    (hall : r.fields.supported = ValueType.all)
    (hfree : ∀ entry ∈ entries, ¬Reserved entry.1)
    (hnew : (r.fieldNames ++ entries.map Prod.fst).Nodup) :
    Outcome.each (fun r (entry : String × Value) => r.setField entry.1 entry.2)
      r entries
      = .ok (r.extend (entries.map Field.ofEntry)) () := by
  induction entries generalizing r with
  | nil =>
      rw [List.map_nil, extend_nil]
      rfl
  | cons entry entries ih =>
      obtain ⟨hentry, hentries⟩ := List.forall_mem_cons.mp hfree
      have hother : entry.1 ∉ r.fieldNames := fun hmem =>
        List.disjoint_of_nodup_append hnew hmem List.mem_cons_self
      have hrest :
          ((r.extend [Field.ofEntry entry]).fieldNames
            ++ entries.map Prod.fst).Nodup := by
        rw [fieldNames_extend, List.append_assoc]
        exact hnew
      unfold Outcome.each
      rw [setField_ok hall hentry hother]
      show Outcome.each _ (r.extend [Field.ofEntry entry]) entries = _
      rw [@ih (r.extend [Field.ofEntry entry]) hall hentries hrest,
        extend_extend]
      rfl

/-- Of fields under different names each one is found. -/
theorem getOne_extend_new {id : String} {entries : List (String × Value)}
    (hnames : (entries.map Prod.fst).Nodup) {entry : String × Value}
    (hentry : entry ∈ entries) :
    ((new id).extend (entries.map Field.ofEntry)).getOne entry.1
      = some entry.2 := by
  have hdistinct :
      (FieldStore.empty.extend (entries.map Field.ofEntry)).Distinct := by
    unfold FieldStore.Distinct
    rw [FieldStore.names_extend, Field.map_name_ofEntry]
    exact hnames
  have hfield :
      Field.ofEntry entry
        ∈ (FieldStore.empty.extend (entries.map Field.ofEntry)).fields :=
    List.mem_map_of_mem hentry
  have hfind := FieldStore.find?_of_mem hdistinct hfield
  show (FieldStore.empty.extend (entries.map Field.ofEntry)).getOne
    (Field.ofEntry entry).name = _
  unfold FieldStore.getOne FieldStore.getMany FieldStore.slot?
  rw [hfind]
  rfl

/-- A field that is not reserved has the text of its value. -/
theorem getText_of_getOne {name text : String} (hfree : ¬Reserved name)
    (h : r.getOne name = some (.text text)) : r.getText name = some text := by
  rw [reserved_iff, not_or, not_or] at hfree
  unfold getText
  rw [if_neg hfree.1, if_neg hfree.2.1, h]
  rfl

/-- A long value is read as one. -/
theorem getLong_of_getOne {name : String} {i : Int64}
    (h : r.getOne name = some (.long i)) :
    r.getLong name = some i := by
  rw [getLong, h]
  rfl

end Record

end Intake
