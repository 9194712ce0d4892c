/-
Reading back the document of a record, field by field.

A record is written as the members of an object in a fixed order: id, run,
fields, children. As long as it is tidy no two of them share a name, so the
document is the plain list of them (`toJson_members`), and reading takes
them one after the other. Each field is read back by itself (`Field.reread`),
each child by itself, and the record is put together from what comes of them.
This is `reread`, and the main result says that reading the document of a
record is rereading the record, whatever its values are.
-/
import Intake.Proofs.Field.Adding
import Intake.Proofs.Json.Reread
import Intake.Proofs.Record.Reach

namespace Intake

-- ====================================================== members

namespace Record

/-- The member that a field is written as. -/
def member (f : Field) : String × Json := (f.name, slotToJson f.slot)

/-- The members ahead of the fields. -/
def headMembers (r : Record) : List (String × Json) :=
  (idField, .text r.id)
    :: (r.runId.map fun runId => (runIdField, .text runId)).toList

/-- The member behind the fields, if there are children. -/
def tailMembers (r : Record) : List (String × Json) :=
  if r.children.isEmpty then []
  else [(childrenField, .array (childrenToJson r.children))]

/-- The fields of a tidy record do not bear the names of the frame. -/
theorem Tidy.not_isFrame {r : Record} (h : Tidy r) {f : Field}
    (hf : f ∈ r.fields.fields) : ¬IsFrame f.name := by
  intro hname
  have hfind := h.unreserved f.name hname
  rw [FieldStore.find?, List.find?_eq_none] at hfind
  exact hfind f hf (beq_self_eq_true f.name)

/-- A tidy record's field of errors is a list of errors. -/
theorem Tidy.errorList {r : Record} (h : Tidy r) {f : Field}
    (hf : f ∈ r.fields.fields) (hname : f.name = errorsField) :
    ∃ text texts, f = Record.errorList text texts := by
  have hfind := FieldStore.find?_of_mem h.distinct hf
  rw [hname] at hfind
  exact h.errors f hfind

/-- The keys of the frame are no keys of fields. -/
theorem Tidy.name_not_mem_headMembers {r : Record} (h : Tidy r) {f : Field}
    (hf : f ∈ r.fields.fields) : f.name ∉ r.headMembers.map Prod.fst := by
  have hframe := h.not_isFrame hf
  simp only [IsFrame, not_or] at hframe
  rw [headMembers, List.map_cons, List.mem_cons, not_or]
  refine ⟨hframe.1, ?_⟩
  cases r.runId with
  | none => exact List.not_mem_nil
  | some runId => exact fun hmem => hframe.2.1 (List.mem_singleton.mp hmem)

/-- The key of the children is free when they are written. -/
theorem Tidy.childrenField_not_mem {r : Record} (h : Tidy r) :
    childrenField
      ∉ (r.headMembers ++ r.fields.fields.map member).map Prod.fst := by
  rw [List.map_append, List.mem_append, not_or]
  constructor
  · rw [headMembers]
    cases r.runId with
    | none => simp [idField, childrenField]
    | some runId => simp [idField, runIdField, childrenField]
  · rw [List.map_map, List.mem_map]
    rintro ⟨f, hf, hname⟩
    exact h.not_isFrame hf (.inr (.inr hname))

/-- A record is written as its head, with its fields and then its children
inserted. -/
theorem toJson_eq (r : Record) :
    r.toJson = .object (match childrenToJson r.children with
      | [] => r.fields.fields.foldl
          (fun members f => Json.insert f.name (slotToJson f.slot) members)
            r.headMembers
      | documents => Json.insert childrenField (.array documents)
          (r.fields.fields.foldl
            (fun members f => Json.insert f.name (slotToJson f.slot) members)
            r.headMembers)) := by
  obtain ⟨id, runId, fields, children, dropped⟩ := r
  rw [toJson.eq_def]
  cases runId with
  | none => rfl
  | some runId => rfl

/-- The document of a tidy record is its members in order. -/
theorem toJson_members {r : Record} (h : Tidy r) :
    r.toJson = .object
      (r.headMembers ++ r.fields.fields.map member ++ r.tailMembers) := by
  have hfields : r.fields.fields.foldl
      (fun members f => Json.insert f.name (slotToJson f.slot) members)
        r.headMembers
        = r.headMembers ++ r.fields.fields.map member :=
    Json.foldl_insert Field.name (fun f => slotToJson f.slot)
      r.fields.fields r.headMembers
      h.distinct fun f hf => h.name_not_mem_headMembers hf
  rw [toJson_eq, hfields, tailMembers]
  cases hc : r.children with
  | nil => exact congrArg Json.object (List.append_nil _).symm
  | cons c cs =>
      rw [childrenToJson]
      exact
        congrArg Json.object (Json.insert_of_not_mem h.childrenField_not_mem _)

end Record

-- ====================================================== fields

/-- What is read back where a field was written. -/
def Field.reread (f : Field) : Except FieldError Field :=
  match f.slot with
  | .single v =>
    let value := Record.singleOfJson (Record.singleToJson v)
    .ok ⟨f.name, .single value, value.map Value.type⟩
  | .multi vs =>
    let values := vs.map fun v => Value.ofJson (Record.valueToJson v)
    (FieldStore.empty.commonType f.name none values).map fun declared =>
      ⟨f.name, .multi values, declared⟩

namespace FieldStore

/-- Fields behind the others. -/
def extend (s : FieldStore) (fs : List Field) : FieldStore :=
  { s with fields := s.fields ++ fs }

theorem names_extend (s : FieldStore) (fs : List Field) :
    (s.extend fs).names = s.names ++ fs.map Field.name := List.map_append

theorem extend_nil (s : FieldStore) : s.extend [] = s := by
  rw [extend, List.append_nil]

theorem extend_extend (s : FieldStore) (fs gs : List Field) :
    (s.extend fs).extend gs = s.extend (fs ++ gs) := by
  rw [extend, extend, extend, List.append_assoc]

/-- A new name is put last. -/
theorem put_of_not_mem {s : FieldStore} {name : String} (h : name ∉ s.names)
    (slot : Slot) (declared : Option ValueType) :
    s.put name slot declared = s.extend [⟨name, slot, declared⟩] := by
  rw [put, extend, place_of_not_mem h]

end FieldStore

namespace Record

/-- The single form of a value is never an array. -/
theorem singleToJson_ne_array (v : Option Value) (items : List Json) :
    singleToJson v ≠ .array items := by
  cases v with
  | none => exact nofun
  | some v =>
      cases v with
      | json j =>
          rw [singleToJson]
          split
          · exact nofun
          · next hj =>
              rintro rfl
              exact hj rfl
      | float x =>
          show Json.ofDouble x ≠ _
          rw [Json.ofDouble]
          split
          · exact nofun
          · exact nofun
      | text s => exact nofun
      | int i => exact nofun
      | long i => exact nofun
      | bool b => exact nofun
      | timestamp t => exact nofun
      | bytes b => exact nofun

/-- A chain of descriptions is written behind the errors there are. -/
theorem foldl_logError_eq (d : String) (ds : List String) :
    ∀ {r : Record}, Tidy r →
      (d :: ds).foldl logError r
        = { r with
            fields := r.fields.put errorsField
              (.multi (textValues (r.errors ++ d :: ds))) (some .text) } := by
  induction ds generalizing d with
  | nil =>
      intro r h
      have hfields := logError_eq h d
      rw [List.foldl_cons, List.foldl_nil, ← hfields]
      rfl
  | cons e ds ih =>
      intro r h
      rw [List.foldl_cons, ih e (h.logError d), logError_eq h,
        FieldStore.put_put, errors_logError h, List.append_assoc]
      rfl

/-- A field that is not there has no texts. -/
theorem getStrings_eq_nil {r : Record} {name : String}
    (h : name ∉ r.fields.names) :
    r.getStrings name = [] := by
  have hfind : r.fields.find? name = none := by
    rw [← Option.not_isSome_iff_eq_none]
    exact fun hsome => h (FieldStore.contains_iff.mp hsome)
  rw [getStrings, getMany, FieldStore.getMany, FieldStore.slot?, hfind]
  rfl

/-- The texts of a list of errors are what was written. -/
theorem errorTexts_values (texts : List String) :
    errorTexts (.array ((textValues texts).map valueToJson)) = texts := by
  induction texts with
  | nil => rfl
  | cons text texts ih => exact congrArg (text :: ·) ih

/-- More texts do not change the type that texts have in common. -/
theorem commonType_textValues (texts : List String) :
    FieldStore.empty.commonType errorsField (some .text) (textValues texts)
      = .ok (some .text) := by
  induction texts with
  | nil => rfl
  | cons text texts ih => exact ih

/-- The list of errors is read back as it was. -/
theorem reread_errorList (text : String) (texts : List String) :
    (errorList text texts).reread = .ok (errorList text texts) := by
  have hvalues :
      (textValues (text :: texts)).map (fun v => Value.ofJson (valueToJson v))
        = textValues (text :: texts) := by
    rw [textValues, List.map_map]
    rfl
  rw [Field.reread, errorList]
  simp only [hvalues]
  have hcommon :
      FieldStore.empty.commonType errorsField none (textValues (text :: texts))
        = .ok (some .text) := commonType_textValues texts
  rw [hcommon]
  rfl

/-- Reading where a field was written puts what is read back behind the
others. -/
theorem readMember_reread {r : Record} (h : Tidy r) {f : Field}
    (hnew : f.name ∉ r.fields.names)
    (herrors : f.name = errorsField → ∃ text texts, f = errorList text texts) :
    readMember r f.name (slotToJson f.slot)
      = f.reread.map fun g => { r with fields := r.fields.extend [g] } := by
  by_cases hname : f.name = errorsField
  · obtain ⟨text, texts, rfl⟩ := herrors hname
    have hwritten : slotToJson (errorList text texts).slot
        = .array ((textValues (text :: texts)).map valueToJson) := rfl
    have hnew : errorsField ∉ r.fields.names := hnew
    have hempty : r.errors = [] := getStrings_eq_nil hnew
    rw [hname, hwritten, readMember_errors, errorTexts_values,
      foldl_logError_eq text texts h, reread_errorList, hempty,
      List.nil_append, FieldStore.put_of_not_mem hnew]
    rfl
  · obtain ⟨name, slot, declared⟩ := f
    cases slot with
    | single v =>
        rw [slotToJson, readMember_single hname r (singleToJson_ne_array v),
          FieldStore.putOne_of_all h.supported, FieldStore.put_of_not_mem hnew]
        rfl
    | multi vs =>
        rw [slotToJson, readMember_array hname, FieldStore.putMany,
          FieldStore.commonType_congr (t := FieldStore.empty) h.supported,
          List.map_map]
        have hread : (Field.mk name (.multi vs) declared).reread
            = (FieldStore.empty.commonType name none
                (vs.map (Value.ofJson ∘ valueToJson))).map fun declared =>
              ⟨name, .multi (vs.map (Value.ofJson ∘ valueToJson)), declared⟩ :=
              rfl
        rw [hread]
        cases FieldStore.empty.commonType name none
          (vs.map (Value.ofJson ∘ valueToJson)) with
        | error e => rfl
        | ok declared =>
            exact congrArg (fun fields => Except.ok { r with fields })
              (FieldStore.put_of_not_mem hnew _ declared)

/-- A field is read back under its name. -/
theorem Field.reread_name {f g : Field} (h : f.reread = .ok g) :
    g.name = f.name := by
  rw [Field.reread] at h
  split at h
  · cases h
    rfl
  · obtain ⟨declared, -, rfl⟩ := map_eq_ok.mp h
    rfl

section records

variable {relabel : String → String}

/-- Reading where fields were written puts what is read back behind the
fields there are. -/
theorem readMembers_fields (rest : List (String × Json)) :
    ∀ {fs : List Field} {r : Record}, Tidy r → (fs.map Field.name).Nodup →
      (∀ f ∈ fs, f.name ∉ r.fields.names ∧ ¬IsFrame f.name
        ∧ (f.name = errorsField → ∃ text texts, f = errorList text texts)) →
      readMembers relabel r (fs.map member ++ rest)
        = (fs.mapM Field.reread).bind fun gs =>
            readMembers relabel { r with fields := r.fields.extend gs }
              rest := by
  intro fs
  induction fs with
  | nil =>
      rintro ⟨id, runId, fields, children, dropped⟩ _ _ _
      show _ = readMembers relabel ⟨id, runId, fields.extend [],
        children, dropped⟩ rest
      rw [FieldStore.extend_nil, List.map_nil, List.nil_append]
  | cons f fs ih =>
      intro r h hnodup hfs
      rw [List.map_cons, List.nodup_cons] at hnodup
      obtain ⟨hnew, hframe, herrors⟩ := hfs f List.mem_cons_self
      have hread := readMember_reread h hnew herrors
      rw [List.map_cons, List.cons_append, member,
        readMembers_field _ _ _ hframe, List.mapM_cons]
      cases hg : f.reread with
      | error e =>
          rw [hread, hg]
          rfl
      | ok g =>
          rw [hg] at hread
          have htidy := (readMember_tidy hframe h hread).1
          have hrest := ih htidy hnodup.2 fun f' hf' => by
            obtain ⟨hnew', hrest'⟩ := hfs f' (List.mem_cons_of_mem _ hf')
            refine ⟨?_, hrest'⟩
            intro hmem
            have hmem : f'.name ∈ (r.fields.extend [g]).names := hmem
            rw [FieldStore.names_extend, List.mem_append] at hmem
            rcases hmem with hmem | hmem
            · exact hnew' hmem
            · have heq : f'.name = g.name := List.mem_singleton.mp hmem
              rw [Field.reread_name hg] at heq
              exact hnodup.1 (heq ▸ List.mem_map_of_mem hf')
          rw [hread]
          refine hrest.trans ?_
          cases fs.mapM Field.reread with
          | error e => rfl
          | ok gs =>
              show readMembers relabel
                { r with fields := (r.fields.extend [g]).extend gs } rest
                = _
              rw [FieldStore.extend_extend]
              rfl

-- ====================================================== records

mutual

/-- What is read back where a record was written: its fields and its children
read back one by one, and no mark. -/
def reread (relabel : String → String) : Record → Except FieldError Record
  | ⟨id, runId, fields, children, _⟩ =>
    (fields.fields.mapM Field.reread).bind fun fs =>
      (rereadAll relabel children).map fun children =>
        ⟨relabel id, runId, FieldStore.empty.extend fs, children, false⟩

/-- Several records are reread in order, up to the first that fails. -/
def rereadAll (relabel : String → String) :
    List Record → Except FieldError (List Record)
  | [] => .ok []
  | r :: rs =>
    (reread relabel r).bind fun r =>
      (rereadAll relabel rs).map fun rs => r :: rs

end

/-- Ahead of the fields only the run id has to be read. -/
theorem readMembers_head (r : Record) (rest : List (String × Json)) :
    readMembers relabel (new (relabel r.id)) (r.headMembers ++ rest)
      = readMembers relabel { new (relabel r.id) with runId := r.runId }
          rest := by
  rw [headMembers, List.cons_append, readMembers_id]
  cases r.runId with
  | none => rfl
  | some runId => exact readMembers_run relabel _ _ runId

/-- Behind the fields the children are read. -/
theorem readMembers_tail (r s : Record) (h : s.children = []) :
    readMembers relabel s r.tailMembers
      = (readChildren relabel (childrenToJson r.children)).map fun children =>
          { s with children } := by
  obtain ⟨id, runId, fields, children, dropped⟩ := s
  cases h
  rw [tailMembers]
  cases hc : r.children with
  | nil => rfl
  | cons c cs =>
      show readMembers relabel _
        [(childrenField, .array (childrenToJson (c :: cs)))] = _
      rw [readMembers_children]
      rfl

/-- Children are reread where each of them is reread by being written and
read. -/
theorem readChildren_rereadAll {rs : List Record}
    (h : ∀ c ∈ rs, ofJsonWith relabel c.toJson = c.reread relabel) :
    readChildren relabel (childrenToJson rs) = rereadAll relabel rs := by
  induction rs with
  | nil => rfl
  | cons c cs ih =>
      rw [childrenToJson, readChildren, rereadAll, h c List.mem_cons_self,
        ih fun c hc => h c (List.mem_cons_of_mem _ hc)]
      rfl

/-- Reading the document of a record is rereading the record. -/
theorem ofJsonWith_toJson {r : Record} (h : ∀ x ∈ r.tree, Tidy x ∧ x.id ≠ "") :
    ofJsonWith relabel r.toJson = r.reread relabel := by
  induction r using tree_induction with
  | step r ih =>
      obtain ⟨⟨htidy, hid⟩, hbelow⟩ := forall_tree.mp h
      have hchildren :=
        readChildren_rereadAll fun c hc => ih c hc (hbelow c hc)
      have hidOf :
          idOfMembers (r.headMembers ++ r.fields.fields.map member
            ++ r.tailMembers)
            = .ok r.id := by
        show (if r.id.isEmpty then _ else _) = _
        rw [if_neg (by simpa using hid)]
      have hnew : Tidy { new (relabel r.id) with runId := r.runId } :=
        (Tidy.new (relabel r.id)).congr rfl
      have hfields :=
        @readMembers_fields relabel r.tailMembers _ _ hnew htidy.distinct
        fun f hf =>
          ⟨List.not_mem_nil, htidy.not_isFrame hf, htidy.errorList hf⟩
      rw [toJson_members htidy, ofJsonWith, hidOf]
      show readMembers relabel (new (relabel r.id)) _ = _
      rw [List.append_assoc, readMembers_head, hfields]
      obtain ⟨id, runId, fields, children, dropped⟩ := r
      rw [reread]
      refine congrArg (Except.bind _) (funext fun gs => ?_)
      rw [readMembers_tail _ _ rfl, hchildren]
      rfl

end records

end Record

end Intake
