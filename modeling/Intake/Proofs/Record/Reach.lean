/-
The records that can be built, and what they have in common.

A record starts out new or is read from a document, and from then on only
operations change it. `Operation` lists them, each with the arguments it
takes, and `apply` is the record that one leaves behind, be it that it fails.
Whatever is done to a record, it stays `Tidy`: field names are distinct and
none of them is reserved, except that the list of errors, if there is one,
is a list of one text or more.

The setters keep a record tidy because they leave reserved fields alone
(`Tidy.edited`), and `logError` because it puts one text behind the others.
-/
import Intake.Proofs.Record.Edit
import Intake.Proofs.Record.Reading
import Intake.Proofs.Record.Tree

namespace Intake

namespace Record

-- ====================================================== operations

/-- What can be done to a record. -/
inductive Operation where
  | initializeRunId (runId : String)
  | clearRunId
  | inheritRunId (runId : String)
  | setField (name : String) (value : Value)
  | setNull (name : String)
  | setValues (name : String) (values : List (Option Value))
  | addToField (name : String) (value : Value)
  | setOrAdd (name : String) (value : Value)
  | update (name : String) (mode : UpdateMode) (values : List Value)
  | setOrAddFrom (name : String) (other : Record)
  | setOrAddAll (other : Record)
  | renameField (old new : String) (mode : UpdateMode)
  | removeField (name : String)
  | removeFromArray (name : String) (index : Nat)
  | removeDuplicateValues (name : String) (target : Option String)
  | logError (description : String)
  | addChild (child : Record)
  /-- the children are taken away or changed where they are -/
  | setChildren (children : List Record)
  | markDropped

namespace Operation

/-- The record that an operation leaves behind. -/
def apply (r : Record) : Operation → Record
  | .initializeRunId runId => (r.initializeRunId runId).state
  | .clearRunId => r.clearRunId
  | .inheritRunId runId => r.inheritRunId runId
  | .setField name value => (r.setField name value).state
  | .setNull name => (r.setNull name).state
  | .setValues name values => (r.setValues name values).state
  | .addToField name value => (r.addToField name value).state
  | .setOrAdd name value => (r.setOrAdd name value).state
  | .update name mode values => (r.update name mode values).state
  | .setOrAddFrom name other => (r.setOrAddFrom name other).state
  | .setOrAddAll other => (r.setOrAddAll other).state
  | .renameField old new mode => (r.renameField old new mode).state
  | .removeField name => (r.removeField name).state
  | .removeFromArray name index => (r.removeFromArray name index).state
  | .removeDuplicateValues name target =>
      (r.removeDuplicateValues name target).state
  | .logError description => r.logError description
  | .addChild child => r.addChild child
  | .setChildren children => { r with children }
  | .markDropped => r.markDropped

/-- The records that an operation makes children. -/
def adopted : Operation → List Record
  | .addChild child => [child]
  | .setChildren children => children
  | _ => []

end Operation

/-- A record that operations lead to, from a new one or from a document. -/
inductive Built : Record → Prop
  | new (id : String) : Built (new id)
  | withRunId (id runId : String) : Built (withRunId id runId)
  | read {relabel : String → String} {j : Json} {r : Record}
      (h : ofJsonWith relabel j = .ok r) : Built r
  | apply {r : Record} (op : Operation) (h : Built r)
      (hadopted : ∀ c ∈ op.adopted, Built c) : Built (op.apply r)

/-- A sequence of operations builds a record from a built one. -/
theorem Built.foldl (ops : List Operation) :
    ∀ {r : Record}, Built r → (∀ op ∈ ops, ∀ c ∈ op.adopted, Built c) →
      Built (ops.foldl Operation.apply r) := by
  induction ops with
  | nil => exact fun h _ => h
  | cons op ops ih =>
      intro r h hadopted
      rw [List.forall_mem_cons] at hadopted
      exact ih (h.apply op hadopted.1) hadopted.2

-- ====================================================== tidy records

/-- Texts as the values of a field. -/
def textValues (texts : List String) : List (Option Value) :=
  texts.map fun s => some (.text s)

/-- A list of errors of one text or more. -/
def errorList (text : String) (texts : List String) : Field :=
  ⟨errorsField, .multi (textValues (text :: texts)), some .text⟩

/-- What all operations keep of one record. -/
structure Tidy (r : Record) : Prop where
  supported : r.fields.supported = ValueType.all
  distinct : r.fields.Distinct
  unreserved : ∀ name, IsFrame name → r.fields.find? name = none
  errors : ∀ f, r.fields.find? errorsField = some f →
    ∃ text texts, f = errorList text texts

/-- The names of the frame are reserved. -/
theorem IsFrame.reserved {name : String} (h : IsFrame name) :
    Reserved name := by
  rw [reserved_iff]
  rcases h with h | h | h
  · exact .inl h
  · exact .inr (.inl h)
  · exact .inr (.inr (.inr h))

/-- The list of errors is no part of the frame, so it can be a field. -/
theorem not_isFrame_errors : ¬IsFrame errorsField := by
  unfold IsFrame
  decide

/-- A name that is neither part of the frame nor the list of errors is free. -/
theorem not_reserved {name : String} (h : ¬IsFrame name)
    (herrors : name ≠ errorsField) :
    ¬Reserved name := by
  rw [reserved_iff]
  rintro (hname | hname | hname | hname)
  · exact h (.inl hname)
  · exact h (.inr (.inl hname))
  · exact herrors hname
  · exact h (.inr (.inr hname))

namespace Tidy

variable {r r' : Record}

/-- The conditions speak of the fields alone. -/
theorem congr (h : Tidy r) (hfields : r'.fields = r.fields) : Tidy r' := by
  obtain ⟨hsupported, hdistinct, hunreserved, herrors⟩ := h
  rw [← hfields] at hsupported hdistinct hunreserved herrors
  exact ⟨hsupported, hdistinct, hunreserved, herrors⟩

/-- An edit keeps a record tidy. -/
theorem edited (h : Tidy r) (he : Edited r r') : Tidy r' where
  supported := he.fields.supported.trans h.supported
  distinct := he.fields.distinct h.distinct
  unreserved := fun name hname =>
    (he.fields.found name hname.reserved).trans (h.unreserved name hname)
  errors := fun f hf => h.errors f <| by
    rw [← hf, he.fields.found errorsField (by decide)]

/-- A new record is tidy. -/
theorem new (id : String) : Tidy (new id) where
  supported := rfl
  distinct := List.nodup_nil
  unreserved := fun _ _ => rfl
  errors := fun f hf => by cases hf

end Tidy

-- ====================================================== the list of errors

/-- Values that are texts are read as these texts. -/
theorem filterMap_textValues (texts : List String) :
    (textValues texts).filterMap (fun v => v.map Value.toText) = texts := by
  induction texts with
  | nil => rfl
  | cons text texts ih =>
      rw [textValues, List.map_cons]
      exact congrArg (text :: ·) ih

/-- Where the texts stand after one more was logged. -/
theorem logError_eq {r : Record} (h : Tidy r) (description : String) :
    (r.logError description).fields
      = r.fields.put errorsField
          (.multi (textValues (r.errors ++ [description])))
          (some .text) := by
  have hsupports : r.fields.supports .text = true := by
    rw [FieldStore.supports, h.supported]
    decide
  have hcheck : r.fields.checkValue errorsField (some (.text description))
      = .ok (some .text) := by
    rw [FieldStore.checkValue, FieldStore.checkSupported, Value.type,
      if_pos hsupports]
    rfl
  rw [logError, FieldStore.add, hcheck, errors, getStrings, getMany,
    FieldStore.getMany, FieldStore.slot?]
  cases hfind : r.fields.find? errorsField with
  | none => rfl
  | some f =>
      obtain ⟨text, texts, rfl⟩ := h.errors f hfind
      have hmany :
        (((some (errorList text texts)).map (·.slot)).map Slot.values).getD []
          = textValues (text :: texts) := rfl
      rw [hmany, filterMap_textValues, textValues, List.map_append]
      rfl

/-- Logging puts one text behind the others, as far as readers can tell. -/
theorem errors_logError {r : Record} (h : Tidy r) (description : String) :
    (r.logError description).errors = r.errors ++ [description] := by
  have hfields := logError_eq h description
  generalize r.errors ++ [description] = texts at hfields ⊢
  rw [errors, getStrings, getMany, FieldStore.getMany, FieldStore.slot?,
    hfields, FieldStore.find?_put_self]
  exact filterMap_textValues texts

/-- Logging an error keeps a record tidy. -/
theorem Tidy.logError {r : Record} (h : Tidy r) (description : String) :
    Tidy (r.logError description) where
  supported := (logError_frame r description).supported.trans h.supported
  distinct := (logError_frame r description).distinct h.distinct
  unreserved := fun name hname => by
    have hne : name ≠ errorsField :=
      fun heq => not_isFrame_errors (heq ▸ hname)
    rw [(logError_frame r description).found name hne]
    exact h.unreserved name hname
  errors := by
    intro f hf
    rw [logError_eq h, FieldStore.find?_put_self] at hf
    cases hf
    cases r.errors with
    | nil => exact ⟨description, [], rfl⟩
    | cons text texts => exact ⟨text, texts ++ [description], rfl⟩

-- ====================================================== steps

/-- What an operation can do, successful or not: edit fields, log an error,
or leave the fields alone. Children come from elsewhere only if they are
adopted. -/
theorem Operation.apply_cases (r : Record) (op : Operation) :
    Edited r (op.apply r)
      ∨ (∃ description, op = .logError description)
      ∨ ((op.apply r).fields = r.fields
          ∧ ∀ c ∈ (op.apply r).children, c ∈ r.children ∨ c ∈ op.adopted) := by
  cases op with
  | setField name value => exact .inl (setField_edited r name value)
  | setNull name => exact .inl (setNull_edited r name)
  | setValues name values => exact .inl (setValues_edited r name values)
  | addToField name value => exact .inl (addToField_edited r name value)
  | setOrAdd name value => exact .inl (setOrAdd_edited r name value)
  | update name mode values => exact .inl (update_edited r name mode values)
  | setOrAddFrom name other => exact .inl (setOrAddFrom_edited r name other)
  | setOrAddAll other => exact .inl (setOrAddAll_edited r other)
  | renameField old new mode => exact .inl (renameField_edited r old new mode)
  | removeField name => exact .inl (removeField_edited r name)
  | removeFromArray name index =>
      exact .inl (removeFromArray_edited r name index)
  | removeDuplicateValues name target =>
      exact .inl (removeDuplicateValues_edited r name target)
  | logError description => exact .inr (.inl ⟨description, rfl⟩)
  | initializeRunId runId =>
      refine .inr (.inr ?_)
      simp only [apply, Record.initializeRunId]
      split
      · exact ⟨rfl, fun c hc => .inl hc⟩
      · exact ⟨rfl, fun c hc => .inl hc⟩
  | clearRunId => exact .inr (.inr ⟨rfl, fun c hc => .inl hc⟩)
  | inheritRunId runId => exact .inr (.inr ⟨rfl, fun c hc => .inl hc⟩)
  | addChild child =>
      exact .inr (.inr ⟨rfl, fun c hc => List.mem_append.mp hc⟩)
  | setChildren children => exact .inr (.inr ⟨rfl, fun c hc => .inr hc⟩)
  | markDropped => exact .inr (.inr ⟨rfl, fun c hc => .inl hc⟩)

/-- Every operation keeps a record tidy. -/
theorem Operation.apply_tidy {r : Record} (h : Tidy r) (op : Operation) :
    Tidy (op.apply r) := by
  rcases op.apply_cases r with he | ⟨description, rfl⟩ | ⟨he, -⟩
  · exact h.edited he
  · exact h.logError description
  · exact h.congr he

/-- Every child was there before or was given to the operation. -/
theorem Operation.apply_children (r : Record) (op : Operation) :
    ∀ c ∈ (op.apply r).children, c ∈ r.children ∨ c ∈ op.adopted := by
  rcases op.apply_cases r with he | ⟨description, rfl⟩ | ⟨-, he⟩
  · rw [he.children]
    exact fun c hc => .inl hc
  · exact fun c hc => .inl hc
  · exact he

/-- A member besides the list of errors is read by an edit. -/
theorem readMember_edited {r r' : Record} {name : String} {j : Json}
    (hname : ¬IsFrame name) (herrors : name ≠ errorsField)
    (h : readMember r name j = .ok r') : Edited r r' := by
  have hfree := not_reserved hname herrors
  by_cases hj : ∃ items, j = .array items
  · obtain ⟨items, rfl⟩ := hj
    rw [readMember_array herrors] at h
    obtain ⟨-, -, rfl⟩ := map_eq_ok.mp h
    exact ⟨rfl, rfl, rfl, rfl, FieldStore.putMany_frame hfree _⟩
  · rw [readMember_single herrors r (not_exists.mp hj)] at h
    obtain ⟨-, -, rfl⟩ := map_eq_ok.mp h
    exact ⟨rfl, rfl, rfl, rfl, FieldStore.putOne_frame hfree _⟩

/-- Errors that are logged keep a record tidy and leave its children. -/
theorem foldl_logError_tidy (texts : List String) :
    ∀ {r : Record}, Tidy r →
      Tidy (texts.foldl logError r)
        ∧ (texts.foldl logError r).children = r.children := by
  induction texts with
  | nil => exact fun h => ⟨h, rfl⟩
  | cons text texts ih => exact fun h => ih (h.logError text)

/-- Reading a member that is a field keeps a record tidy, and its children. -/
theorem readMember_tidy {r r' : Record} {name : String} {j : Json}
    (hname : ¬IsFrame name) (h : Tidy r)
    (hread : readMember r name j = .ok r') :
    Tidy r' ∧ r'.children = r.children := by
  by_cases herrors : name = errorsField
  · rw [herrors, readMember_errors] at hread
    cases hread
    exact foldl_logError_tidy _ h
  · have he := readMember_edited hname herrors hread
    exact ⟨h.edited he, he.children⟩

/-- Every record of a tree that is read is tidy. -/
theorem ofJsonWith_tidy {relabel : String → String} {j : Json} {r : Record}
    (h : ofJsonWith relabel j = .ok r) : ∀ x ∈ r.tree, Tidy x := by
  refine ofJsonWith_rule (P := fun r => ∀ x ∈ r.tree, Tidy x) ?_ ?_ ?_ ?_ h
  · intro id _
    rw [forall_tree]
    exact ⟨.new _, fun c hc => by cases hc⟩
  · intro r runId hr
    rw [forall_tree] at hr ⊢
    exact ⟨hr.1.congr rfl, hr.2⟩
  · intro r children hr hc
    rw [forall_tree] at hr ⊢
    refine ⟨hr.1.congr rfl, fun c hmem => ?_⟩
    rcases List.mem_append.mp hmem with hmem | hmem
    · exact hr.2 c hmem
    · exact hc c hmem
  · intro r name j r' hname hr hread
    rw [forall_tree] at hr ⊢
    obtain ⟨htidy, hchildren⟩ := readMember_tidy hname hr.1 hread
    rw [hchildren]
    exact ⟨htidy, hr.2⟩

/-- Every record of a tree that can be built is tidy. -/
theorem Built.tidy {r : Record} (h : Built r) : ∀ x ∈ r.tree, Tidy x := by
  induction h with
  | new id =>
      rw [forall_tree]
      exact ⟨.new id, fun c hc => by cases hc⟩
  | withRunId id runId =>
      rw [forall_tree]
      exact ⟨(Tidy.new id).congr rfl, fun c hc => by cases hc⟩
  | read h => exact ofJsonWith_tidy h
  | apply op h _ ih ihadopted =>
      rw [forall_tree] at ih ⊢
      refine ⟨op.apply_tidy ih.1, fun c hc => ?_⟩
      rcases op.apply_children _ c hc with hc | hc
      · exact ih.2 c hc
      · exact ihadopted c hc

end Record

end Intake
