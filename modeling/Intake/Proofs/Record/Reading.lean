/-
Reading a record from a document, as a rule of induction.

Reading goes through the members of a document with a record in hand, and
through the documents of children on the way. `ofJsonWith_rule` says what
this comes to for a property of records: what holds of a new record and is
kept by taking a run, by taking children that have it and by reading one
more member holds of every record that is read.
-/
import Intake.Record.Document

namespace Intake.Record

-- ====================================================== members

/-- The names of the members that are not read as fields. -/
def IsFrame (name : String) : Prop :=
  name = idField ∨ name = runIdField ∨ name = childrenField

section members

variable (relabel : String → String) (r : Record) (rest : List (String × Json))

/-- The id was read before and is passed over. -/
theorem readMembers_id (j : Json) :
    readMembers relabel r ((idField, j) :: rest)
      = readMembers relabel r rest := by
  rw [readMembers.eq_def]
  exact if_pos rfl

/-- A text under the key of the run becomes the run id. -/
theorem readMembers_run (runId : String) :
    readMembers relabel r ((runIdField, .text runId) :: rest)
      = readMembers relabel { r with runId := some runId } rest := by
  rw [readMembers.eq_def]
  rfl

/-- Under the key of the run null stands for no run. -/
theorem readMembers_null :
    readMembers relabel r ((runIdField, .null) :: rest)
      = readMembers relabel r rest := by
  rw [readMembers.eq_def]
  rfl

/-- Nothing else is accepted as a run id. -/
theorem readMembers_run_error {j : Json} (htext : ∀ runId, j ≠ .text runId)
    (hnull : j ≠ .null) :
    readMembers relabel r ((runIdField, j) :: rest)
      = .error (.invalidRecord "`run_id` must be a string") := by
  rw [readMembers.eq_def]
  cases j with
  | null => exact absurd rfl hnull
  | text runId => exact absurd rfl (htext runId)
  | bool b => rfl
  | number n => rfl
  | array items => rfl
  | object members => rfl

/-- An array under the key of the children is read document by document, and
what comes of it joins the children there are. -/
theorem readMembers_children (documents : List Json) :
    readMembers relabel r ((childrenField, .array documents) :: rest)
      = (readChildren relabel documents).bind fun children =>
          readMembers relabel { r with children := r.children ++ children }
            rest := by
  rw [readMembers.eq_def]
  rfl

/-- What is not an array cannot hold children. -/
theorem readMembers_children_error {j : Json}
    (h : ∀ documents, j ≠ .array documents) :
    readMembers relabel r ((childrenField, j) :: rest)
      = .error (.invalidRecord "`.children` must be an array") := by
  rw [readMembers.eq_def]
  cases j with
  | array documents => exact absurd rfl (h documents)
  | null => rfl
  | bool b => rfl
  | number n => rfl
  | text s => rfl
  | object members => rfl

/-- A member with any other key is read into the fields, and only then are the
others read. -/
theorem readMembers_field {name : String} (h : ¬IsFrame name) (j : Json) :
    readMembers relabel r ((name, j) :: rest)
      = (readMember r name j).bind fun r => readMembers relabel r rest := by
  simp only [IsFrame, not_or] at h
  obtain ⟨hid, hrun, hchildren⟩ := h
  rw [readMembers.eq_def]
  simp only [if_neg hid, if_neg hrun, if_neg hchildren]
  rfl

end members

-- ====================================================== fields

/-- A member with the name of the errors is logged text by text. -/
theorem readMember_errors (r : Record) (j : Json) :
    readMember r errorsField j = .ok ((errorTexts j).foldl logError r) :=
  if_pos rfl

section field

variable {name : String} (h : name ≠ errorsField) (r : Record)
include h

/-- An array is read as many values, null or not, into a field of many. -/
theorem readMember_array (items : List Json) :
    readMember r name (.array items)
      = (r.fields.putMany name (items.map Value.ofJson)).result.map fun _ =>
          { r with
            fields :=
              (r.fields.putMany name (items.map Value.ofJson)).state } := by
  rw [readMember.eq_def, if_neg h]
  rfl

/-- What is not an array is read into a field of one value. -/
theorem readMember_single {j : Json} (hj : ∀ items, j ≠ .array items) :
    readMember r name j
      = (r.fields.putOne name (singleOfJson j)).result.map fun _ =>
          { r with
            fields := (r.fields.putOne name (singleOfJson j)).state } := by
  rw [readMember.eq_def, if_neg h]
  cases j with
  | array items => exact absurd rfl (hj items)
  | null => rfl
  | bool b => rfl
  | number n => rfl
  | text s => rfl
  | object members => rfl

end field

variable {relabel : String → String}

/-- A step whose answer is passed on succeeds when the step does. -/
theorem map_eq_ok {ε α β : Type} {x : Except ε α} {f : α → β} {b : β} :
    x.map f = .ok b ↔ ∃ a, x = .ok a ∧ f a = b := by
  cases x with
  | error e => simp [Except.map]
  | ok a => simp [Except.map]

/-- Two steps in a row succeed when the second succeeds on what the first
gives. -/
theorem bind_eq_ok {ε α β : Type} {x : Except ε α} {f : α → Except ε β}
    {b : β} :
    x.bind f = .ok b ↔ ∃ a, x = .ok a ∧ f a = .ok b := by
  cases x with
  | error e => simp [Except.bind]
  | ok a => simp [Except.bind]

-- ====================================================== documents

/-- The document of a record is an object that has an id. -/
theorem ofJsonWith_object {members : List (String × Json)} {r : Record} :
    ofJsonWith relabel (.object members) = .ok r ↔
      ∃ id, idOfMembers members = .ok id
        ∧ readMembers relabel (new (relabel id)) members = .ok r := by
  rw [ofJsonWith]
  exact bind_eq_ok

/-- Only objects are documents of records. -/
theorem ofJsonWith_eq_ok {j : Json} {r : Record}
    (h : ofJsonWith relabel j = .ok r) : ∃ members, j = .object members := by
  cases j with
  | object members => exact ⟨members, rfl⟩
  | null => cases h
  | bool b => cases h
  | number n => cases h
  | text s => cases h
  | array items => cases h

/-- The id of a document of a record is not empty. -/
theorem idOfMembers_ne {members : List (String × Json)} {id : String}
    (h : idOfMembers members = .ok id) : id ≠ "" := by
  rw [idOfMembers] at h
  split at h
  · split at h
    · cases h
    · next hid =>
        cases h
        intro hempty
        rw [hempty] at hid
        exact hid rfl
  · cases h

/-- Documents of children are read when each is, and give the records in
order. -/
theorem readChildren_cons {j : Json} {rest : List Json} {rs : List Record} :
    readChildren relabel (j :: rest) = .ok rs ↔
      ∃ child children, ofJsonWith relabel j = .ok child
        ∧ readChildren relabel rest = .ok children
        ∧ rs = child :: children := by
  rw [readChildren]
  cases ofJsonWith relabel j with
  | error e => simp [bind, Except.bind]
  | ok child =>
      cases readChildren relabel rest with
      | error e => simp [bind, Except.bind]
      | ok children => simp [bind, Except.bind, eq_comm]

-- ====================================================== the rule

/-- What is read from a document has a property: the record of an object, and
the children whose documents an array holds. -/
def Yields (relabel : String → String) (P : Record → Prop) (j : Json) : Prop :=
  (∀ r, ofJsonWith relabel j = .ok r → P r)
    ∧ ∀ documents, j = .array documents →
      ∀ rs, readChildren relabel documents = .ok rs → ∀ c ∈ rs, P c

/-- A document without parts is neither. -/
theorem Yields.of_simple {P : Record → Prop} {j : Json}
    (hobject : ∀ members, j ≠ .object members)
    (harray : ∀ documents, j ≠ .array documents) : Yields relabel P j := by
  constructor
  · intro r h
    obtain ⟨members, hj⟩ := ofJsonWith_eq_ok h
    exact absurd hj (hobject members)
  · exact fun documents hj => absurd hj (harray documents)

/-- What holds of new records and is kept by everything that reading does to
a record holds of the records that are read. -/
theorem ofJsonWith_rule {P : Record → Prop}
    (hnew : ∀ id, id ≠ "" → P (new (relabel id)))
    (hrun : ∀ r runId, P r → P { r with runId := some runId })
    (hchildren : ∀ r children, P r → (∀ c ∈ children, P c) →
      P { r with children := r.children ++ children })
    (hmember : ∀ r name j r', ¬IsFrame name → P r →
      readMember r name j = .ok r' → P r') :
    ∀ {j : Json} {r : Record}, ofJsonWith relabel j = .ok r → P r := by
  intro j
  have hyields : Yields relabel P j := by
    -- over a document, its items read as children, its members, and one member
    refine Json.rec (motive_1 := Yields relabel P)
      (motive_2 := fun js =>
        ∀ rs, readChildren relabel js = .ok rs → ∀ c ∈ rs, P c)
      (motive_3 := fun members =>
        ∀ r, P r → ∀ r', readMembers relabel r members = .ok r' → P r')
      (motive_4 := fun m => Yields relabel P m.2)
      ?null ?bool ?number ?text ?array ?object ?none ?child
        ?done ?member ?pair j
    case null =>
      exact .of_simple (fun _ h => by cases h) (fun _ h => by cases h)
    case bool =>
      exact fun b => .of_simple (fun _ h => by cases h) (fun _ h => by cases h)
    case number =>
      exact fun n => .of_simple (fun _ h => by cases h) (fun _ h => by cases h)
    case text =>
      exact fun s => .of_simple (fun _ h => by cases h) (fun _ h => by cases h)
    case array =>
      intro documents ih
      constructor
      · intro r h
        obtain ⟨members, hj⟩ := ofJsonWith_eq_ok h
        cases hj
      · intro _ h
        cases h
        exact ih
    case object =>
      intro members ih
      constructor
      · intro r h
        obtain ⟨id, hid, hr⟩ := ofJsonWith_object.mp h
        exact ih _ (hnew id (idOfMembers_ne hid)) r hr
      · intro _ h
        cases h
    case none =>
      intro rs h c hc
      rw [readChildren] at h
      cases h
      cases hc
    case child =>
      intro j rest ihj ihrest rs h c hc
      obtain ⟨child, children, hchild, hrest, rfl⟩ := readChildren_cons.mp h
      rcases List.mem_cons.mp hc with rfl | hc
      · exact ihj.1 _ hchild
      · exact ihrest _ hrest c hc
    case done =>
      intro r hr r' h
      rw [readMembers] at h
      cases h
      exact hr
    case member =>
      rintro ⟨name, j⟩ rest ihj ih r hr r' h
      by_cases hname : IsFrame name
      · rcases hname with rfl | rfl | rfl
        · rw [readMembers_id] at h
          exact ih r hr r' h
        · by_cases htext : ∃ runId, j = .text runId
          · obtain ⟨runId, rfl⟩ := htext
            rw [readMembers_run] at h
            exact ih _ (hrun r runId hr) r' h
          · by_cases hnull : j = .null
            · rw [hnull, readMembers_null] at h
              exact ih r hr r' h
            · rw [readMembers_run_error _ _ _
                (fun runId hj => htext ⟨runId, hj⟩) hnull] at h
              cases h
        · by_cases harray : ∃ documents, j = .array documents
          · obtain ⟨documents, rfl⟩ := harray
            rw [readMembers_children] at h
            obtain ⟨children, hread, h⟩ := bind_eq_ok.mp h
            exact ih _ (hchildren r children hr
              (ihj.2 documents rfl children hread)) r' h
          · rw [readMembers_children_error _ _ _ fun documents hj =>
              harray ⟨documents, hj⟩] at h
            cases h
      · rw [readMembers_field _ _ _ hname] at h
        obtain ⟨next, hread, h⟩ := bind_eq_ok.mp h
        exact ih next (hmember r name j next hname hr hread) r' h
    case pair => exact fun name j ihj => ihj
  exact fun {_} h => hyields.1 _ h

end Intake.Record
