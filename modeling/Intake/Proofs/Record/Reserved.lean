/-
Reserved names are never fields, and the list of errors only grows.

Both are what staying `Tidy` comes to. Whatever is done to a record, and
whether it succeeds or not, no field is called like the id, the run or the
children, and an operation adds to the errors what it logs and nothing else.
Logging itself cannot fail, so no error is lost on the way. The document of a
record therefore has one member for each thing that is written, under a key
of its own.
-/
import Intake.Proofs.Record.Exact

namespace Intake.Record

-- ====================================================== the list of errors

/-- The error that an operation logs. -/
def Operation.logged? : Operation → Option String
  | .logError description => some description
  | _ => none

/-- The errors are told by the field of that name alone. -/
theorem errors_congr {r r' : Record}
    (h : r'.fields.find? errorsField = r.fields.find? errorsField) :
    r'.errors = r.errors := by
  rw [errors, errors, getStrings, getStrings, getMany, getMany,
    FieldStore.getMany, FieldStore.getMany, FieldStore.slot?,
    FieldStore.slot?, h]

/-- An operation adds to the errors what it logs. -/
theorem Operation.errors_apply {r : Record} (h : Tidy r) (op : Operation) :
    (op.apply r).errors = r.errors ++ op.logged?.toList := by
  by_cases hlog : ∃ description, op = .logError description
  · obtain ⟨description, rfl⟩ := hlog
    exact errors_logError h description
  · have hnone : op.logged? = none := by
      cases op with
      | logError description => exact absurd ⟨description, rfl⟩ hlog
      | _ => rfl
    rw [hnone, Option.toList_none, List.append_nil]
    rcases op.apply_cases r with he | hlogs | ⟨he, -⟩
    · exact errors_congr (he.fields.found errorsField (by decide))
    · exact absurd hlogs hlog
    · exact errors_congr (by rw [he])

/-- A sequence of operations adds what they log, in order. -/
theorem errors_foldl (ops : List Operation) :
    ∀ {r : Record}, Tidy r →
      (ops.foldl Operation.apply r).errors
        = r.errors ++ ops.filterMap Operation.logged? := by
  induction ops with
  | nil => exact fun _ => (List.append_nil _).symm
  | cons op ops ih =>
      intro r h
      rw [List.foldl_cons, ih (op.apply_tidy h), op.errors_apply h,
        List.append_assoc, List.filterMap_cons]
      cases op.logged? with
      | none => rfl
      | some description => rfl

/-- There is always room for one more error. -/
theorem Tidy.add_errors {r : Record} (h : Tidy r) (description : String) :
    (r.fields.add errorsField (some (.text description))).result = .ok () := by
  have hcheck : r.fields.checkValue errorsField (some (.text description))
      = .ok (some .text) := by
    rw [FieldStore.checkValue, FieldStore.checkSupported_of_all h.supported]
    rfl
  rw [FieldStore.add, hcheck]
  cases hfind : r.fields.find? errorsField with
  | none => rfl
  | some f =>
      obtain ⟨text, texts, rfl⟩ := h.errors f hfind
      rfl

-- ====================================================== keys

/-- The keys that the document of a record is written with, in order. -/
def keys (r : Record) : List String :=
  idField :: (r.runId.map fun _ => runIdField).toList ++ r.fields.names
    ++ if r.children.isEmpty then [] else [childrenField]

/-- These keys are the keys of its members, in their order. -/
theorem map_fst_members (r : Record) :
    (r.headMembers ++ r.fields.fields.map member ++ r.tailMembers).map Prod.fst
      = r.keys := by
  have hhead : r.headMembers.map Prod.fst
      = idField :: (r.runId.map fun _ => runIdField).toList := by
    rw [headMembers]
    cases r.runId with
    | none => rfl
    | some runId => rfl
  have htail : r.tailMembers.map Prod.fst
      = if r.children.isEmpty then [] else [childrenField] := by
    rw [tailMembers]
    split
    · rfl
    · rfl
  rw [List.map_append, List.map_append, hhead, htail, List.map_map]
  rfl

-- ====================================================== reserved names

/-- What reserved names are safe from. -/
structure Guarded (r : Record) : Prop where
  id : idField ∉ r.fields.names
  runId : runIdField ∉ r.fields.names
  children : childrenField ∉ r.fields.names
  /-- the list of errors, if there is one, holds one text or more and nothing
  else -/
  errors : ∀ f ∈ r.fields.fields, f.name = errorsField →
    ∃ text texts, f.slot = .multi (textValues (text :: texts))
  /-- everything that is written gets a member and a key of its own -/
  members : ∃ members, r.toJson = .object members
    ∧ members.map Prod.fst = r.keys
    ∧ r.keys.Nodup

/-- A tidy record has no field with a name of the frame. -/
theorem Tidy.not_mem_names {r : Record} (h : Tidy r) {name : String}
    (hname : IsFrame name) :
    name ∉ r.fields.names := by
  intro hmem
  obtain ⟨f, hf, rfl⟩ := List.mem_map.mp hmem
  exact h.not_isFrame hf hname

/-- Being tidy keeps reserved names safe. -/
theorem Tidy.guarded {r : Record} (h : Tidy r) : Guarded r where
  id := h.not_mem_names (.inl rfl)
  runId := h.not_mem_names (.inr (.inl rfl))
  children := h.not_mem_names (.inr (.inr rfl))
  errors := by
    intro f hf hname
    obtain ⟨text, texts, rfl⟩ := h.errorList hf hname
    exact ⟨text, texts, rfl⟩
  members := ⟨_, toJson_members h, map_fst_members r,
    map_fst_members r ▸ h.nodup_members⟩

/-- Throughout a tree that can be built no field has a name of the frame, the
lists of errors are lists of texts, and no two members of a document share a
key. Any operations with any arguments, successful or not, add to the errors
exactly what they log, and logging never fails. -/
theorem Built.stays_guarded {r : Record} (h : Built r) :
    (∀ x ∈ r.tree, Guarded x)
      ∧ (∀ ops : List Operation,
          (ops.foldl Operation.apply r).errors
            = r.errors ++ ops.filterMap Operation.logged?)
      ∧ ∀ description,
          (r.fields.add errorsField (some (.text description))).result
            = .ok () := by
  have htidy := h.tidy
  have hroot : Tidy r := (forall_tree.mp htidy).1
  exact ⟨fun x hx => (htidy x hx).guarded, fun ops => errors_foldl ops hroot,
    hroot.add_errors⟩

/-- A page with a list of errors, of which one is no text, and a child. -/
def tornPage : Json :=
  .object [(idField, .text "page"),
    (errorsField, .array [.text "torn", .null, .bool true]),
    ("title", .text "Annals"),
    (childrenField, .array [.object [(idField, .text "note")]])]

/-- Attempts on every reserved name, and an error among them. -/
def attempts : List Operation :=
  [.setField idField (.text "other"),
    .renameField "title" errorsField .overwrite,
    .removeField errorsField, .logError "late", .setValues childrenField [],
    .removeDuplicateValues "title" (some runIdField)]

/-- A page with two errors in its document resists every attempt, and the third
error comes last. -/
theorem Built.stays_guarded_page :
    ∃ r, ofJson tornPage = .ok r ∧ Built r
      ∧ (∀ x ∈ r.tree, Guarded x)
      ∧ (attempts.foldl Operation.apply r).errors = ["torn", "true", "late"]
      ∧ (r.fields.add errorsField (some (.text "later"))).result = .ok () := by
  have hread : ofJson tornPage = .ok _ := rfl
  have hbuilt := Built.read hread
  obtain ⟨hguarded, herrors, hadd⟩ := hbuilt.stays_guarded
  exact ⟨_, rfl, hbuilt, hguarded, herrors attempts, hadd "later"⟩

end Intake.Record
