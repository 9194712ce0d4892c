/-
What writing the fields of a record leaves alone.

The setters of a record refuse reserved names, whatever they are asked to
write and whether or not they get through. So each of them is an edit: the
id, the run, the children and the mark stay, reserved fields are found as
they were, and names stay distinct. Edits compose, and a setter that writes
several fields is a chain of edits, also if it stops on the way.

The list of errors is the one field that is written without being asked for
by name. `logError` succeeds on a list of texts and puts a text behind it.
-/
import Intake.Proofs.Field.Frame
import Intake.Record.Basic

namespace Intake

-- ====================================================== chains of changes

namespace Outcome

variable {ε σ α β : Type} {R : σ → σ → Prop}

/-- What relates both steps relates the whole, be it that the first one
fails. -/
theorem andThen_related {first : Outcome ε σ α} {next : σ → α → Outcome ε σ β}
    {s : σ} (htrans : ∀ a b c, R a b → R b c → R a c)
    (hfirst : R s first.state)
    (hnext : ∀ answer, R first.state (next first.state answer).state) :
    R s (first.andThen next).state := by
  rw [andThen]
  cases first.result with
  | error e => exact hfirst
  | ok answer => exact htrans _ _ _ hfirst (hnext answer)

/-- What every step of a chain does to its state the chain does, as far as it
gets. -/
theorem each_related {step : σ → β → Outcome ε σ Unit} (hrefl : ∀ s, R s s)
    (htrans : ∀ a b c, R a b → R b c → R a c) :
    ∀ (xs : List β) (s : σ), (∀ x ∈ xs, ∀ s, R s (step s x).state) →
      R s (each step s xs).state := by
  intro xs
  induction xs with
  | nil => intro s _; exact hrefl s
  | cons x xs ih =>
      intro s hstep
      rw [each]
      refine andThen_related htrans (hstep x List.mem_cons_self s) fun _ => ?_
      exact ih _ fun y hy => hstep y (List.mem_cons_of_mem _ hy)

/-- Items that are made on the way may be made before. -/
theorem each_map {γ : Type} (step : σ → β → Outcome ε σ Unit) (g : γ → β)
    (xs : List γ) :
    ∀ s : σ, each (fun s x => step s (g x)) s xs = each step s (xs.map g) := by
  induction xs with
  | nil => intro s; rfl
  | cons x xs ih =>
      intro s
      rw [each, List.map_cons, each]
      congr 1
      funext s _
      exact ih s

end Outcome

namespace Record

/-- A reserved name. -/
abbrev Reserved (name : String) : Prop := isReserved name = true

/-- There are four reserved names. -/
theorem reserved_iff {name : String} :
    Reserved name ↔ name = idField ∨ name = runIdField ∨ name = errorsField
      ∨ name = childrenField := by
  simp only [Reserved, isReserved, Bool.or_eq_true, beq_iff_eq, or_assoc]

/-- A change of a record that leaves everything alone but fields whose names
are not reserved. -/
structure Edited (r r' : Record) : Prop where
  id : r'.id = r.id
  runId : r'.runId = r.runId
  children : r'.children = r.children
  dropped : r'.dropped = r.dropped
  fields : FieldStore.Frame Reserved r.fields r'.fields

namespace Edited

theorem refl (r : Record) : Edited r r := ⟨rfl, rfl, rfl, rfl, .refl _⟩

theorem trans (a b c : Record) (h : Edited a b) (h' : Edited b c) :
    Edited a c where
  id := h'.id.trans h.id
  runId := h'.runId.trans h.runId
  children := h'.children.trans h.children
  dropped := h'.dropped.trans h.dropped
  fields := h.fields.trans h'.fields

end Edited

-- ====================================================== setters

section setters

variable {r : Record} {name : String}

/-- A change of the fields that frames the reserved ones is an edit. -/
theorem onFields_edited {α : Type} {change : FieldStore → FieldStore.Change α}
    (h : FieldStore.Frame Reserved r.fields (change r.fields).state) :
    Edited r (r.onFields change).state := ⟨rfl, rfl, rfl, rfl, h⟩

/-- A change that leaves the fields as they were leaves the record as it
was. -/
theorem onFields_unchanged {α : Type}
    {change : FieldStore → FieldStore.Change α}
    (h : (change r.fields).state = r.fields) :
    r.onFields change = ⟨r, (change r.fields).result⟩ := by
  rw [onFields, Outcome.within, h]
  cases r
  rfl

/-- A reserved name is refused, so only a change of another field counts. -/
theorem onWritable_edited {α : Type}
    {change : FieldStore → FieldStore.Change α}
    (h : ¬Reserved name
      → FieldStore.Frame Reserved r.fields (change r.fields).state) :
    Edited r (r.onWritable name change).state := by
  rw [onWritable]
  split
  · exact .refl r
  · next hname => exact onFields_edited (h hname)

/-- Setting a field is an edit. -/
theorem setField_edited (r : Record) (name : String) (value : Value) :
    Edited r (r.setField name value).state :=
  onWritable_edited fun h => FieldStore.putOne_frame h _

/-- Setting a null is an edit. -/
theorem setNull_edited (r : Record) (name : String) :
    Edited r (r.setNull name).state :=
  onWritable_edited fun h => FieldStore.putOne_frame h _

/-- Setting many values is an edit. -/
theorem setValues_edited (r : Record) (name : String)
    (values : List (Option Value)) :
    Edited r (r.setValues name values).state :=
  onWritable_edited fun h => FieldStore.putMany_frame h _

/-- Adding a value is an edit. -/
theorem addToField_edited (r : Record) (name : String) (value : Value) :
    Edited r (r.addToField name value).state :=
  onWritable_edited fun h => FieldStore.add_frame h _

/-- Setting or adding a value is an edit. -/
theorem setOrAdd_edited (r : Record) (name : String) (value : Value) :
    Edited r (r.setOrAdd name value).state :=
  onWritable_edited fun h => FieldStore.setOrAdd_frame h _

/-- Removing a field is an edit. -/
theorem removeField_edited (r : Record) (name : String) :
    Edited r (r.removeField name).state :=
  onWritable_edited fun h => FieldStore.remove_frame h

/-- Removing a value of a field is an edit. -/
theorem removeFromArray_edited (r : Record) (name : String) (index : Nat) :
    Edited r (r.removeFromArray name index).state :=
  onWritable_edited fun h => FieldStore.removeAt_frame h index

/-- Writing values to a field keeps all others, also if it stops on the way. -/
theorem putAll_frame {kept : String → Prop} {fields : FieldStore}
    (h : ¬kept name) (values : List Value) :
    FieldStore.Frame kept fields (putAll fields name values).state := by
  unfold putAll
  split
  · exact FieldStore.putOne_frame h _
  · exact FieldStore.putMany_frame h _

/-- A chain of additions to one field. -/
theorem each_frame {β : Type} {kept : String → Prop} {fields : FieldStore}
    {step : FieldStore → β → FieldStore.Change Unit} (values : List β)
    (hstep : ∀ s v, FieldStore.Frame kept s (step s v).state) :
    FieldStore.Frame kept fields (Outcome.each step fields values).state :=
  Outcome.each_related FieldStore.Frame.refl
    (fun _ _ _ h h' => h.trans h') values
    fields fun v _ s => hstep s v

/-- An update leaves all other fields alone. -/
theorem update_frame {kept : String → Prop} (h : ¬kept name) (r : Record)
    (mode : UpdateMode) (values : List Value) :
    FieldStore.Frame kept r.fields
      (r.update name mode values).state.fields := by
  rw [update, onWritable]
  split
  · exact .refl _
  · rw [onFields, Outcome.within]
    dsimp only
    split
    · exact .refl _
    · cases mode with
      | append =>
          exact each_frame values fun s v => FieldStore.setOrAdd_frame h _
      | overwrite => exact putAll_frame h values
      | skip =>
          dsimp only
          split
          · exact .refl _
          · exact putAll_frame h values

/-- Updating a field is an edit in every mode. -/
theorem update_edited (r : Record) (name : String) (mode : UpdateMode)
    (values : List Value) : Edited r (r.update name mode values).state := by
  refine onWritable_edited fun h => ?_
  have hframe := update_frame h r mode values
  rw [update, onWritable, if_neg h] at hframe
  exact hframe

/-- Copying a field from another record is an edit. -/
theorem setOrAddFrom_edited (r : Record) (name : String) (other : Record) :
    Edited r (r.setOrAddFrom name other).state := by
  refine onWritable_edited fun h => ?_
  split
  · exact .refl _
  · split
    · exact each_frame _ fun s v => FieldStore.add_frame h v
    · split
      · exact FieldStore.putOne_frame h _
      · exact FieldStore.putMany_frame h _

/-- Copying all fields from another record is an edit. -/
theorem setOrAddAll_edited (r other : Record) :
    Edited r (r.setOrAddAll other).state :=
  Outcome.each_related Edited.refl Edited.trans _ r fun name _ r =>
    setOrAddFrom_edited r name other

/-- Moving values behind those of another field keeps all others than the
two. -/
theorem moveBehind_frame {kept : String → Prop} {fields : FieldStore}
    {old new : String} (hold : ¬kept old) (hnew : ¬kept new) :
    FieldStore.Frame kept fields (moveBehind fields old new).state := by
  have hmove : FieldStore.Frame kept fields
      ((fields.remove old).andThen fun fields values =>
        Outcome.each (fun fields v => fields.add new v) fields values).state :=
    Outcome.andThen_related (fun _ _ _ h h' => h.trans h')
      (FieldStore.remove_frame hold)
      fun values => each_frame values fun s v => FieldStore.add_frame hnew v
  rw [moveBehind]
  split
  · split
    · exact hmove
    · exact .refl _
  · exact hmove

/-- Renaming a field is an edit in every mode. -/
theorem renameField_edited (r : Record) (old new : String)
    (mode : UpdateMode) :
    Edited r (r.renameField old new mode).state := by
  rw [renameField]
  split
  · exact .refl r
  · next hold =>
      refine onWritable_edited fun hnew => ?_
      split
      · exact .refl _
      · split
        · exact FieldStore.rename_frame hold hnew
        · cases mode with
          | overwrite =>
              exact Outcome.andThen_related (fun _ _ _ h h' => h.trans h')
                (FieldStore.remove_frame hnew)
                fun _ => FieldStore.rename_frame hold hnew
          | append => exact moveBehind_frame hold hnew
          | skip => exact FieldStore.remove_frame hold

/-- Taking out repeated values is an edit, also if they go to another field. -/
theorem removeDuplicateValues_edited (r : Record) (name : String)
    (target : Option String) :
    Edited r (r.removeDuplicateValues name target).state := by
  rw [removeDuplicateValues]
  split
  · exact .refl r
  · next hname =>
      refine onWritable_edited fun htarget => ?_
      split
      · exact .refl _
      · split
        · split
          · exact FieldStore.dedup_frame hname
          · exact .refl _
        · split
          · exact FieldStore.putOne_frame htarget _
          · exact Outcome.andThen_related (fun _ _ _ h h' => h.trans h')
              (FieldStore.putMany_frame htarget _)
              fun _ => FieldStore.dedup_frame htarget

end setters

-- ====================================================== the list of errors

/-- Besides its list of errors a record stays as it was. -/
theorem logError_frame (r : Record) (description : String) :
    FieldStore.Frame (· ≠ errorsField) r.fields
      (r.logError description).fields :=
  FieldStore.add_frame (fun h => h rfl) _

end Record

end Intake
