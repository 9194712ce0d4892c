/-
The types of the fields of records.

Whatever is done to a record, what becomes of its fields is a history of
operations of their store: one for a setter of one value, several for a setter
of many, also if it stops on the way, and none for what is about something else
(`Operation.leadsTo`). So what every history of a store keeps records keep.
Names are distinct, all types are accepted, and every value has the type that
its field declares, throughout every tree that can be built (`Built.sound`).
-/
import Intake.Proofs.Field.Typing
import Intake.Proofs.Record.Reach

namespace Intake

namespace FieldStore

variable {s t u : FieldStore} {types : List ValueType}

/-- Operations make one store of the other. -/
def LeadsTo (s t : FieldStore) : Prop :=
  ∃ ops : List Operation, ops.foldl Operation.apply s = t

/-- One operation leads to what it leaves. -/
theorem Operation.leadsTo (s : FieldStore) (op : Operation) :
    s.LeadsTo (op.apply s) :=
  ⟨[op], rfl⟩

namespace LeadsTo

theorem refl (s : FieldStore) : s.LeadsTo s := ⟨[], rfl⟩

theorem trans (h : s.LeadsTo t) (h' : t.LeadsTo u) : s.LeadsTo u := by
  obtain ⟨ops, rfl⟩ := h
  obtain ⟨more, rfl⟩ := h'
  exact ⟨ops ++ more, List.foldl_append⟩

/-- A pass leads to what it leaves if every step does, wherever it stops. -/
theorem each {β : Type} {step : FieldStore → β → Change Unit}
    (hstep : ∀ (s : FieldStore) x, s.LeadsTo (step s x).state) (s : FieldStore)
    (xs : List β) :
    s.LeadsTo (Outcome.each step s xs).state :=
  Outcome.each_related refl (fun _ _ _ h h' => h.trans h') xs s fun x _ s =>
    hstep s x

/-- A second step may follow the first. -/
theorem andThen {α β : Type} {first : Change α}
    {next : FieldStore → α → Change β} (hfirst : s.LeadsTo first.state)
    (hnext : ∀ answer, first.state.LeadsTo (next first.state answer).state) :
    s.LeadsTo (first.andThen next).state :=
  Outcome.andThen_related (fun _ _ _ h h' => h.trans h') hfirst hnext

end LeadsTo

/-- Soundness is kept along any history. -/
theorem Sound.leadsTo (h : Sound types s) (ht : s.LeadsTo t) :
    Sound types t := by
  obtain ⟨ops, rfl⟩ := ht
  exact h.foldl ops

-- every operation by itself is a history
section steps

variable (s) (name : String)

theorem putOne_leadsTo (value : Option Value) :
    s.LeadsTo (s.putOne name value).state :=
  Operation.leadsTo s (.putOne name value)

theorem putMany_leadsTo (values : List (Option Value)) :
    s.LeadsTo (s.putMany name values).state :=
  Operation.leadsTo s (.putMany name values)

theorem add_leadsTo (value : Option Value) :
    s.LeadsTo (s.add name value).state :=
  Operation.leadsTo s (.add name value)

theorem setOrAdd_leadsTo (value : Option Value) :
    s.LeadsTo (s.setOrAdd name value).state :=
  Operation.leadsTo s (.setOrAdd name value)

theorem rename_leadsTo (new : String) : s.LeadsTo (s.rename name new).state :=
  Operation.leadsTo s (.rename name new)

theorem remove_leadsTo : s.LeadsTo (s.remove name).state :=
  Operation.leadsTo s (.remove name)

theorem removeAt_leadsTo (index : Nat) :
    s.LeadsTo (s.removeAt name index).state :=
  Operation.leadsTo s (.removeAt name index)

theorem dedup_leadsTo : s.LeadsTo (s.dedup name).state :=
  Operation.leadsTo s (.dedup name)

end steps

end FieldStore

namespace Record

open FieldStore

/-- The fields of a record accept all types and are typed. -/
abbrev Sound (r : Record) : Prop := FieldStore.Sound ValueType.all r.fields

variable {r : Record}

/-- A new record has no fields to be unsound. -/
theorem sound_new (id : String) : Sound (new id) :=
  sound_withTypes ValueType.all

-- ====================================================== setters

/-- A setter leads to what its change of the fields leads to. A name that
cannot be written leads nowhere. -/
theorem onWritable_leadsTo {α : Type} {name : String}
    {change : FieldStore → FieldStore.Change α}
    (h : r.fields.LeadsTo (change r.fields).state) :
    r.fields.LeadsTo (r.onWritable name change).state.fields := by
  rw [onWritable]
  split
  · exact .refl _
  · exact h

/-- Putting all values at once is one operation, for a single value as for
many. -/
theorem putAll_leadsTo (s : FieldStore) (name : String) (values : List Value) :
    s.LeadsTo (putAll s name values).state := by
  unfold putAll
  split
  · exact putOne_leadsTo s name _
  · exact putMany_leadsTo s name _

/-- An update is one operation for each value that is appended, and one at most
in the other modes. -/
theorem update_leadsTo (r : Record) (name : String) (mode : UpdateMode)
    (values : List Value) :
    r.fields.LeadsTo (r.update name mode values).state.fields := by
  refine onWritable_leadsTo ?_
  split
  · exact .refl _
  · cases mode with
    | append =>
        exact .each (fun s v => setOrAdd_leadsTo s name (some v)) _ values
    | overwrite => exact putAll_leadsTo _ name values
    | skip =>
        dsimp only
        split
        · exact .refl _
        · exact putAll_leadsTo _ name values

/-- Taking over the field of another record adds its values one by one or puts
them all at once. -/
theorem setOrAddFrom_leadsTo (r : Record) (name : String) (other : Record) :
    r.fields.LeadsTo (r.setOrAddFrom name other).state.fields := by
  refine onWritable_leadsTo ?_
  split
  · exact .refl _
  · split
    · exact .each (fun s v => add_leadsTo s name v) _ _
    · split
      · exact putOne_leadsTo _ name _
      · exact putMany_leadsTo _ name _

/-- Moving values behind others is a removal and one addition for each of
them. -/
theorem moveBehind_leadsTo (s : FieldStore) (old new : String) :
    s.LeadsTo (moveBehind s old new).state := by
  have hmove : s.LeadsTo ((s.remove old).andThen fun s values =>
      Outcome.each (fun s v => s.add new v) s values).state :=
    .andThen (remove_leadsTo s old) fun values =>
      .each (fun s v => add_leadsTo s new v) _ values
  rw [moveBehind]
  split
  · split
    · exact hmove
    · exact .refl _
  · exact hmove

/-- Renaming is two operations at most, or it moves the values. -/
theorem renameField_leadsTo (r : Record) (old new : String)
    (mode : UpdateMode) :
    r.fields.LeadsTo (r.renameField old new mode).state.fields := by
  rw [renameField]
  split
  · exact .refl _
  · refine onWritable_leadsTo ?_
    split
    · exact .refl _
    · split
      · exact rename_leadsTo _ old new
      · cases mode with
        | overwrite =>
            exact .andThen (remove_leadsTo _ new) fun _ =>
              rename_leadsTo _ old new
        | append => exact moveBehind_leadsTo _ old new
        | skip => exact remove_leadsTo _ old

/-- Removing duplicates is done in place, or in the field that the values were
put into. -/
theorem removeDuplicateValues_leadsTo (r : Record) (name : String)
    (target : Option String) :
    r.fields.LeadsTo (r.removeDuplicateValues name target).state.fields := by
  rw [removeDuplicateValues]
  split
  · exact .refl _
  · refine onWritable_leadsTo ?_
    split
    · exact .refl _
    · split
      · split
        · exact dedup_leadsTo _ name
        · exact .refl _
      · split
        · exact putOne_leadsTo _ _ _
        · exact .andThen (putMany_leadsTo _ _ _) fun _ => dedup_leadsTo _ _

/-- All fields of another record are taken over one after the other. -/
theorem setOrAddAll_leadsTo (r other : Record) :
    r.fields.LeadsTo (r.setOrAddAll other).state.fields :=
  Outcome.each_related (R := fun r r' : Record => r.fields.LeadsTo r'.fields)
    (fun _ => .refl _) (fun _ _ _ h h' => h.trans h') _ r
    fun name _ r => setOrAddFrom_leadsTo r name other

-- ====================================================== all operations

/-- Whatever is done to a record is done to its fields by operations of
theirs. -/
theorem Operation.leadsTo (r : Record) (op : Operation) :
    r.fields.LeadsTo (op.apply r).fields := by
  cases op with
  | setField name value => exact onWritable_leadsTo (putOne_leadsTo _ name _)
  | setNull name => exact onWritable_leadsTo (putOne_leadsTo _ name _)
  | setValues name values =>
      exact onWritable_leadsTo (putMany_leadsTo _ name values)
  | addToField name value => exact onWritable_leadsTo (add_leadsTo _ name _)
  | setOrAdd name value => exact onWritable_leadsTo (setOrAdd_leadsTo _ name _)
  | update name mode values => exact update_leadsTo r name mode values
  | setOrAddFrom name other => exact setOrAddFrom_leadsTo r name other
  | setOrAddAll other => exact setOrAddAll_leadsTo r other
  | renameField old new mode => exact renameField_leadsTo r old new mode
  | removeField name => exact onWritable_leadsTo (remove_leadsTo _ name)
  | removeFromArray name index =>
      exact onWritable_leadsTo (removeAt_leadsTo _ name index)
  | removeDuplicateValues name target =>
      exact removeDuplicateValues_leadsTo r name target
  | logError description => exact add_leadsTo _ errorsField _
  | initializeRunId runId =>
      simp only [apply, Record.initializeRunId]
      split
      · exact .refl _
      · exact .refl _
  | clearRunId => exact .refl _
  | inheritRunId runId => exact .refl _
  | addChild child => exact .refl _
  | setChildren children => exact .refl _
  | markDropped => exact .refl _

/-- What is made of an empty record is sound. -/
theorem foldl_sound (id : String) (ops : List Operation) :
    Sound (ops.foldl Operation.apply (new id)) := by
  induction ops using List.reverseRecOn with
  | nil => exact sound_new id
  | append_singleton ops op ih =>
      rw [List.foldl_append]
      exact ih.leadsTo (op.leadsTo _)

/-- A list of descriptions is logged by additions to the errors, and the
children stay out of it. -/
theorem foldl_logError_leadsTo (texts : List String) :
    ∀ r : Record, r.fields.LeadsTo (texts.foldl logError r).fields
      ∧ (texts.foldl logError r).children = r.children := by
  induction texts with
  | nil => exact fun r => ⟨.refl _, rfl⟩
  | cons text texts ih =>
      intro r
      obtain ⟨hfields, hchildren⟩ := ih (r.logError text)
      exact ⟨(add_leadsTo r.fields errorsField _).trans hfields, hchildren⟩

/-- A member is read by one operation of the fields, or by one for each
error. -/
theorem readMember_leadsTo {r' : Record} {name : String} {j : Json}
    (h : readMember r name j = .ok r') :
    r.fields.LeadsTo r'.fields ∧ r'.children = r.children := by
  by_cases herrors : name = errorsField
  · rw [herrors, readMember_errors] at h
    cases h
    exact foldl_logError_leadsTo _ r
  · by_cases hj : ∃ items, j = .array items
    · obtain ⟨items, rfl⟩ := hj
      rw [readMember_array herrors] at h
      obtain ⟨-, -, rfl⟩ := map_eq_ok.mp h
      exact ⟨putMany_leadsTo _ name _, rfl⟩
    · rw [readMember_single herrors r (not_exists.mp hj)] at h
      obtain ⟨-, -, rfl⟩ := map_eq_ok.mp h
      exact ⟨putOne_leadsTo _ name _, rfl⟩

/-- Every record of a tree that is read is sound. -/
theorem ofJsonWith_sound {relabel : String → String} {j : Json}
    (h : ofJsonWith relabel j = .ok r) : ∀ x ∈ r.tree, Sound x := by
  refine ofJsonWith_rule (P := fun r => ∀ x ∈ r.tree, Sound x) ?_ ?_ ?_ ?_ h
  · intro id _
    rw [forall_tree]
    exact ⟨sound_new _, fun c hc => by cases hc⟩
  · intro r runId hr
    rw [forall_tree] at hr ⊢
    exact hr
  · intro r children hr hc
    rw [forall_tree] at hr ⊢
    refine ⟨hr.1, fun c hmem => ?_⟩
    rcases List.mem_append.mp hmem with hmem | hmem
    · exact hr.2 c hmem
    · exact hc c hmem
  · intro r name j r' _ hr hread
    rw [forall_tree] at hr ⊢
    obtain ⟨hfields, hchildren⟩ := readMember_leadsTo hread
    rw [hchildren]
    exact ⟨hr.1.leadsTo hfields, hr.2⟩

/-- Every record of a tree that can be built is sound. -/
theorem Built.sound (h : Built r) : ∀ x ∈ r.tree, Sound x := by
  induction h with
  | new id =>
      rw [forall_tree]
      exact ⟨sound_new id, fun c hc => by cases hc⟩
  | withRunId id runId =>
      rw [forall_tree]
      exact ⟨sound_new id, fun c hc => by cases hc⟩
  | read h => exact ofJsonWith_sound h
  | apply op h _ ih ihadopted =>
      rw [forall_tree] at ih ⊢
      refine ⟨ih.1.leadsTo (op.leadsTo _), fun c hc => ?_⟩
      rcases op.apply_children _ c hc with hc | hc
      · exact ih.2 c hc
      · exact ihadopted c hc

end Record

end Intake
