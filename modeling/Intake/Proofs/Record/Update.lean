/-
Values of one type that are written into a field under a mode.

`Updating` says once what this can come to. Nothing is done without values, or
where the mode leaves a field alone; or the values take the place of the field;
or they go behind those that are there; or they are refused, since the field
declares another type. Behind a field that is not there yet the first value
makes it and the others are added to it, which is no different from writing
them all at once. All values are of one type, so if one is refused it is the
first, and nothing was done by then.
-/
import Intake.Proofs.Field.Adding
import Intake.Proofs.Record.Sound

namespace Intake

/-- A single value in a single-valued slot, several in a multi-valued one. -/
def Slot.ofValues : List Value → Slot
  | [v] => .single (some v)
  | values => .multi (values.map some)

namespace Record

open FieldStore (TypeOf)

variable {r : Record} {s : FieldStore} {name : String} {mode : UpdateMode}
  {f : Field} {values : List Value} {t : ValueType}
  {o : FieldStore.Change Unit}

-- ====================================================== values of one type

/-- Values of one type have that type in common, if there are any. -/
theorem typeOf_map_some (h : ∀ v ∈ values, v.type = t)
    (hvalues : values ≠ []) :
    TypeOf (values.map some) (some t) := by
  refine ⟨fun v hv => ?_, fun hnone => ?_⟩
  · obtain ⟨w, hw, heq⟩ := List.mem_map.mp hv
    cases heq
    rw [h v hw]
  · obtain ⟨v, hv⟩ := List.exists_mem_of_ne_nil values hvalues
    exact absurd (List.mem_map_of_mem hv) (hnone v)

/-- A store of all types accepts any values. -/
theorem accepts_map_some (hs : s.supported = ValueType.all)
    (values : List Value) :
    s.Accepts (values.map some) := fun _ _ => FieldStore.supports_of_all hs _

/-- Values that are written at once take the place of the field. -/
theorem putAll_eq (hs : s.supported = ValueType.all)
    (h : ∀ v ∈ values, v.type = t) (hvalues : values ≠ []) (name : String) :
    putAll s name values = .ok (s.put name (.ofValues values) (some t))
      () := by
  have hcommon : s.commonType name none (values.map some) = .ok (some t) :=
    (FieldStore.commonType_none name (some t) _).mpr
      ⟨typeOf_map_some h hvalues, accepts_map_some hs values⟩
  have hmany : s.putMany name (values.map some)
      = .ok (s.put name (.multi (values.map some)) (some t)) () := by
    rw [FieldStore.putMany, hcommon]
  obtain ⟨v, rest, rfl⟩ := List.exists_cons_of_ne_nil hvalues
  cases rest with
  | nil =>
      rw [putAll, FieldStore.putOne_of_all hs, Option.map_some,
        h v List.mem_cons_self]
      rfl
  | cons w rest => exact hmany

-- ================================================== one value after the other

/-- Once there is a field, values are added to it. -/
theorem each_setOrAdd_eq (values : List (Option Value)) :
    ∀ {s : FieldStore} {f : Field}, s.find? f.name = some f →
      Outcome.each (fun s v => s.setOrAdd f.name v) s values
        = Outcome.each (fun s v => s.add f.name v) s values := by
  induction values with
  | nil => intro s f _; rfl
  | cons value values ih =>
      intro s f hfind
      rw [Outcome.each, Outcome.each, FieldStore.setOrAdd,
        if_pos (FieldStore.contains_of_find? hfind), FieldStore.add_eq hfind]
      cases s.commonType f.name f.declared [value] with
      | error e => rfl
      | ok type =>
          exact ih (f := FieldStore.plus f value type)
            (FieldStore.find?_grown_plus s f value type)

/-- The same for values none of which is null. -/
theorem each_setOrAdd_map (hfind : s.find? f.name = some f)
    (values : List Value) :
    Outcome.each (fun s v => s.setOrAdd f.name (some v)) s values
      = Outcome.each (fun s v => s.add f.name v) s (values.map some) := by
  rw [← each_setOrAdd_eq _ hfind]
  exact Outcome.each_map (fun s v => s.setOrAdd f.name v) some values s

/-- Values of one type go in behind a field that does not declare another
one. -/
theorem each_setOrAdd_found (hs : s.supported = ValueType.all)
    (h : ∀ v ∈ values, v.type = t) (hvalues : values ≠ [])
    (hfind : s.find? f.name = some f)
    (hagree : ∀ u, f.declared = some u → u = t) :
    Outcome.each (fun s v => s.setOrAdd f.name (some v)) s values
      = .ok (s.put f.name (.multi (f.slot.values ++ values.map some)) (some t))
          () := by
  have htype : ∀ u v, f.declared = some u → some t = some v → u = v :=
    fun u v hu hv => (hagree u hu).trans (Option.some.inj hv)
  rw [each_setOrAdd_map hfind,
    FieldStore.each_add_typeOf hfind (typeOf_map_some h hvalues)
    (accepts_map_some hs values) htype,
      FieldStore.grown_of_ne_nil (by simpa using hvalues)]
  rfl

/-- A field that declares another type refuses the first of them. -/
theorem each_setOrAdd_refused {u : ValueType}
    (hs : s.supported = ValueType.all) (h : ∀ v ∈ values, v.type = t)
    (hvalues : values ≠ []) (hfind : s.find? f.name = some f)
    (hdeclared : f.declared = some u) (hdiffer : u ≠ t) :
    Outcome.each (fun s v => s.setOrAdd f.name (some v)) s values
      = .fail s (.invalidType f.name t (some u)) := by
  obtain ⟨v, rest, rfl⟩ := List.exists_cons_of_ne_nil hvalues
  obtain rfl : v.type = t := h v List.mem_cons_self
  have hnulls : ∀ value ∈ ([] : List (Option Value)), value = none := nofun
  have hrefused := FieldStore.each_add_refused hdiffer hnulls hfind hdeclared
    (FieldStore.supports_of_all hs v.type) (rest.map some)
  rw [each_setOrAdd_map hfind]
  exact hrefused

/-- Where there is no field the first value makes it. -/
theorem each_setOrAdd_absent (hs : s.supported = ValueType.all)
    (h : ∀ v ∈ values, v.type = t) (hvalues : values ≠ [])
    (hcontains : s.contains name = false) :
    Outcome.each (fun s v => s.setOrAdd name (some v)) s values
      = .ok (s.put name (.ofValues values) (some t)) () := by
  obtain ⟨v, rest, rfl⟩ := List.exists_cons_of_ne_nil hvalues
  obtain ⟨rfl, hrest⟩ := List.forall_mem_cons.mp h
  have hfirst : s.setOrAdd name (some v)
      = .ok (s.put name (.single (some v)) (some v.type)) () := by
    rw [FieldStore.setOrAdd, if_neg (by simp [hcontains]),
      FieldStore.putOne_of_all hs]
    rfl
  rw [Outcome.each, hfirst]
  by_cases hnil : rest = []
  · rw [hnil]
    rfl
  · have hslot :
        Slot.ofValues (v :: rest) = .multi (some v :: rest.map some) := by
      obtain ⟨w, more, rfl⟩ := List.exists_cons_of_ne_nil hnil
      rfl
    have hmore :=
      each_setOrAdd_found (s := s.put name (.single (some v)) (some v.type))
      (f := ⟨name, .single (some v), some v.type⟩) hs hrest hnil
      (FieldStore.find?_put_self s name _ _) fun u hu =>
        (Option.some.inj hu).symm
    rw [FieldStore.put_put] at hmore
    rw [hslot]
    exact hmore

-- ====================================================== what it comes to

/-- What writing values of one type can come to. -/
inductive Updating (s : FieldStore) (name : String) (values : List Value)
    (t : ValueType) :
    UpdateMode → FieldStore.Change Unit → Prop
  | idle {mode : UpdateMode} :
      values = [] ∨ (mode = .skip ∧ s.contains name = true) →
      Updating s name values t mode (.ok s ())
  | written {mode : UpdateMode} :
      values ≠ [] → mode = .overwrite ∨ s.contains name = false →
      Updating s name values t mode
        (.ok (s.put name (.ofValues values) (some t)) ())
  | added {f : Field} : values ≠ [] → s.find? name = some f →
      (∀ u, f.declared = some u → u = t) →
      Updating s name values t .append
        (.ok
          (s.put name (.multi (f.slot.values ++ values.map some)) (some t)) ())
  | refused {u : ValueType} : values ≠ [] → s.valueType name = some u → u ≠ t →
      Updating s name values t .append (.fail s (.invalidType name t (some u)))

/-- Values go behind a field, make it, or are refused. -/
theorem each_setOrAdd_updating (hs : s.supported = ValueType.all)
    (h : ∀ v ∈ values, v.type = t) (hvalues : values ≠ []) :
    Updating s name values t .append
      (Outcome.each (fun s v => s.setOrAdd name (some v)) s values) := by
  by_cases hcontains : s.contains name = true
  · obtain ⟨f, hfind⟩ := FieldStore.exists_find? hcontains
    obtain ⟨-, rfl⟩ := FieldStore.mem_of_find? hfind
    by_cases hagree : ∀ u, f.declared = some u → u = t
    · rw [each_setOrAdd_found hs h hvalues hfind hagree]
      exact .added hvalues hfind hagree
    · push Not at hagree
      obtain ⟨u, hdeclared, hdiffer⟩ := hagree
      rw [each_setOrAdd_refused hs h hvalues hfind hdeclared hdiffer]
      exact .refused hvalues
        ((FieldStore.valueType_of_find? hfind).trans hdeclared) hdiffer
  · rw [Bool.not_eq_true] at hcontains
    rw [each_setOrAdd_absent hs h hvalues hcontains]
    exact .written hvalues (.inr hcontains)

/-- In a sound record it comes to one of these, and besides the fields nothing
is changed. -/
theorem update_updating (hr : Sound r) (h : ∀ v ∈ values, v.type = t)
    (hname : ¬Reserved name) (mode : UpdateMode) :
    ∃ o, Updating r.fields name values t mode o
      ∧ r.update name mode values = r.onFields fun _ => o := by
  unfold update onWritable onFields
  rw [if_neg hname]
  refine ⟨_, ?_, rfl⟩
  by_cases hvalues : values = []
  · rw [if_pos (by simp [hvalues])]
    exact .idle (.inl hvalues)
  · rw [if_neg (by simpa using hvalues)]
    cases mode with
    | append => exact each_setOrAdd_updating hr.supported h hvalues
    | overwrite =>
        show Updating r.fields name values t .overwrite
          (putAll r.fields name values)
        rw [putAll_eq hr.supported h hvalues]
        exact .written hvalues (.inl rfl)
    | skip =>
        show Updating r.fields name values t .skip
          (if r.fields.contains name then .ok r.fields ()
            else putAll r.fields name values)
        by_cases hcontains : r.fields.contains name = true
        · rw [if_pos hcontains]
          exact .idle (.inr ⟨rfl, hcontains⟩)
        · rw [if_neg hcontains, putAll_eq hr.supported h hvalues]
          exact .written hvalues (.inr (Bool.not_eq_true _ ▸ hcontains))

-- ====================================================== what it leaves

/-- No values change nothing. -/
theorem Updating.of_nil (h : Updating s name values t mode o)
    (hvalues : values = []) :
    o = .ok s () := by
  cases h with
  | idle _ => rfl
  | written hne _ => exact absurd hvalues hne
  | added hne _ _ => exact absurd hvalues hne
  | refused hne _ _ => exact absurd hvalues hne

/-- A field that is there is skipped. -/
theorem Updating.of_skip (h : Updating s name values t .skip o)
    (hcontains : s.contains name = true) : o = .ok s () := by
  cases h with
  | idle _ => rfl
  | written _ hmode =>
      exact hmode.elim nofun fun h => nomatch h.symm.trans hcontains

/-- The values are the field where it is overwritten or new. -/
theorem Updating.of_written (h : Updating s name values t mode o)
    (hvalues : values ≠ [])
    (hmode : mode = .overwrite ∨ s.contains name = false) :
    o = .ok (s.put name (.ofValues values) (some t)) () := by
  cases h with
  | idle hidle =>
      rcases hidle with hnil | ⟨rfl, hcontains⟩
      · exact absurd hnil hvalues
      · exact hmode.elim nofun fun h => nomatch h.symm.trans hcontains
  | written _ _ => rfl
  | added _ hfind _ =>
      exact hmode.elim nofun fun h =>
        nomatch h.symm.trans (FieldStore.contains_of_find? hfind)
  | refused _ htype _ =>
      refine hmode.elim nofun fun h => ?_
      exact
        nomatch (FieldStore.valueType_of_contains_eq_false h).symm.trans htype

/-- Behind a field the values go in, unless it declares another type. -/
theorem Updating.of_append (h : Updating s name values t .append o)
    (hvalues : values ≠ []) (hfind : s.find? name = some f) :
    ((∀ u, f.declared = some u → u = t) →
        o = .ok (s.put name (.multi (f.slot.values ++ values.map some))
          (some t)) ())
      ∧ ∀ u, f.declared = some u → u ≠ t
      → o = .fail s (.invalidType name t (some u)) := by
  have htype := FieldStore.valueType_of_find? hfind
  cases h with
  | idle hidle => exact absurd hidle (by simp [hvalues])
  | written _ hmode =>
      refine hmode.elim nofun fun h => ?_
      exact nomatch h.symm.trans (FieldStore.contains_of_find? hfind)
  | added _ hfound hagree =>
      cases hfind.symm.trans hfound
      exact ⟨fun _ => rfl, fun u hu hdiffer => absurd (hagree u hu) hdiffer⟩
  | refused _ hdeclared hdiffer =>
      rw [htype] at hdeclared
      refine
        ⟨fun hagree => absurd (hagree _ hdeclared) hdiffer, fun u hu _ => ?_⟩
      cases hdeclared.symm.trans hu
      rfl

/-- What fails changed nothing. -/
theorem Updating.of_error (h : Updating s name values t mode o)
    {e : FieldError} (he : o.result = .error e) : o.state = s := by
  cases h with
  | refused _ _ _ => rfl
  | _ => cases he

/-- The other fields are as they were, in their order. -/
theorem Updating.without (h : Updating s name values t mode o) :
    o.state.without [name] = s.without [name] := by
  have hname : name ∈ [name] := List.mem_cons_self
  cases h with
  | idle _ => rfl
  | written _ _ => exact FieldStore.without_put hname _ _
  | added _ _ _ => exact FieldStore.without_put hname _ _
  | refused _ _ _ => rfl

-- ====================================================== the whole

/-- A reserved name is refused in every mode. -/
theorem update_reserved (hname : Reserved name) (r : Record)
    (mode : UpdateMode) (values : List Value) :
    r.update name mode values = .fail r (.reservedField name) :=
  if_pos hname

/-- Writing values of one type into a field of a sound record. A reserved name
is refused, no values change nothing, and a field that is there is skipped. A
field that is overwritten or new is the given values, at its place or behind
all others. Behind a field that is appended to they go in at its place, unless
it declares another type. What fails leaves the record as it was. Other fields
keep their values, their types and their order in any case, and so does the
rest of the record. -/
theorem update_settled (hr : Sound r) (h : ∀ v ∈ values, v.type = t)
    (name : String) (mode : UpdateMode) :
    (Reserved name → r.update name mode values = .fail r (.reservedField name))
      ∧ (¬Reserved name → values = []
          ∨ (mode = .skip ∧ r.fields.contains name = true) →
          r.update name mode values = .ok r ())
      ∧ (¬Reserved name → values ≠ [] → mode = .overwrite
          ∨ r.fields.contains name = false →
          (r.update name mode values).result = .ok ()
            ∧ (r.update name mode values).state.fields.slot? name
                = some (.ofValues values)
            ∧ (r.update name mode values).state.valueType name = some t
            ∧ (r.update name mode values).state.fieldNames
                = if name ∈ r.fieldNames then r.fieldNames
                  else r.fieldNames ++ [name])
      ∧ (¬Reserved name → values ≠ [] → mode = .append →
          ∀ former, r.getMany name = some former →
            ((∀ u, r.valueType name = some u → u = t) →
                (r.update name mode values).result = .ok ()
                  ∧ (r.update name mode values).state.fields.slot? name
                      = some (.multi (former ++ values.map some))
                  ∧ (r.update name mode values).state.valueType name = some t
                  ∧ (r.update name mode values).state.fieldNames
                      = r.fieldNames)
              ∧ ∀ u, r.valueType name = some u → u ≠ t →
                  r.update name mode values
                    = .fail r (.invalidType name t (some u)))
      ∧ (∀ e, (r.update name mode values).result = .error e →
          (r.update name mode values).state = r)
      ∧ (r.update name mode values).state.fields.without [name]
          = r.fields.without [name]
      ∧ (r.update name mode values).state
          = { r with fields := (r.update name mode values).state.fields } := by
  by_cases hname : Reserved name
  · rw [update_reserved hname]
    refine ⟨fun _ => rfl, fun hfree => absurd hname hfree,
      fun hfree => absurd hname hfree,
      fun hfree => absurd hname hfree, fun _ _ => rfl, rfl, ?_⟩
    cases r
    rfl
  obtain ⟨o, hupdating, heq⟩ := update_updating hr h hname mode
  rw [heq]
  refine ⟨fun hreserved => absurd hreserved hname, fun _ hidle => ?_,
    fun _ hvalues hmode =>
      ?_, fun _ hvalues hmode former hformer => ?_, fun e he => ?_,
    hupdating.without, rfl⟩
  · obtain rfl : o = .ok r.fields () := by
      rcases hidle with hnil | ⟨rfl, hcontains⟩
      · exact hupdating.of_nil hnil
      · exact hupdating.of_skip hcontains
    exact onFields_unchanged rfl
  · obtain rfl := hupdating.of_written hvalues hmode
    exact ⟨rfl, FieldStore.slot?_put_self _ _ _ _,
      FieldStore.valueType_put_self _ _ _ _,
      FieldStore.names_put _ _ _ _⟩
  · subst hmode
    obtain ⟨f, hfind, rfl⟩ := FieldStore.exists_of_getMany hformer
    obtain ⟨hgoes, hrefused⟩ := hupdating.of_append hvalues hfind
    have hdeclared : r.valueType name = f.declared :=
      FieldStore.valueType_of_find? hfind
    rw [hdeclared]
    refine ⟨fun hagree => ?_, fun u hu hdiffer => ?_⟩
    · obtain rfl := hgoes hagree
      refine ⟨rfl, FieldStore.slot?_put_self _ _ _ _,
        FieldStore.valueType_put_self _ _ _ _, ?_⟩
      exact (FieldStore.names_put _ _ _ _).trans
        (if_pos (FieldStore.contains_iff.mp
          (FieldStore.contains_of_find? hfind)))
    · obtain rfl := hrefused u hu hdiffer
      exact onFields_unchanged rfl
  · rw [onFields_unchanged (hupdating.of_error he)]

/-- A record with a number, and texts around a null. -/
def ledger : Record :=
  [.setField "count" (.long 1),
    .setValues "note" [some (.text "first"), none]].foldl
    Operation.apply (Record.new "ledger")

/-- The texts that are written into it. -/
def notes : List Value := [.text "second", .text "third"]

/-- The texts go behind the ones that are there, take the place of the number,
and are refused behind it. -/
theorem update_settled_ledger :
    Sound ledger ∧ (∀ v ∈ notes, v.type = .text)
      ∧ (ledger.update "note" .append notes).state.fields.slot? "note"
          = some (.multi [some (.text "first"), none, some (.text "second"),
              some (.text "third")])
      ∧ (ledger.update "count" .overwrite notes).state.fields.slot? "count"
          = some (.multi [some (.text "second"), some (.text "third")])
      ∧ ledger.update "count" .append notes
          = .fail ledger (.invalidType "count" .text (some .long)) := by
  have hsound : Sound ledger := foldl_sound "ledger" _
  have htext : ∀ v ∈ notes, v.type = .text := by decide
  obtain ⟨-, -, -, hnote, -⟩ := update_settled hsound htext "note" .append
  obtain ⟨-, -, hwritten, -⟩ := update_settled hsound htext "count" .overwrite
  obtain ⟨-, -, -, hcount, -⟩ := update_settled hsound htext "count" .append
  refine ⟨hsound, htext, ?_, ?_, ?_⟩
  · refine ((hnote (by decide) nofun rfl _ rfl).1 ?_).2.1
    rintro u ⟨⟩
    rfl
  · exact (hwritten (by decide) nofun (.inl rfl)).2.1
  · exact (hcount (by decide) nofun rfl _ rfl).2 .long rfl nofun

end Record

end Intake
