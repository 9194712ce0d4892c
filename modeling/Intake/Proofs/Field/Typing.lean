/-
What the fields of a store say of their values.

A store declares a type for each field. `Operation` lists what can be done to
a store, and `Origin` says once where a field comes from that an operation
leaves behind: it was there, be it under another name, or it was written with
the type that its values share, or a value was put behind those of a field, or
repeated values or one value were taken out of a field.

From this two things follow for every history. Fields stay `Typed`: whatever
value there is has the declared type, and the store accepts that type
(`run_typed`). But a declared type may be left without a value. That happens
where `removeAt` takes the last value of a field that is not null, since it
leaves the type as it is, and nowhere else (`run_truthful_iff`).
-/
import Intake.Proofs.Field.Frame
import Mathlib.Data.List.Induction

namespace Intake

namespace FieldStore

-- ====================================================== operations

/-- What can be done to a store. -/
inductive Operation where
  | putOne (name : String) (value : Option Value)
  | putMany (name : String) (values : List (Option Value))
  | add (name : String) (value : Option Value)
  | setOrAdd (name : String) (value : Option Value)
  | rename (old new : String)
  | remove (name : String)
  | removeAt (name : String) (index : Nat)
  | dedup (name : String)
  | clear

namespace Operation

/-- The store that an operation leaves behind, be it that it fails. -/
def apply (s : FieldStore) : Operation → FieldStore
  | .putOne name value => (s.putOne name value).state
  | .putMany name values => (s.putMany name values).state
  | .add name value => (s.add name value).state
  | .setOrAdd name value => (s.setOrAdd name value).state
  | .rename old new => (s.rename old new).state
  | .remove name => (s.remove name).state
  | .removeAt name index => (s.removeAt name index).state
  | .dedup name => (s.dedup name).state
  | .clear => s.clear

/-- The operation takes the only value of a field that is not null. -/
def TakesLast (s : FieldStore) : Operation → Prop
  | .removeAt name index => ∃ values, s.multi name = .ok values
      ∧ (∃ v, some v ∈ values) ∧ ∀ v, some v ∉ values.eraseIdx index
  | _ => False

end Operation

/-- The store that operations lead to from an empty one. -/
def run (types : List ValueType) (ops : List Operation) : FieldStore :=
  ops.foldl Operation.apply (withTypes types)

-- ====================================================== common types

/-- A type is that of all the values, or there is none and no value. -/
def TypeOf (values : List (Option Value)) (declared : Option ValueType) :
    Prop :=
  (∀ v, some v ∈ values → declared = some v.type)
    ∧ ((∀ v, some v ∉ values) → declared = none)

/-- The store accepts every value that is not null. -/
def Accepts (s : FieldStore) (values : List (Option Value)) : Prop :=
  ∀ v, some v ∈ values → s.supports v.type = true

variable {s : FieldStore}

@[simp]
theorem accepts_nil : s.Accepts [] := fun _ h => absurd h List.not_mem_nil

/-- A null is never refused. -/
@[simp]
theorem accepts_null {values : List (Option Value)} :
    s.Accepts (none :: values) ↔ s.Accepts values := by
  simp only [Accepts, List.mem_cons, reduceCtorEq, false_or]

@[simp]
theorem accepts_cons {v : Value} {values : List (Option Value)} :
    s.Accepts (some v :: values) ↔ s.supports v.type = true
      ∧ s.Accepts values := by
  simp only [Accepts, List.mem_cons, Option.some.injEq, forall_eq_or_imp]

/-- A type that is settled already is the common type of its own values. -/
theorem commonType_some (name : String) (t : ValueType)
    (declared : Option ValueType) :
    ∀ values : List (Option Value), s.commonType name (some t) values
      = .ok declared ↔
      (declared = some t ∧ ∀ v, some v ∈ values → v.type = t)
        ∧ s.Accepts values := by
  intro values
  induction values with
  | nil => simp [commonType, eq_comm (a := some t)]
  | cons v values ih =>
      cases v with
      | none => rw [commonType, ih]; simp
      | some v =>
          rw [commonType, checkSupported, accepts_cons]
          by_cases hv : s.supports v.type = true
          · rw [if_pos hv]
            by_cases ht : t = v.type
            · simp only [if_pos ht, ih, List.mem_cons, Option.some.injEq,
                forall_eq_or_imp]
              rw [← ht] at hv ⊢
              simp [hv]
            · simp only [if_neg ht, List.mem_cons, Option.some.injEq,
                forall_eq_or_imp]
              exact ⟨nofun, fun h => absurd h.1.2.1.symm ht⟩
          · rw [if_neg hv]
            exact ⟨nofun, fun h => absurd h.2.1 hv⟩

/-- The common type of values, if there is one, is the type of them all. -/
theorem commonType_none (name : String) (declared : Option ValueType) :
    ∀ values : List (Option Value), s.commonType name none values
      = .ok declared ↔
      TypeOf values declared ∧ s.Accepts values := by
  intro values
  induction values with
  | nil => simp [commonType, TypeOf, eq_comm (a := none)]
  | cons v values ih =>
      cases v with
      | none => rw [commonType, ih]; simp [TypeOf]
      | some v =>
          rw [commonType, checkSupported, accepts_cons]
          by_cases hv : s.supports v.type = true
          · rw [if_pos hv]
            simp only [commonType_some, TypeOf, List.mem_cons,
              Option.some.injEq, forall_eq_or_imp]
            constructor
            · rintro ⟨⟨rfl, hrest⟩, haccepts⟩
              exact ⟨⟨⟨rfl, fun w hw => congrArg some (hrest w hw).symm⟩,
                fun hnone => hnone.1.elim⟩, hv, haccepts⟩
            · rintro ⟨⟨⟨rfl, hrest⟩, -⟩, -, haccepts⟩
              exact ⟨⟨rfl, fun w hw => Option.some.inj (hrest w hw).symm⟩,
                haccepts⟩
          · rw [if_neg hv]
            exact ⟨nofun, fun h => absurd h.2.1 hv⟩

/-- A value that is checked alone is its own common type. -/
theorem checkValue_ok {name : String} {value : Option Value}
    {type : Option ValueType} :
    s.checkValue name value = .ok type
      ↔ type = value.map Value.type ∧ s.Accepts [value] := by
  cases value with
  | none => simp [checkValue, eq_comm (a := none)]
  | some v =>
      rw [checkValue, checkSupported]
      by_cases hv : s.supports v.type = true
      · rw [if_pos hv]
        simp [Except.map, hv, eq_comm (a := some v.type)]
      · rw [if_neg hv]
        simp [Except.map, hv]

/-- One value has its own type in common, and a null has none. -/
theorem typeOf_singleton (value : Option Value) :
    TypeOf [value] (value.map Value.type) := by
  cases value with
  | none => simp [TypeOf]
  | some v => simp [TypeOf]

-- ====================================================== found fields

/-- A field that is found is one of the store, under the name it is found
by. -/
theorem mem_of_find? {name : String} {f : Field} (h : s.find? name = some f) :
    f ∈ s.fields ∧ f.name = name :=
  ⟨List.mem_of_find?_eq_some h, by simpa using List.find?_some h⟩

/-- The values of a multi-valued field are those of a field of the store. -/
theorem multi_ok {name : String} {values : List (Option Value)}
    (h : s.multi name = .ok values) :
    ∃ f ∈ s.fields, f.slot = .multi values
      ∧ s.valueType name = f.declared := by
  rw [multi, slot?] at h
  rw [valueType]
  cases hf : s.find? name with
  | none =>
      rw [hf] at h
      cases h
  | some f =>
      rw [hf] at h
      refine ⟨f, (mem_of_find? hf).1, ?_, rfl⟩
      rw [Option.map_some] at h
      cases hslot : f.slot with
      | single v =>
          rw [hslot] at h
          cases h
      | multi vs =>
          rw [hslot] at h
          cases h
          rfl

-- ====================================================== origins

/-- Where a field comes from that an operation leaves in a store. -/
inductive Origin (s : FieldStore) (op : Operation) : Field → Prop
  | kept {f : Field} (name : String) (hf : f ∈ s.fields) :
      Origin s op { f with name := name }
  | written {name : String} {slot : Slot} {declared : Option ValueType}
      (htype : TypeOf slot.values declared)
        (haccepts : s.Accepts slot.values) :
      Origin s op ⟨name, slot, declared⟩
  | extended {f : Field} {value : Option Value} {declared : Option ValueType}
      (hf : f ∈ s.fields) (haccepts : s.Accepts [value])
      (hnull : value = none → declared = f.declared)
      (hvalue : ∀ v, value = some v → declared = some v.type)
      (hagree : ∀ t, f.declared = some t → declared = some t) :
      Origin s op ⟨f.name, .multi (f.slot.values ++ [value]), declared⟩
  | reduced {name : String} {values : List (Option Value)}
      (h : s.multi name = .ok values) :
      Origin s op ⟨name, .multi (firsts [] values), s.valueType name⟩
  | shortened {name : String} {index : Nat} {values : List (Option Value)}
      (hop : op = .removeAt name index) (h : s.multi name = .ok values) :
      Origin s op ⟨name, .multi (values.eraseIdx index), s.valueType name⟩

namespace Origin

variable {op : Operation} {name : String}

/-- A field may be one that was there. -/
theorem same {f : Field} (hf : f ∈ s.fields) : Origin s op f := .kept f.name hf

/-- A field that was put into a store is that field or one of the store. -/
theorem put {slot : Slot} {declared : Option ValueType}
    (h : Origin s op ⟨name, slot, declared⟩) {g : Field}
    (hg : g ∈ (s.put name slot declared).fields) : Origin s op g := by
  rcases mem_place hg with rfl | hg
  · exact h
  · exact .same hg

/-- The fields behind writing a single value. -/
theorem putOne {value : Option Value} {g : Field}
    (hg : g ∈ (s.putOne name value).state.fields) : Origin s op g := by
  cases value with
  | none =>
      refine put ?_ hg
      exact .written (typeOf_singleton none) (by simp [Slot.values])
  | some v =>
      rw [FieldStore.putOne, checkSupported] at hg
      by_cases hv : s.supports v.type = true
      · rw [if_pos hv] at hg
        refine put ?_ hg
        exact .written (typeOf_singleton (some v)) (by simp [Slot.values, hv])
      · rw [if_neg hv] at hg
        exact .same hg

/-- The fields behind writing many values. -/
theorem putMany {values : List (Option Value)} {g : Field}
    (hg : g ∈ (s.putMany name values).state.fields) : Origin s op g := by
  rw [FieldStore.putMany] at hg
  cases hcommon : s.commonType name none values with
  | error e =>
      rw [hcommon] at hg
      exact .same hg
  | ok declared =>
      rw [hcommon] at hg
      obtain ⟨htype, haccepts⟩ :=
        (commonType_none name declared values).mp hcommon
      refine put ?_ hg
      exact .written htype haccepts

/-- The fields behind adding a value. -/
theorem add {value : Option Value} {g : Field}
    (hg : g ∈ (s.add name value).state.fields) : Origin s op g := by
  rw [FieldStore.add] at hg
  cases hcheck : s.checkValue name value with
  | error e =>
      rw [hcheck] at hg
      exact .same hg
  | ok type =>
      rw [hcheck] at hg
      obtain ⟨htype, haccepts⟩ := checkValue_ok.mp hcheck
      cases hfind : s.find? name with
      | none =>
          rw [hfind] at hg
          refine put ?_ hg
          exact .written (htype ▸ typeOf_singleton value) haccepts
      | some f =>
          rw [hfind] at hg
          obtain ⟨hf, rfl⟩ := mem_of_find? hfind
          cases value with
          | none =>
              subst htype
              exact put (.extended hf haccepts (fun _ => rfl)
                (fun _ h => by cases h) fun _ h => h) hg
          | some v =>
              subst htype
              cases hdeclared : f.declared with
              | none =>
                  simp only [Option.map_some, hdeclared] at hg
                  refine
                    put (.extended hf haccepts (fun h => by cases h) ?_ ?_) hg
                  · rintro w ⟨⟩
                    rfl
                  · rw [hdeclared]
                    exact fun _ h => by cases h
              | some t =>
                  simp only [Option.map_some, hdeclared] at hg
                  split at hg
                  · next ht =>
                      refine put (.extended hf haccepts
                        (fun h => by cases h) ?_ ?_) hg
                      · rintro w ⟨⟩
                        rw [ht]
                      · rw [hdeclared]
                        exact fun _ h => h
                  · exact .same hg

/-- The fields behind renaming. -/
theorem rename {old new : String} {g : Field}
    (hg : g ∈ (s.rename old new).state.fields) : Origin s op g := by
  rw [FieldStore.rename] at hg
  split at hg
  · exact .same hg
  · split at hg
    · exact .same hg
    · obtain ⟨f, hf, rfl⟩ := List.mem_map.mp hg
      by_cases hname : f.name = old
      · rw [if_pos hname]
        exact .kept new hf
      · rw [if_neg hname]
        exact .same hf

/-- The fields behind removing one. -/
theorem remove {g : Field} (hg : g ∈ (s.remove name).state.fields) :
    Origin s op g := by
  rw [FieldStore.remove] at hg
  split at hg
  · exact .same (List.mem_filter.mp hg).1
  · exact .same hg

/-- The fields behind taking a value by its index. -/
theorem removeAt {index : Nat} {g : Field} (hop : op = .removeAt name index)
    (hg : g ∈ (s.removeAt name index).state.fields) : Origin s op g := by
  rw [FieldStore.removeAt] at hg
  cases hmulti : s.multi name with
  | error e =>
      rw [hmulti] at hg
      exact .same hg
  | ok values =>
      simp only [hmulti] at hg
      split at hg
      · exact put (.shortened hop hmulti) hg
      · exact .same hg

/-- The fields behind taking out repeated values. -/
theorem dedup {g : Field} (hg : g ∈ (s.dedup name).state.fields) :
    Origin s op g := by
  rw [FieldStore.dedup] at hg
  cases hmulti : s.multi name with
  | error e =>
      rw [hmulti] at hg
      exact .same hg
  | ok values =>
      rw [hmulti] at hg
      exact put (.reduced hmulti) hg

end Origin

/-- Every field that an operation leaves behind has an origin. -/
theorem Operation.origin {op : Operation} {g : Field}
    (hg : g ∈ (op.apply s).fields) :
    Origin s op g := by
  cases op with
  | putOne name value => exact .putOne hg
  | putMany name values => exact .putMany hg
  | add name value => exact .add hg
  | setOrAdd name value =>
      rw [apply, FieldStore.setOrAdd] at hg
      split at hg
      · exact .add hg
      · exact .putOne hg
  | rename old new => exact .rename hg
  | remove name => exact .remove hg
  | removeAt name index => exact .removeAt rfl hg
  | dedup name => exact .dedup hg
  | clear => cases hg

/-- Names stay distinct and the accepted types stay. -/
theorem Operation.apply_frame (op : Operation) :
    Frame (fun _ => False) s (op.apply s) := by
  cases op with
  | putOne name value => exact putOne_frame id value
  | putMany name values => exact putMany_frame id values
  | add name value => exact add_frame id value
  | setOrAdd name value => exact setOrAdd_frame id value
  | rename old new => exact rename_frame id id
  | remove name => exact remove_frame id
  | removeAt name index => exact removeAt_frame id index
  | dedup name => exact dedup_frame id
  | clear => exact ⟨rfl, fun _ => List.nodup_nil, fun _ h => h.elim⟩

-- ====================================================== types

end FieldStore

/-- What a field says of its values where some types are accepted. -/
structure Field.Typed (types : List ValueType) (f : Field) : Prop where
  values : ∀ v, some v ∈ f.slot.values → f.declared = some v.type
  accepted : ∀ t, f.declared = some t → t ∈ types

namespace FieldStore

variable {s : FieldStore} {types : List ValueType}

/-- An accepted value has a type that the store supports. -/
theorem Accepts.mem {values : List (Option Value)} (h : s.Accepts values)
    {v : Value} (hv : some v ∈ values) : v.type ∈ s.supported := by
  have hsupports := h v hv
  rw [supports, List.contains_iff_mem] at hsupports
  exact hsupports

/-- What is kept of repeated values was among them. -/
theorem mem_of_mem_firsts {x : Option Value} {values : List (Option Value)} :
    ∀ {kept : List (Option Value)}, x ∈ firsts kept values → x ∈ values := by
  induction values with
  | nil => exact fun h => h
  | cons v values ih =>
      intro kept h
      rw [firsts] at h
      split at h
      · exact List.mem_cons_of_mem _ (ih h)
      · rcases List.mem_cons.mp h with rfl | h
        · exact List.mem_cons_self
        · exact List.mem_cons_of_mem _ (ih h)

/-- A field is typed because the field that it comes from is, or because its
values were checked. -/
theorem Origin.typed {op : Operation} {g : Field} (h : Origin s op g)
    (hs : ∀ f ∈ s.fields, f.Typed s.supported) : g.Typed s.supported := by
  cases h with
  | kept name hf => exact ⟨(hs _ hf).values, (hs _ hf).accepted⟩
  | @written name slot declared htype haccepts =>
      refine ⟨htype.1, fun t ht => ?_⟩
      have ht : declared = some t := ht
      by_cases hvalue : ∃ v, some v ∈ slot.values
      · obtain ⟨v, hv⟩ := hvalue
        have hdeclared := htype.1 v hv
        rw [ht] at hdeclared
        rw [Option.some.inj hdeclared]
        exact haccepts.mem hv
      · rw [htype.2 (not_exists.mp hvalue)] at ht
        cases ht
  | @extended f value declared hf haccepts hnull hvalue hagree =>
      constructor
      · intro v hv
        rcases List.mem_append.mp hv with hv | hv
        · exact hagree _ ((hs f hf).values v hv)
        · exact hvalue v (List.mem_singleton.mp hv).symm
      · intro t ht
        cases value with
        | none => exact (hs f hf).accepted t ((hnull rfl).symm.trans ht)
        | some v =>
            have hdeclared := hvalue v rfl
            have htype : t = v.type :=
              Option.some.inj (ht.symm.trans hdeclared)
            rw [htype]
            exact haccepts.mem List.mem_cons_self
  | reduced hmulti =>
      obtain ⟨f, hf, hslot, hdeclared⟩ := multi_ok hmulti
      have htyped := hs f hf
      rw [hdeclared]
      refine ⟨fun v hv => htyped.values v ?_, htyped.accepted⟩
      rw [hslot]
      exact mem_of_mem_firsts hv
  | shortened hop hmulti =>
      obtain ⟨f, hf, hslot, hdeclared⟩ := multi_ok hmulti
      have htyped := hs f hf
      rw [hdeclared]
      refine ⟨fun v hv => htyped.values v ?_, htyped.accepted⟩
      rw [hslot]
      exact List.mem_of_mem_eraseIdx hv

/-- What every store of a history has in common. -/
structure Sound (types : List ValueType) (s : FieldStore) : Prop where
  supported : s.supported = types
  distinct : s.Distinct
  typed : ∀ f ∈ s.fields, f.Typed types

/-- A store without fields is sound. -/
theorem sound_withTypes (types : List ValueType) :
    Sound types (withTypes types) :=
  ⟨rfl, List.nodup_nil, nofun⟩

/-- An operation leaves a sound store sound, be it that it fails. -/
theorem Sound.apply (h : Sound types s) (op : Operation) :
    Sound types (op.apply s) := by
  obtain ⟨rfl, hdistinct, htyped⟩ := h
  have hframe := op.apply_frame (s := s)
  exact ⟨hframe.supported, hframe.distinct hdistinct,
    fun g hg => (Operation.origin hg).typed htyped⟩

/-- Every history leaves a sound store sound. -/
theorem Sound.foldl (ops : List Operation) :
    ∀ {s : FieldStore}, Sound types s
      → Sound types (ops.foldl Operation.apply s) := by
  induction ops with
  | nil => exact fun h => h
  | cons op ops ih => exact fun h => ih (h.apply op)

/-- After any operations names are distinct, every value has the type that its
field declares, declared types are accepted, and a field that declares no type
holds nothing but nulls. -/
theorem run_typed (types : List ValueType) (ops : List Operation) :
    (run types ops).names.Nodup
      ∧ ∀ f ∈ (run types ops).fields,
        (∀ v, some v ∈ f.slot.values → f.declared = some v.type)
          ∧ (∀ t, f.declared = some t → t ∈ types)
          ∧ (f.declared = none → ∀ value ∈ f.slot.values, value = none) := by
  have hsound : Sound types (run types ops) :=
    (sound_withTypes types).foldl ops
  refine ⟨hsound.distinct, fun f hf => ?_⟩
  obtain ⟨hvalues, haccepted⟩ := hsound.typed f hf
  refine ⟨hvalues, haccepted, fun hdeclared value hvalue => ?_⟩
  cases value with
  | none => rfl
  | some v =>
      rw [hvalues v hvalue] at hdeclared
      cases hdeclared

-- ====================================================== types without values

end FieldStore

/-- A field declares a type and holds no value. -/
structure Field.Stale (f : Field) : Prop where
  declared : f.declared ≠ none
  empty : ∀ v, some v ∉ f.slot.values

namespace FieldStore

variable {s : FieldStore} {types : List ValueType}

/-- A declared type is the type of a value that the field holds. -/
def Truthful (s : FieldStore) : Prop :=
  ∀ name t, s.valueType name = some t →
    ∃ values, s.getMany name = some values ∧ ∃ v, some v ∈ values ∧ v.type = t

/-- The first of all values is kept, so some value is. -/
theorem exists_mem_firsts {values : List (Option Value)} {v : Value} :
    ∀ kept : List (Option Value), (∀ w, some w ∉ kept) → some v ∈ values →
      ∃ w, some w ∈ firsts kept values := by
  induction values with
  | nil => exact fun _ _ h => absurd h List.not_mem_nil
  | cons x values ih =>
      intro kept hkept hv
      rw [firsts]
      cases x with
      | none =>
          have hv : some v ∈ values := (List.mem_cons.mp hv).resolve_left nofun
          split
          · exact ih kept hkept hv
          · obtain ⟨w, hw⟩ := ih (none :: kept)
              (fun w hw =>
                hkept w ((List.mem_cons.mp hw).resolve_left nofun)) hv
            exact ⟨w, List.mem_cons_of_mem _ hw⟩
      | some x =>
          have hnew : isSeen kept (some x) = false := by
            rw [isSeen, List.any_eq_false]
            intro earlier hearlier
            cases earlier with
            | none => exact nofun
            | some w => exact absurd hearlier (hkept w)
          rw [hnew]
          exact ⟨x, List.mem_cons_self⟩

/-- A stale field was stale before, or it has just lost its last value. -/
theorem Origin.stale {op : Operation} {g : Field} (h : Origin s op g)
    (hg : g.Stale) :
    (∃ f ∈ s.fields, f.Stale) ∨ op.TakesLast s := by
  obtain ⟨hdeclared, hempty⟩ := hg
  cases h with
  | kept name hf => exact .inl ⟨_, hf, hdeclared, hempty⟩
  | written htype haccepts => exact absurd (htype.2 hempty) hdeclared
  | @extended f value declared hf haccepts hnull hvalue hagree =>
      have hnone : value = none := by
        cases value with
        | none => rfl
        | some v =>
            exact absurd (List.mem_append_right _ List.mem_cons_self)
              (hempty v)
      refine .inl ⟨f, hf, hnull hnone ▸ hdeclared, fun v hv => ?_⟩
      exact hempty v (List.mem_append_left _ hv)
  | reduced hmulti =>
      obtain ⟨f, hf, hslot, htype⟩ := multi_ok hmulti
      refine .inl ⟨f, hf, htype ▸ hdeclared, fun v hv => ?_⟩
      rw [hslot] at hv
      obtain ⟨w, hw⟩ := exists_mem_firsts [] (fun _ => List.not_mem_nil) hv
      exact hempty w hw
  | @shortened name index values hop hmulti =>
      obtain ⟨f, hf, hslot, htype⟩ := multi_ok hmulti
      by_cases hvalue : ∃ v, some v ∈ values
      · rw [hop]
        exact .inr ⟨values, hmulti, hvalue, hempty⟩
      · refine .inl ⟨f, hf, htype ▸ hdeclared, fun v hv => ?_⟩
        rw [hslot] at hv
        exact hvalue ⟨v, hv⟩

/-- The last value leaves its type behind. -/
theorem Operation.TakesLast.stale {op : Operation} (h : op.TakesLast s)
    (hs : ∀ f ∈ s.fields, f.Typed types) :
    ∃ g ∈ (op.apply s).fields, g.Stale := by
  cases op with
  | removeAt name index =>
      obtain ⟨values, hmulti, ⟨v, hv⟩, hlast⟩ := h
      obtain ⟨f, hf, hslot, htype⟩ := multi_ok hmulti
      have hindex : index < values.length := by
        by_contra hlength
        rw [List.eraseIdx_of_length_le (Nat.not_lt.mp hlength)] at hlast
        exact hlast v hv
      have happly : (Operation.removeAt name index).apply s
          = s.setValues name (values.eraseIdx index) := by
        rw [apply, FieldStore.removeAt, hmulti]
        simp only [List.getElem?_eq_getElem hindex]
        rfl
      have hfound :=
        find?_put_self s name (.multi (values.eraseIdx index))
          (s.valueType name)
      rw [happly]
      refine ⟨_, (mem_of_find? hfound).1, ?_, hlast⟩
      rw [htype, (hs f hf).values v (hslot ▸ hv)]
      exact Option.some_ne_none _
  | _ => exact h.elim

/-- In a sound store the truth is told unless there is a stale field. -/
theorem Sound.truthful_iff (h : Sound types s) :
    s.Truthful ↔ ∀ f ∈ s.fields, ¬f.Stale := by
  constructor
  · intro htruthful f hf hstale
    have hfind := find?_of_mem h.distinct hf
    obtain ⟨t, ht⟩ := Option.ne_none_iff_exists'.mp hstale.declared
    obtain ⟨values, hvalues, v, hv, -⟩ :=
      htruthful f.name t (by rw [valueType, hfind]; exact ht)
    rw [getMany, slot?, hfind] at hvalues
    cases hvalues
    exact hstale.empty v hv
  · intro hnone name t ht
    rw [valueType] at ht
    obtain ⟨f, hfind, hdeclared⟩ := Option.bind_eq_some_iff.mp ht
    have hf := (mem_of_find? hfind).1
    refine ⟨f.slot.values, by rw [getMany, slot?, hfind]; rfl, ?_⟩
    by_contra hvalue
    refine hnone f hf
      ⟨by rw [hdeclared]; exact nofun, fun v hv => hvalue ⟨v, hv, ?_⟩⟩
    exact Option.some.inj (((h.typed f hf).values v hv).symm.trans hdeclared)

/-- An operation on a store that tells the truth leaves one behind, unless it
takes the last value of a field. -/
theorem Sound.apply_truthful_iff (h : Sound types s) (htruthful : s.Truthful)
    (op : Operation) : (op.apply s).Truthful ↔ ¬op.TakesLast s := by
  rw [(h.apply op).truthful_iff]
  rw [h.truthful_iff] at htruthful
  constructor
  · intro hnone hlast
    obtain ⟨g, hg, hstale⟩ := hlast.stale h.typed
    exact hnone g hg hstale
  · intro hlast g hg hstale
    rcases (Operation.origin hg).stale hstale with ⟨f, hf, hbefore⟩ | htakes
    · exact htruthful f hf hbefore
    · exact hlast htakes

/-- The last operation of a history comes to the store of the others. -/
theorem run_append (types : List ValueType) (ops : List Operation)
    (op : Operation) :
    run types (ops ++ [op]) = op.apply (run types ops) := by
  rw [run, List.foldl_append]
  rfl

/-- The declared types tell the truth throughout a history if and only if no
step of it takes the last value of a field. -/
theorem run_truthful_iff (types : List ValueType) (ops : List Operation) :
    (∀ before after, ops = before ++ after → (run types before).Truthful)
      ↔ ∀ before op after, ops = before ++ op :: after →
          ¬op.TakesLast (run types before) := by
  have hsound (before : List Operation) : Sound types (run types before) :=
    (sound_withTypes types).foldl before
  constructor
  · intro htruthful before op after hops
    have hnext :=
      htruthful (before ++ [op]) after (by rw [hops, List.append_assoc]; rfl)
    rw [run_append] at hnext
    exact ((hsound before).apply_truthful_iff (htruthful before _ hops) op).mp
      hnext
  · intro hlast before
    -- the history is followed step by step from its beginning
    induction before using List.reverseRecOn with
    | nil => exact fun _ _ => (hsound []).truthful_iff.mpr nofun
    | append_singleton before op ih =>
        intro after hops
        rw [List.append_assoc] at hops
        rw [run_append, (hsound before).apply_truthful_iff (ih _ hops)]
        exact hlast before op after hops

/-- A text that is taken out from beside a null leaves its type behind. -/
theorem not_run_truthful :
    ¬∀ (types : List ValueType) (ops : List Operation),
      (run types ops).Truthful := by
  intro h
  obtain ⟨values, hvalues, v, hv, -⟩ := h ValueType.all
    [.putMany "k" [some (.text "a"), none], .removeAt "k" 0] "k" .text rfl
  have hnull : values = [none] := (Option.some.inj hvalues).symm
  rw [hnull] at hv
  cases List.mem_singleton.mp hv

end FieldStore

end Intake
