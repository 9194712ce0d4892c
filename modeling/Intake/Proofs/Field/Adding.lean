/-
Values added to a field one after the other.

Adding checks each value against the type that the values before it have left
to the field, just as values that are written at once are checked from left to
right. So a row of values goes in whole if that check goes through from the
declared type on (`each_add_ok`), and the field then holds them behind its own.
Values of one type go in unless the field declares another one. Then the first
value that is not null is refused, and the nulls in front of it are in already
(`each_add_refused`).
-/
import Intake.Proofs.Field.Atomic

namespace Intake.FieldStore

variable {s : FieldStore} {name : String} {f : Field}
  {values nulls : List (Option Value)} {slot : Slot}
  {type declared : Option ValueType}

-- ====================================================== what a store accepts

/-- A store for all types supports each of them. -/
theorem supports_of_all {s : FieldStore} (h : s.supported = ValueType.all)
    (t : ValueType) :
    s.supports t = true := by
  rw [supports, h]
  cases t <;> rfl

/-- A store for all types refuses no value for its type. -/
theorem checkSupported_of_all {s : FieldStore}
    (h : s.supported = ValueType.all) (name : String) (v : Value) :
    s.checkSupported name v = .ok v.type := by
  rw [checkSupported, if_pos (supports_of_all h _)]

/-- The common type depends on the accepted types alone. -/
theorem commonType_congr {s t : FieldStore} (h : s.supported = t.supported)
    (name : String) :
    ∀ (values : List (Option Value)) (declared : Option ValueType),
      s.commonType name declared values
        = t.commonType name declared values := by
  have hcheck : s.checkSupported name = t.checkSupported name := by
    funext v
    rw [checkSupported, checkSupported, supports, supports, h]
  intro values
  induction values with
  | nil => intro declared; rfl
  | cons v values ih =>
      intro declared
      cases v with
      | none => rw [commonType, commonType, ih]
      | some v =>
          rw [commonType.eq_def, commonType.eq_def]
          simp only [hcheck, ih]

/-- A store of all types takes any single value. -/
theorem putOne_of_all {s : FieldStore} (h : s.supported = ValueType.all)
    (name : String) (v : Option Value) :
    s.putOne name v = .ok (s.put name (.single v) (v.map Value.type)) () := by
  cases v with
  | none => rfl
  | some v =>
      unfold putOne
      simp only [checkSupported_of_all h]
      rfl

-- ====================================================== fields by name

/-- The fields under other names. -/
def without (s : FieldStore) (names : List String) : List Field :=
  s.fields.filter fun f => !names.contains f.name

/-- Putting a field leaves the fields under other names. -/
theorem without_put {names : List String} (h : name ∈ names) (slot : Slot)
    (declared : Option ValueType) :
    (s.put name slot declared).without names = s.without names := by
  apply filter_place
  intro g hg
  have hg : g.name = name := hg
  simp [hg, h]

/-- Taking a field out leaves the fields under other names. -/
theorem without_erase {names : List String} (h : name ∈ names) :
    (s.erase name).without names = s.without names := by
  unfold without erase
  rw [List.filter_filter]
  apply List.filter_congr
  intro g _
  by_cases hg : g.name = name
  · simp [hg, h]
  · simp [hg]

/-- Renaming a field leaves the fields under other names than the two. -/
theorem without_renamed {names : List String} {old new : String}
    (hold : old ∈ names) (hnew : new ∈ names) :
    (s.renamed old new).without names = s.without names :=
  filter_renamed (p := fun n => !names.contains n) (by simp [hold])
    (by simp [hnew]) s

/-- A field that is found is there. -/
theorem contains_of_find? (h : s.find? name = some f) :
    s.contains name = true := by
  rw [contains, h]
  rfl

/-- A field that is there is found. -/
theorem exists_find? (h : s.contains name = true) :
    ∃ f, s.find? name = some f :=
  Option.isSome_iff_exists.mp h

/-- No field is there under a name that is not among the names. -/
theorem contains_eq_false_iff : s.contains name = false ↔ name ∉ s.names := by
  rw [← contains_iff, Bool.not_eq_true]

/-- What is not there is not found. -/
theorem find?_of_contains_eq_false (h : s.contains name = false) :
    s.find? name = none := by
  rwa [contains, Option.isSome_eq_false_iff, Option.isNone_iff_eq_none] at h

/-- What is not there has no values. -/
theorem getMany_of_contains_eq_false (h : s.contains name = false) :
    s.getMany name = none := by
  rw [getMany, slot?, find?_of_contains_eq_false h]
  rfl

/-- What is not there declares no type. -/
theorem valueType_of_contains_eq_false (h : s.contains name = false) :
    s.valueType name = none := by
  rw [valueType, find?_of_contains_eq_false h]
  rfl

/-- The slot under a name is that of the field. -/
theorem slot?_of_find? (h : s.find? name = some f) :
    s.slot? name = some f.slot := by
  rw [slot?, h]
  rfl

/-- The values under a name are those of the field. -/
theorem getMany_of_find? (h : s.find? name = some f) :
    s.getMany name = some f.slot.values := by
  rw [getMany, slot?_of_find? h]
  rfl

/-- Values are those of a field. -/
theorem exists_of_getMany (h : s.getMany name = some values) :
    ∃ f, s.find? name = some f ∧ f.slot.values = values := by
  rw [getMany, slot?] at h
  cases hfind : s.find? name with
  | none =>
      rw [hfind] at h
      cases h
  | some f =>
      rw [hfind] at h
      exact ⟨f, rfl, Option.some.inj h⟩

/-- The type under a name is the one that the field declares. -/
theorem valueType_of_find? (h : s.find? name = some f) :
    s.valueType name = f.declared := by
  rw [valueType, h]
  rfl

/-- A field that is taken out leaves its name free. -/
theorem not_mem_names_erase (s : FieldStore) (name : String) :
    name ∉ (s.erase name).names := by
  rw [names_erase]
  simp

/-- Another name is looked up past the one that was taken out. -/
theorem find?_erase {other : String} (h : other ≠ name) (s : FieldStore) :
    (s.erase name).find? other = s.find? other :=
  (@erase_frame (· = other) s name fun hname => h hname.symm).found other rfl

-- ====================================================== one value

/-- Values are checked one by one. -/
theorem commonType_cons (s : FieldStore) (name : String)
    (declared : Option ValueType) (value : Option Value)
    (values : List (Option Value)) :
    s.commonType name declared (value :: values)
      = (s.commonType name declared [value]).bind fun declared =>
          s.commonType name declared values := by
  cases value with
  | none => rfl
  | some v =>
      simp only [commonType]
      cases s.checkSupported name v with
      | error e => rfl
      | ok found =>
          cases declared with
          | none => rfl
          | some t =>
              dsimp only
              split
              · rfl
              · rfl

-- ====================================================== a row of values

/-- The store with values behind those of a field. Without any value nothing is
done, so a single-valued field does not even turn multi-valued. -/
def grown (s : FieldStore) (f : Field) (values : List (Option Value))
    (declared : Option ValueType) : FieldStore :=
  if values.isEmpty then s
  else s.put f.name (.multi (f.slot.values ++ values)) declared

@[simp]
theorem grown_nil (s : FieldStore) (f : Field) (declared : Option ValueType) :
    s.grown f [] declared = s := rfl

/-- With a value the field is put anew, as one for many values. -/
theorem grown_of_ne_nil (h : values ≠ []) (s : FieldStore) (f : Field)
    (declared : Option ValueType) :
    s.grown f values declared
      = s.put f.name (.multi (f.slot.values ++ values)) declared := by
  rw [grown, if_neg (by simpa using h)]

/-- A field with one more value and the type that this leaves it. -/
def plus (f : Field) (value : Option Value) (declared : Option ValueType) :
    Field :=
  ⟨f.name, .multi (f.slot.values ++ [value]), declared⟩

/-- One value and then the others are one row. -/
theorem grown_plus {value : Option Value}
    (htype : values = [] → declared = type) :
    (s.grown f [value] type).grown (plus f value type) values declared
      = s.grown f (value :: values) declared := by
  rw [grown_of_ne_nil (List.cons_ne_nil value values)]
  cases values with
  | nil => rw [grown_nil, htype rfl]; rfl
  | cons next values =>
      rw [grown_of_ne_nil (List.cons_ne_nil next values), plus, grown,
        if_neg nofun, put_put, Slot.values, List.append_assoc]
      rfl

/-- Behind one more value the field is found with it. -/
theorem find?_grown_plus (s : FieldStore) (f : Field) (value : Option Value)
    (type : Option ValueType) :
    (s.grown f [value] type).find? (plus f value type).name
      = some (plus f value type) :=
  find?_put_self s f.name _ type

/-- A value is added if it may stand behind the declared type. -/
theorem add_eq (hfind : s.find? f.name = some f) (value : Option Value) :
    s.add f.name value = match s.commonType f.name f.declared [value] with
      | .ok type => .ok (s.grown f [value] type) ()
      | .error e => .fail s e := by
  unfold add
  cases value with
  | none =>
      simp only [checkValue, hfind, commonType]
      rfl
  | some v =>
      simp only [checkValue, commonType, hfind]
      cases s.checkSupported f.name v with
      | error e => rfl
      | ok found =>
          simp only [Except.map]
          cases f.declared with
          | none => rfl
          | some t =>
              dsimp only
              split
              · rfl
              · rfl

/-- Values that pass the check together go in one by one. -/
theorem each_add_ok (hfind : s.find? f.name = some f)
    (h : s.commonType f.name f.declared values = .ok declared) :
    Outcome.each (fun s v => s.add f.name v) s values
      = .ok (s.grown f values declared) () := by
  induction values generalizing s f with
  | nil => rfl
  | cons value values ih =>
      rw [commonType_cons] at h
      rw [Outcome.each, add_eq hfind]
      cases hfirst : s.commonType f.name f.declared [value] with
      | error e =>
          rw [hfirst] at h
          cases h
      | ok type =>
          rw [hfirst] at h
          have hrest : (s.grown f [value] type).commonType f.name type values
              = .ok declared :=
            (commonType_congr (s := s.grown f [value] type)
              (t := s) rfl _ _ _).trans h
          have hlast : values = [] → declared = type := by
            rintro rfl
            exact (Except.ok.inj h).symm
          calc Outcome.each (fun s v => s.add f.name v)
                (s.grown f [value] type) values
              = .ok ((s.grown f [value] type).grown (plus f value type) values
                  declared) () :=
                ih (find?_grown_plus s f value type) hrest
            _ = .ok (s.grown f (value :: values) declared) () := by
              rw [grown_plus hlast]

/-- Behind the nulls in front the first value of another type is refused. -/
theorem each_add_refused {t : ValueType} {v : Value} (hne : t ≠ v.type)
    (hnulls : ∀ value ∈ nulls, value = none) (hfind : s.find? f.name = some f)
    (hdeclared : f.declared = some t) (hv : s.supports v.type = true)
    (rest : List (Option Value)) :
    Outcome.each (fun s v => s.add f.name v) s (nulls ++ some v :: rest)
      = .fail (s.grown f nulls (some t))
          (.invalidType f.name v.type (some t)) := by
  induction nulls generalizing s f with
  | nil =>
      have hcheck : s.commonType f.name f.declared [some v]
          = .error (.invalidType f.name v.type (some t)) := by
        rw [commonType, checkSupported, if_pos hv, hdeclared]
        exact if_neg hne
      rw [List.nil_append, Outcome.each, add_eq hfind, hcheck]
      rfl
  | cons value nulls ih =>
      obtain ⟨rfl, hrest⟩ := List.forall_mem_cons.mp hnulls
      have hcheck : s.commonType f.name f.declared [none] = .ok (some t) := by
        rw [hdeclared]
        rfl
      rw [List.cons_append, Outcome.each, add_eq hfind, hcheck]
      calc Outcome.each (fun s v => s.add f.name v) (s.grown f [none] (some t))
            (nulls ++ some v :: rest)
          = .fail ((s.grown f [none] (some t)).grown
              (plus f none (some t)) nulls (some t))
              (.invalidType f.name v.type (some t)) :=
            ih hrest (find?_grown_plus s f none (some t)) rfl hv
        _ = .fail (s.grown f (none :: nulls) (some t))
            (.invalidType f.name v.type (some t)) := by
            rw [grown_plus fun _ => rfl]

/-- Of values that are not all null one comes first, behind nulls. -/
theorem exists_first {v : Value} (h : some v ∈ values) :
    ∃ nulls w rest, values = nulls ++ some w :: rest
      ∧ ∀ value ∈ nulls, value = none := by
  induction values with
  | nil => cases h
  | cons value values ih =>
      cases value with
      | some w => exact ⟨[], w, values, rfl, nofun⟩
      | none =>
          obtain ⟨nulls, w, rest, rfl, hnulls⟩ :=
            ih ((List.mem_cons.mp h).resolve_left nofun)
          exact ⟨none :: nulls, w, rest, rfl,
            List.forall_mem_cons.mpr ⟨rfl, hnulls⟩⟩

-- ====================================================== values of one type

/-- Values have one type at most. -/
theorem TypeOf.unique (h : TypeOf values type) (h' : TypeOf values declared) :
    type = declared := by
  by_cases hvalue : ∃ v, some v ∈ values
  · obtain ⟨v, hv⟩ := hvalue
    exact (h.1 v hv).trans (h'.1 v hv).symm
  · exact (h.2 (not_exists.mp hvalue)).trans (h'.2 (not_exists.mp hvalue)).symm

/-- Values of one type pass the check behind a declared type that is none or
theirs. -/
theorem commonType_of_typeOf (htype : TypeOf values type)
    (haccepts : s.Accepts values)
    (hagree : ∀ t u, declared = some t → type = some u → t = u)
    (name : String) :
    s.commonType name declared values = .ok (type <|> declared) := by
  cases declared with
  | none =>
      rw [commonType_none]
      cases type with
      | none => exact ⟨htype, haccepts⟩
      | some u => exact ⟨htype, haccepts⟩
  | some t =>
      rw [commonType_some]
      refine ⟨⟨?_, fun v hv => ?_⟩, haccepts⟩
      · cases type with
        | none => rfl
        | some u => rw [hagree t u rfl rfl]; rfl
      · exact (hagree t v.type rfl (htype.1 v hv)).symm

/-- Values of one type go in behind a declared type that is none or theirs. -/
theorem each_add_typeOf (hfind : s.find? f.name = some f)
    (htype : TypeOf values type) (haccepts : s.Accepts values)
    (hagree : ∀ t u, f.declared = some t → type = some u → t = u) :
    Outcome.each (fun s v => s.add f.name v) s values
      = .ok (s.grown f values (type <|> f.declared)) () :=
  each_add_ok hfind (commonType_of_typeOf htype haccepts hagree f.name)

/-- The values of a typed field have a type. It is the declared one unless the
field is stale, and there is none then. -/
theorem exists_typeOf {types : List ValueType} (hf : f.Typed types) :
    ∃ type, TypeOf f.slot.values type
      ∧ (∀ u, type = some u → f.declared = some u)
      ∧ (type = f.declared ↔ ¬f.Stale) := by
  by_cases hvalue : ∃ v, some v ∈ f.slot.values
  · obtain ⟨v, hv⟩ := hvalue
    exact
      ⟨f.declared, ⟨hf.values, fun hnone => absurd hv (hnone v)⟩, fun _ h => h,
      iff_of_true rfl fun hstale => hstale.empty v hv⟩
  · have hnone := not_exists.mp hvalue
    refine ⟨none, ⟨fun v hv => absurd hv (hnone v), fun _ => rfl⟩, nofun, ?_⟩
    exact ⟨fun hdeclared hstale => hstale.declared hdeclared.symm,
      fun hstale =>
        Eq.symm (not_not.mp fun hdeclared => hstale ⟨hdeclared, hnone⟩)⟩

/-- A store accepts the values of its typed fields. -/
theorem accepts_of_typed (hf : f.Typed s.supported) :
    s.Accepts f.slot.values := by
  intro v hv
  rw [supports, List.contains_iff_mem]
  exact hf.accepted _ (hf.values v hv)

-- ===================================================== reading what was added

/-- The slot that is put is found. -/
theorem slot?_put_self (s : FieldStore) (name : String) (slot : Slot)
    (declared : Option ValueType) :
    (s.put name slot declared).slot? name = some slot :=
  slot?_of_find? (find?_put_self s name slot declared)

/-- The type that is declared is found. -/
theorem valueType_put_self (s : FieldStore) (name : String) (slot : Slot)
    (declared : Option ValueType) :
    (s.put name slot declared).valueType name = declared :=
  valueType_of_find? (find?_put_self s name slot declared)

/-- A name that was there keeps its place, and a new one comes last. -/
theorem names_put (s : FieldStore) (name : String) (slot : Slot)
    (declared : Option ValueType) :
    (s.put name slot declared).names
      = if name ∈ s.names then s.names else s.names ++ [name] :=
  map_name_place _ _

/-- What a field is when values were put behind its own, whatever became of
other fields. -/
structure Behind (s s' : FieldStore) (name : String)
    (values : List (Option Value)) : Prop where
  held : ∃ former, s.getMany name = some former
    ∧ (values ≠ [] → s'.slot? name = some (.multi (former ++ values)))
  unchanged : values = [] →
    s'.slot? name = s.slot? name ∧ s'.valueType name = s.valueType name
  declared : ∀ t, s.valueType name = some t → s'.valueType name = some t
  type : s.valueType name = none → TypeOf values (s'.valueType name)

/-- Only that field of the former store counts. -/
theorem Behind.congr {s' t : FieldStore} (h : Behind s s' name values)
    (hfind : s.find? name = t.find? name) : Behind t s' name values := by
  have hslot : s.slot? name = t.slot? name := by rw [slot?, slot?, hfind]
  have htype : s.valueType name = t.valueType name := by
    rw [valueType, valueType, hfind]
  obtain ⟨hheld, hunchanged, hdeclared, hvalues⟩ := h
  rw [getMany, hslot] at hheld
  rw [hslot, htype] at hunchanged
  rw [htype] at hdeclared hvalues
  exact ⟨hheld, hunchanged, hdeclared, hvalues⟩

/-- Values of one type stand behind the others as they were added. -/
theorem behind_grown (hfind : s.find? f.name = some f)
    (htype : TypeOf values type)
    (hagree : ∀ t u, f.declared = some t → type = some u → t = u) :
    Behind s (s.grown f values (type <|> f.declared)) f.name values := by
  have hformer := valueType_of_find? hfind
  have hnone (hnil : values = []) : type = none :=
    htype.2 (by rw [hnil]; exact nofun)
  have hdeclared : (s.grown f values (type <|> f.declared)).valueType f.name
      = (type <|> f.declared) := by
    by_cases hnil : values = []
    · rw [hnil, grown_nil, hformer, hnone hnil]
      rfl
    · rw [grown_of_ne_nil hnil, valueType_put_self]
  constructor
  case held =>
    refine ⟨f.slot.values, getMany_of_find? hfind, fun hvalues => ?_⟩
    rw [grown_of_ne_nil hvalues, slot?_put_self]
  case unchanged =>
    rintro rfl
    exact ⟨rfl, rfl⟩
  case declared =>
    intro t ht
    rw [hformer] at ht
    rw [hdeclared, ht]
    cases type with
    | none => rfl
    | some u => rw [hagree t u ht rfl]; rfl
  case type =>
    intro ht
    rw [hformer] at ht
    rw [hdeclared, ht]
    cases type with
    | none => exact htype
    | some u => exact htype

/-- Values behind those of a field add no name. -/
theorem names_grown (hfind : s.find? f.name = some f)
    (values : List (Option Value)) (declared : Option ValueType) :
    (s.grown f values declared).names = s.names := by
  cases values with
  | nil => rfl
  | cons value values =>
      rw [grown_of_ne_nil (List.cons_ne_nil _ _), names_put,
        if_pos (contains_iff.mp (contains_of_find? hfind))]

/-- Values behind those of a field leave the fields under other names. -/
theorem without_grown {names : List String} (h : f.name ∈ names)
    (s : FieldStore) (values : List (Option Value))
    (declared : Option ValueType) :
    (s.grown f values declared).without names = s.without names := by
  cases values with
  | nil => rfl
  | cons value values =>
      rw [grown_of_ne_nil (List.cons_ne_nil _ _), without_put h]

end Intake.FieldStore
