/-
Fields that are copied from another record.

`Copying` says once what copying a field can come to. The other record lacks
it; or it is written where there was none; or its values go behind those that
are there; or one of them is of another type than the declared one and is
refused. Values are added one by one, so a copy that is refused has begun
already if nulls stand in front of the refused value: these are in. It has not
begun if the other values begin with a value, and then the record is as it was.
-/
import Intake.Proofs.Field.Adding
import Intake.Proofs.Record.Sound

namespace Intake.Record

open FieldStore (TypeOf Behind)

variable {r other : Record} {s t : FieldStore} {name : String}
  {o : FieldStore.Change Unit}

-- ====================================================== what it comes to

/-- What copying a field of another store can come to. -/
inductive Copying (s t : FieldStore) (name : String) :
    FieldStore.Change Unit → Prop
  | missing :
      t.contains name = false → Copying s t name (.fail s (.notFound name))
  | written {f : Field} {type : Option ValueType} :
      t.find? name = some f → s.contains name = false →
      TypeOf f.slot.values type → (type = f.declared ↔ ¬f.Stale) →
      Copying s t name (.ok (s.put name f.slot type) ())
  | added {f g : Field} {type : Option ValueType} :
      t.find? name = some f → s.find? name = some g →
      TypeOf f.slot.values type →
      (∀ t u, g.declared = some t → type = some u → t = u) →
      Copying s t name (.ok (s.grown g f.slot.values (type <|> g.declared)) ())
  | refused {f g : Field} {declared : ValueType}
      {nulls rest : List (Option Value)} {v : Value} :
      t.find? name = some f → s.find? name = some g →
      g.declared = some declared → f.slot.values = nulls ++ some v :: rest →
      (∀ value ∈ nulls, value = none) →
      (∀ w, some w ∈ f.slot.values → w.type = v.type) → v.type ≠ declared →
      Copying s t name
        (.fail (s.grown g nulls (some declared))
          (.invalidType name v.type (some declared)))

/-- Values go behind a field unless it declares another type than theirs. -/
theorem copying_found {f g : Field} (hsupported : s.supported = ValueType.all)
    (hf : t.find? name = some f) (hg : s.find? name = some g)
    (htyped : f.Typed ValueType.all) :
    Copying s t name
      (Outcome.each (fun s v => s.add name v) s f.slot.values) := by
  obtain ⟨-, rfl⟩ := FieldStore.mem_of_find? hg
  obtain ⟨type, htype, -, -⟩ := FieldStore.exists_typeOf htyped
  by_cases hagree : ∀ t u, g.declared = some t → type = some u → t = u
  · rw [FieldStore.each_add_typeOf hg htype
      (FieldStore.accepts_of_typed (hsupported.symm ▸ htyped)) hagree]
    exact .added hf hg htype hagree
  · push Not at hagree
    obtain ⟨declared, found, hdeclared, rfl, hdiffer⟩ := hagree
    have hvalue : ∃ v, some v ∈ f.slot.values := by
      by_contra hnone
      exact absurd (htype.2 (not_exists.mp hnone)) nofun
    obtain ⟨v, hv⟩ := hvalue
    obtain ⟨nulls, w, rest, hvalues, hnulls⟩ := FieldStore.exists_first hv
    have hfound (x : Value) (hx : some x ∈ f.slot.values) : found = x.type :=
      Option.some.inj (htype.1 x hx)
    have hw : found = w.type := hfound w (by rw [hvalues]; simp)
    rw [hvalues,
      FieldStore.each_add_refused
      (fun h => hdiffer (h.trans hw.symm)) hnulls hg
      hdeclared (FieldStore.supports_of_all hsupported _)]
    exact .refused hf hg hdeclared hvalues hnulls
      (fun x hx => (hfound x hx).symm.trans hw)
      fun h => hdiffer (h.symm.trans hw.symm)

/-- A field is written as it is where there was none. -/
theorem copying_absent {f : Field} (hsupported : s.supported = ValueType.all)
    (hf : t.find? name = some f) (hcontains : s.contains name = false)
    (htyped : f.Typed ValueType.all) :
    Copying s t name (match f.slot with
      | .single v => s.putOne name v
      | .multi vs => s.putMany name vs) := by
  obtain ⟨type, htype, -, hstale⟩ := FieldStore.exists_typeOf htyped
  have haccepts : s.Accepts f.slot.values :=
    FieldStore.accepts_of_typed (hsupported.symm ▸ htyped)
  have hput : Copying s t name (.ok (s.put name f.slot type) ()) :=
    .written hf hcontains htype hstale
  cases hslot : f.slot with
  | single v =>
      rw [hslot] at hput htype
      have hv : v.map Value.type = type :=
        (FieldStore.typeOf_singleton v).unique htype
      show Copying s t name (s.putOne name v)
      rw [FieldStore.putOne_of_all hsupported, hv]
      exact hput
  | multi vs =>
      rw [hslot] at hput htype haccepts
      have hcommon : s.commonType name none vs = .ok type :=
        (FieldStore.commonType_none name type vs).mpr ⟨htype, haccepts⟩
      show Copying s t name (s.putMany name vs)
      rw [FieldStore.putMany, hcommon]
      exact hput

/-- Between sound records copying comes to one of these, and besides the fields
nothing is changed. -/
theorem setOrAddFrom_copying (hr : Sound r) (hother : Sound other)
    (hname : ¬Reserved name) :
    ∃ o, Copying r.fields other.fields name o
      ∧ r.setOrAddFrom name other = r.onFields fun _ => o := by
  unfold setOrAddFrom onWritable onFields
  rw [if_neg hname]
  refine ⟨_, ?_, rfl⟩
  cases hf : other.fields.find? name with
  | none =>
      rw [FieldStore.slot?, hf]
      refine .missing ?_
      rw [FieldStore.contains, hf]
      rfl
  | some f =>
      have htyped := hother.typed f (FieldStore.mem_of_find? hf).1
      rw [FieldStore.slot?_of_find? hf]
      by_cases hcontains : r.fields.contains name = true
      · obtain ⟨g, hg⟩ := FieldStore.exists_find? hcontains
        dsimp only
        rw [if_pos hcontains]
        exact copying_found hr.supported hf hg htyped
      · dsimp only
        rw [if_neg hcontains]
        exact copying_absent hr.supported hf
          (Bool.not_eq_true _ ▸ hcontains) htyped

-- ====================================================== what it leaves

/-- How a copy that went through leaves the field. -/
structure Copied (name : String) (s t s' : FieldStore) : Prop where
  new : s.contains name = false → ∀ f, t.find? name = some f →
    s'.slot? name = some f.slot ∧ (s'.valueType name = f.declared ↔ ¬f.Stale)
      ∧ s'.names = s.names ++ [name]
  behind : s.contains name = true → ∀ values, t.getMany name = some values →
    Behind s s' name values ∧ s'.names = s.names

/-- A copy that succeeded has written the field as it should be. -/
theorem Copying.copied (h : Copying s t name o) (hok : o.result = .ok ()) :
    t.contains name = true ∧ Copied name s t o.state := by
  cases h with
  | missing => cases hok
  | @written f type hf hcontains htype hstale =>
      refine
        ⟨FieldStore.contains_of_find? hf, ⟨fun _ f' hf' => ?_, fun h => ?_⟩⟩
      · cases hf.symm.trans hf'
        show (s.put name f.slot type).slot? name = _
          ∧ ((s.put name f.slot type).valueType name = _ ↔ _)
          ∧ (s.put name f.slot type).names = _
        rw [FieldStore.slot?_put_self, FieldStore.valueType_put_self,
          FieldStore.names_put,
          if_neg (FieldStore.contains_eq_false_iff.mp hcontains)]
        exact ⟨rfl, hstale, rfl⟩
      · exact nomatch hcontains.symm.trans h
  | @added f g type hf hg htype hagree =>
      obtain ⟨-, rfl⟩ := FieldStore.mem_of_find? hg
      refine ⟨FieldStore.contains_of_find? hf,
        ⟨fun h => ?_, fun _ values hvalues => ?_⟩⟩
      · exact nomatch h.symm.trans (FieldStore.contains_of_find? hg)
      · cases (FieldStore.getMany_of_find? hf).symm.trans hvalues
        exact ⟨FieldStore.behind_grown hg htype hagree,
          FieldStore.names_grown hg _ _⟩
  | refused => cases hok

/-- The other fields are as they were, in their order. -/
theorem Copying.without (h : Copying s t name o) :
    o.state.without [name] = s.without [name] := by
  have hname : name ∈ [name] := List.mem_cons_self
  cases h with
  | missing _ => rfl
  | written _ _ _ _ => exact FieldStore.without_put hname _ _
  | added _ hg _ _ =>
      obtain ⟨-, rfl⟩ := FieldStore.mem_of_find? hg
      exact FieldStore.without_grown hname _ _ _
  | refused _ hg _ _ _ _ _ =>
      obtain ⟨-, rfl⟩ := FieldStore.mem_of_find? hg
      exact FieldStore.without_grown hname _ _ _

-- ====================================================== what is refused

/-- A copy fails without the field, or where a value is of another type than
the declared one. -/
theorem Copying.error_iff (h : Copying s t name o) (e : FieldError) :
    o.result = .error e ↔ (t.contains name = false ∧ e = .notFound name)
      ∨ ∃ declared values v, s.valueType name = some declared
      ∧ t.getMany name = some values
        ∧ some v ∈ values ∧ v.type ≠ declared
        ∧ e = .invalidType name v.type (some declared) := by
  cases h with
  | missing hcontains =>
      constructor
      · rintro ⟨⟩
        exact .inl ⟨hcontains, rfl⟩
      · rintro (⟨-, rfl⟩ | ⟨-, values, -, -, hvalues, -⟩)
        · rfl
        · rw [FieldStore.getMany_of_contains_eq_false hcontains] at hvalues
          cases hvalues
  | written hf hcontains _ _ =>
      refine iff_of_false nofun ?_
      rintro (⟨hmissing, -⟩ | ⟨declared, -, -, hdeclared, -⟩)
      · exact nomatch hmissing.symm.trans (FieldStore.contains_of_find? hf)
      · rw [FieldStore.valueType_of_contains_eq_false hcontains] at hdeclared
        cases hdeclared
  | added hf hg htype hagree =>
      refine iff_of_false nofun ?_
      rintro (⟨hmissing, -⟩ | ⟨declared, values, v, hdeclared,
        hvalues, hv, hdiffer, -⟩)
      · exact nomatch hmissing.symm.trans (FieldStore.contains_of_find? hf)
      · rw [FieldStore.valueType_of_find? hg] at hdeclared
        cases (FieldStore.getMany_of_find? hf).symm.trans hvalues
        exact hdiffer (hagree declared v.type hdeclared (htype.1 v hv)).symm
  | @refused f g declared nulls rest v hf hg hdeclared hvalues
      hnulls hsame hdiffer =>
      have hfirst : some v ∈ f.slot.values := by rw [hvalues]; simp
      constructor
      · rintro ⟨⟩
        exact .inr ⟨declared, _, v,
          (FieldStore.valueType_of_find? hg).trans hdeclared,
          FieldStore.getMany_of_find? hf, hfirst, hdiffer, rfl⟩
      · rintro (⟨hmissing, -⟩ | ⟨u, values, w, hu, hvalues, hw, -, rfl⟩)
        · exact nomatch hmissing.symm.trans (FieldStore.contains_of_find? hf)
        · rw [FieldStore.valueType_of_find? hg, hdeclared] at hu
          cases hu
          cases (FieldStore.getMany_of_find? hf).symm.trans hvalues
          rw [hsame w hw]
          rfl

/-- The nulls in front of the refused value are in. -/
theorem Copying.begun (h : Copying s t name o) {e : FieldError}
    (he : o.result = .error e) {former values : List (Option Value)}
    (hformer : s.getMany name = some former)
    (hvalues : t.getMany name = some values) :
    o.state.getMany name = some (former ++ values.takeWhile (·.isNone))
      ∧ o.state.valueType name = s.valueType name := by
  cases h with
  | missing hcontains =>
      rw [FieldStore.getMany_of_contains_eq_false hcontains] at hvalues
      cases hvalues
  | written => cases he
  | added => cases he
  | @refused f g declared nulls rest v hf hg hdeclared hsplit hnulls _ _ =>
      cases (FieldStore.getMany_of_find? hf).symm.trans hvalues
      cases (FieldStore.getMany_of_find? hg).symm.trans hformer
      have hfront : f.slot.values.takeWhile (·.isNone) = nulls := by
        have hnull (value : Option Value) (hvalue : value ∈ nulls) :
            value.isNone = true := by
          rw [hnulls value hvalue]
          rfl
        rw [hsplit, List.takeWhile_append_of_pos hnull, List.takeWhile_cons]
        simp
      obtain ⟨-, rfl⟩ := FieldStore.mem_of_find? hg
      rw [hfront]
      show (s.grown g nulls (some declared)).getMany g.name = _
        ∧ (s.grown g nulls (some declared)).valueType g.name = _
      cases nulls with
      | nil =>
          rw [FieldStore.grown_nil, List.append_nil]
          exact ⟨FieldStore.getMany_of_find? hg, rfl⟩
      | cons null nulls =>
          rw [FieldStore.grown_of_ne_nil (List.cons_ne_nil null nulls),
            FieldStore.getMany, FieldStore.slot?_put_self,
            FieldStore.valueType_put_self, FieldStore.valueType_of_find? hg,
            hdeclared]
          exact ⟨rfl, rfl⟩

/-- A copy that is refused has not begun if no null comes first. -/
theorem Copying.unchanged_iff (h : Copying s t name o) {e : FieldError}
    (he : o.result = .error e) :
    o.state = s ↔ ∀ rest, t.getMany name ≠ some (none :: rest) := by
  cases h with
  | missing hcontains =>
      refine iff_of_true rfl fun rest => ?_
      rw [FieldStore.getMany_of_contains_eq_false hcontains]
      exact nofun
  | written => cases he
  | added => cases he
  | @refused f g declared nulls rest v hf hg _ hvalues hnulls _ _ =>
      obtain ⟨-, rfl⟩ := FieldStore.mem_of_find? hg
      rw [FieldStore.getMany_of_find? hf, hvalues]
      cases nulls with
      | nil => exact iff_of_true rfl fun rest => by simp
      | cons null nulls =>
          obtain rfl : null = none := hnulls null List.mem_cons_self
          refine iff_of_false (fun hstate => ?_) fun h => h _ rfl
          -- The field is longer than it was.
          have hslot : (s.grown g (none :: nulls) (some declared)).slot? g.name
              = s.slot? g.name :=
            congrArg (·.slot? g.name) hstate
          rw [FieldStore.grown_of_ne_nil (List.cons_ne_nil none nulls),
            FieldStore.slot?_put_self, FieldStore.slot?_of_find? hg] at hslot
          have hlength :=
            congrArg (fun slot => slot.values.length) (Option.some.inj hslot)
          simp [Slot.values] at hlength

-- ====================================================== the whole

/-- Copying a field between sound records. It fails without the field, or where
a value is of another type than the receiver declares. If it goes through, the
field has what `Copied` says. If it fails, the record is as it was if and only
if the values to be copied do not begin with a null, for the nulls in front are
in by then. Other fields keep their values, their types and their order in any
case, and so does the rest of the record. -/
theorem setOrAddFrom_unchanged_iff (hr : Sound r) (hother : Sound other)
    (hname : ¬Reserved name) :
    (∀ e, (r.setOrAddFrom name other).result = .error e ↔
        (other.fields.contains name = false ∧ e = .notFound name)
          ∨ ∃ declared values v, r.valueType name = some declared
            ∧ other.getMany name = some values ∧ some v ∈ values
            ∧ v.type ≠ declared
            ∧ e = .invalidType name v.type (some declared))
      ∧ ((r.setOrAddFrom name other).result = .ok () →
          other.fields.contains name = true
            ∧ Copied name r.fields other.fields
                (r.setOrAddFrom name other).state.fields)
      ∧ (∀ e, (r.setOrAddFrom name other).result = .error e →
          ((r.setOrAddFrom name other).state = r
              ↔ ∀ rest, other.getMany name ≠ some (none :: rest))
            ∧ ∀ former values, r.getMany name = some former
            → other.getMany name = some values →
              (r.setOrAddFrom name other).state.getMany name
                  = some (former ++ values.takeWhile (·.isNone))
                ∧ (r.setOrAddFrom name other).state.valueType name
                    = r.valueType name)
      ∧ (r.setOrAddFrom name other).state.fields.without [name]
          = r.fields.without [name]
      ∧ (r.setOrAddFrom name other).state
          = { r with fields := (r.setOrAddFrom name other).state.fields } := by
  obtain ⟨o, h, heq⟩ := setOrAddFrom_copying hr hother hname
  have hstate : (r.onFields fun _ => o).state = r ↔ o.state = r.fields := by
    refine ⟨fun hstate => congrArg fields hstate, fun hstate => ?_⟩
    rw [onFields_unchanged hstate]
  rw [heq]
  refine ⟨h.error_iff, h.copied, fun e he => ?_, h.without, rfl⟩
  exact ⟨hstate.trans (h.unchanged_iff he), fun former values => h.begun he⟩

/-- A record with a number, and one with a text and a null in front of it. -/
def numbered : Record :=
  [.setField "k" (.long 1)].foldl Operation.apply (Record.new "numbered")

/-- A record with a text behind a null. -/
def lettered : Record :=
  [.setValues "k" [none, some (.text "a")]].foldl Operation.apply
    (Record.new "lettered")

/-- A field of integers refuses the text and keeps the null that stood in front
of it. -/
theorem setOrAddFrom_unchanged_iff_numbered :
    Sound numbered ∧ Sound lettered ∧ ¬Reserved "k"
      ∧ (numbered.setOrAddFrom "k" lettered).result
          = .error (.invalidType "k" .text (some .long))
      ∧ (numbered.setOrAddFrom "k" lettered).state.getMany "k"
          = some [some (.long 1), none]
      ∧ (lettered.setOrAddFrom "k" numbered).state = lettered := by
  have hnumbered : Sound numbered := foldl_sound "numbered" _
  have hlettered : Sound lettered := foldl_sound "lettered" _
  have hname : ¬Reserved "k" := by decide
  obtain ⟨herror, -, hfailed, -, -⟩ :=
    setOrAddFrom_unchanged_iff hnumbered hlettered hname
  obtain ⟨herror', -, hfailed', -, -⟩ :=
    setOrAddFrom_unchanged_iff hlettered hnumbered hname
  have he := (herror (.invalidType "k" .text (some .long))).mpr
    (.inr ⟨_, _, .text "a", rfl, rfl,
      List.mem_cons_of_mem _ List.mem_cons_self, nofun, rfl⟩)
  have he' := (herror' (.invalidType "k" .long (some .text))).mpr
    (.inr ⟨_, _, .long 1, rfl, rfl, List.mem_cons_self, nofun, rfl⟩)
  exact ⟨hnumbered, hlettered, hname, he, ((hfailed _ he).2 _ _ rfl rfl).1,
    (hfailed' _ he').1.mpr nofun⟩

/-- A null is added before the text behind it is refused. -/
theorem not_setOrAddFrom_unchanged :
    ¬∀ (r other : Record) (name : String), Sound r → Sound other
      → ¬Reserved name →
      ∀ e, (r.setOrAddFrom name other).result = .error e →
        (r.setOrAddFrom name other).state = r := by
  intro h
  have hstate :=
    h numbered lettered "k" (foldl_sound "numbered" _)
      (foldl_sound "lettered" _)
    (by decide) _ rfl
  have hmulti : (numbered.setOrAddFrom "k" lettered).state.isMultiValued "k"
      = numbered.isMultiValued "k" := congrArg (·.isMultiValued "k") hstate
  exact absurd hmulti (by decide)

end Intake.Record
