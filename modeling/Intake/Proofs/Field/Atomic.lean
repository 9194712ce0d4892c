/-
An operation of a store is done whole or not at all.

`Effect` says once what an operation can come to. It fails and the store is
the one that it was given; or it puts one field, gives one field a new name,
takes one field out, or clears the store. Each of these is then followed
through the list of fields: the other fields are the same ones in the same
order, and the names show where the field of the operation stands.
-/
import Intake.Proofs.Field.Typing

namespace Intake.FieldStore

variable {s : FieldStore}

namespace Operation

/-- What an operation comes to, without the values that it may give back. -/
def outcome (s : FieldStore) : Operation → Change Unit
  | .putOne name value => s.putOne name value
  | .putMany name values => s.putMany name values
  | .add name value => s.add name value
  | .setOrAdd name value => s.setOrAdd name value
  | .rename old new => s.rename old new
  | .remove name => (s.remove name).discard
  | .removeAt name index => (s.removeAt name index).discard
  | .dedup name => s.dedup name
  | .clear => .ok s.clear ()

/-- The store that an operation comes to is the one it leaves behind. -/
theorem outcome_state (s : FieldStore) (op : Operation) :
    (op.outcome s).state = op.apply s := by
  cases op <;> rfl

/-- The field that an operation writes, whether it is there or not. -/
def written? : Operation → Option String
  | .putOne name _ => some name
  | .putMany name _ => some name
  | .add name _ => some name
  | .setOrAdd name _ => some name
  | .rename _ _ => none
  | .remove _ => none
  | .removeAt name _ => some name
  | .dedup name => some name
  | .clear => none

/-- The names that an operation is about. Clearing is about all of them. -/
def concerns : Operation → String → Bool
  | .putOne name _, n => n == name
  | .putMany name _, n => n == name
  | .add name _, n => n == name
  | .setOrAdd name _, n => n == name
  | .rename old new, n => n == old || n == new
  | .remove name, n => n == name
  | .removeAt name _, n => n == name
  | .dedup name, n => n == name
  | .clear, _ => true

/-- An operation that writes a field is about that field only. -/
theorem concerns_of_written? {op : Operation} {name : String}
    (h : op.written? = some name) (n : String) :
    op.concerns n = (n == name) := by
  cases op <;> cases h <;> rfl

end Operation

-- ====================================================== effects

/-- The store with another name for a field. -/
def renamed (s : FieldStore) (old new : String) : FieldStore :=
  { s with
    fields := s.fields.map fun f =>
      if f.name = old then { f with name := new } else f }

/-- What an operation can come to. -/
inductive Effect (s : FieldStore) : Operation → Change Unit → Prop
  | failed {op : Operation} (e : FieldError) : Effect s op (.fail s e)
  | written {op : Operation} {name : String} (slot : Slot)
      (declared : Option ValueType)
      (h : op.written? = some name) :
        Effect s op (.ok (s.put name slot declared) ())
  | renamed {old new : String} (hnew : new ∉ s.names) :
      Effect s (.rename old new) (.ok (s.renamed old new) ())
  | removed {name : String} : Effect s (.remove name) (.ok (s.erase name) ())
  | cleared : Effect s .clear (.ok s.clear ())

namespace Effect

variable {op : Operation} {name : String}

/-- Making a field single-valued puts it, or fails for the type of the
value. -/
theorem putOne (h : op.written? = some name) (value : Option Value) :
    Effect s op (s.putOne name value) := by
  cases value with
  | none => exact .written _ _ h
  | some v =>
      unfold FieldStore.putOne
      dsimp only
      split
      · exact .written _ _ h
      · exact .failed _

/-- Making a field multi-valued puts it, or fails for the types of the
values. -/
theorem putMany (h : op.written? = some name) (values : List (Option Value)) :
    Effect s op (s.putMany name values) := by
  rw [FieldStore.putMany]
  split
  · exact .written _ _ h
  · exact .failed _

/-- Adding a value puts the field with it, be it new or not, or fails. -/
theorem add (h : op.written? = some name) (value : Option Value) :
    Effect s op (s.add name value) := by
  rw [FieldStore.add]
  split
  · exact .failed _
  · split
    · exact .written _ _ h
    · split
      · split
        · exact .written _ _ h
        · exact .failed _
      · exact .written _ _ h

/-- Taking a value by its index puts the field without it, or fails. -/
theorem removeAt (h : op.written? = some name) (index : Nat) :
    Effect s op (s.removeAt name index).discard := by
  rw [FieldStore.removeAt]
  split
  · exact .failed _
  · split
    · exact .written _ _ h
    · exact .failed _

/-- Taking out repeated values puts the field with the others, or fails. -/
theorem dedup (h : op.written? = some name) : Effect s op (s.dedup name) := by
  rw [FieldStore.dedup]
  split
  · exact .failed _
  · exact .written _ _ h

/-- Renaming gives the field its new name, or fails. -/
theorem rename (old new : String) :
    Effect s (.rename old new) (s.rename old new) := by
  rw [FieldStore.rename]
  split
  · exact .failed _
  · split
    · exact .failed _
    · next hnew =>
        rw [contains_iff] at hnew
        exact .renamed hnew

/-- Removing takes the field out, or fails. -/
theorem remove (name : String) :
    Effect s (.remove name) (s.remove name).discard := by
  rw [FieldStore.remove]
  split
  · exact .removed
  · exact .failed _

end Effect

/-- Every operation has one of the effects. -/
theorem Operation.effect (s : FieldStore) (op : Operation) :
    Effect s op (op.outcome s) := by
  cases op with
  | putOne name value => exact .putOne rfl value
  | putMany name values => exact .putMany rfl values
  | add name value => exact .add rfl value
  | setOrAdd name value =>
      rw [outcome, FieldStore.setOrAdd]
      split
      · exact .add rfl value
      · exact .putOne rfl value
  | rename old new => exact .rename old new
  | remove name => exact .remove name
  | removeAt name index => exact .removeAt rfl index
  | dedup name => exact .dedup rfl
  | clear => exact .cleared

-- ====================================================== other fields

/-- The fields that an operation is not about. -/
def others (op : Operation) (s : FieldStore) : List Field :=
  s.fields.filter fun f => !op.concerns f.name

/-- A test that the field and all of its name fail does not see it placed. -/
theorem filter_place {p : Field → Bool} {f : Field}
    (hp : ∀ g : Field, g.name = f.name → p g = false) (fs : List Field) :
    (place f fs).filter p = fs.filter p := by
  have hf : ¬p f = true := Bool.eq_false_iff.mp (hp f rfl)
  induction fs with
  | nil => exact List.filter_cons_of_neg hf
  | cons g gs ih =>
      rw [place]
      by_cases hg : g.name = f.name
      · have hg' : ¬p g = true := Bool.eq_false_iff.mp (hp g hg)
        rw [if_pos hg, List.filter_cons_of_neg hf, List.filter_cons_of_neg hg']
      · rw [if_neg hg, List.filter_cons, List.filter_cons, ih]

/-- A test of names that both names fail does not see a field renamed. -/
theorem filter_renamed {p : String → Bool} {old new : String}
    (hold : p old = false) (hnew : p new = false) (s : FieldStore) :
    ((s.renamed old new).fields.filter fun f => p f.name)
      = s.fields.filter fun f => p f.name := by
  show (s.fields.map _).filter _ = _
  induction s.fields with
  | nil => rfl
  | cons f fs ih =>
      rw [List.map_cons, List.filter_cons, List.filter_cons, ih]
      by_cases hf : f.name = old
      · have hp : p f.name = false := hf ▸ hold
        simp only [if_pos hf, hnew, hp, Bool.false_eq_true, if_false]
      · rw [if_neg hf]

/-- Whatever comes of an operation, other fields are as and where they were. -/
theorem Effect.others {op : Operation} {o : Change Unit} (h : Effect s op o) :
    others op o.state = others op s := by
  cases h with
  | failed e => rfl
  | written slot declared h =>
      refine filter_place (fun g hg => ?_) s.fields
      rw [Operation.concerns_of_written? h, hg, beq_self_eq_true]
      rfl
  | @renamed old new hnew =>
      refine filter_renamed
        (p := fun n => !(Operation.rename old new).concerns n) ?_ ?_ s
      · simp [Operation.concerns]
      · simp [Operation.concerns]
  | removed =>
      show (s.fields.filter _).filter _ = _
      rw [List.filter_filter]
      exact List.filter_congr fun f _ => Bool.and_self _
  | cleared =>
      exact (List.filter_eq_nil_iff.mpr fun f _ => Bool.false_ne_true).symm

/-- A field that an operation is not about is found among the others. -/
theorem find?_others {op : Operation} {name : String}
    (h : op.concerns name = false) (s : FieldStore) :
    (others op s).find? (·.name == name) = s.find? name := by
  rw [others, List.find?_filter, find?]
  congr 1
  funext f
  by_cases hf : f.name = name
  · simp [hf, h]
  · simp [hf]

/-- A field that an operation is not about is found as before. -/
theorem Effect.find? {op : Operation} {o : Change Unit} (h : Effect s op o)
    {name : String} (hname : op.concerns name = false) :
    o.state.find? name = s.find? name := by
  rw [← find?_others hname, ← find?_others hname, h.others]

-- ====================================================== places

/-- Renaming changes a name where it stands. -/
theorem names_renamed (s : FieldStore) (old new : String) :
    (s.renamed old new).names
      = s.names.map fun n => if n = old then new else n := by
  rw [names, names, renamed, List.map_map, List.map_map]
  refine List.map_congr_left fun f _ => ?_
  rw [Function.comp, Function.comp]
  split
  · rfl
  · rfl

/-- A field that is taken out takes its name along. -/
theorem names_erase (s : FieldStore) (name : String) :
    (s.erase name).names = s.names.filter (· != name) := by
  rw [names, names, List.filter_map]
  rfl

/-- Under its new name the renamed field is found as it was. -/
theorem find?_renamed_self {old new : String} (hnew : new ∉ s.names) :
    (s.renamed old new).find? new = (s.find? old).map fun f =>
      { f with name := new } := by
  rw [names] at hnew
  show (s.fields.map _).find? _ = (s.fields.find? _).map _
  generalize s.fields = fs at hnew ⊢
  induction fs with
  | nil => rfl
  | cons f fs ih =>
      rw [List.map_cons, List.mem_cons, not_or] at hnew
      rw [List.map_cons, List.find?_cons, List.find?_cons]
      by_cases hf : f.name = old
      · rw [if_pos hf, hf, beq_self_eq_true, beq_self_eq_true]
        rfl
      · rw [if_neg hf, beq_eq_false_iff_ne.mpr hf,
          beq_eq_false_iff_ne.mpr (Ne.symm hnew.1)]
        exact ih hnew.2

namespace Effect

variable {op : Operation} {o : Change Unit} {name : String}

/-- A failure changes nothing. -/
theorem of_error (h : Effect s op o) {e : FieldError}
    (he : o.result = .error e) :
    o.state = s := by
  cases h with
  | failed e => rfl
  | _ => cases he

/-- A written field keeps its place, or comes last if it is new. -/
theorem names_written (h : Effect s op o) (hok : o.result = .ok ())
    (hname : op.written? = some name) :
    o.state.names = if name ∈ s.names then s.names else s.names ++ [name] := by
  cases h with
  | failed e => cases hok
  | written slot declared h =>
      cases h.symm.trans hname
      exact map_name_place _ _
  | _ => cases hname

/-- A renaming that succeeds goes to a name that was free. -/
theorem of_rename {old new : String} (h : Effect s (.rename old new) o)
    (hok : o.result = .ok ()) :
    new ∉ s.names ∧ o.state = s.renamed old new := by
  cases h with
  | failed e => cases hok
  | written slot declared h => cases h
  | renamed hnew => exact ⟨hnew, rfl⟩

/-- A removal that succeeds has taken the field out. -/
theorem of_remove (h : Effect s (.remove name) o) (hok : o.result = .ok ()) :
    o.state = s.erase name := by
  cases h with
  | failed e => cases hok
  | written slot declared h => cases h
  | removed => rfl

end Effect

-- ====================================================== the whole

/-- An operation that fails leaves the store as it was. One that succeeds
leaves all other fields as they were, their values, types and order. A field
that it writes stands where it stood, and a new one comes last; a renamed field
stands where it stood, with its values and its type; where a field is taken out
the rest closes up. -/
theorem outcome_atomic (s : FieldStore) (op : Operation) :
    (∀ e, (op.outcome s).result = .error e → op.apply s = s)
      ∧ ((op.outcome s).result = .ok () →
          others op (op.apply s) = others op s
          ∧ (∀ name, op.concerns name = false →
              (op.apply s).slot? name = s.slot? name
                ∧ (op.apply s).valueType name = s.valueType name)
          ∧ (∀ name, op.written? = some name →
              (op.apply s).names
                = if name ∈ s.names then s.names else s.names ++ [name])
          ∧ (∀ old new, op = .rename old new →
              (op.apply s).names
                  = (s.names.map fun n => if n = old then new else n)
                ∧ (op.apply s).slot? new = s.slot? old
                ∧ (op.apply s).valueType new = s.valueType old)
          ∧ ∀ name, op = .remove name →
              (op.apply s).names = s.names.filter (· != name)) := by
  have heffect := op.effect s
  rw [← Operation.outcome_state]
  refine
    ⟨fun e => heffect.of_error, fun hok => ⟨heffect.others, ?_, ?_, ?_, ?_⟩⟩
  · intro name hname
    rw [slot?, slot?, valueType, valueType, heffect.find? hname]
    exact ⟨rfl, rfl⟩
  · intro name hname
    exact heffect.names_written hok hname
  · rintro old new rfl
    obtain ⟨hnew, hstate⟩ := heffect.of_rename hok
    rw [hstate, slot?, slot?, valueType, valueType, find?_renamed_self hnew]
    refine ⟨names_renamed s old new, ?_, ?_⟩
    · rw [Option.map_map]
      rfl
    · rw [Option.bind_map]
      rfl
  · rintro name rfl
    rw [heffect.of_remove hok]
    exact names_erase s name

end Intake.FieldStore
