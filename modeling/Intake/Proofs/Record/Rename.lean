/-
Fields that are given another name.

`Renaming` says once what a renaming can come to. There is nothing to rename;
or the new name is free, or made free, and the field takes it over where it
stands; or its values go behind those of the field that has the name already;
or they are refused there, or thrown away. In a store whose fields are typed it
comes to nothing else: the values of one field share a type, and once the
declared types were compared no value can be refused any more, after the field
it is from was taken out. So a renaming that fails has not begun.
-/
import Intake.Proofs.Field.Adding
import Intake.Proofs.Record.Sound

namespace Intake.Record

open FieldStore (TypeOf)

variable {r : Record} {s : FieldStore} {old new : String} {mode : UpdateMode}
  {f g : Field} {o : FieldStore.Change Unit}

-- ====================================================== what it comes to

/-- What a renaming can come to. -/
inductive Renaming (s : FieldStore) (old new : String) :
    UpdateMode → FieldStore.Change Unit → Prop
  | absent {mode : UpdateMode} :
    s.contains old = false → Renaming s old new mode (.ok s ())
  | free {mode : UpdateMode} : s.contains old = true → s.contains new = false →
      Renaming s old new mode (.ok (s.renamed old new) ())
  | replaced : s.contains old = true → s.contains new = true →
      Renaming s old new .overwrite (.ok ((s.erase new).renamed old new) ())
  | moved {f g : Field} {type : Option ValueType} : s.find? old = some f →
      s.find? new = some g → TypeOf f.slot.values type →
      (∀ u, type = some u → f.declared = some u) →
      (∀ t u, f.declared = some t → g.declared = some u → t = u) →
      Renaming s old new .append
        (.ok ((s.erase old).grown g f.slot.values (type <|> g.declared)) ())
  | refused {found declared : ValueType} : s.valueType old = some found →
      s.valueType new = some declared → found ≠ declared →
      Renaming s old new .append
        (.fail s (.invalidType new found (some declared)))
  | dropped : s.contains old = true → s.contains new = true →
      Renaming s old new .skip (.ok (s.erase old) ())

/-- A free name is taken over with the whole field. -/
theorem rename_free (hold : s.contains old = true)
    (hnew : s.contains new = false) :
    s.rename old new = .ok (s.renamed old new) () := by
  unfold FieldStore.rename
  rw [if_neg (by simp [hold]), if_neg (by simp [hnew])]
  rfl

/-- What was erased is not there. -/
theorem gone_erase (s : FieldStore) (name : String) :
    (s.erase name).contains name = false :=
  FieldStore.contains_eq_false_iff.mpr (FieldStore.not_mem_names_erase s name)

/-- Removing a field that is there erases it and answers with its values. -/
theorem remove_found (hfind : s.find? old = some f) :
    s.remove old = .ok (s.erase old) f.slot.values := by
  unfold FieldStore.remove
  rw [FieldStore.getMany_of_find? hfind]

/-- A name that was made free can be given. -/
theorem replace_renaming (hne : old ≠ new) (hold : s.contains old = true)
    (hnew : s.find? new = some g) :
    Renaming s old new .overwrite
      ((s.remove new).andThen fun fields _ => fields.rename old new) := by
  have hkept : (s.erase new).contains old = true := by
    rw [FieldStore.contains, FieldStore.find?_erase hne]
    exact hold
  rw [remove_found hnew]
  show Renaming s old new .overwrite ((s.erase new).rename old new)
  rw [rename_free hkept (gone_erase s new)]
  exact .replaced hold (FieldStore.contains_of_find? hnew)

/-- Values of a typed field go behind those of another one, if the declared
types do not differ. -/
theorem moveBehind_renaming (hs : ∀ f ∈ s.fields, f.Typed s.supported)
    (hne : old ≠ new) (hold : s.find? old = some f)
    (hnew : s.find? new = some g) :
    Renaming s old new .append (moveBehind s old new) := by
  obtain ⟨type, htype, hdeclares, -⟩ :=
    FieldStore.exists_typeOf (hs f (FieldStore.mem_of_find? hold).1)
  have haccepts : (s.erase old).Accepts f.slot.values :=
    FieldStore.accepts_of_typed (hs f (FieldStore.mem_of_find? hold).1)
  obtain ⟨-, rfl⟩ := FieldStore.mem_of_find? hnew
  have hfind : (s.erase old).find? g.name = some g := by
    rw [FieldStore.find?_erase hne.symm, hnew]
  have hmove
      (hagree : ∀ t u, f.declared = some t → g.declared = some u → t = u) :
      Renaming s old g.name .append ((s.remove old).andThen fun s values =>
        Outcome.each (fun s v => s.add g.name v) s values) := by
    rw [remove_found hold]
    show Renaming s old g.name .append
      (Outcome.each (fun s v => s.add g.name v) (s.erase old) f.slot.values)
    rw [FieldStore.each_add_typeOf hfind htype haccepts
      fun t u ht hu => (hagree u t (hdeclares u hu) ht).symm]
    exact .moved hold hnew htype hdeclares hagree
  have hfound := FieldStore.valueType_of_find? hold
  have hdeclared := FieldStore.valueType_of_find? hnew
  unfold moveBehind
  split
  · next found declared ht hu =>
      split
      · next heq =>
          refine hmove fun t u hf hg => ?_
          rw [hfound, hf] at ht
          rw [hdeclared, hg] at hu
          cases ht
          cases hu
          exact heq
      · next hdiffer => exact .refused ht hu hdiffer
  · next hnone =>
      refine hmove fun t u hf hg => ?_
      exact absurd (hdeclared.trans hg) (hnone t u (hfound.trans hf))

/-- In a sound record a renaming comes to one of these, and besides the fields
nothing is changed. -/
theorem renameField_renaming (hr : Sound r) (hold : ¬Reserved old)
    (hnew : ¬Reserved new) (hne : old ≠ new) (mode : UpdateMode) :
    ∃ o, Renaming r.fields old new mode o
      ∧ r.renameField old new mode = r.onFields fun _ => o := by
  unfold renameField onWritable onFields
  rw [if_neg hold, if_neg hnew]
  refine ⟨_, ?_, rfl⟩
  by_cases hcold : r.fields.contains old = true
  · rw [if_neg (by simp [hcold, hne])]
    by_cases hcnew : r.fields.contains new = true
    · rw [if_neg (by simp [hcnew])]
      obtain ⟨f, hf⟩ := FieldStore.exists_find? hcold
      obtain ⟨g, hg⟩ := FieldStore.exists_find? hcnew
      cases mode with
      | overwrite => exact replace_renaming hne hcold hg
      | append =>
          exact moveBehind_renaming (hr.supported.symm ▸ hr.typed) hne hf hg
      | skip =>
          show Renaming r.fields old new .skip (r.fields.remove old).discard
          rw [remove_found hf]
          exact .dropped hcold hcnew
    · rw [Bool.not_eq_true] at hcnew
      rw [if_pos (by simp [hcnew]), rename_free hcold hcnew]
      exact .free hcold hcnew
  · rw [Bool.not_eq_true] at hcold
    rw [if_pos (by simp [hcold])]
    exact .absent hcold

-- ====================================================== what it leaves

/-- How a renaming that went through leaves the two fields, and how the others
stand around them. -/
structure Renamed (old new : String) (mode : UpdateMode) (s s' : FieldStore) :
    Prop where
  gone : s'.contains old = false
  taken : s.contains new = false ∨ mode = .overwrite →
    s'.slot? new = s.slot? old ∧ s'.valueType new = s.valueType old
      ∧ s'.names
          = (s.names.filter (· != new)).map fun n =>
              if n = old then new else n
  moved : mode = .append → s.contains new = true
    → ∀ values, s.getMany old = some values →
    FieldStore.Behind s s' new values ∧ s'.names = s.names.filter (· != old)
  kept : mode = .skip → s.contains new = true →
    s'.slot? new = s.slot? new ∧ s'.valueType new = s.valueType new
      ∧ s'.names = s.names.filter (· != old)

/-- A field that takes a free name over is what it was. -/
theorem slot_renamed (hnew : s.contains new = false) :
    (s.renamed old new).slot? new = s.slot? old
      ∧ (s.renamed old new).valueType new = s.valueType old := by
  rw [FieldStore.slot?, FieldStore.slot?, FieldStore.valueType,
    FieldStore.valueType,
    FieldStore.find?_renamed_self (FieldStore.contains_eq_false_iff.mp hnew),
    Option.map_map, Option.bind_map]
  exact ⟨rfl, rfl⟩

/-- After the change of name the old one is not in use, as long as the two
differ. -/
theorem gone_renamed (hne : old ≠ new) (s : FieldStore) :
    (s.renamed old new).contains old = false := by
  rw [FieldStore.contains_eq_false_iff, FieldStore.names_renamed, List.mem_map]
  rintro ⟨n, -, hn⟩
  split at hn
  · exact hne hn.symm
  · contradiction

/-- What stands under another name is not taken out. -/
theorem slot_erase {name other : String} (hne : other ≠ name)
    (s : FieldStore) :
    (s.erase name).slot? other = s.slot? other
      ∧ (s.erase name).valueType other = s.valueType other := by
  rw [FieldStore.slot?, FieldStore.valueType, FieldStore.find?_erase hne]
  exact ⟨rfl, rfl⟩

/-- Without a field to replace no name goes. -/
theorem filter_names (hnew : s.contains new = false) :
    s.names.filter (· != new) = s.names := by
  rw [List.filter_eq_self]
  intro n hn
  rw [bne_iff_ne]
  rintro rfl
  exact FieldStore.contains_eq_false_iff.mp hnew hn

/-- What a field comes to that takes a free name. -/
theorem renamed_free (hne : old ≠ new) (hnew : s.contains new = false) :
    Renamed old new mode s (s.renamed old new) where
  gone := gone_renamed hne s
  taken := fun _ => by
    rw [filter_names hnew]
    exact ⟨(slot_renamed hnew).1, (slot_renamed hnew).2,
      FieldStore.names_renamed s old new⟩
  moved := fun _ hcontains => nomatch hnew.symm.trans hcontains
  kept := fun _ hcontains => nomatch hnew.symm.trans hcontains

/-- What a field comes to that takes the name of one that was removed for
it. -/
theorem renamed_replaced (hne : old ≠ new) (s : FieldStore) :
    Renamed old new .overwrite s ((s.erase new).renamed old new) where
  gone := gone_renamed hne _
  taken := fun _ => by
    rw [(slot_renamed (gone_erase s new)).1,
      (slot_renamed (gone_erase s new)).2, FieldStore.names_renamed,
      FieldStore.names_erase]
    exact ⟨(slot_erase hne s).1, (slot_erase hne s).2, rfl⟩
  moved := nofun
  kept := nofun

/-- A field that is skipped is lost, and the one whose name it would have had
stays. -/
theorem renamed_dropped (hne : old ≠ new) (hnew : s.contains new = true) :
    Renamed old new .skip s (s.erase old) where
  gone := gone_erase s old
  taken := fun h => by
    rw [hnew] at h
    exact h.elim nofun nofun
  moved := nofun
  kept := fun _ _ => ⟨(slot_erase hne.symm s).1, (slot_erase hne.symm s).2,
    FieldStore.names_erase s old⟩

/-- The values that were moved stand behind those of the other field, and their
own field is gone. -/
theorem renamed_moved {type : Option ValueType} (hne : old ≠ new)
    (hold : s.find? old = some f) (hnew : s.find? new = some g)
    (htype : TypeOf f.slot.values type)
    (hagree : ∀ t u, g.declared = some t → type = some u → t = u) :
    Renamed old new .append s
      ((s.erase old).grown g f.slot.values (type <|> g.declared)) := by
  obtain ⟨-, rfl⟩ := FieldStore.mem_of_find? hnew
  have hfind : (s.erase old).find? g.name = some g := by
    rw [FieldStore.find?_erase hne.symm, hnew]
  have hnames :=
    (FieldStore.names_grown hfind f.slot.values (type <|> g.declared)).trans
    (FieldStore.names_erase s old)
  constructor
  case gone =>
    rw [FieldStore.contains_eq_false_iff, hnames]
    simp
  case taken =>
    intro h
    rw [FieldStore.contains_of_find? hnew] at h
    exact h.elim nofun nofun
  case moved =>
    intro _ _ values hvalues
    rw [FieldStore.getMany_of_find? hold] at hvalues
    cases hvalues
    exact ⟨(FieldStore.behind_grown hfind htype hagree).congr
      (hfind.trans hnew.symm), hnames⟩
  case kept => exact nofun

/-- A renaming that went through, with a field to rename, leaves the fields
like this. -/
theorem Renaming.renamed (h : Renaming s old new mode o) (hne : old ≠ new)
    (hok : o.result = .ok ()) (hcontains : s.contains old = true) :
    Renamed old new mode s o.state := by
  cases h with
  | absent hold => exact nomatch hold.symm.trans hcontains
  | free hold hnew => exact renamed_free hne hnew
  | replaced hold hnew => exact renamed_replaced hne s
  | moved hold hnew htype hdeclares hagree =>
      exact renamed_moved hne hold hnew htype fun t u ht hu =>
        (hagree u t (hdeclares u hu) ht).symm
  | refused hold hnew hdiffer => cases hok
  | dropped hold hnew => exact renamed_dropped hne hnew

/-- Other fields are as they were, in their order. -/
theorem Renaming.without (h : Renaming s old new mode o) :
    o.state.without [old, new] = s.without [old, new] := by
  have hold : old ∈ [old, new] := List.mem_cons_self
  have hnew : new ∈ [old, new] := List.mem_cons_of_mem _ List.mem_cons_self
  cases h with
  | absent _ => rfl
  | free _ _ => exact FieldStore.without_renamed hold hnew
  | replaced _ _ =>
      exact (FieldStore.without_renamed hold hnew).trans
        (FieldStore.without_erase hnew)
  | moved _ hfind _ _ _ =>
      obtain ⟨-, rfl⟩ := FieldStore.mem_of_find? hfind
      exact (FieldStore.without_grown hnew _ _ _).trans
        (FieldStore.without_erase hold)
  | refused _ _ _ => rfl
  | dropped _ _ => exact FieldStore.without_erase hold

/-- A renaming fails where values of another type are to go behind others. -/
theorem Renaming.error_iff (h : Renaming s old new mode o) (e : FieldError) :
    o.result = .error e ↔ mode = .append
      ∧ ∃ found declared, s.valueType old = some found
      ∧ s.valueType new = some declared ∧ found ≠ declared
      ∧ e = .invalidType new found (some declared) := by
  cases h with
  | absent hold =>
      refine iff_of_false nofun ?_
      rintro ⟨-, found, -, hfound, -⟩
      rw [FieldStore.valueType_of_contains_eq_false hold] at hfound
      cases hfound
  | free _ hnew =>
      refine iff_of_false nofun ?_
      rintro ⟨-, -, declared, -, hdeclared, -⟩
      rw [FieldStore.valueType_of_contains_eq_false hnew] at hdeclared
      cases hdeclared
  | replaced _ _ => exact iff_of_false nofun fun h => nomatch h.1
  | @moved f g type hold hnew _ _ hagree =>
      refine iff_of_false nofun ?_
      rintro ⟨-, found, declared, hfound, hdeclared, hdiffer, -⟩
      rw [FieldStore.valueType_of_find? hold] at hfound
      rw [FieldStore.valueType_of_find? hnew] at hdeclared
      exact hdiffer (hagree found declared hfound hdeclared)
  | @refused found declared hfound hdeclared hdiffer =>
      constructor
      · rintro ⟨⟩
        exact ⟨rfl, found, declared, hfound, hdeclared, hdiffer, rfl⟩
      · rintro ⟨-, t, u, ht, hu, -, rfl⟩
        rw [hfound] at ht
        rw [hdeclared] at hu
        cases ht
        cases hu
        rfl
  | dropped _ _ => exact iff_of_false nofun fun h => nomatch h.1

/-- Where it fails nothing was moved. -/
theorem Renaming.of_error (h : Renaming s old new mode o) {e : FieldError}
    (he : o.result = .error e) : o.state = s := by
  cases h with
  | refused _ _ _ => rfl
  | _ => cases he

/-- Without the field the renaming did nothing. -/
theorem Renaming.of_absent (h : Renaming s old new mode o)
    (hold : s.contains old = false) :
    o = .ok s () := by
  cases h with
  | absent _ => rfl
  | free hcontains _ => exact nomatch hold.symm.trans hcontains
  | replaced hcontains _ => exact nomatch hold.symm.trans hcontains
  | moved hfind _ _ _ _ =>
      exact nomatch hold.symm.trans (FieldStore.contains_of_find? hfind)
  | refused hfound _ _ =>
      exact nomatch (FieldStore.valueType_of_contains_eq_false hold).symm.trans
        hfound
  | dropped hcontains _ => exact nomatch hold.symm.trans hcontains

-- ====================================================== the whole

/-- Renaming a field of a sound record. Without the field nothing changes. It
fails where values are to go behind those of a field that declares another
type, and the record is then as it was. If it goes through, the field is gone
from its old name, and the new name has what `Renamed` says. Other fields keep
their values, their types and their order in any case, and so does the rest of
the record. -/
theorem renameField_settled (hr : Sound r) (hold : ¬Reserved old)
    (hnew : ¬Reserved new) (hne : old ≠ new) (mode : UpdateMode) :
    (r.fields.contains old = false → r.renameField old new mode = .ok r ())
      ∧ (∀ e, (r.renameField old new mode).result = .error e ↔
          mode = .append ∧ ∃ found declared, r.valueType old = some found
            ∧ r.valueType new = some declared ∧ found ≠ declared
            ∧ e = .invalidType new found (some declared))
      ∧ (∀ e, (r.renameField old new mode).result = .error e →
          (r.renameField old new mode).state = r)
      ∧ ((r.renameField old new mode).result = .ok ()
          → r.fields.contains old = true →
          Renamed old new mode r.fields
            (r.renameField old new mode).state.fields)
      ∧ (r.renameField old new mode).state.fields.without [old, new]
          = r.fields.without [old, new]
      ∧ (r.renameField old new mode).state
          = { r with
              fields := (r.renameField old new mode).state.fields } := by
  obtain ⟨o, h, heq⟩ := renameField_renaming hr hold hnew hne mode
  rw [heq]
  refine ⟨fun habsent => ?_, h.error_iff, fun e he => ?_, h.renamed hne,
    h.without, rfl⟩
  · cases h.of_absent habsent
    exact onFields_unchanged rfl
  · rw [onFields_unchanged (h.of_error he)]

/-- A record with two fields of texts, one of them with a null, and a
number. -/
def shelf : Record :=
  [.setValues "red" [some (.text "rose"), none],
    .setField "blue" (.text "iris"),
    .setField "count" (.long 2)].foldl Operation.apply (Record.new "shelf")

/-- The texts of one field of the shelf go behind those of the other, and the
number refuses to follow them. -/
theorem renameField_settled_shelf :
    Sound shelf ∧ ¬Reserved "red" ∧ ¬Reserved "blue" ∧ ¬Reserved "count"
      ∧ (shelf.renameField "red" "blue" .append).state.fields.slot? "blue"
          = some (.multi [some (.text "iris"), some (.text "rose"), none])
      ∧ (shelf.renameField "red" "blue" .append).state.fields.names
          = ["blue", "count"]
      ∧ (shelf.renameField "count" "blue" .append).state = shelf := by
  have hsound : Sound shelf := foldl_sound "shelf" _
  have hred : ¬Reserved "red" := by decide
  have hblue : ¬Reserved "blue" := by decide
  have hcount : ¬Reserved "count" := by decide
  obtain ⟨-, -, -, hrenamed, -, -⟩ :=
    renameField_settled hsound hred hblue (by decide) .append
  obtain ⟨hbehind, hnames⟩ := (hrenamed rfl rfl).moved rfl rfl _ rfl
  obtain ⟨former, hformer, hslot⟩ := hbehind.held
  cases hformer
  obtain ⟨-, herror, hfailed, -, -, -⟩ :=
    renameField_settled hsound hcount hblue (by decide) .append
  refine ⟨hsound, hred, hblue, hcount, hslot nofun, hnames, ?_⟩
  exact
    hfailed _ ((herror _).mpr ⟨rfl, .long, .text, rfl, rfl, by decide, rfl⟩)

end Intake.Record
