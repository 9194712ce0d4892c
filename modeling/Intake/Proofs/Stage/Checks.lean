/-
Checks of options: what passes, and that all else is a configuration error.

A stage is made from its options by one check after the other. Each passes
under a condition of its own and only then, and what it fails with is a
configuration error (`Checked`). So checks in a row pass under all of their
conditions (`Checked.bind`). An option may be missing, so the condition of one
says what its document is if it is given (`StageOptions.IfGiven`).
-/
import Intake.Stage.Options

namespace Intake

-- ====================================================== checks

/-- What a check comes to: it has passed and a condition holds, or it has
failed with a configuration error and the condition does not hold. -/
inductive Checked {α : Type} : Except StageError α → Prop → Prop where
  | passed {condition : Prop} (value : α) (holds : condition) :
      Checked (.ok value) condition
  | refused {condition : Prop} (stage message : String) (fails : ¬condition) :
      Checked (.error (.config stage message)) condition

namespace Checked

variable {α β : Type} {check : Except StageError α}
  {next : α → Except StageError β} {condition other : Prop}

/-- The condition of a check may be put in other words. -/
theorem congr (h : Checked check condition) (hiff : condition ↔ other) :
    Checked check other := by
  cases h with
  | passed value holds => exact .passed value (hiff.mp holds)
  | refused stage message fails =>
      exact .refused stage message (mt hiff.mpr fails)

/-- Where a check has passed its condition holds. -/
theorem holds {value : α} (h : Checked (.ok value) condition) : condition := by
  cases h with
  | passed _ holds => exact holds

/-- One check behind another, which goes by what the first one gave. -/
theorem bind (h : Checked check condition)
    (hnext : ∀ value, check = .ok value → Checked (next value) other) :
    Checked (check >>= next) (condition ∧ other) := by
  cases h with
  | passed value holds =>
      exact (hnext value rfl).congr (and_iff_right holds).symm
  | refused stage message fails =>
      exact .refused stage message fun h => fails h.1

end Checked

-- ====================================================== documents

namespace Json

/-- The document is a text. -/
def IsText (j : Json) : Prop := ∃ s, j = .text s

/-- The document is a truth value. -/
def IsBool (j : Json) : Prop := ∃ b, j = .bool b

/-- The document is a signed 64-bit integer with a property. -/
def IsInteger (p : Int → Prop) (j : Json) : Prop :=
  ∃ i : Int64, j = .ofLong i ∧ p i.toInt

/-- Texts are shown as what they are, and nothing else is shown as a text. -/
theorem text?_eq_some {j : Json} {s : String} :
    j.text? = some s ↔ j = .text s := by
  cases j with
  | text t => rw [text?, Option.some_inj, Json.text.injEq]
  | null => exact ⟨nofun, nofun⟩
  | bool b => exact ⟨nofun, nofun⟩
  | number n => exact ⟨nofun, nofun⟩
  | array items => exact ⟨nofun, nofun⟩
  | object members => exact ⟨nofun, nofun⟩

/-- A document that was made of an integer shows it. -/
theorem long?_ofLong (i : Int64) : (ofLong i).long? = some i := by
  have hlt : i.toInt < 9223372036854775808 := i.toInt_lt
  rw [ofLong, long?, Number.long?, if_pos hlt, Int64.ofInt_toInt]

/-- A document that shows an integer was made of it. -/
theorem long?_eq_some {j : Json} {i : Int64} :
    j.long? = some i ↔ j = .ofLong i := by
  refine ⟨fun h => ?_, fun h => h ▸ long?_ofLong i⟩
  cases j with
  | number n =>
      cases n with
      | int value fits =>
          rw [long?, Number.long?] at h
          split at h
          · next hlt =>
              obtain rfl := Option.some.inj h
              have hvalue : (Int64.ofInt value).toInt = value :=
                Int64.toInt_ofInt_of_le fits.1 hlt
              rw [ofLong]
              congr
              exact hvalue.symm
          · cases h
      | float value finite => cases h
  | null => cases h
  | bool b => cases h
  | text s => cases h
  | array items => cases h
  | object members => cases h

end Json

-- ====================================================== options

namespace StageOptions

variable {α : Type} {o : StageOptions} {key expected : String}
  {view : Json → Option α}

/-- The document of an option has a property, if the option is given. -/
def IfGiven (o : StageOptions) (key : String) (p : Json → Prop) : Prop :=
  ∀ j, o.get? key = some j → p j

/-- The integer of an option, or another one if there is none. -/
def integer (o : StageOptions) (key : String) (default : Int) : Int :=
  (((o.get? key).bind Json.long?).map Int64.toInt).getD default

/-- Nothing is asked of an option that is missing. -/
theorem ifGiven_of_none {p : Json → Prop} (h : o.get? key = none) :
    o.IfGiven key p := by
  intro j hj
  rw [h] at hj
  cases hj

/-- Of an option that is given the property is asked. -/
theorem ifGiven_iff_of_some {p : Json → Prop} {j : Json}
    (h : o.get? key = some j) :
    o.IfGiven key p ↔ p j := by
  refine ⟨fun hgiven => hgiven j h, fun hj k hk => ?_⟩
  rw [h] at hk
  cases hk
  exact hj

/-- An option is read if the view shows something of its document, or if it is
missing. -/
theorem checked_read : Checked (o.read key expected view)
    (o.IfGiven key fun j => ∃ value, view j = some value) := by
  rw [StageOptions.read]
  split
  · next h => exact .passed none (ifGiven_of_none h)
  · next j h =>
      split
      · next value hvalue =>
          exact
            .passed (some value) ((ifGiven_iff_of_some h).mpr ⟨value, hvalue⟩)
      · next hview =>
          refine .refused _ _ fun hgiven => ?_
          obtain ⟨value, hvalue⟩ := hgiven j h
          rw [hview] at hvalue
          cases hvalue

/-- An option that is not there is read as nothing. -/
theorem read_of_absent (h : o.has key = false) :
    o.read key expected view = .ok none := by
  rw [has, Option.isSome_eq_false_iff, Option.isNone_iff_eq_none] at h
  rw [StageOptions.read, h]

/-- What is read is missing with the option, and is else what the document
shows. -/
theorem read_cases {value : Option α}
    (h : o.read key expected view = .ok value) :
    (o.get? key = none ∧ value = none)
      ∨ ∃ j shown, o.get? key = some j ∧ view j = some shown
          ∧ value = some shown := by
  rw [StageOptions.read] at h
  split at h
  · next hnone => exact .inl ⟨hnone, (Except.ok.inj h).symm⟩
  · next j hj =>
      split at h
      · next shown hshown =>
          exact .inr ⟨j, shown, hj, hshown, (Except.ok.inj h).symm⟩
      · cases h

/-- Something is read if and only if the option is there. -/
theorem isSome_read {value : Option α}
    (h : o.read key expected view = .ok value) :
    value.isSome = o.has key := by
  rw [has]
  obtain ⟨hnone, rfl⟩ | ⟨j, shown, hj, -, rfl⟩ := read_cases h
  · rw [hnone]
    rfl
  · rw [hj]
    rfl

-- ===================================================== texts and truth values

/-- A text option that was read. -/
theorem get?_of_getText {value : Option String}
    (h : o.getText key = .ok value) :
    o.get? key = value.map Json.text := by
  obtain ⟨hnone, rfl⟩ | ⟨j, s, hj, hs, rfl⟩ := read_cases h
  · exact hnone
  · rw [hj, Json.text?_eq_some.mp hs]
    rfl

/-- A text option has to be a text. -/
theorem checked_getText :
    Checked (o.getText key) (o.IfGiven key Json.IsText) :=
  checked_read.congr (by simp only [Json.text?_eq_some]; rfl)

/-- A required text has to be there, too. -/
theorem checked_requireText :
    Checked (o.requireText key) (∃ s, o.get? key = some (.text s)) := by
  have hread : Checked (o.getText key) (o.IfGiven key Json.IsText) :=
    checked_getText
  rw [requireText]
  cases hvalue : o.getText key with
  | error e =>
      rw [hvalue] at hread
      cases hread with
      | refused stage message fails =>
          refine .refused stage message fun ⟨s, hs⟩ =>
            fails fun j hj => ⟨s, ?_⟩
          rw [hs] at hj
          exact (Option.some.inj hj).symm
  | ok value =>
      have hget := get?_of_getText hvalue
      cases value with
      | some s => exact .passed s ⟨s, hget⟩
      | none =>
          refine .refused _ _ fun ⟨s, hs⟩ => ?_
          rw [hs] at hget
          cases hget

/-- An option that is a truth value has to be given as one. -/
theorem checked_getBool :
    Checked (o.getBool key) (o.IfGiven key Json.IsBool) := by
  refine checked_read.congr ⟨fun h j hj => ?_, fun h j hj => ?_⟩
  · obtain ⟨b, hb⟩ := h j hj
    cases j with
    | bool b => exact ⟨b, rfl⟩
    | null => cases hb
    | number n => cases hb
    | text s => cases hb
    | array items => cases hb
    | object members => cases hb
  · obtain ⟨b, rfl⟩ := h j hj
    exact ⟨b, rfl⟩

-- ====================================================== integers

/-- An integer option has to be an integer in the range of 64 bits. -/
theorem checked_getLong :
    Checked (o.getLong key)
      (o.IfGiven key (Json.IsInteger fun _ => True)) := by
  refine checked_read.congr (forall₂_congr fun j _ => ?_)
  simp only [Option.map_eq_some_iff, Json.long?_eq_some]
  exact
    ⟨fun ⟨_, i, hi, _⟩ => ⟨i, hi, trivial⟩, fun ⟨i, hi, _⟩ => ⟨_, i, hi, rfl⟩⟩

/-- An integer option that was read. -/
theorem get?_of_getLong {given : Option Int} (h : o.getLong key = .ok given) :
    ∃ found : Option Int64, o.get? key = found.map Json.ofLong
      ∧ given = found.map Int64.toInt := by
  obtain ⟨hnone, rfl⟩ | ⟨j, value, hj, hvalue, rfl⟩ := read_cases h
  · exact ⟨none, hnone, rfl⟩
  · obtain ⟨i, hi, rfl⟩ := Option.map_eq_some_iff.mp hvalue
    exact ⟨some i, hj.trans (congrArg some (Json.long?_eq_some.mp hi)), rfl⟩

/-- A missing option counts as its default. -/
theorem integer_of_none {default : Int} (h : o.get? key = none) :
    o.integer key default = default := by
  rw [integer, h]
  rfl

/-- A given option counts as its integer. -/
theorem integer_of_ofLong {default : Int} {i : Int64}
    (h : o.get? key = some (.ofLong i)) :
    o.integer key default = i.toInt := by
  rw [integer, h, Option.bind_some, Json.long?_ofLong]
  rfl

/-- So the integer that was read, or the default, is the integer of the
option. -/
theorem getD_getLong {given : Option Int} (h : o.getLong key = .ok given)
    (default : Int) :
    given.getD default = o.integer key default := by
  obtain ⟨found, hget, rfl⟩ := get?_of_getLong h
  cases found with
  | none => exact (integer_of_none hget).symm
  | some i => exact (integer_of_ofLong hget).symm

/-- The integer of a document is the only one it has. -/
theorem isInteger_ofLong {p : Int → Prop} {i : Int64} :
    (Json.ofLong i).IsInteger p ↔ p i.toInt := by
  refine ⟨fun ⟨i', hi, hp⟩ => ?_, fun hp => ⟨i, rfl, hp⟩⟩
  have hsame : i' = i := by
    rw [← Option.some_inj, ← Json.long?_ofLong, ← Json.long?_ofLong, hi]
  exact hsame ▸ hp

/-- An integer that is bounded if it is given is bounded in any case, if its
default is. -/
theorem ifGiven_isInteger_iff {p : Int → Prop} (default : Int)
    (hdefault : p default) :
    (o.IfGiven key (Json.IsInteger fun _ => True) ∧ p (o.integer key default))
      ↔ o.IfGiven key (Json.IsInteger p) := by
  cases hj : o.get? key with
  | none =>
      rw [integer_of_none hj]
      exact
        ⟨fun _ => ifGiven_of_none hj, fun _ => ⟨ifGiven_of_none hj, hdefault⟩⟩
  | some j =>
      rw [ifGiven_iff_of_some hj, ifGiven_iff_of_some hj]
      constructor
      · rintro ⟨⟨i, rfl, -⟩, hp⟩
        exact ⟨i, rfl, integer_of_ofLong hj ▸ hp⟩
      · rintro ⟨i, rfl, hp⟩
        exact ⟨⟨i, rfl, trivial⟩, (integer_of_ofLong hj).symm ▸ hp⟩

/-- The integer of an option, tested with its default in place of a missing
one. -/
theorem checked_integer {p : Int → Prop} (default : Int) (hdefault : p default)
    {next : Option Int → Except StageError α}
    (hnext : ∀ given : Option Int, given.getD default = o.integer key default →
      Checked (next given) (p (o.integer key default))) :
    Checked (o.getLong key >>= next) (o.IfGiven key (Json.IsInteger p)) :=
  (checked_getLong.bind fun given hgiven =>
    hnext given (getD_getLong hgiven default)).congr
    (ifGiven_isInteger_iff default hdefault)

end StageOptions

-- ====================================================== declared options

/-- Options are accepted if the required ones are there and all of them are
declared. -/
theorem StageSpec.checked_validate (spec : StageSpec) (o : StageOptions) :
    Checked (spec.validate o)
      ((∀ key ∈ spec.required, o.has key = true)
        ∧ ∀ key ∈ o.keys, spec.declares key = true) := by
  have hrequired : (spec.required.filter fun key => !o.has key).isEmpty = true
      ↔ ∀ key ∈ spec.required, o.has key = true := by
    simp [List.isEmpty_iff, List.filter_eq_nil_iff]
  have hknown : (o.keys.filter fun key => !spec.declares key).isEmpty = true
      ↔ ∀ key ∈ o.keys, spec.declares key = true := by
    simp [List.isEmpty_iff, List.filter_eq_nil_iff]
  rw [validate, ← hrequired, ← hknown]
  split
  · next h => exact .refused _ _ fun ⟨hmissing, _⟩ => by simp [hmissing] at h
  · next hmissing =>
      split
      · next h =>
          exact .refused _ _ fun ⟨_, hunknown⟩ => by simp [hunknown] at h
      · next hunknown =>
          exact .passed () ⟨by simpa using hmissing, by simpa using hunknown⟩

end Intake
