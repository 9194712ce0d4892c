/-
What the getters answer on a record that was written and read.

On its way through a document a value may change its kind: a short integer
comes back as a long one, an instant and octets come back as text
(`Value.returned`). The getter for the kind it had looks through the change,
because it takes the kind it comes back as, too, and undoes what writing did:
the long integer fits again, and the text is read back to the octets or to the
instant (`Value.as_returned`). The rest is finding the field: reading keeps the
names, so what is found under a name is what was written under it
(`Tidy.slot?_ofJsonWith`).
-/
import Intake.Proofs.Record.RoundTrip
import Intake.Proofs.Text.Base64
import Intake.Proofs.Time.Instant

namespace Intake

-- ====================================================== values

namespace Value

/-- The value as one of a kind, as far as it can be taken for one. -/
def as : ValueType → Value → Option Value
  | .text, v => v.text?.map .text
  | .int, v => v.int?.map .int
  | .long, v => v.long?.map .long
  | .bool, v => v.bool?.map .bool
  | .float, v => v.float?.map .float
  | .timestamp, v => v.timestamp?.map .timestamp
  | .bytes, v => v.bytes?.map .bytes
  | .json, v => v.json?.map .json

/-- Every value can be taken for what it is. -/
theorem as_type (v : Value) : v.as v.type = some v := by
  cases v with
  | _ => rfl

/-- The value that the document of a value is read as. -/
def returned : Value → Value
  | .int i => .long i.toInt64
  | .timestamp t => .text t.render
  | .bytes b => .text (String.ofList (Base64.encode b))
  | v => v

/-- The values that can be told from what they come back as: doubles are
finite, instants are of a year of four digits, documents have parts. -/
def Retrievable : Value → Prop
  | .float x => x.isFinite = true
  | .timestamp t => t.Sound ∧ 0 ≤ t.year ∧ t.year ≤ 9999
  | .json d => d.isComposite = true
  | _ => True

/-- An integer of 32 bits is read from a long value. -/
theorem int?_long (i : Int32) : (Value.long i.toInt64).int? = some i := by
  have hlow : -2147483648 ≤ i.toInt := i.le_toInt
  have hhigh : i.toInt < 2147483648 := i.toInt_lt
  rw [int?, Int32.toInt_toInt64, if_pos ⟨hlow, hhigh⟩, Int32.ofInt_toInt]

/-- What comes back can be taken for what it was. -/
theorem as_returned {v : Value} (h : v.Retrievable) :
    v.returned.as v.type = some v := by
  cases v with
  | int i =>
      show (Value.long i.toInt64).int?.map Value.int = _
      rw [int?_long]
      rfl
  | timestamp t =>
      obtain ⟨hsound, hfirst, hlast⟩ := h
      show (Instant.parse t.render).map Value.timestamp = _
      rw [Instant.parse_render hsound hfirst hlast]
      rfl
  | bytes b =>
      show (Base64.decode (String.ofList (Base64.encode b)).toList).map
        Value.bytes = _
      rw [String.toList_ofList, Base64.decode_encode]
      rfl
  | _ => exact as_type _

end Value

namespace Record

/-- A single value comes back as what can be told of it. -/
theorem singleOfJson_returned {v : Value} (h : v.Retrievable) :
    singleOfJson (singleToJson (some v)) = some v.returned := by
  cases v with
  | int i => exact Value.ofJson_ofLong i.toInt64
  | timestamp t => rfl
  | bytes b => rfl
  | text | long | bool | float | json => exact singleOfJson_singleToJson h

-- ====================================================== fields

/-- What is found under a name after rereading is the reread field. -/
theorem find?_reread {name : String} {fs : List Field} :
    ∀ {gs : List Field} {f : Field}, fs.mapM Field.reread = .ok gs →
      fs.find? (·.name == name) = some f →
      ∃ g, f.reread = .ok g ∧ gs.find? (·.name == name) = some g := by
  induction fs with
  | nil => exact fun _ h => by cases h
  | cons x xs ih =>
      intro gs f hgs hf
      rw [List.mapM_cons] at hgs
      obtain ⟨y, hy, hgs⟩ := bind_eq_ok.mp hgs
      obtain ⟨ys, hys, hgs⟩ := bind_eq_ok.mp hgs
      cases hgs
      rw [List.find?_cons, Field.reread_name hy]
      rw [List.find?_cons] at hf
      cases hx : x.name == name with
      | true =>
          rw [hx] at hf
          cases hf
          exact ⟨y, hy, rfl⟩
      | false =>
          rw [hx] at hf
          exact ih hys hf

section written

variable {r r' : Record} (h : Tidy r)
include h

/-- The fields of a record that was written and read. -/
theorem Tidy.fields_ofJsonWith {relabel : String → String}
    (hread : ofJsonWith relabel r.toJson = .ok r') :
    ∃ gs, r.fields.fields.mapM Field.reread = .ok gs
      ∧ r'.fields = FieldStore.empty.extend gs := by
  rw [toJson_members h] at hread
  obtain ⟨id, hid, hread⟩ := ofJsonWith_object.mp hread
  have hid : (if r.id.isEmpty then Except.error _ else Except.ok r.id)
    = Except.ok id := hid
  have hid : id = r.id := by
    split at hid
    · cases hid
    · exact (Except.ok.inj hid).symm
  have hnew : Tidy { Record.new (relabel r.id) with runId := r.runId } :=
    (Tidy.new (relabel r.id)).congr rfl
  have hfields := @readMembers_fields relabel r.tailMembers _ _ hnew h.distinct
    fun f hf => ⟨List.not_mem_nil, h.not_isFrame hf, h.errorList hf⟩
  rw [hid, List.append_assoc, readMembers_head, hfields] at hread
  obtain ⟨gs, hgs, hread⟩ := bind_eq_ok.mp hread
  rw [readMembers_tail _ _ rfl] at hread
  obtain ⟨children, -, rfl⟩ := map_eq_ok.mp hread
  exact ⟨gs, hgs, rfl⟩

/-- A single value is found again under its name. -/
theorem Tidy.slot?_ofJsonWith {relabel : String → String}
    (hread : ofJsonWith relabel r.toJson = .ok r') {name : String}
    {v : Option Value} (hslot : r.fields.slot? name = some (.single v)) :
    r'.fields.slot? name = some (.single (singleOfJson (singleToJson v))) := by
  obtain ⟨gs, hgs, hfields⟩ := h.fields_ofJsonWith hread
  obtain ⟨f, hf, hv⟩ := Option.map_eq_some_iff.mp hslot
  obtain ⟨g, hg, hfound⟩ := find?_reread hgs hf
  rw [Field.reread, hv] at hg
  cases hg
  rw [hfields]
  exact FieldStore.slot?_of_find? (s := FieldStore.empty.extend gs) hfound

/-- A name that has a single value is neither that of the id nor of the run. -/
theorem Tidy.not_isFrame_of_slot? {name : String} {slot : Slot}
    (hslot : r.fields.slot? name = some slot) : ¬IsFrame name := by
  intro hname
  rw [FieldStore.slot?, h.unreserved name hname] at hslot
  cases hslot

end written

-- ====================================================== getters

/-- The answer of the getter for a kind of values. -/
def getAs (r : Record) (name : String) : ValueType → Option Value
  | .text => (r.getText name).map .text
  | .int => (r.getInt name).map .int
  | .long => (r.getLong name).map .long
  | .bool => (r.getBool name).map .bool
  | .float => (r.getFloat name).map .float
  | .timestamp => (r.getTimestamp name).map .timestamp
  | .bytes => (r.getBytes name).map .bytes
  | .json => (r.getJson name).map .json

/-- The getters of a tidy record read the value of the field. -/
theorem getAs_of_slot? {r : Record} (h : Tidy r) {name : String} {v : Value}
    (hslot : r.fields.slot? name = some (.single (some v))) (t : ValueType) :
    r.getAs name t = v.as t := by
  have hone : r.getOne name = some v := by
    rw [getOne, FieldStore.getOne, FieldStore.getMany, hslot]
    rfl
  have hframe := h.not_isFrame_of_slot? hslot
  simp only [IsFrame, not_or] at hframe
  have hview {α : Type} (view : Value → Option α) (kind : α → Value) :
      ((r.getOne name).bind view).map kind = (view v).map kind := by
    rw [hone]
    rfl
  cases t with
  | text =>
      rw [getAs, getText, if_neg hframe.1, if_neg hframe.2.1]
      exact hview _ _
  | int | long | bool | float | timestamp | bytes | json => exact hview _ _

/-- The getter for the kind of a single value answers with the value, before
the record is written and after it is read. -/
theorem Built.getAs_ofJson {r r' : Record} (h : Built r)
    (hread : ofJson r.toJson = .ok r') {name : String} {v : Value}
    (hslot : r.fields.slot? name = some (.single (some v)))
    (hv : v.Retrievable) :
    r'.getAs name v.type = r.getAs name v.type
      ∧ r.getAs name v.type = some v := by
  have htidy := (forall_tree.mp h.tidy).1
  have htidy' := (forall_tree.mp (Built.read hread).tidy).1
  have hbefore : r.getAs name v.type = some v := by
    rw [getAs_of_slot? htidy hslot, v.as_type]
  have hslot' := htidy.slot?_ofJsonWith hread hslot
  rw [singleOfJson_returned hv] at hslot'
  have hafter : r'.getAs name v.type = some v := by
    rw [getAs_of_slot? htidy' hslot', Value.as_returned hv]
  exact ⟨hafter.trans hbefore.symm, hbefore⟩

/-- Half a second into the leap second at the end of 2016. -/
def leapSecond : Instant := ⟨1483228799, 1500000000⟩

/-- What is written into a record of a sounding that was taken in a leap
second. -/
def soundingValues : List (String × Value) :=
  [("time", .timestamp leapSecond), ("depth", .int (-7)),
    ("echo", .bytes [255, 0])]

/-- The record of the sounding. -/
def sounding : Record :=
  (soundingValues.map fun entry => Operation.setField entry.1 entry.2).foldl
    Operation.apply
    (new "sounding")

/-- Every getter gives the same of the sounding and of what is read back from
its document. -/
theorem Built.getAs_ofJson_sounding : ∃ r', ofJson sounding.toJson = .ok r'
    ∧ ∀ entry ∈ soundingValues,
      r'.getAs entry.1 entry.2.type = sounding.getAs entry.1 entry.2.type
        ∧ sounding.getAs entry.1 entry.2.type = some entry.2 := by
  have hbuilt : Built sounding :=
    Built.foldl _ (.new "sounding")
      (by simp [soundingValues, Operation.adopted])
  have hread : ofJson sounding.toJson = sounding.reread fun id => id :=
    ofJsonWith_toJson fun x hx =>
      ⟨hbuilt.tidy x hx, by rw [List.mem_singleton.mp hx]; decide⟩
  obtain ⟨r', hr'⟩ : ∃ r', sounding.reread (fun id => id) = .ok r' := ⟨_, rfl⟩
  have hslot : ∀ entry ∈ soundingValues,
      sounding.fields.slot? entry.1 = some (.single (some entry.2)) := by
    rw [soundingValues, List.forall_mem_cons, List.forall_mem_cons,
      List.forall_mem_singleton]
    exact ⟨rfl, rfl, rfl⟩
  have hvalue : ∀ entry ∈ soundingValues, entry.2.Retrievable := by
    rw [soundingValues, List.forall_mem_cons, List.forall_mem_cons,
      List.forall_mem_singleton]
    exact ⟨⟨⟨by decide, by decide⟩, by decide, by decide⟩, trivial, trivial⟩
  rw [hr'] at hread
  exact ⟨r', hread, fun entry hentry =>
    hbuilt.getAs_ofJson hread (hslot entry hentry) (hvalue entry hentry)⟩

end Record

end Intake
