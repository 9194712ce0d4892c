/-
Which records survive being written and read.

A value is restorable if its document stands for it alone: text, long
integers, truth values, finite doubles and documents that have parts. A
field of such values that declares their type is read back as it was, and a
tree of such fields too, provided that its ids are not empty and no record
bears the mark, which is not written (`Built.ofJson_toJson`).

Reading makes restorable values with one exception. The wrapper is taken off
whatever it holds, but put only on what would be misread as several values
or as a wrapper; so a single text, number, truth value or null that was
wrapped is read as a document and comes back as something else. For records
that were read this is all that can happen (`ofJson_toJson_iff`).
-/
import Intake.Proofs.Field.Typing
import Intake.Proofs.Number.Finite
import Intake.Proofs.Record.WriteRead

namespace Intake

-- ====================================================== values

/-- A document that has parts. -/
def Json.isComposite : Json → Bool
  | .array _ => true
  | .object _ => true
  | _ => false

namespace Value

/-- The document of the value stands for it alone. -/
def Restorable : Value → Prop
  | .text _ => True
  | .long _ => True
  | .bool _ => True
  | .float x => x.isFinite = true
  | .json d => d.isComposite = true
  | .int _ => False
  | .timestamp _ => False
  | .bytes _ => False

/-- The document of a long integer stands for it. -/
theorem ofJson_ofLong (i : Int64) :
    ofJson (Json.ofLong i) = some (.long i) := by
  have hbelow : i.toInt < 9223372036854775808 := i.toInt_lt
  have hlong :
      (Json.Number.int i.toInt (Json.fitsInteger_toInt i)).long? = some i := by
    rw [Json.Number.long?, if_pos hbelow, Int64.ofInt_toInt]
  rw [Json.ofLong, ofJson, hlong]

/-- A restorable value is what its document stands for. -/
theorem ofJson_toJson_of_restorable {v : Value} (h : v.Restorable) :
    ofJson v.toJson = some v := by
  cases v with
  | text s => rfl
  | long i => exact ofJson_ofLong i
  | bool b => rfl
  | float x =>
      have hfinite : x.isFinite = true := h
      rw [toJson, Json.ofDouble, dif_pos hfinite]
      rfl
  | json d =>
      cases d with
      | array items => rfl
      | object members => rfl
      | null => cases h
      | bool b => cases h
      | number n => cases h
      | text s => cases h
  | int i => cases h
  | timestamp t => cases h
  | bytes b => cases h

/-- Every value that a document stands for is restorable. -/
theorem restorable_of_ofJson {j : Json} {v : Value} (h : ofJson j = some v) :
    v.Restorable := by
  cases j with
  | null => cases h
  | bool b =>
      cases h
      trivial
  | text s =>
      cases h
      trivial
  | number n =>
      rw [ofJson] at h
      cases hlong : n.long? with
      | some i =>
          rw [hlong] at h
          cases h
          trivial
      | none =>
          rw [hlong] at h
          cases h
          exact n.isFinite_toDouble
  | array items =>
      cases h
      rfl
  | object members =>
      cases h
      rfl

end Value

-- ====================================================== single values

namespace Record

/-- A document that is no wrapper is read as a value. -/
theorem singleOfJson_of_not_isWrapper {j : Json} (h : isWrapper j = false) :
    singleOfJson j = Value.ofJson j := by
  rw [singleOfJson.eq_def]
  split
  · next key inner =>
      have hkey : key ≠ wrapperKey := fun heq => by
        rw [isWrapper, heq, beq_self_eq_true] at h
        cases h
      exact if_neg hkey
  · rfl

/-- What was wrapped is read as a document, whatever it is. -/
theorem singleOfJson_wrapped (d : Json) :
    singleOfJson (.object [(wrapperKey, d)]) = some (.json d) := by
  rw [singleOfJson, if_pos rfl]

/-- A document that is a single value is read back unless its own shape gives
it away as a value. -/
theorem singleOfJson_document (d : Json) :
    singleOfJson (singleToJson (some (.json d)))
      = if d.isArray || isWrapper d then some (.json d)
      else Value.ofJson d := by
  rw [singleToJson]
  by_cases hd : (d.isArray || isWrapper d) = true
  · rw [if_pos hd, if_pos hd, singleOfJson_wrapped]
  · rw [if_neg hd, if_neg hd]
    rw [Bool.or_eq_true, not_or, Bool.not_eq_true, Bool.not_eq_true] at hd
    exact singleOfJson_of_not_isWrapper hd.2

/-- A single value that was read is restorable or a document. -/
theorem singleOfJson_eq_some {j : Json} {v : Value}
    (h : singleOfJson j = some v) :
    v.Restorable ∨ ∃ d, v = .json d := by
  rw [singleOfJson.eq_def] at h
  split at h
  · split at h
    · cases h
      exact .inr ⟨_, rfl⟩
    · exact .inl (Value.restorable_of_ofJson h)
  · exact .inl (Value.restorable_of_ofJson h)

/-- A single value that is restorable is read back, with and without a
wrapper. -/
theorem singleOfJson_singleToJson {v : Value} (h : v.Restorable) :
    singleOfJson (singleToJson (some v)) = some v := by
  have hv := Value.ofJson_toJson_of_restorable h
  cases v with
  | json d =>
      rw [singleOfJson_document]
      split
      · rfl
      · exact hv
  | float x =>
      have hfinite : x.isFinite = true := h
      have hplain : isWrapper (Value.float x).toJson = false := by
        rw [Value.toJson, Json.ofDouble, dif_pos hfinite]
        rfl
      exact (singleOfJson_of_not_isWrapper hplain).trans hv
  | long i => exact hv
  | text s => rfl
  | bool b => rfl
  | int i => exact h.elim
  | timestamp t => exact h.elim
  | bytes b => exact h.elim

/-- A single document is read back if and only if it has parts: without
parts it is written as it is and read as a value. -/
theorem singleOfJson_document_iff (d : Json) :
    singleOfJson (singleToJson (some (.json d))) = some (.json d)
      ↔ d.isComposite = true := by
  constructor
  · intro h
    rw [singleOfJson_document] at h
    split at h
    · next hd =>
        cases d with
        | array items => rfl
        | object members => rfl
        | null => cases hd
        | bool b => cases hd
        | number n => cases hd
        | text s => cases hd
    · exact Value.restorable_of_ofJson h
  · exact fun h => singleOfJson_singleToJson (v := .json d) h

end Record

-- ====================================================== fields

namespace Field

/-- The declared type of a field is the type of its values. -/
def Declares (f : Field) : Prop := FieldStore.TypeOf f.slot.values f.declared

/-- This is what the check of a whole list of values answers. -/
theorem declares_iff {f : Field} :
    f.Declares ↔ FieldStore.empty.commonType f.name none f.slot.values
      = .ok f.declared := by
  rw [FieldStore.commonType_none]
  exact (and_iff_left fun _ _ => FieldStore.supports_of_all rfl _).symm

/-- All values of the field are restorable. -/
def Restorable (f : Field) : Prop := ∀ v, some v ∈ f.slot.values → v.Restorable

/-- A field of restorable values that declares their type is read back as it
was. -/
theorem reread_of_restorable {f : Field} (h : f.Restorable) (hd : f.Declares) :
    f.reread = .ok f := by
  obtain ⟨name, slot, declared⟩ := f
  cases slot with
  | single v =>
      have hread : Record.singleOfJson (Record.singleToJson v) = v := by
        cases v with
        | none => rfl
        | some v =>
            exact Record.singleOfJson_singleToJson (h v List.mem_cons_self)
      have hdeclared : declared = v.map Value.type := by
        cases v with
        | none => exact hd.2 fun v hv => nomatch List.mem_singleton.mp hv
        | some v => exact hd.1 v List.mem_cons_self
      rw [hdeclared]
      simp only [reread, hread]
  | multi vs =>
      have hread :
          vs.map (fun v => Value.ofJson (Record.valueToJson v)) = vs := by
        refine (List.map_congr_left fun v hv => ?_).trans (List.map_id vs)
        cases v with
        | none => rfl
        | some v => exact Value.ofJson_toJson_of_restorable (h v hv)
      have hcommon : FieldStore.empty.commonType name none vs = .ok declared :=
        declares_iff.mp hd
      simp only [reread, hread, hcommon]
      rfl

/-- What fields that are read look like. -/
structure Legible (f : Field) : Prop where
  declares : f.Declares
  restorable : (∀ d, f.slot ≠ .single (some (.json d))) → f.Restorable

/-- The one thing that is read and not read back is a single document
without parts. -/
theorem Legible.reread_iff {f : Field} (h : f.Legible) :
    f.reread = .ok f
      ↔ ∀ d, f.slot = .single (some (.json d)) → d.isComposite = true := by
  constructor
  · intro hread d hd
    rw [reread, hd] at hread
    have hslot := congrArg Field.slot (Except.ok.inj hread)
    rw [hd] at hslot
    exact (Record.singleOfJson_document_iff d).mp (Slot.single.inj hslot)
  · intro hcomposite
    refine reread_of_restorable ?_ h.declares
    by_cases hsingle : ∃ d, f.slot = .single (some (.json d))
    · obtain ⟨d, hd⟩ := hsingle
      intro v hv
      rw [hd] at hv
      cases List.mem_singleton.mp hv
      exact hcomposite d hd
    · exact h.restorable (not_exists.mp hsingle)

/-- A single value that was read. -/
theorem legible_single (name : String) (j : Json) :
    (⟨name, .single (Record.singleOfJson j),
      (Record.singleOfJson j).map Value.type⟩
      : Field).Legible where
  declares := by
    constructor
    · intro v hv
      rw [← List.mem_singleton.mp hv]
      rfl
    · intro hnone
      cases hv : Record.singleOfJson j with
      | none => rfl
      | some v => exact absurd (hv ▸ List.mem_singleton_self _) (hnone v)
  restorable := by
    intro hsingle v hv
    have hv : Record.singleOfJson j = some v := (List.mem_singleton.mp hv).symm
    rcases Record.singleOfJson_eq_some hv with hv' | ⟨d, rfl⟩
    · exact hv'
    · exact absurd (congrArg Slot.single hv) (hsingle d)

/-- Many values that were read. -/
theorem legible_multi {name : String} {items : List Json}
    {declared : Option ValueType}
    (h : FieldStore.empty.commonType name none (items.map Value.ofJson)
      = .ok declared) :
    (⟨name, .multi (items.map Value.ofJson), declared⟩ : Field).Legible where
  declares := declares_iff.mpr h
  restorable := by
    intro _ v hv
    obtain ⟨j, -, hj⟩ := List.mem_map.mp hv
    exact Value.restorable_of_ofJson hj

/-- The list of errors is legible. -/
theorem legible_errorList (text : String) (texts : List String) :
    (Record.errorList text texts).Legible := by
  have htext :
      ∀ v, some v ∈ Record.textValues (text :: texts) → ∃ s, v = .text s := by
    intro v hv
    obtain ⟨s, -, hs⟩ := List.mem_map.mp hv
    exact ⟨s, (Option.some.inj hs).symm⟩
  refine ⟨⟨fun v hv => ?_, fun hnone => ?_⟩, fun _ v hv => ?_⟩
  · obtain ⟨s, rfl⟩ := htext v hv
    rfl
  · exact absurd List.mem_cons_self (hnone (.text text))
  · obtain ⟨s, rfl⟩ := htext v hv
    trivial

end Field

-- ====================================================== records

namespace Record

/-- A pass over a list changes nothing if it changes no item. -/
theorem mapM_eq_self {ε α : Type} {f : α → Except ε α} {xs : List α} :
    xs.mapM f = .ok xs ↔ ∀ x ∈ xs, f x = .ok x := by
  induction xs with
  | nil => exact ⟨fun _ _ hx => absurd hx List.not_mem_nil, fun _ => rfl⟩
  | cons x xs ih =>
      rw [List.mapM_cons, List.forall_mem_cons, ← ih]
      show
        ((f x).bind fun y => (xs.mapM f).bind fun ys => .ok (y :: ys)) = _ ↔ _
      constructor
      · intro h
        obtain ⟨y, hy, h⟩ := bind_eq_ok.mp h
        obtain ⟨ys, hys, h⟩ := bind_eq_ok.mp h
        cases h
        exact ⟨hy, hys⟩
      · rintro ⟨hx, hxs⟩
        rw [hx, hxs]
        rfl

/-- Children are reread one by one. -/
theorem rereadAll_eq_mapM (relabel : String → String) (rs : List Record) :
    rereadAll relabel rs = rs.mapM (reread relabel) := by
  induction rs with
  | nil => rfl
  | cons r rs ih =>
      rw [rereadAll, ih, List.mapM_cons]
      show (Except.bind _ _) = (Except.bind _ fun r => Except.bind _ _)
      refine congrArg _ (funext fun r => ?_)
      cases rs.mapM (reread relabel) with
      | error e => rfl
      | ok rs => rfl

/-- A record is read back as it was when all fields of its tree are. -/
theorem reread_eq_self {r : Record}
    (h : ∀ x ∈ r.tree, x.fields.supported = ValueType.all
      ∧ x.dropped = false) :
    r.reread (fun id => id) = .ok r
      ↔ ∀ x ∈ r.tree, ∀ f ∈ x.fields.fields, f.reread = .ok f := by
  induction r using tree_induction with
  | step r ih =>
      obtain ⟨⟨hsupported, hdropped⟩, hbelow⟩ := forall_tree.mp h
      have hchildren : rereadAll (fun id => id) r.children = .ok r.children
          ↔ ∀ c ∈ r.children, ∀ x ∈ c.tree, ∀ f ∈ x.fields.fields,
              f.reread = .ok f := by
        rw [rereadAll_eq_mapM, mapM_eq_self]
        exact forall₂_congr fun c hc => ih c hc (hbelow c hc)
      rw [forall_tree, ← mapM_eq_self, ← hchildren]
      obtain ⟨id, runId, ⟨fields, supported⟩, children, dropped⟩ := r
      cases hsupported
      cases hdropped
      rw [reread]
      constructor
      · intro hr
        obtain ⟨fs, hfs, hr⟩ := bind_eq_ok.mp hr
        obtain ⟨cs, hcs, hr⟩ := map_eq_ok.mp hr
        injection hr with _ _ hfields hcs'
        cases hcs'
        have hfields : fs = fields := congrArg FieldStore.fields hfields
        cases hfields
        exact ⟨hfs, hcs⟩
      · rintro ⟨hfs, hcs⟩
        rw [hfs, hcs]
        rfl

-- ====================================================== built records

/-- What a record needs, besides being built, to be read back as it was. -/
structure Faithful (r : Record) : Prop where
  id : r.id ≠ ""
  dropped : r.dropped = false
  values : ∀ f ∈ r.fields.fields, f.Restorable
  types : ∀ f ∈ r.fields.fields, f.Declares

/-- A faithful tree that operations built is read back from its document as
it was. -/
theorem Built.ofJson_toJson {r : Record} (h : Built r)
    (hr : ∀ x ∈ r.tree, Faithful x) :
    ofJson r.toJson = .ok r := by
  have htidy := h.tidy
  rw [ofJson, ofJsonWith_toJson fun x hx => ⟨htidy x hx, (hr x hx).id⟩,
    reread_eq_self fun x hx => ⟨(htidy x hx).supported, (hr x hx).dropped⟩]
  exact fun x hx f hf =>
    Field.reread_of_restorable ((hr x hx).values f hf) ((hr x hx).types f hf)

/-- The operations that make up a page, and those that make up a book around
it. Between them fields have every shape they can be written in. -/
def pageOperations : List Operation :=
  [.setField "number" (.long (-7)), .setField "draft" (.bool true),
    .logError "torn"]

/-- The operations of the book, which gets the page as its child. -/
def bookOperations : List Operation :=
  [.setField "grid" (.json (.array [.bool true, .array []])),
    .setField "nested"
      (.json (.object [(wrapperKey, .object [(wrapperKey, .null)])])),
    .setField "open" (.json (.object [("key", .text "value")])),
    .setField "weight" (.float (Binary64.ofInt 3)),
    .setNull "lost",
    .setValues "kept"
      [none, some (.json (.array [])),
        some (.json (.object [(wrapperKey, .null)]))],
    .setValues "blank" [],
    .addToField "tag" (.text "old"),
    .addChild (pageOperations.foldl Operation.apply (new "page"))]

/-- The book. -/
def book : Record :=
  bookOperations.foldl Operation.apply (withRunId "book" "first")

/-- The book is read back as it was, with its page and with the values that are
wrapped. -/
theorem ofJson_toJson_book :
    Built book ∧ (∀ x ∈ book.tree, Faithful x)
      ∧ ofJson book.toJson = .ok book := by
  have hpage : Built (pageOperations.foldl Operation.apply (new "page")) :=
    Built.foldl pageOperations (.new "page")
      (by simp [pageOperations, Operation.adopted])
  have hbook : Built book := by
    refine Built.foldl bookOperations (.withRunId "book" "first") ?_
    simp [bookOperations, Operation.adopted, hpage]
  have hfaithful : ∀ x ∈ book.tree, Faithful x := by
    rw [forall_tree]
    have hfields : book.fields.fields =
        [⟨"grid", .single (some (.json (.array [.bool true, .array []]))),
          some .json⟩,
          ⟨"nested", .single
            (some (.json
              (.object [(wrapperKey, .object [(wrapperKey, .null)])]))),
            some .json⟩,
          ⟨"open", .single (some (.json (.object [("key", .text "value")]))),
            some .json⟩,
          ⟨"weight", .single (some (.float (Binary64.ofInt 3))), some .float⟩,
          ⟨"lost", .single none, none⟩,
          ⟨"kept", .multi [none, some (.json (.array [])),
            some (.json (.object [(wrapperKey, .null)]))], some .json⟩,
          ⟨"blank", .multi [], none⟩,
          ⟨"tag", .multi [some (.text "old")], some .text⟩] := rfl
    have hfinite : (Binary64.ofInt 3).isFinite = true :=
      Binary64.isFinite_ofInt (by decide)
    refine ⟨⟨by decide, rfl, ?_, ?_⟩, ?_⟩
    · rw [hfields]
      simp [Field.Restorable, Slot.values, Value.Restorable, Json.isComposite,
        hfinite]
    · rw [hfields]
      simp only [List.forall_mem_cons, Field.declares_iff]
      exact ⟨rfl, rfl, rfl, rfl, rfl, rfl, rfl, rfl, fun f hf => by cases hf⟩
    · show ∀ c ∈ [pageOperations.foldl Operation.apply (new "page")],
        ∀ x ∈ c.tree, Faithful x
      rw [List.forall_mem_singleton, forall_tree]
      refine ⟨⟨by decide, rfl, ?_, ?_⟩, fun c hc => by cases hc⟩
      · show ∀ f ∈ [_, _, _], _
        simp [Field.Restorable, Slot.values, Value.Restorable]
      · show ∀ f ∈ [_, _, _], _
        simp only [List.forall_mem_cons, Field.declares_iff]
        exact ⟨rfl, rfl, rfl, fun f hf => by cases hf⟩
  exact ⟨hbook, hfaithful, hbook.ofJson_toJson hfaithful⟩

-- ===================================================== records that were read

/-- What is left of a record after the members that are fields. -/
structure Legible (r : Record) : Prop where
  id : r.id ≠ ""
  dropped : r.dropped = false
  fields : ∀ f ∈ r.fields.fields, f.Legible

/-- A member that is read adds a legible field at most. -/
theorem readMember_legible {r r' : Record} {name : String} {j : Json}
    (htidy : Tidy r) (h : Legible r)
    (hread : readMember r name j = .ok r') : Legible r' := by
  have hput : ∀ f : Field, f.Legible →
      Legible { r with fields := r.fields.put f.name f.slot f.declared } :=
    fun f hf => ⟨h.id, h.dropped, fun g hg =>
      (FieldStore.mem_place hg).elim (fun heq => heq ▸ hf) (h.fields g)⟩
  by_cases herrors : name = errorsField
  · rw [herrors, readMember_errors] at hread
    cases ht : errorTexts j with
    | nil =>
        rw [ht] at hread
        cases hread
        exact h
    | cons text texts =>
        rw [ht, foldl_logError_eq text texts htidy] at hread
        cases hread
        cases he : r.errors with
        | nil => exact hput _ (Field.legible_errorList text texts)
        | cons e es =>
            exact hput _ (Field.legible_errorList e (es ++ text :: texts))
  · by_cases hj : ∃ items, j = .array items
    · obtain ⟨items, rfl⟩ := hj
      rw [readMember_array herrors] at hread
      obtain ⟨answer, hanswer, rfl⟩ := map_eq_ok.mp hread
      rw [FieldStore.putMany,
        FieldStore.commonType_congr (t := FieldStore.empty) htidy.supported]
          at hanswer ⊢
      cases hcommon : FieldStore.empty.commonType name none
        (items.map Value.ofJson) with
      | error e =>
          rw [hcommon] at hanswer
          cases hanswer
      | ok declared => exact hput _ (Field.legible_multi hcommon)
    · rw [readMember_single herrors r (not_exists.mp hj),
        FieldStore.putOne_of_all htidy.supported] at hread
      cases hread
      exact hput _ (Field.legible_single name j)

/-- Every record of a tree that is read is legible. -/
theorem ofJson_legible {j : Json} {r : Record} (h : ofJson j = .ok r) :
    ∀ x ∈ r.tree, Tidy x ∧ Legible x := by
  refine ofJsonWith_rule (P := fun r => ∀ x ∈ r.tree,
    Tidy x ∧ Legible x) ?_ ?_ ?_ ?_ h
  · intro id hid
    rw [forall_tree]
    exact
      ⟨⟨.new _, hid, rfl, fun f hf => by cases hf⟩, fun c hc => by cases hc⟩
  · intro r runId hr
    rw [forall_tree] at hr ⊢
    obtain ⟨⟨htidy, hid, hdropped, hfields⟩, hbelow⟩ := hr
    exact ⟨⟨htidy.congr rfl, hid, hdropped, hfields⟩, hbelow⟩
  · intro r children hr hc
    rw [forall_tree] at hr ⊢
    obtain ⟨⟨htidy, hid, hdropped, hfields⟩, hbelow⟩ := hr
    refine ⟨⟨htidy.congr rfl, hid, hdropped, hfields⟩, fun c hmem => ?_⟩
    exact (List.mem_append.mp hmem).elim (hbelow c) (hc c)
  · intro r name j r' hname hr hread
    rw [forall_tree] at hr ⊢
    obtain ⟨⟨htidy, hlegible⟩, hbelow⟩ := hr
    obtain ⟨htidy', hchildren⟩ := readMember_tidy hname htidy hread
    rw [hchildren]
    exact ⟨⟨htidy', readMember_legible htidy hlegible hread⟩, hbelow⟩

/-- A record that was read is read back from its document as it was, if and
only if no single value of its tree is a document without parts. -/
theorem ofJson_toJson_iff {j : Json} {r : Record} (h : ofJson j = .ok r) :
    ofJson r.toJson = .ok r
      ↔ ∀ x ∈ r.tree, ∀ f ∈ x.fields.fields, ∀ d,
          f.slot = .single (some (.json d)) → d.isComposite = true := by
  have hread := ofJson_legible h
  rw [ofJson, ofJsonWith_toJson fun x hx =>
    ⟨(hread x hx).1, (hread x hx).2.id⟩,
    reread_eq_self fun x hx =>
      ⟨(hread x hx).1.supported, (hread x hx).2.dropped⟩]
  exact forall₂_congr fun x hx => forall₂_congr fun f hf =>
    ((hread x hx).2.fields f hf).reread_iff

-- ====================================================== wrapped documents

/-- A document with a wrapped document in it, and the record it is read as. -/
def wrapped (d : Json) : Json :=
  .object [(idField, .text "sheet"), ("cell", .object [(wrapperKey, d)])]

/-- The record that such a document is read as, for any value of its cell. -/
def sheet (v : Value) : Record :=
  { new "sheet" with
    fields :=
      FieldStore.empty.extend [⟨"cell", .single (some v), some v.type⟩] }

/-- The wrapper comes off when the document is read. -/
theorem ofJson_wrapped (d : Json) :
    ofJson (wrapped d) = .ok (sheet (.json d)) := by
  refine ofJsonWith_object.mpr ⟨"sheet", rfl, ?_⟩
  have hname : ¬IsFrame "cell" := by
    unfold IsFrame
    decide
  rw [readMembers_id, readMembers_field _ _ _ hname,
    readMember_single (by decide) _ (fun items h => by cases h),
    singleOfJson_wrapped, FieldStore.putOne_of_all rfl,
    FieldStore.put_of_not_mem List.not_mem_nil]
  rfl

/-- Rereading tells what becomes of the sheet. -/
theorem ofJson_toJson_sheet (d : Json) :
    ofJson (sheet (.json d)).toJson
      = (sheet (.json d)).reread fun id => id := by
  have hread := ofJson_legible (ofJson_wrapped d)
  exact ofJsonWith_toJson fun x hx => ⟨(hread x hx).1, (hread x hx).2.id⟩

/-- A wrapped number is read as a document, and after it was written and read
again it is a number. -/
theorem ofJson_wrapped_long :
    ofJson (wrapped (Json.ofLong 5)) = .ok (sheet (.json (Json.ofLong 5)))
      ∧ ofJson (sheet (.json (Json.ofLong 5))).toJson
          = .ok (sheet (.long 5)) :=
  ⟨ofJson_wrapped _, ofJson_toJson_sheet _⟩

/-- Not every record that was read is read back as it was. -/
theorem not_ofJson_toJson :
    ¬∀ (j : Json) (r : Record), ofJson j = .ok r
      → ofJson r.toJson = .ok r := by
  intro h
  have hsame := ofJson_wrapped_long.2.symm.trans (h _ _ ofJson_wrapped_long.1)
  have htypes :=
    congrArg (fun r => r.fields.fields.map Field.declared)
      (Except.ok.inj hsame)
  exact absurd htypes (by decide)

/-- An empty array has parts, so the sheet with it is read back. -/
theorem ofJson_toJson_iff_wrapped :
    ofJson (wrapped (.array [])) = .ok (sheet (.json (.array [])))
      ∧ (ofJson (sheet (.json (.array []))).toJson
          = .ok (sheet (.json (.array [])))
        ↔ ∀ x ∈ (sheet (.json (.array []))).tree, ∀ f ∈ x.fields.fields, ∀ d,
            f.slot = .single (some (.json d)) → d.isComposite = true) :=
  ⟨ofJson_wrapped _, ofJson_toJson_iff (ofJson_wrapped _)⟩

end Record

end Intake
