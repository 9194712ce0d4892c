/-
Which documents are read as records, and what relabelling does to them.

`Accepted` says what a document has to look like, member by member and in
whatever order the members stand: a non-empty id, a run that is a text or null,
children that are accepted themselves, and arrays whose items are of one kind
wherever values of a field are expected. These are exactly the documents that
are read (`ofJson_accepts`). Reading under other ids is reading and then giving
every record of the tree its other id, whatever the outcome.

Both are inductions over the document along the recursion of the reader. Of the
record in hand the first needs no more than that it is tidy: whether a member
is refused has nothing to do with what was read before it.
-/
import Intake.Proofs.Field.Adding
import Intake.Proofs.Record.Reach

namespace Intake

namespace Json

-- ====================================================== parts

/-- Induction over a document along its items and its members, as a reader goes
through them: a property of documents, one of the items that are left and one
of the members that are left. -/
theorem parts_rule {P : Json → Prop} {I : List Json → Prop}
    {M : List (String × Json) → Prop}
    (simple : ∀ {j}, (∀ members, j ≠ .object members)
      → (∀ items, j ≠ .array items) → P j)
    (array : ∀ items, I items → P (.array items))
    (object : ∀ members, M members → P (.object members))
    (noItem : I []) (item : ∀ j rest, P j → I rest → I (j :: rest))
    (noMember : M [])
    (member : ∀ name j rest, P j → M rest → M ((name, j) :: rest))
    (j : Json) : P j :=
  Json.rec (motive_1 := P) (motive_2 := I) (motive_3 := M)
    (motive_4 := fun m => P m.2)
    (simple nofun nofun) (fun _ => simple nofun nofun)
      (fun _ => simple nofun nofun)
    (fun _ => simple nofun nofun) array object noItem item noMember
    (fun m => member m.1 m.2) (fun _ _ h => h) j

-- ====================================================== kinds

/-- What the items of an array have to agree on. A number is an integer if it
was written as one and fits into 64 bits with a sign. -/
inductive Kind where
  | text | truth | integer | number | document
deriving DecidableEq, Repr

/-- The kind of a document that is not null. -/
def kind? : Json → Option Kind
  | .null => none
  | .bool _ => some .truth
  | .text _ => some .text
  | .number (.int i _) =>
      some (if i < 9223372036854775808 then .integer else .number)
  | .number (.float _ _) => some .number
  | .array _ => some .document
  | .object _ => some .document

/-- All items but nulls are of one kind. -/
def Uniform (items : List Json) : Prop :=
  ∃ k, ∀ j ∈ items, j = .null ∨ j.kind? = some k

/-- The type of the values that documents of a kind stand for. -/
def Kind.type : Kind → ValueType
  | .text => .text
  | .truth => .bool
  | .integer => .long
  | .number => .float
  | .document => .json

/-- Kinds are told apart by the types of their values. -/
theorem Kind.type_inj {k l : Kind} (h : k.type = l.type) : k = l := by
  cases k <;> cases l <;> first | rfl | cases h

/-- The value of a document has the type of the kind of the document. -/
theorem map_type_ofJson (j : Json) :
    (Value.ofJson j).map Value.type = j.kind?.map Kind.type := by
  cases j with
  | number n =>
      cases n with
      | int i fits =>
          rw [Value.ofJson, kind?, Number.long?]
          by_cases hi : i < 9223372036854775808
          · rw [if_pos hi, if_pos hi]; rfl
          · rw [if_neg hi, if_neg hi]; rfl
      | float x finite => rfl
  | null | bool | text | array | object => rfl

/-- A document without a kind is null. -/
theorem kind?_eq_none {j : Json} (h : j.kind? = none) : j = .null := by
  cases j with
  | null => rfl
  | number n => cases n <;> cases h
  | bool | text | array | object => cases h

/-- Items are of one kind if and only if what they stand for is of one type. -/
theorem uniform_iff {items : List Json} :
    Uniform items
      ↔ ∃ declared, FieldStore.TypeOf (items.map Value.ofJson) declared := by
  have hvalue {j : Json} {v : Value} (h : Value.ofJson j = some v) :
      ∃ k, j.kind? = some k ∧ k.type = v.type := by
    have htype := map_type_ofJson j
    rw [h] at htype
    exact Option.map_eq_some_iff.mp htype.symm
  constructor
  · rintro ⟨k, hk⟩
    have htypes : ∀ v, some v ∈ items.map Value.ofJson → v.type = k.type := by
      intro v hv
      obtain ⟨j, hj, hofJson⟩ := List.mem_map.mp hv
      obtain ⟨l, hl, htype⟩ := hvalue hofJson
      rcases hk j hj with rfl | hkind
      · cases hl
      · rw [← htype, Option.some.inj (hl.symm.trans hkind)]
    by_cases hsome : ∃ v, some v ∈ items.map Value.ofJson
    · obtain ⟨v, hv⟩ := hsome
      exact ⟨some k.type, fun w hw => congrArg some (htypes w hw).symm,
        fun hnone => absurd hv (hnone v)⟩
    · exact ⟨none, fun v hv => absurd ⟨v, hv⟩ hsome, fun _ => rfl⟩
  · rintro ⟨declared, hdeclared, -⟩
    -- the kind of the first item that has one, if any has
    by_cases hsome : ∃ j ∈ items, j.kind? ≠ none
    · obtain ⟨j, hj, hkind⟩ := hsome
      obtain ⟨k, hk⟩ := Option.ne_none_iff_exists'.mp hkind
      have hof : ∀ i ∈ items, ∀ l, i.kind? = some l
          → declared = some l.type := by
        intro i hi l hl
        have htype := map_type_ofJson i
        rw [hl] at htype
        obtain ⟨v, hv, hvtype⟩ := Option.map_eq_some_iff.mp htype
        rw [hdeclared v (List.mem_map.mpr ⟨i, hi, hv⟩), hvtype]
      refine ⟨k, fun i hi => ?_⟩
      cases hl : i.kind? with
      | none => exact .inl (kind?_eq_none hl)
      | some l =>
          have htype :=
            Option.some.inj ((hof i hi l hl).symm.trans (hof j hj k hk))
          exact .inr (congrArg some (Kind.type_inj htype))
    · exact ⟨.text,
        fun j hj =>
          .inl (kind?_eq_none (not_not.mp fun h => hsome ⟨j, hj, h⟩))⟩

end Json

namespace Record

-- ====================================================== accepted documents

/-- The documents of records: objects with an id that is not empty, in a run
that is a text or null if it is there at all, with children that are accepted
themselves if they are there at all. What else stands there is a field, except
for the list of errors, and an array there has items of one kind. -/
inductive Accepted : Json → Prop
  | object {members : List (String × Json)}
      (id : ∃ s, Json.lookup idField members = some (.text s) ∧ s ≠ "")
      (run : ∀ j, (runIdField, j) ∈ members → j = .null ∨ ∃ s, j = .text s)
      (array : ∀ j, (childrenField, j) ∈ members → ∃ documents,
        j = .array documents)
      (children : ∀ documents, (childrenField, .array documents) ∈ members →
        ∀ c ∈ documents, Accepted c)
      (fields : ∀ name items, ¬Reserved name → (name, .array items) ∈ members →
        Json.Uniform items) :
      Accepted (.object members)

/-- What is asked of a member by itself. -/
structure AcceptedMember (name : String) (j : Json) : Prop where
  run : name = runIdField → j = .null ∨ ∃ s, j = .text s
  children : name = childrenField → ∃ documents, j = .array documents
    ∧ ∀ c ∈ documents, Accepted c
  field : ¬Reserved name → ∀ items, j = .array items → Json.Uniform items

/-- An object is accepted for its id and for each of its members. -/
theorem accepted_object {members : List (String × Json)} :
    Accepted (.object members)
      ↔ (∃ s, Json.lookup idField members = some (.text s) ∧ s ≠ "")
        ∧ ∀ m ∈ members, AcceptedMember m.1 m.2 := by
  constructor
  · rintro ⟨hid, hrun, harray, hchildren, hfields⟩
    refine ⟨hid, ?_⟩
    rintro ⟨name, j⟩ hm
    refine ⟨?_, ?_, ?_⟩
    · rintro rfl
      exact hrun j hm
    · rintro rfl
      obtain ⟨documents, rfl⟩ := harray j hm
      exact ⟨documents, rfl, hchildren documents hm⟩
    · rintro hname items rfl
      exact hfields name items hname hm
  · rintro ⟨hid, h⟩
    refine .object hid (fun j hm => (h _ hm).run rfl) (fun j hm => ?_)
      (fun documents hm => ?_)
      fun name items hname hm => (h _ hm).field hname items rfl
    · obtain ⟨documents, hj, -⟩ := (h _ hm).children rfl
      exact ⟨documents, hj⟩
    · obtain ⟨documents', hj, hc⟩ := (h _ hm).children rfl
      cases hj
      exact hc

/-- Only objects are accepted. -/
theorem accepted_isObject {j : Json} (h : Accepted j) :
    ∃ members, j = .object members := by
  cases h with
  | object => exact ⟨_, rfl⟩

/-- An error is no answer. -/
theorem not_exists_error_eq_ok {ε α : Type} (e : ε) :
    ¬∃ a : α, Except.error e = .ok a := by
  rintro ⟨a, h⟩
  cases h

/-- Members have an id if what is found under its key is a text that is not
empty. -/
theorem idOfMembers_isOk {members : List (String × Json)} :
    (∃ id, idOfMembers members = .ok id)
      ↔ ∃ s, Json.lookup idField members = some (.text s) ∧ s ≠ "" := by
  rw [idOfMembers]
  split
  · next id hid =>
      rw [hid]
      by_cases hempty : id = ""
      · simp [hempty]
      · simp [hempty]
  · next hno =>
      refine iff_of_false (not_exists_error_eq_ok _) ?_
      rintro ⟨s, hs, -⟩
      exact hno s hs

-- ====================================================== what is read

/-- Values of a field are refused just when they are of several kinds. -/
theorem readMember_isOk {r : Record} (h : Tidy r) {name : String}
    (hname : ¬IsFrame name) (j : Json) :
    (∃ r', readMember r name j = .ok r')
      ↔ (¬Reserved name → ∀ items, j = .array items → Json.Uniform items) := by
  by_cases herrors : name = errorsField
  · subst herrors
    rw [readMember_errors]
    exact iff_of_true ⟨_, rfl⟩ fun hfree => absurd (by decide) hfree
  · have hfree := not_reserved hname herrors
    by_cases hj : ∃ items, j = .array items
    · obtain ⟨items, rfl⟩ := hj
      have hread : (∃ r', readMember r name (.array items) = .ok r')
          ↔ ∃ declared, r.fields.commonType name none (items.map Value.ofJson)
              = .ok declared := by
        rw [readMember_array herrors, FieldStore.putMany]
        cases r.fields.commonType name none (items.map Value.ofJson) with
        | error e =>
            exact iff_of_false (not_exists_error_eq_ok e)
              (not_exists_error_eq_ok e)
        | ok declared => exact iff_of_true ⟨_, rfl⟩ ⟨_, rfl⟩
      have haccepts : r.fields.Accepts (items.map Value.ofJson) :=
        fun v _ => FieldStore.supports_of_all h.supported v.type
      simp only [hread, FieldStore.commonType_none, and_iff_left haccepts,
        ← Json.uniform_iff, Json.array.injEq, forall_eq', hfree,
        not_false_eq_true, forall_true_left]
    · rw [readMember_single herrors r (not_exists.mp hj),
        FieldStore.putOne_of_all h.supported]
      exact iff_of_true ⟨_, rfl⟩ fun _ items hitems =>
        absurd ⟨items, hitems⟩ hj

section reading

variable (relabel : String → String)

/-- A document is read as a record when it is accepted, and the documents of an
array are read as children when all are. -/
structure Decided (j : Json) : Prop where
  record : (∃ r, ofJsonWith relabel j = .ok r) ↔ Accepted j
  children : ∀ documents, j = .array documents →
    ((∃ rs, readChildren relabel documents = .ok rs)
      ↔ ∀ c ∈ documents, Accepted c)

/-- A document without parts is no record. -/
theorem Decided.of_simple {j : Json} (hobject : ∀ members, j ≠ .object members)
    (harray : ∀ documents, j ≠ .array documents) : Decided relabel j := by
  refine ⟨iff_of_false ?_ ?_, fun documents hj => absurd hj (harray documents)⟩
  · rintro ⟨r, hr⟩
    obtain ⟨members, hj⟩ := ofJsonWith_eq_ok hr
    exact hobject members hj
  · intro h
    obtain ⟨members, hj⟩ := accepted_isObject h
    exact hobject members hj

/-- One more member is read when it is accepted and the rest is read. -/
theorem readMembers_isOk_cons {r : Record} (h : Tidy r) {name : String}
    {j : Json}
    {rest : List (String × Json)} (hj : Decided relabel j)
    (hrest : ∀ r, Tidy r → ((∃ r', readMembers relabel r rest = .ok r')
      ↔ ∀ m ∈ rest, AcceptedMember m.1 m.2)) :
    (∃ r', readMembers relabel r ((name, j) :: rest) = .ok r')
      ↔ AcceptedMember name j ∧ ∀ m ∈ rest, AcceptedMember m.1 m.2 := by
  by_cases hframe : IsFrame name
  · rcases hframe with rfl | rfl | rfl
    · have hid : AcceptedMember idField j :=
        ⟨fun h => absurd h (by decide), fun h => absurd h (by decide),
          fun h => absurd (by decide) h⟩
      rw [readMembers_id, hrest r h, and_iff_right hid]
    · have hrun : AcceptedMember runIdField j ↔ j = .null ∨ ∃ s, j = .text s :=
        ⟨fun h => h.run rfl,
          fun h => ⟨fun _ => h, fun h => absurd h (by decide),
          fun h => absurd (by decide) h⟩⟩
      rw [hrun]
      by_cases htext : ∃ s, j = .text s
      · obtain ⟨s, rfl⟩ := htext
        rw [readMembers_run, hrest { r with runId := some s } (h.congr rfl),
          and_iff_right (.inr ⟨s, rfl⟩)]
      · by_cases hnull : j = .null
        · rw [hnull, readMembers_null, hrest r h, and_iff_right (.inl rfl)]
        · rw [readMembers_run_error _ _ _ (fun s hs => htext ⟨s, hs⟩) hnull]
          exact iff_of_false (not_exists_error_eq_ok _) fun hand =>
            hand.1.elim hnull htext
    · have hchildren : AcceptedMember childrenField j
          ↔ ∃ documents, j = .array documents ∧ ∀ c ∈ documents, Accepted c :=
        ⟨fun h => h.children rfl,
          fun h => ⟨fun h => absurd h (by decide), fun _ => h,
          fun h => absurd (by decide) h⟩⟩
      rw [hchildren]
      by_cases harray : ∃ documents, j = .array documents
      · obtain ⟨documents, rfl⟩ := harray
        have hdocuments := hj.children documents rfl
        rw [readMembers_children]
        have hrest' (rs : List Record) :=
          hrest { r with children := r.children ++ rs } (h.congr rfl)
        constructor
        · rintro ⟨r', hr'⟩
          obtain ⟨rs, hrs, hr'⟩ := bind_eq_ok.mp hr'
          exact ⟨⟨documents, rfl, hdocuments.mp ⟨rs, hrs⟩⟩,
            (hrest' rs).mp ⟨r', hr'⟩⟩
        · rintro ⟨⟨_, heq, haccepted⟩, hmembers⟩
          cases heq
          obtain ⟨rs, hrs⟩ := hdocuments.mpr haccepted
          obtain ⟨r', hr'⟩ := (hrest' rs).mpr hmembers
          exact ⟨r', bind_eq_ok.mpr ⟨rs, hrs, hr'⟩⟩
      · rw [readMembers_children_error _ _ _ fun documents hd =>
          harray ⟨documents, hd⟩]
        refine iff_of_false (not_exists_error_eq_ok _) ?_
        rintro ⟨⟨documents, hd, -⟩, -⟩
        exact harray ⟨documents, hd⟩
  · have hfield : AcceptedMember name j
        ↔ ∃ r', readMember r name j = .ok r' := by
      rw [readMember_isOk h hframe]
      exact ⟨fun h => h.field,
        fun h => ⟨fun hname => absurd (.inr (.inl hname)) hframe,
        fun hname => absurd (.inr (.inr hname)) hframe, h⟩⟩
    rw [readMembers_field _ _ _ hframe, hfield]
    constructor
    · rintro ⟨r', hr'⟩
      obtain ⟨next, hnext, hr'⟩ := bind_eq_ok.mp hr'
      exact ⟨⟨next, hnext⟩,
        (hrest next (readMember_tidy hframe h hnext).1).mp ⟨r', hr'⟩⟩
    · rintro ⟨⟨next, hnext⟩, hmembers⟩
      obtain ⟨r', hr'⟩ :=
        (hrest next (readMember_tidy hframe h hnext).1).mpr hmembers
      exact ⟨r', bind_eq_ok.mpr ⟨next, hnext, hr'⟩⟩

/-- The documents that are read are the accepted ones, whatever is done to
ids. -/
theorem decided (j : Json) : Decided relabel j := by
  refine Json.parts_rule
    (I := fun js => (∃ rs, readChildren relabel js = .ok rs)
      ↔ ∀ c ∈ js, Accepted c)
    (M := fun members => ∀ r, Tidy r →
      ((∃ r', readMembers relabel r members = .ok r')
        ↔ ∀ m ∈ members, AcceptedMember m.1 m.2))
    (.of_simple relabel) ?array ?object ?none ?child ?done ?member j
  case array =>
    intro documents ih
    refine
      ⟨iff_of_false ?_ (fun h => by cases h), fun _ h => by cases h; exact ih⟩
    rintro ⟨r, hr⟩
    cases hr
  case object =>
    intro members ih
    refine ⟨?_, fun _ h => by cases h⟩
    rw [accepted_object, ← idOfMembers_isOk]
    constructor
    · rintro ⟨r, hr⟩
      obtain ⟨id, hid, hr⟩ := ofJsonWith_object.mp hr
      exact ⟨⟨id, hid⟩, (ih _ (.new _)).mp ⟨r, hr⟩⟩
    · rintro ⟨⟨id, hid⟩, hmembers⟩
      obtain ⟨r, hr⟩ := (ih _ (.new (relabel id))).mpr hmembers
      exact ⟨r, ofJsonWith_object.mpr ⟨id, hid, hr⟩⟩
  case none =>
    exact iff_of_true ⟨[], by rw [readChildren]⟩
      fun _ h => absurd h List.not_mem_nil
  case child =>
    intro j rest ihj ihrest
    rw [List.forall_mem_cons, ← ihj.record, ← ihrest]
    constructor
    · rintro ⟨rs, hrs⟩
      obtain ⟨c, cs, hc, hcs, rfl⟩ := readChildren_cons.mp hrs
      exact ⟨⟨c, hc⟩, ⟨cs, hcs⟩⟩
    · rintro ⟨⟨c, hc⟩, ⟨cs, hcs⟩⟩
      exact ⟨c :: cs, readChildren_cons.mpr ⟨c, cs, hc, hcs, rfl⟩⟩
  case done =>
    intro r _
    exact iff_of_true ⟨r, by rw [readMembers]⟩ fun _ h =>
      absurd h List.not_mem_nil
  case member =>
    intro name j rest ihj ih r hr
    rw [List.forall_mem_cons]
    exact readMembers_isOk_cons relabel hr ihj ih

end reading

-- ====================================================== other ids

mutual

/-- A record with another id in place of every id of its tree. -/
def relabelled (relabel : String → String) : Record → Record
  | ⟨id, runId, fields, children, dropped⟩ =>
    ⟨relabel id, runId, fields, relabelledAll relabel children, dropped⟩

/-- The relabelled records of a list, each at its place. -/
def relabelledAll (relabel : String → String) : List Record → List Record
  | [] => []
  | r :: rs => relabelled relabel r :: relabelledAll relabel rs

end

section relabelling

variable (relabel : String → String)

theorem relabelledAll_append (rs ss : List Record) :
    relabelledAll relabel (rs ++ ss)
      = relabelledAll relabel rs ++ relabelledAll relabel ss := by
  induction rs with
  | nil => rfl
  | cons r rs ih =>
      rw [List.cons_append, relabelledAll, ih, relabelledAll, List.cons_append]

/-- A relabelled record has another id and relabelled children, and is the same
otherwise. -/
theorem relabelled_eq (r : Record) :
    r.relabelled relabel
      = { r with
          id := relabel r.id
          children := relabelledAll relabel r.children } := by
  obtain ⟨id, runId, fields, children, dropped⟩ := r
  rw [relabelled]

/-- Logging errors has nothing to do with ids. -/
theorem foldl_logError_relabelled (ds : List String) :
    ∀ r : Record, ds.foldl logError (r.relabelled relabel)
      = (ds.foldl logError r).relabelled relabel := by
  induction ds with
  | nil => exact fun _ => rfl
  | cons d ds ih =>
      intro r
      have hone : (r.relabelled relabel).logError d
          = (r.logError d).relabelled relabel := by
        rw [relabelled_eq, relabelled_eq]
        rfl
      rw [List.foldl_cons, List.foldl_cons, hone, ih]

/-- Fields are read without a look at ids and children. -/
theorem readMember_relabelled (r : Record) (name : String) (j : Json) :
    readMember (r.relabelled relabel) name j
      = (readMember r name j).map (relabelled relabel) := by
  by_cases herrors : name = errorsField
  · rw [herrors, readMember_errors, readMember_errors,
      foldl_logError_relabelled]
    rfl
  · have hmap {e : Except FieldError Unit} {fields : FieldStore} :
        (e.map fun _ => { r.relabelled relabel with fields })
          = (e.map fun _ => { r with fields }).map (relabelled relabel) := by
      cases e with
      | error e => rfl
      | ok => exact congrArg Except.ok (by rw [relabelled_eq, relabelled_eq])
    have hfields : (r.relabelled relabel).fields = r.fields := by
      rw [relabelled_eq]
    by_cases hj : ∃ items, j = .array items
    · obtain ⟨items, rfl⟩ := hj
      rw [readMember_array herrors, readMember_array herrors, hfields, hmap]
    · rw [readMember_single herrors _ (not_exists.mp hj),
        readMember_single herrors _ (not_exists.mp hj), hfields, hmap]

/-- Reading under other ids is reading first and relabelling then: for one
document, and for the documents of an array. -/
structure Relabels (j : Json) : Prop where
  record : ofJsonWith relabel j = (ofJson j).map (relabelled relabel)
  children : ∀ documents, j = .array documents →
    readChildren relabel documents
      = (readChildren (fun id => id) documents).map (relabelledAll relabel)

/-- A document without parts is refused either way. -/
theorem Relabels.of_simple {j : Json}
    (hobject : ∀ members, j ≠ .object members)
    (harray : ∀ documents, j ≠ .array documents) : Relabels relabel j := by
  refine ⟨?_, fun documents hj => absurd hj (harray documents)⟩
  cases j with
  | object members => exact absurd rfl (hobject members)
  | null | bool | number | text | array => rfl

/-- One more member is read first and the record relabelled then. -/
theorem readMembers_relabelled_cons (r : Record) {name : String} {j : Json}
    {rest : List (String × Json)} (hj : Relabels relabel j)
    (hrest : ∀ r, readMembers relabel (r.relabelled relabel) rest
      = (readMembers (fun id => id) r rest).map (relabelled relabel)) :
    readMembers relabel (r.relabelled relabel) ((name, j) :: rest)
      = (readMembers (fun id => id) r ((name, j) :: rest)).map
          (relabelled relabel) := by
  by_cases hframe : IsFrame name
  · rcases hframe with rfl | rfl | rfl
    · rw [readMembers_id, readMembers_id, hrest]
    · by_cases htext : ∃ s, j = .text s
      · obtain ⟨s, rfl⟩ := htext
        have hrun : { r.relabelled relabel with runId := some s }
            = ({ r with runId := some s } : Record).relabelled relabel := by
          rw [relabelled_eq, relabelled_eq]
        rw [readMembers_run, readMembers_run, hrun, hrest]
      · by_cases hnull : j = .null
        · rw [hnull, readMembers_null, readMembers_null, hrest]
        · rw [readMembers_run_error _ _ _ (fun s hs => htext ⟨s, hs⟩) hnull,
            readMembers_run_error _ _ _ (fun s hs => htext ⟨s, hs⟩) hnull]
          rfl
    · by_cases harray : ∃ documents, j = .array documents
      · obtain ⟨documents, rfl⟩ := harray
        have hchildren (rs : List Record) :
            { r.relabelled relabel with
                children := (r.relabelled relabel).children
                  ++ relabelledAll relabel rs }
              = ({ r with children := r.children ++ rs } : Record).relabelled
                  relabel := by
          rw [relabelled_eq, relabelled_eq, relabelledAll_append]
        rw [readMembers_children, readMembers_children,
          hj.children documents rfl]
        cases readChildren (fun id => id) documents with
        | error e => rfl
        | ok rs =>
            exact (congrArg (readMembers relabel · rest) (hchildren rs)).trans
              (hrest _)
      · rw [readMembers_children_error _ _ _ fun documents hd =>
          harray ⟨documents, hd⟩,
          readMembers_children_error _ _ _ fun documents hd =>
            harray ⟨documents, hd⟩]
        rfl
  · rw [readMembers_field _ _ _ hframe, readMembers_field _ _ _ hframe,
      readMember_relabelled]
    cases readMember r name j with
    | error e => rfl
    | ok next => exact hrest next

/-- Every document is read under other ids as it is read and relabelled. -/
theorem relabels (j : Json) : Relabels relabel j := by
  refine Json.parts_rule
    (I := fun js => readChildren relabel js
      = (readChildren (fun id => id) js).map (relabelledAll relabel))
    (M := fun members => ∀ r,
      readMembers relabel (r.relabelled relabel) members
      = (readMembers (fun id => id) r members).map (relabelled relabel))
    (.of_simple relabel) ?array ?object ?none ?child ?done ?member j
  case array =>
    exact fun documents ih => ⟨rfl, fun _ h => by cases h; exact ih⟩
  case object =>
    intro members ih
    refine ⟨?_, fun _ h => by cases h⟩
    rw [ofJson, ofJsonWith, ofJsonWith]
    cases idOfMembers members with
    | error e => rfl
    | ok id => exact ih (new id)
  case none => rw [readChildren, readChildren]; rfl
  case child =>
    intro j rest ihj ihrest
    rw [readChildren, readChildren, ihj.record, ihrest, ofJson]
    cases ofJsonWith (fun id => id) j with
    | error e => rfl
    | ok c =>
        cases readChildren (fun id => id) rest with
        | error e => rfl
        | ok cs => rfl
  case done =>
    intro r
    rw [readMembers, readMembers]
    rfl
  case member =>
    exact fun name j rest ihj ih r =>
      readMembers_relabelled_cons relabel r ihj ih

end relabelling

/-- The documents that are read as records are the accepted ones, and reading
under other ids is reading and then giving every record of the tree its other
id. -/
theorem ofJson_accepts (j : Json) :
    ((∃ r, ofJson j = .ok r) ↔ Accepted j)
      ∧ ∀ relabel, ofJsonWith relabel j
          = (ofJson j).map (relabelled relabel) :=
  ⟨(decided _ j).record, fun relabel => (relabels relabel j).record⟩

end Record

end Intake
