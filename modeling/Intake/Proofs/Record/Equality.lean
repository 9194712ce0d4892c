/-
Equality of records, and how far their digests follow it.

Equal records agree on everything but the order of their fields and of the
members of their documents, and are of one shape, so the comparison goes
through a tree as it goes through a document. What is said of values, of stores
and of records is collected in `digest_follows_same`: the digests of equal
things agree if and only if the zeros in their documents have the same signs.
That the condition is needed is shown by the two zeros themselves
(`not_digest_of_same`).
-/
import Intake.Proofs.Field.Equality
import Intake.Proofs.Record.Tree

namespace Intake

open Json (Parallel)

namespace Record

variable {r q : Record}

/-- The stores of a record and of everything below it are proper. -/
def Proper (r : Record) : Prop := ∀ x ∈ r.tree, x.fields.Proper

/-- The signs of the zeros in a record and in everything below it. -/
def signs (r : Record) : List Bool := r.tree.flatMap fun x => x.fields.signs

/-- The records below are those of each tree, one tree behind the other. -/
theorem forest_eq (rs : List Record) : forest rs = rs.flatMap tree := by
  induction rs with
  | nil => rfl
  | cons r rs ih => rw [forest, ih, List.flatMap_cons]

/-- The signs of a record are those of its fields and of its children. -/
theorem signs_eq (r : Record) :
    r.signs = r.fields.signs ++ r.children.flatMap signs := by
  rw [signs, tree_eq, descendants, forest_eq, List.flatMap_cons,
    List.flatMap_assoc]
  rfl

/-- The digest of children is that of each, one behind the other. -/
theorem digestChildren_eq (rs : List Record) :
    digestChildren rs = rs.flatMap digest := by
  induction rs with
  | nil => rfl
  | cons r rs ih => rw [digestChildren, ih, List.flatMap_cons]

/-- What is digested of the run of a record. -/
def digestRun : Option String → List Json.Mark
  | none => [.tag 0]
  | some run => [.tag 1, .word run]

/-- The digest of a record is that of its parts, one behind the other. -/
theorem digest_eq (r : Record) :
    r.digest = (.word r.id :: digestRun r.runId) ++ r.fields.digest
      ++ (.count r.children.length :: r.children.flatMap digest)
      ++ [.truth r.dropped] := by
  obtain ⟨id, run, fields, children, dropped⟩ := r
  cases run <;> simp [digest, digestRun, digestChildren_eq]

/-- Children are equal if they correspond in order. -/
theorem sameChildren_iff {rs qs : List Record} :
    sameChildren rs qs = true
      ↔ List.Forall₂ (fun r q => (r == q) = true) rs qs :=
  Json.forall₂_iff_of_cons rfl (fun _ _ => rfl) (fun _ _ => rfl) fun _ _ _ _ =>
    rfl

/-- Two records are equal if their parts are. -/
theorem same_iff : (r == q) = true ↔
    r.id = q.id ∧ r.runId = q.runId ∧ (r.fields == q.fields) = true
      ∧ List.Forall₂ (fun c d => (c == d) = true) r.children q.children
      ∧ r.dropped = q.dropped := by
  obtain ⟨id, run, fields, children, dropped⟩ := r
  change same _ _ = true ↔ _
  rw [same, Bool.and_eq_true, Bool.and_eq_true, Bool.and_eq_true,
    Bool.and_eq_true, sameChildren_iff]
  simp only [beq_iff_eq, and_assoc]

/-- Equal records have equal digests just when the zeros in them have the same
signs. -/
theorem Proper.parallel :
    ∀ {q : Record}, r.Proper → (r == q) = true
      → Parallel r.digest q.digest r.signs q.signs := by
  induction r using tree_induction with
  | step r ih =>
      intro q hr h
      obtain ⟨hid, hrun, hfields, hchildren, hdropped⟩ := same_iff.mp h
      obtain ⟨hown, hbelow⟩ := forall_tree.mp hr
      have hforest := Parallel.flatMap hchildren fun c hc d hcd =>
        ih c hc (hbelow c hc) hcd
      rw [digest_eq, digest_eq, signs_eq, signs_eq, hid, hrun, hdropped,
        hchildren.length_eq]
      have hbody :=
        ((hown.parallel hfields).prefixed
          (.word q.id :: digestRun q.runId)).append
        (hforest.prefixed [.count q.children.length])
      simpa using hbody.append (.refl [.truth q.dropped] [])

/-- Equality of values is reflexive, symmetric and transitive, and equal
values, stores and records have equal digests if and only if the zeros in their
documents have the same signs. -/
theorem digest_follows_same {v : Value} {s : FieldStore} {r : Record}
    (hv : v.Proper) (hs : s.Proper) (hr : r.Proper) :
    ((v == v) = true
      ∧ (∀ w, (v == w) = true → (w == v) = true)
      ∧ ∀ w x, (v == w) = true → (w == x) = true → (v == x) = true)
      ∧ (∀ w, (v == w) = true → (v.digest = w.digest ↔ v.signs = w.signs))
      ∧ (∀ t, (s == t) = true → (s.digest = t.digest ↔ s.signs = t.signs))
      ∧ ∀ q, (r == q) = true → (r.digest = q.digest ↔ r.signs = q.signs) := by
  refine ⟨⟨hv.same_refl, ?_, ?_⟩, ?_, ?_, ?_⟩
  · exact fun w => hv.same_symm
  · exact fun w x => hv.same_trans
  · exact fun w h => (hv.parallel h).iff
  · exact fun t h => (hs.parallel h).iff
  · exact fun q h => (hr.parallel h).iff

-- ====================================================== two orders, two zeros

/-- The zero without a sign, as a document. -/
def zero : Json := .number (.float ⟨0⟩ (by decide))

/-- The zero with a sign, as a document. -/
def negativeZero : Json := .number (.float Binary64.negativeZero (by decide))

/-- A record with a title and a point, in some order. -/
def plot (fields : List Field) : Record where
  id := "plot"
  runId := none
  fields := ⟨fields, ValueType.all⟩
  children := []
  dropped := false

/-- A field that both records have alike. -/
def titleField : Field :=
  ⟨"title", .single (some (.text "Origin")), some .text⟩

/-- A field with a document for a point. -/
def pointField (members : List (String × Json)) : Field :=
  ⟨"point", .single (some (.json (.object members))), some .json⟩

/-- A point with its members in alphabetical order. -/
def point : Field := pointField [("x", zero), ("y", negativeZero)]

/-- The same point with its members in the opposite order. -/
def flipped : Field := pointField [("y", negativeZero), ("x", zero)]

/-- The sample is proper: no name and no key occurs twice. -/
theorem plot_proper : (plot [point, titleField]).Proper := by
  refine forall_tree.mpr ⟨⟨?_, ?_⟩, fun c hc => absurd hc List.not_mem_nil⟩
  · rw [FieldStore.Distinct]
    decide
  · have hpoint :
        (Value.json (.object [("x", zero), ("y", negativeZero)])).Proper := by
      refine .object ?_ ?_
      · rw [Json.Keyed]
        decide
      · simpa using ⟨Json.Proper.number _, Json.Proper.number _⟩
    intro f hf v hv
    rcases List.mem_cons.mp hf with rfl | hf
    · obtain rfl : v = _ := Option.some.inj (List.mem_singleton.mp hv)
      exact hpoint
    · obtain rfl := List.mem_singleton.mp hf
      obtain rfl : v = _ := Option.some.inj (List.mem_singleton.mp hv)
      trivial

/-- Order has no effect, and the two zeros are told apart. -/
theorem digest_follows_same_plot :
    ((plot [point, titleField] == plot [titleField, flipped]) = true
      ∧ (plot [point, titleField]).digest
          = (plot [titleField, flipped]).digest)
      ∧ (Value.json zero == .json negativeZero) = true
      ∧ (Value.json zero).digest ≠ (Value.json negativeZero).digest := by
  have hsame : (plot [point, titleField] == plot [titleField, flipped])
    = true := by decide
  have hsigns : (plot [point, titleField]).signs
      = (plot [titleField, flipped]).signs := by
    simp [plot, point, flipped, pointField, titleField, signs_eq,
      FieldStore.signs, FieldStore.entries, Slot.signs, Slot.values,
      Slot.signsValue, Value.signs, Json.signs_object, Json.byKey,
      List.mergeSort, List.MergeSort.Internal.splitInTwo]
  have hzero : (Value.json zero).Proper := .number _
  have hzeros : (Value.json zero == .json negativeZero) = true := by decide
  have hstore := plot_proper _ (by rw [tree_eq]; exact List.mem_cons_self)
  obtain ⟨-, hvalue, -, hrecord⟩ :=
    digest_follows_same hzero hstore plot_proper
  refine ⟨⟨hsame, (hrecord _ hsame).mpr hsigns⟩, hzeros, ?_⟩
  rw [Ne, hvalue _ hzeros]
  decide

/-- Equal values need not have equal digests. -/
theorem not_digest_of_same :
    ¬∀ v w : Value, v.Proper → w.Proper → (v == w) = true
      → v.digest = w.digest := by
  intro h
  have hzero : (Value.json zero).Proper := .number _
  have hsame : (Value.json zero == .json negativeZero) = true := by decide
  have hsigns := (hzero.parallel hsame).iff.mp (h _ _ hzero (.number _) hsame)
  exact absurd hsigns (by decide)

end Record

end Intake
