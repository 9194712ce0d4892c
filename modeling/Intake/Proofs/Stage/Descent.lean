/-
What a stage of the catalog can do to the tree of a record.

Stages write fields, mark records, attach children and send children on.
None of them touches the id or the run of the record, the children a record
has afterwards are its own or new ones without a run, and what a stage sends
on are the children the record had, each in the record's run. `Descends`
says so of one call and `CatalogStage.process_descends` of every stage,
whether the call succeeds or not.
-/
import Intake.Proofs.Record.Edit
import Intake.Stage.Catalog

namespace Intake

-- ====================================================== changes of records

/-- A change that leaves the id, the run and the children as they are. -/
structure Record.Kept (r r' : Record) : Prop where
  id : r'.id = r.id
  runId : r'.runId = r.runId
  children : r'.children = r.children

namespace Record.Kept

theorem refl (r : Record) : Kept r r := ⟨rfl, rfl, rfl⟩

theorem trans (a b c : Record) (h : Kept a b) (h' : Kept b c) : Kept a c where
  id := h'.id.trans h.id
  runId := h'.runId.trans h.runId
  children := h'.children.trans h.children

end Record.Kept

/-- An edit of the fields keeps the three. -/
theorem Record.Edited.kept {r r' : Record} (h : Edited r r') : Kept r r' :=
  ⟨h.id, h.runId, h.children⟩

/-- A child that no run knows of yet. -/
structure Record.Fresh (c : Record) : Prop where
  runId : c.runId = none
  children : c.children = []

/-- A change that adds new children at most. -/
structure Record.Grown (r r' : Record) : Prop where
  id : r'.id = r.id
  runId : r'.runId = r.runId
  children : ∀ c ∈ r'.children, c ∈ r.children ∨ c.Fresh

/-- With the same children there are no others. -/
theorem Record.Kept.grown {r r' : Record} (h : Kept r r') : Grown r r' where
  id := h.id
  runId := h.runId
  children := fun _ hc => .inl (h.children ▸ hc)

/-- Attaching a new child and growing on. -/
theorem Record.Grown.addChild {r r' c : Record} (hc : c.Fresh)
    (h : Grown (r.addChild c) r') : Grown r r' where
  id := h.id
  runId := h.runId
  children := by
    intro x hx
    rcases h.children x hx with hx | hx
    · rcases List.mem_append.mp hx with hx | hx
      · exact .inl hx
      · rw [List.mem_singleton.mp hx]
        exact .inr hc
    · exact .inr hx

-- ====================================================== calls

/-- What one call of a stage does to the tree of a record. -/
structure Descends (r : Record) (after : StageResult) : Prop where
  grown : Record.Grown r after.state
  added : ∀ added, after.result = .ok added → ∀ f ∈ added.getD [],
    ∃ c ∈ r.children, f = c.inheritRun r.runId

namespace Descends

variable {r : Record}

/-- A call that adds no records. -/
theorem of_grown {after : StageResult} (h : Record.Grown r after.state)
    (hadded : ∀ added, after.result = .ok added → added = none) :
    Descends r after where
  grown := h
  added := by
    intro added hresult f hf
    rw [hadded added hresult] at hf
    cases hf

/-- A call that fails adds no records. -/
theorem fail {r' : Record} (h : Record.Grown r r') (e : StageError) :
    Descends r (.fail r' e) :=
  of_grown h nofun

/-- A call that leaves the record in the pipeline adds none, either. -/
theorem unchanged {r' : Record} (h : Record.Grown r r') :
    Descends r (.unchanged r') :=
  of_grown h fun _ hresult => (Except.ok.inj hresult).symm

/-- A change of the record that keeps the three is such a call, whether it goes
through or not. -/
theorem ofChange {change : Record.Change Unit}
    (h : Record.Kept r change.state) :
    Descends r (.ofChange change) := by
  rw [StageResult.ofChange, Outcome.andThen, Outcome.mapError]
  cases change.result with
  | error e => exact fail h.grown _
  | ok _ => exact unchanged h.grown

end Descends

-- ====================================================== the stages

section stages

variable (environment : Environment) (r : Record)

/-- A pass keeps the three if every step does, wherever it stops. -/
theorem Record.kept_each {β : Type} {step : Record → β → Record.Change Unit}
    (xs : List β) (hstep : ∀ r x, Record.Kept r (step r x).state) :
    Record.Kept r (Outcome.each step r xs).state :=
  Outcome.each_related Record.Kept.refl Record.Kept.trans xs r fun x _ r =>
    hstep r x

/-- The stage that looks for words writes a field at most. -/
theorem Contains.process_descends (stage : Contains) :
    Descends r (stage.process r) := by
  rw [Contains.process]
  split
  · exact .fail (Record.Kept.refl r).grown _
  · split
    · exact .ofChange (Record.update_edited r _ _ _).kept
    · exact .unchanged (Record.Kept.refl r).grown

/-- Renaming fields goes through a table of names. -/
theorem RenameFields.process_descends (stage : RenameFields) :
    Descends r (stage.process r) := by
  refine .ofChange (Record.kept_each r _ fun r pair => ?_)
  split
  · exact (Record.renameField_edited r _ _ _).kept
  · exact .refl r

/-- Copying goes through one, too. -/
theorem CopyFields.process_descends (stage : CopyFields) :
    Descends r (stage.process r) := by
  refine .ofChange (Record.kept_each r _ fun r pair => ?_)
  split
  · exact (Record.update_edited r _ _ _).kept
  · exact .refl r

/-- The time is written into a field. -/
theorem Timestamp.process_descends (stage : Timestamp) :
    Descends r (stage.process environment r) :=
  .ofChange (Record.setField_edited r _ _).kept

/-- Writing what was gathered updates one field after the other. -/
theorem Gathered.write_kept (mode : UpdateMode) (gathered : Gathered) :
    Record.Kept r (Gathered.write mode r gathered).state :=
  Record.kept_each r _ fun r _ => (Record.update_edited r _ _ _).kept

/-- What is looked up is written into fields. -/
theorem DictionaryLookup.process_descends (stage : DictionaryLookup) :
    Descends r (stage.process r) := by
  rw [DictionaryLookup.process]
  split
  · exact .fail (Record.Kept.refl r).grown _
  · exact .ofChange (Gathered.write_kept r _ _)

/-- What is extracted is written into fields. -/
theorem ExtractEntities.process_descends (stage : ExtractEntities) :
    Descends r (stage.process r) := by
  rw [ExtractEntities.process]
  split
  · exact .fail (Record.Kept.refl r).grown _
  · exact .ofChange (Gathered.write_kept r _ _)

/-- Fetching writes fields, or an error and the list of errors. -/
theorem FetchUri.process_descends (stage : FetchUri) :
    Descends r (stage.process environment r) := by
  rw [FetchUri.process]
  split
  · exact .fail (Record.Kept.refl r).grown _
  · split
    · exact .unchanged (Record.Kept.refl r).grown
    · refine .ofChange ?_
      split
      · exact Record.kept_each r _ fun r _ =>
          (Record.setField_edited r _ _).kept
      · exact Outcome.andThen_related Record.Kept.trans
          (Record.setField_edited r _ _).kept
          fun _ => ⟨rfl, rfl, rfl⟩

/-- Dropping marks the record. -/
theorem DropRecord.process_descends (stage : DropRecord) :
    Descends r (stage.process r) := by
  rw [DropRecord.process]
  refine .unchanged (Record.Kept.grown ?_)
  split
  · exact ⟨rfl, rfl, rfl⟩
  · exact .refl r

/-- The children are sent on in the run of the record, and the record keeps
none. -/
theorem EmitNestedChildren.process_descends (stage : EmitNestedChildren) :
    Descends r (stage.process r) := by
  -- the mark makes no difference to what is sent on
  have hsent : ∀ r', Record.Kept r r' → Descends r
      (if r'.hasChildren then
        .ok r'.withoutChildren
          (some (r'.children.map (Record.inheritRun r'.runId)))
      else .unchanged r') := by
    intro r' h
    split
    · refine ⟨⟨h.id, h.runId, fun c hc => by cases hc⟩, ?_⟩
      intro added hresult f hf
      cases hresult
      obtain ⟨c, hc, rfl⟩ := List.mem_map.mp hf
      exact ⟨c, h.children ▸ hc, by rw [h.runId]⟩
    · exact .unchanged h.grown
  rw [EmitNestedChildren.process]
  refine hsent _ ?_
  split
  · exact ⟨rfl, rfl, rfl⟩
  · exact .refl r

/-- The child for a chunk is new. -/
theorem ChunkText.child_fresh (dest parent : String)
    (total number offset : Nat) (chunk : List Char) :
    (ChunkText.child dest parent total number offset chunk).state.Fresh := by
  have h : Record.Kept (Record.new (parent ++ "-" ++ toString number))
      (ChunkText.child dest parent total number offset chunk).state :=
    Record.kept_each _ _ fun r _ => (Record.setField_edited r _ _).kept
  exact ⟨h.runId, h.children⟩

/-- The children for chunks are added one after the other, all of them new. -/
theorem ChunkText.addChildren_grown (dest : String) (total : Nat)
    (chunks : List (List Char)) :
    ∀ (number offset : Nat) (r : Record),
      Record.Grown r
        (ChunkText.addChildren dest total number offset r chunks).state := by
  induction chunks with
  | nil => exact fun _ _ r => (Record.Kept.refl r).grown
  | cons chunk chunks ih =>
      intro number offset r
      rw [ChunkText.addChildren]
      split
      · exact (Record.Kept.refl r).grown
      · exact (ih _ _ _).addChild (ChunkText.child_fresh _ _ _ _ _ _)

/-- Dividing a text adds the children for its chunks. -/
theorem ChunkText.process_descends (stage : ChunkText) :
    Descends r (stage.process r) := by
  rw [ChunkText.process]
  split
  · exact .unchanged (Record.Kept.refl r).grown
  · split
    · exact .unchanged (Record.Kept.refl r).grown
    · split
      · exact .fail (Record.Kept.refl r).grown _
      · next chunks _ =>
          have h :=
            ChunkText.addChildren_grown stage.dest chunks.length chunks 1 0 r
          rw [Outcome.andThen]
          split
          · exact .unchanged h
          · exact .fail h _

/-- Every stage of the catalog keeps to this. -/
theorem CatalogStage.process_descends (stage : CatalogStage) :
    Descends r (Stage.process environment stage r) := by
  cases stage with
  | chunkText s => exact s.process_descends r
  | renameFields s => exact s.process_descends r
  | copyFields s => exact s.process_descends r
  | contains s => exact s.process_descends r
  | timestamp s => exact s.process_descends environment r
  | dropRecord s => exact s.process_descends r
  | emitNestedChildren s => exact s.process_descends r
  | fetchUri s => exact s.process_descends environment r
  | dictionaryLookup s => exact s.process_descends r
  | extractEntities s => exact s.process_descends r

end stages

end Intake
