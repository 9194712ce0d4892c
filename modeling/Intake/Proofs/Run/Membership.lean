/-
Which run the records of a tree are in.

A record of a run is in that run and carries no descendant that is in
another. A stage of the catalog keeps it so, and what comes of the record
on the way is of the run as well: what a stage sends on and what surfaces
of a dropped record were descendants, in no run or in this one, and join
the run of the record they come from.

The same argument with less to keep shows that a record that is in some run
leads to none that is in no run.
-/
import Intake.Proofs.Record.Tree
import Intake.Proofs.Stage.Descent
import Intake.Proofs.Traversal.Invariant
import Intake.Proofs.Traversal.Surface

namespace Intake

namespace Record

/-- No record of the tree is in a run other than the given one. -/
def Within (runId : String) (r : Record) : Prop :=
  ∀ x ∈ r.tree, x.runId = none ∨ x.runId = some runId

/-- The record is in a run, and none of its descendants is in another. -/
structure InRun (runId : String) (r : Record) : Prop where
  own : r.runId = some runId
  below : ∀ x ∈ r.descendants, x.runId = none ∨ x.runId = some runId

variable {runId : String}

/-- Being in a run, in terms of the children. -/
theorem inRun_iff {r : Record} :
    r.InRun runId ↔ r.runId = some runId
      ∧ ∀ c ∈ r.children, c.Within runId := by
  constructor
  · rintro ⟨hown, hbelow⟩
    exact ⟨hown, fun c hc x hx => hbelow x (mem_descendants.mpr ⟨c, hc, hx⟩)⟩
  · rintro ⟨hown, hbelow⟩
    refine ⟨hown, fun x hx => ?_⟩
    obtain ⟨c, hc, hx⟩ := mem_descendants.mp hx
    exact hbelow c hc x hx

/-- Being in no other run, in terms of the children. -/
theorem within_iff {r : Record} : r.Within runId
    ↔ (r.runId = none ∨ r.runId = some runId)
        ∧ ∀ c ∈ r.children, c.Within runId :=
  forall_tree

/-- A fresh record is in no run at all. -/
theorem Fresh.within {c : Record} (h : c.Fresh) : c.Within runId := by
  rw [within_iff, h.children]
  exact ⟨.inl h.runId, nofun⟩

/-- A tree without other runs joins the run. -/
theorem Within.join {c : Record} (h : c.Within runId) :
    (c.inheritRun (some runId)).InRun runId := by
  rw [within_iff] at h
  refine inRun_iff.mpr ⟨?_, h.2⟩
  rw [inheritRun]
  rcases h.1 with hown | hown
  · rw [hown]
    rfl
  · rw [hown]
    rfl

/-- A record of the run stays as it is when it is asked to join one. -/
theorem InRun.join {r : Record} (h : r.InRun runId) (joined : Option String) :
    (r.inheritRun joined).InRun runId := by
  rw [inRun_iff] at h ⊢
  refine ⟨?_, h.2⟩
  rw [inheritRun, h.1]
  rfl

/-- Who joins a run is in one, be it this or a former one. -/
theorem inheritRun_isSome (r : Record) {joined : Option String}
    (h : joined.isSome = true) :
    (r.inheritRun joined).runId.isSome = true := by
  rw [inheritRun]
  cases r.runId with
  | none => exact h
  | some runId => rfl

-- ====================================================== surfacing

/-- What surfaces of a tree without other runs is of the run. -/
theorem Within.surface {c : Record} (h : c.Within runId) :
    ∀ x ∈ c.surface (some runId), x.InRun runId := by
  induction c using tree_induction with
  | step c ih =>
      have hjoined : (c.runId <|> some runId) = some runId := h.join.own
      intro x hx
      rw [surface_eq] at hx
      split at hx
      · rw [hjoined] at hx
        obtain ⟨d, hd, hx⟩ := (mem_surfaceAll _).mp hx
        exact ih d hd ((within_iff.mp h).2 d hd) x hx
      · rw [List.mem_singleton.mp hx]
        exact h.join

/-- What surfaces in a run is in a run. -/
theorem surface_isSome (c : Record) :
    ∀ joined : Option String, joined.isSome = true →
      ∀ x ∈ c.surface joined, x.runId.isSome = true := by
  induction c using tree_induction with
  | step c ih =>
      intro joined h x hx
      have hjoined := c.inheritRun_isSome h
      rw [surface_eq] at hx
      split at hx
      · obtain ⟨d, hd, hx⟩ := (mem_surfaceAll _).mp hx
        exact ih d hd _ hjoined x hx
      · rw [List.mem_singleton.mp hx]
        exact hjoined

end Record

-- ====================================================== stages

namespace Traversal

variable (environment : Environment) (p : Pipeline CatalogStage)

/-- The steps of a pipeline are calls of its stages. -/
theorem mem_steps {step : PipelineStep} (h : step ∈ p.steps environment)
    (r : Record) :
    Descends r (step.run r) := by
  obtain ⟨stage, -, rfl⟩ := List.mem_map.mp h
  exact stage.process_descends environment r

/-- What a stage sends on was among its children and joined the run of the
record. -/
theorem mem_produced {f r : Record} {added : Option (List Record)}
    (h : f ∈ produced r added) :
    ∃ c ∈ added.getD [], f = c.inheritRun r.runId := by
  obtain ⟨c, hc, rfl⟩ := List.mem_map.mp h
  exact ⟨c, hc, rfl⟩

/-- Stages of the catalog keep a record in its run, and its tree out of other
runs. -/
theorem inRun_invariant (runId : String) :
    Invariant (Record.InRun runId) (p.steps environment) where
  kept := by
    intro step hstep r hr
    have hgrown := (mem_steps environment p hstep r).grown
    rw [Record.inRun_iff] at hr ⊢
    refine ⟨hgrown.runId.trans hr.1, fun c hc => ?_⟩
    rcases hgrown.children c hc with hc | hc
    · exact hr.2 c hc
    · exact hc.within
  added := by
    intro step hstep r hr added hadded f hf
    have hdescends := mem_steps environment p hstep r
    obtain ⟨hown, hbelow⟩ := Record.inRun_iff.mp hr
    obtain ⟨g, hg, rfl⟩ := mem_produced hf
    obtain ⟨c, hc, rfl⟩ := hdescends.added added hadded g hg
    rw [hown]
    exact (hbelow c hc).join.join _
  surfaced := by
    intro r hr x hx
    obtain ⟨hown, hbelow⟩ := Record.inRun_iff.mp hr
    rw [hown] at hx
    obtain ⟨c, hc, hx⟩ := (Record.mem_surfaceAll _).mp hx
    exact (hbelow c hc).surface x hx

/-- Stages of the catalog keep a record in a run. -/
theorem isSome_invariant :
    Invariant (fun r => r.runId.isSome = true) (p.steps environment) where
  kept := by
    intro step hstep r hr
    rw [(mem_steps environment p hstep r).grown.runId]
    exact hr
  added := by
    intro step hstep r hr added hadded f hf
    obtain ⟨c, -, rfl⟩ := mem_produced hf
    refine c.inheritRun_isSome ?_
    rw [(mem_steps environment p hstep r).grown.runId]
    exact hr
  surfaced := by
    intro r hr x hx
    obtain ⟨c, hc, hx⟩ := (Record.mem_surfaceAll _).mp hx
    exact c.surface_isSome r.runId hr x hx

end Traversal

end Intake
