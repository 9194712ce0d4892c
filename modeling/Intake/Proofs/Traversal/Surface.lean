/-
What surfaces of a dropped record, child by child.

A child that is live surfaces as it is and joins the run above it; a child
that is dropped gives way to its own children, which join the run that it is
in or would have joined. Behind the last step this is what becomes of the
child when it arrives there by itself (`drive_inheritRun`), so a list of
children that arrive one after the other gives what surfaces of them
(`concat_drive_children`).
-/
import Intake.Proofs.Traversal.Order

namespace Intake

namespace Record

/-- What surfaces of several records surfaces of one of them. -/
theorem mem_surfaceAll {x : Record} (joined : Option String) :
    ∀ {rs : List Record}, x ∈ surfaceAll joined rs
      ↔ ∃ r ∈ rs, x ∈ surface joined r := by
  intro rs
  induction rs with
  | nil => simp [surfaceAll]
  | cons r rs ih => rw [surfaceAll, List.mem_append, ih]; simp

/-- A dropped record gives way to its children, and a live one surfaces by
itself. -/
theorem surface_eq (joined : Option String) (r : Record) :
    surface joined r = if r.dropped then
      surfaceAll (r.runId <|> joined) r.children
      else [r.inheritRun joined] := by
  obtain ⟨id, own, fields, children, dropped⟩ := r
  rw [surface]
  rfl

/-- A record that has joined a run is not asked twice. -/
theorem inheritRun_inheritRun (joined : Option String) (r : Record) :
    (r.inheritRun joined).inheritRun joined = r.inheritRun joined := by
  simp only [inheritRun]
  cases r.runId with
  | none => cases joined <;> rfl
  | some runId => rfl

end Record

namespace Traversal

/-- A record that leaves no children leaves nothing. -/
theorem surfaced_bare {r : Record} (h : r.children = []) :
    surfaced r = .empty := by
  rw [surfaced, h, Record.surfaceAll]
  rfl

/-- A child that arrives behind the last step by itself. -/
theorem drive_inheritRun (joined : Option String) (c : Record) :
    drive [] (c.inheritRun joined) .empty = ⟨Record.surface joined c, []⟩ := by
  rw [Record.surface_eq]
  cases hd : c.dropped with
  | true =>
      rw [drive_dropped (show (c.inheritRun joined).dropped = true from hd),
        if_pos rfl]
      rfl
  | false =>
      rw [drive_nil (show (c.inheritRun joined).dropped = false from hd),
        if_neg Bool.false_ne_true]
      rfl

/-- Children that arrive behind the last step one after the other. -/
theorem concat_drive_children (joined : Option String)
    (children : List Record) :
    PipelineOutput.concat
      ((children.map (Record.inheritRun joined)).map fun c =>
        drive [] c .empty)
      = ⟨Record.surfaceAll joined children, []⟩ := by
  induction children with
  | nil => rw [Record.surfaceAll]; rfl
  | cons c children ih =>
      rw [List.map_cons, List.map_cons, PipelineOutput.concat, ih,
        drive_inheritRun, Record.surfaceAll]
      rfl

end Traversal

end Intake
