/-
What surfaces of a dropped record, place by place.

A place in a tree says which child to go to, level by level, so the order in
which a document tells the records of a tree is the order of their places.
`Stands` finds the record at a place together with the records on the way
there. Of a dropped record surface the live records that stand under dropped
ones alone, in the order of their places and each in the run that is nearest
to it on the way up (`process_surfaces`).

The places are listed by `surfacingPlaces`, which looks below dropped records
and nowhere else. That it lists them in order and leaves none out is induction
on the tree; that what stands there is what surfaces is the same induction with
the run that comes from above.
-/
import Intake.Proofs.Record.Tree
import Intake.Proofs.Traversal.History
import Intake.Proofs.Traversal.Surface
import Mathlib.Data.List.Forall2

namespace Intake

namespace Record

variable {r x : Record} {place : List Nat} {above : List Record}

-- ====================================================== places

/-- At a place in the tree of a record stands another one, below the records
on the way there, of which the first is the root. -/
inductive Stands : Record → List Nat → List Record → Record → Prop
  | here (r : Record) : Stands r [] [] r
  | child {r c x : Record} {i : Nat} {place : List Nat} {above : List Record}
      (hc : r.children[i]? = some c) (h : Stands c place above x) :
      Stands r (i :: place) (r :: above) x

/-- The run of the last of the records on a way down that is in one. -/
def nearestRun (above : List Record) : Option String :=
  above.reverse.findSome? runId

theorem nearestRun_cons (r : Record) (above : List Record) :
    nearestRun (r :: above) = (nearestRun above <|> r.runId) := by
  rw [nearestRun, nearestRun, List.reverse_cons, List.findSome?_append]
  cases above.reverse.findSome? runId <;> cases h : r.runId <;> simp [h]

/-- The record at a place surfaces: it is live, and all on the way to it are
dropped. -/
structure Surfaces (r : Record) (place : List Nat) (above : List Record)
    (x : Record) : Prop where
  stands : r.Stands place above x
  live : x.dropped = false
  under : ∀ a ∈ above, a.dropped = true

/-- What surfaces of a child surfaces of the dropped record, one step further
down. -/
theorem Surfaces.below {c : Record} {i : Nat} (hr : r.dropped = true)
    (hc : r.children[i]? = some c) (h : c.Surfaces place above x) :
    r.Surfaces (i :: place) (r :: above) x :=
  ⟨.child hc h.stands, h.live, List.forall_mem_cons.mpr ⟨hr, h.under⟩⟩

mutual

/-- The places of the records that surface. -/
def surfacingPlaces : Record → List (List Nat)
  | ⟨_, _, _, children, dropped⟩ =>
    if dropped then surfacingPlacesAll 0 children else [[]]

/-- The same for children, of which the first has a given number. -/
def surfacingPlacesAll (first : Nat) : List Record → List (List Nat)
  | [] => []
  | r :: rs =>
      (surfacingPlaces r).map (first :: ·) ++ surfacingPlacesAll (first + 1) rs

end

theorem surfacingPlaces_eq (r : Record) :
    r.surfacingPlaces
      = if r.dropped then surfacingPlacesAll 0 r.children else [[]] := by
  obtain ⟨id, own, fields, children, dropped⟩ := r
  rw [surfacingPlaces]

/-- The places below several records begin with the number of one of them. -/
theorem mem_surfacingPlacesAll {rs : List Record} :
    ∀ {first : Nat}, place ∈ surfacingPlacesAll first rs
      ↔ ∃ i c rest, rs[i]? = some c ∧ rest ∈ c.surfacingPlaces
          ∧ place = (first + i) :: rest := by
  induction rs with
  | nil => simp [surfacingPlacesAll]
  | cons r rs ih =>
      intro first
      rw [surfacingPlacesAll, List.mem_append, List.mem_map, ih]
      constructor
      · rintro (⟨rest, hrest, rfl⟩ | ⟨i, c, rest, hc, hrest, rfl⟩)
        · exact ⟨0, r, rest, rfl, hrest, rfl⟩
        · exact ⟨i + 1, c, rest, hc, hrest,
            by rw [Nat.add_right_comm, Nat.add_assoc]⟩
      · rintro ⟨i, c, rest, hc, hrest, rfl⟩
        cases i with
        | zero =>
            cases hc
            exact .inl ⟨rest, hrest, rfl⟩
        | succ i =>
            exact .inr ⟨i, c, rest, hc, hrest,
              by rw [Nat.add_right_comm, Nat.add_assoc]⟩

/-- The places come in the order of the document. -/
theorem surfacingPlaces_ordered (r : Record) :
    r.surfacingPlaces.Pairwise (· < ·) := by
  induction r using tree_induction with
  | step r ih =>
      rw [surfacingPlaces_eq]
      split
      · generalize 0 = first
        revert ih first
        generalize r.children = rs
        intro ih
        induction rs with
        | nil => exact fun _ => .nil
        | cons c rs ihrest =>
            intro first
            rw [List.forall_mem_cons] at ih
            rw [surfacingPlacesAll, List.pairwise_append, List.pairwise_map]
            refine
              ⟨ih.1.imp fun h => List.cons_lt_cons_iff.mpr (.inr ⟨rfl, h⟩),
              ihrest ih.2 _, fun a ha b hb => ?_⟩
            obtain ⟨rest, -, rfl⟩ := List.mem_map.mp ha
            obtain ⟨i, d, rest', -, -, rfl⟩ := mem_surfacingPlacesAll.mp hb
            exact List.cons_lt_cons_iff.mpr (.inl (by omega))
      · exact List.pairwise_singleton _ _

/-- No record that surfaces is left out. -/
theorem Surfaces.mem_surfacingPlaces (h : r.Surfaces place above x) :
    place ∈ r.surfacingPlaces := by
  obtain ⟨hstands, hlive, hunder⟩ := h
  induction hstands with
  | here r => rw [surfacingPlaces_eq, if_neg (by simp [hlive])]; exact
      List.mem_cons_self
  | child hc _ ih =>
      rw [List.forall_mem_cons] at hunder
      rw [surfacingPlaces_eq, if_pos hunder.1, mem_surfacingPlacesAll]
      exact ⟨_, _, _, hc, ih hlive hunder.2, by rw [Nat.zero_add]⟩

-- ====================================================== what surfaces there

/-- At a place surfaces the record that stands there, in the nearest run on
the way up or else in the one that comes from above the tree. -/
def Emits (joined : Option String) (r : Record) (place : List Nat)
    (y : Record) : Prop :=
  ∃ above x, r.Surfaces place above x
    ∧ y = x.inheritRun (nearestRun above <|> joined)

/-- What is emitted for a child of a dropped record is emitted for the
record. -/
theorem Emits.below {joined : Option String} {c y : Record} {i : Nat}
    (hr : r.dropped = true) (hc : r.children[i]? = some c)
    (h : Emits (r.runId <|> joined) c place y) :
    Emits joined r (i :: place) y := by
  obtain ⟨above, x, hx, rfl⟩ := h
  refine ⟨r :: above, x, hx.below hr hc, ?_⟩
  rw [nearestRun_cons]
  cases nearestRun above <;> rfl

/-- What surfaces is what stands at the places, one after the other. -/
theorem forall₂_surface (r : Record) :
    ∀ joined, List.Forall₂ (Emits joined r) r.surfacingPlaces
      (surface joined r) := by
  induction r using tree_induction with
  | step r ih =>
      intro joined
      rw [surfacingPlaces_eq, surface_eq]
      split
      · next hr =>
          -- over the children from some number on
          have hchildren : ∀ (rs : List Record) (first : Nat),
              (∀ i, rs[i]? = r.children[first + i]?) →
              List.Forall₂ (Emits joined r) (surfacingPlacesAll first rs)
                (surfaceAll (r.runId <|> joined) rs) := by
            intro rs
            induction rs with
            | nil =>
                intro first _
                rw [surfacingPlacesAll, surfaceAll]
                exact .nil
            | cons c rs ihrest =>
                intro first hplace
                have hc : r.children[first]? = some c := (hplace 0).symm
                rw [surfacingPlacesAll, surfaceAll]
                refine List.rel_append ?_ (ihrest (first + 1) fun i => ?_)
                · rw [List.forall₂_map_left_iff]
                  exact (ih c (List.mem_of_getElem? hc) _).imp fun _ _ h =>
                    h.below hr hc
                · rw [Nat.add_assoc, Nat.add_comm 1, ← hplace (i + 1),
                    List.getElem?_cons_succ]
          exact hchildren r.children 0 fun i => by rw [Nat.zero_add]
      · next hr =>
          have hlive : r.dropped = false := Bool.not_eq_true _ ▸ hr
          exact .cons ⟨[], r, ⟨.here r, hlive, nofun⟩, rfl⟩ .nil

end Record

namespace Traversal

open Record

/-- Nothing happens to a record that arrives dropped but that it enters and
is dropped. -/
theorem history_dropped {r : Record} (hr : r.dropped = true)
    (steps : List PipelineStep) :
    history steps r = [.entered 0 0 r, .dropped 0 r] := by
  rw [history]
  cases steps with
  | nil => rw [observe, if_pos hr]; rfl
  | cons step rest => rw [observe, if_pos hr]; rfl

variable {σ : Type} [Stage σ]

/-- A record that arrives dropped sees no stage, whatever the stages are, and
fails nowhere. What comes out are the records of its tree that are live while
all above them are dropped: in the order of their places, one for each of these
places, as they stand there but for the run, which is their own or else the
nearest one above them. -/
theorem process_surfaces (environment : Environment) (p : Pipeline σ)
    (hp : p.phase = .started) (r : Record) (hr : r.dropped = true) :
    ∃ out, p.process environment r = .ok out
      ∧ history (p.steps environment) r = [.entered 0 0 r, .dropped 0 r]
      ∧ out = output (history (p.steps environment) r)
      ∧ (∀ other : List PipelineStep, traverse other r = out)
      ∧ out.failures = []
      ∧ ∃ places : List (List Nat), places.Pairwise (· < ·)
        ∧ (∀ place above x, r.Surfaces place above x → place ∈ places)
        ∧ List.Forall₂ (fun place y => ∃ above x, r.Surfaces place above x
            ∧ y = { x with runId := x.runId <|> nearestRun above })
                places out.records := by
  have hout (steps : List PipelineStep) : traverse steps r = surfaced r := by
    rw [traverse, driveFrom, drive_dropped hr, PipelineOutput.empty_append]
  refine
    ⟨surfaced r, ?_, history_dropped hr _, ?_, hout, rfl, r.surfacingPlaces,
    surfacingPlaces_ordered r, fun _ _ _ h => h.mem_surfacingPlaces, ?_⟩
  · rw [process_started hp, hout]
  · rw [output_history, hout]
  · have hyields := forall₂_surface r none
    rw [surface_eq, if_pos hr] at hyields
    have hrun : (r.runId <|> none) = r.runId := by cases r.runId <;> rfl
    rw [hrun] at hyields
    refine hyields.imp fun place y h => ?_
    obtain ⟨above, x, hx, rfl⟩ := h
    refine ⟨above, x, hx, ?_⟩
    have hnone : (nearestRun above <|> none) = nearestRun above := by
      cases nearestRun above <;> rfl
    rw [hnone, inheritRun]

/-- A dropped record without a run and with three children: a dropped one in a
run of its own, a dropped one in no run, and a live one. Below them stand live
and dropped records. -/
def ruins : Record :=
  let page (id : String) (run : Option String) (children : List Record)
      (dropped : Bool) : Record :=
    { Record.new id with runId := run, children, dropped }
  page "a" none
    [page "b" (some "first")
        [page "c" none [page "d" none [] true, page "e" none [] false] false,
          page "f" (some "second") [page "g" none [] false] true] true,
      page "h" none [page "i" (some "third") [] false] true,
      page "j" none [] false] true

/-- `e` stays below `c`, `g` is in the run of `f` rather than in that of `b`,
and `j` is in none. -/
theorem process_surfaces_ruins :
    sample.phase = .started ∧ ruins.dropped = true
      ∧ (∃ out, sample.process still ruins = .ok out
        ∧ history (sample.steps still) ruins
            = [.entered 0 0 ruins, .dropped 0 ruins]
        ∧ out.failures = []
        ∧ ∃ places : List (List Nat), places.Pairwise (· < ·)
          ∧ (∀ place above x, ruins.Surfaces place above x → place ∈ places)
          ∧ places.length = out.records.length)
      ∧ (surfaced ruins).records.map
          (fun x => (x.id, x.runId, x.children.map Record.id))
        = [("c", some "first", ["d", "e"]), ("g", some "second", []),
            ("i", some "third", []),
          ("j", none, [])] := by
  obtain ⟨out, hprocess, hhistory, -, -, hfailures, places,
      hordered, hall, hrecords⟩ :=
    process_surfaces still sample rfl ruins rfl
  exact ⟨rfl, rfl, ⟨out, hprocess, hhistory, hfailures, places, hordered, hall,
    hrecords.length_eq⟩, by decide⟩

end Traversal

end Intake
