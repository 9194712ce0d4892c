/-
What a stage gathers along its route, and writes.

Sources are gone through in their order, and what is found for one of them goes
behind what was gathered for its destination before. So what is gathered has
the destinations that something was found for, each of them once and in the
order of first sight, with all that was found for their sources (`collect_eq`).
That is an invariant of the fold over the route, which is why the sources are
taken from the end here.

Writing updates one destination after the other. An update leaves the other
fields alone, so a destination that has been overwritten keeps what was
gathered for it.
-/
import Intake.Stage.Destination
import Intake.Proofs.Record.Edit
import Intake.Proofs.Record.Update

namespace Intake

-- ====================================================== routes

namespace Route

variable {o : StageOptions} {name : String} {route : Route}

/-- The destination of the source at a place: the only one there is, or the one
at this place. -/
def destFor (route : Route) (place : Nat) : Option String :=
  if route.dests.length = 1 then route.dests[0]? else route.dests[place]?

/-- There is one destination for all sources or one for each. -/
structure Matched (route : Route) : Prop where
  filled : route.sources ≠ []
  lengths : route.dests.length = 1 ∨ route.dests.length = route.sources.length

/-- A route that was read matches destinations with sources. -/
theorem read_matched (h : read o name = .ok route) : route.Matched := by
  obtain ⟨sources, -, h⟩ := Record.bind_eq_ok.mp h
  obtain ⟨dests, -, h⟩ := Record.bind_eq_ok.mp h
  dsimp only at h
  split at h
  · cases h
  · next hsources =>
      split at h
      · cases h
      · next hlengths =>
          cases h
          rw [List.isEmpty_iff] at hsources
          refine ⟨hsources, ?_⟩
          dsimp only
          omega

/-- Every source has its destination. -/
theorem Matched.pairs_eq (h : route.Matched) :
    route.pairs.map (fun pair => (pair.1, some pair.2))
      = route.sources.zipIdx.map fun source =>
          (source.1, route.destFor source.2) := by
  obtain ⟨sources, dests⟩ := route
  have hlengths : dests.length = 1 ∨ dests.length = sources.length := h.lengths
  simp only [pairs]
  split
  · next dest =>
      rw [List.map_map]
      apply List.ext_getElem
      · simp
      · intro i hi hi'
        simp [destFor]
  · next hmany =>
      have hlength : dests.length ≠ 1 := fun hone => by
        obtain ⟨dest, hdest⟩ := List.length_eq_one_iff.mp hone
        exact hmany dest hdest
      apply List.ext_getElem
      · simp [hlengths.resolve_left hlength]
      · intro i hi hi'
        simp [destFor, hlength]

end Route

-- ====================================================== gathering

namespace Gathered

variable {find : String → List Value} {pairs : List (String × String)}
  {dest : String}

/-- What was found for the sources of a destination, one source behind the
other. -/
def valuesFor (find : String → List Value) (pairs : List (String × String))
    (dest : String) : List Value :=
  (pairs.filter fun pair => pair.2 == dest).flatMap fun pair => find pair.1

/-- The destinations that something was found for, in the order of first
sight. -/
def hits (find : String → List Value) (pairs : List (String × String)) :
    List String :=
  ((pairs.filter fun pair => !(find pair.1).isEmpty).map Prod.snd).eraseDups

/-- A name behind others counts if it is not among them. -/
theorem eraseDups_concat (names : List String) (name : String) :
    (names ++ [name]).eraseDups
      = if name ∈ names then names.eraseDups
        else names.eraseDups ++ [name] := by
  rw [List.eraseDups_append]
  by_cases h : name ∈ names
  · simp [List.removeAll, h]
  · simp [List.removeAll, h, List.eraseDups_cons]

/-- A destination is hit when there is something to be written to it. -/
theorem mem_hits :
    dest ∈ hits find pairs ↔ valuesFor find pairs dest ≠ [] := by
  rw [hits, List.mem_eraseDups, List.mem_map, valuesFor, Ne,
    List.flatMap_eq_nil_iff]
  constructor
  · rintro ⟨pair, hpair, rfl⟩ hnone
    obtain ⟨hmem, hfound⟩ := List.mem_filter.mp hpair
    rw [hnone pair (List.mem_filter.mpr ⟨hmem, beq_self_eq_true _⟩)] at hfound
    cases hfound
  · intro hsome
    push Not at hsome
    obtain ⟨pair, hpair, hfound⟩ := hsome
    obtain ⟨hmem, hdest⟩ := List.mem_filter.mp hpair
    exact ⟨pair, List.mem_filter.mpr ⟨hmem, by simpa using hfound⟩,
      eq_of_beq hdest⟩

/-- The last source adds its findings to its own destination. -/
theorem valuesFor_concat (pairs : List (String × String))
    (pair : String × String) :
    valuesFor find (pairs ++ [pair]) dest
      = valuesFor find pairs dest
          ++ if pair.2 = dest then find pair.1 else [] := by
  rw [valuesFor, List.filter_append, List.flatMap_append, valuesFor,
    List.filter_singleton]
  by_cases h : pair.2 = dest
  · rw [if_pos h, beq_iff_eq.mpr h]
    simp
  · rw [if_neg h, beq_eq_false_iff_ne.mpr h]
    rfl

/-- The last source hits its destination if it finds something and no other
source did so before. -/
theorem hits_concat (pairs : List (String × String)) (pair : String × String) :
    hits find (pairs ++ [pair])
      = if find pair.1 = [] ∨ pair.2 ∈ hits find pairs then hits find pairs
        else hits find pairs ++ [pair.2] := by
  rw [hits, List.filter_append, List.map_append, List.filter_singleton]
  cases hfound : find pair.1 with
  | nil => simp [hits]
  | cons value values =>
      simp only [List.isEmpty_cons, Bool.not_false, cond_true,
        List.map_singleton, eraseDups_concat, reduceCtorEq, false_or, hits,
        List.mem_eraseDups]

/-- Each destination is hit once. -/
theorem nodup_hits (find : String → List Value)
    (pairs : List (String × String)) :
    (hits find pairs).Nodup := by
  induction pairs using List.reverseRecOn with
  | nil => exact List.nodup_nil
  | append_singleton pairs pair ih =>
      rw [hits_concat]
      split
      · exact ih
      · next hnew =>
          rw [not_or] at hnew
          rw [← List.concat_eq_append]
          exact ih.concat hnew.2

/-- No values leave no trace. -/
theorem add_nil (gathered : Gathered) : add dest [] gathered = gathered := by
  induction gathered with
  | nil => rfl
  | cons entry rest ih =>
      rw [add, ih, List.append_nil, ite_self]

/-- Values go behind those of their destination, or make it the last one. -/
theorem add_map {names : List String} (hnames : names.Nodup)
    {values : String → List Value} {more : List Value} (hmore : more ≠ [])
    (hnew : dest ∉ names → values dest = []) :
    add dest more (names.map fun name => (name, values name))
      = (if dest ∈ names then names else names ++ [dest]).map fun name =>
          (name, values name ++ if dest = name then more else []) := by
  induction names with
  | nil => simp [add, hmore, hnew]
  | cons name names ih =>
      obtain ⟨hname, hnames⟩ := List.nodup_cons.mp hnames
      rw [List.map_cons, add]
      by_cases h : name = dest
      · subst h
        rw [if_pos rfl, if_pos List.mem_cons_self, List.map_cons, if_pos rfl]
        congr 1
        refine List.map_congr_left fun other hother => ?_
        have hne : name ≠ other := fun heq => hname (heq ▸ hother)
        rw [if_neg hne, List.append_nil]
      · have hmem : dest ∈ name :: names ↔ dest ∈ names := by
          rw [List.mem_cons]
          exact or_iff_right fun heq => h heq.symm
        rw [if_neg h, ih hnames fun hnot => hnew (mt hmem.mp hnot)]
        simp only [hmem]
        split
        · rw [List.map_cons, if_neg (Ne.symm h), List.append_nil]
        · rw [List.cons_append, List.map_cons, if_neg (Ne.symm h),
            List.append_nil]

/-- Every destination that was hit has all that was found for its sources. -/
theorem collect_eq (find : String → List Value)
    (pairs : List (String × String)) :
    collect find pairs
      = (hits find pairs).map fun dest =>
          (dest, valuesFor find pairs dest) := by
  induction pairs using List.reverseRecOn with
  | nil => rfl
  | append_singleton pairs pair ih =>
      have hstep : collect find (pairs ++ [pair])
          = add pair.2 (find pair.1) (collect find pairs) := by
        rw [collect, List.foldl_append]
        rfl
      simp only [hstep, ih, hits_concat, valuesFor_concat]
      by_cases hfound : find pair.1 = []
      · simp [hfound, add_nil]
      · rw [add_map (nodup_hits find pairs) hfound fun hnew =>
          by simpa [mem_hits] using hnew]
        simp [hfound]

end Gathered

-- ====================================================== writing

/-- A stage that has changed a record well leaves it as the change did. -/
theorem StageResult.ofChange_ok {change : Record.Change Unit}
    {further : Option (List Record)}
    (h : (ofChange change).result = .ok further) :
    further = none ∧ change.result = .ok ()
      ∧ (ofChange change).state = change.state := by
  obtain ⟨r, result⟩ := change
  cases result with
  | error e => cases h
  | ok answer =>
      cases h
      exact ⟨rfl, rfl, rfl⟩

/-- A chain of good steps has taken all of them. -/
theorem Outcome.each_ok {ε σ β : Type} {step : σ → β → Outcome ε σ Unit}
    {xs : List β} {s : σ} (h : (each step s xs).result = .ok ()) :
    (each step s xs).state = xs.foldl (fun s x => (step s x).state) s := by
  induction xs generalizing s with
  | nil => rfl
  | cons x xs ih =>
      rw [each, andThen] at h ⊢
      cases hstep : (step s x).result with
      | error e =>
          rw [hstep] at h
          cases h
      | ok answer =>
          rw [hstep] at h
          exact ih h

namespace Record

variable {r : Record} {name : String} {values : List Value}

/-- Values that were written at once are the field, whatever the store
accepts. -/
theorem putAll_ok {s : FieldStore} (hvalues : values ≠ [])
    (h : (putAll s name values).result = .ok ()) :
    (putAll s name values).state.slot? name = some (.ofValues values) := by
  obtain ⟨v, rest, rfl⟩ := List.exists_cons_of_ne_nil hvalues
  cases rest with
  | nil =>
      rw [putAll, FieldStore.putOne] at h ⊢
      cases hcheck : s.checkSupported name v with
      | error e =>
          rw [hcheck] at h
          cases h
      | ok t => exact FieldStore.slot?_put_self _ _ _ _
  | cons w rest =>
      have hmany : ∀ only, v :: w :: rest = [only] → False := by
        intro only heq
        cases heq
      rw [putAll, FieldStore.putMany] at h ⊢
      · cases hcommon : s.commonType name none ((v :: w :: rest).map some) with
        | error e =>
            rw [hcommon] at h
            cases h
        | ok t => exact FieldStore.slot?_put_self _ _ _ _
      · exact hmany
      · exact hmany

/-- A field that was overwritten with values has these values. -/
theorem update_overwritten (hvalues : values ≠ [])
    (h : (r.update name .overwrite values).result = .ok ()) :
    (r.update name .overwrite values).state.fields.slot? name
      = some (.ofValues values) := by
  by_cases hname : Reserved name
  · rw [update_reserved hname] at h
    cases h
  · rw [update, onWritable, if_neg hname, onFields,
      if_neg (by simpa using hvalues)] at h ⊢
    exact putAll_ok hvalues h

/-- An update leaves the values of other fields alone. -/
theorem update_slot?_ne {other : String} (h : name ≠ other) (r : Record)
    (mode : UpdateMode) (values : List Value) :
    (r.update name mode values).state.fields.slot? other
      = r.fields.slot? other := by
  have hframe := @update_frame name (· = other) h r mode values
  rw [FieldStore.slot?, FieldStore.slot?, hframe.found other rfl]

end Record

namespace Gathered

open Record

/-- What was gathered is written with one update for every destination that was
hit. -/
theorem write_collect (mode : UpdateMode) (r : Record)
    (find : String → List Value) (pairs : List (String × String)) :
    write mode r (collect find pairs)
      = Outcome.each
          (fun r dest => r.update dest mode (valuesFor find pairs dest)) r
          (hits find pairs) := by
  rw [write, collect_eq, ← Outcome.each_map]

/-- What is written to other fields leaves the values of a field alone. -/
theorem each_slot? {name : String} {dests : List String} {mode : UpdateMode}
    {values : String → List Value} {r : Record}
    (h : ∀ dest ∈ dests, dest ≠ name) :
    (Outcome.each (fun r dest => r.update dest mode (values dest))
      r dests).state.fields.slot? name
      = r.fields.slot? name := by
  have hchain := @Outcome.each_related FieldError Record String
    (fun before after => after.fields.slot? name = before.fields.slot? name)
    (fun r dest => r.update dest mode (values dest)) (fun _ => rfl)
    (fun _ _ _ hab hbc => hbc.trans hab) dests r
  exact hchain fun dest hdest r =>
    update_slot?_ne (h dest hdest) r mode (values dest)

/-- What is gathered for different destinations is written side by side. -/
theorem overwritten {mode : UpdateMode} (hmode : mode = .overwrite)
    {dests : List String}
    (hdests : dests.Nodup) {values : String → List Value}
    (hvalues : ∀ dest ∈ dests, values dest ≠ []) (r : Record)
    (h : (Outcome.each (fun r dest => r.update dest mode (values dest))
      r dests).result = .ok ()) :
    ∀ dest ∈ dests,
      (Outcome.each (fun r dest => r.update dest mode (values dest))
        r dests).state.fields.slot? dest
        = some (.ofValues (values dest)) := by
  subst hmode
  induction dests generalizing r with
  | nil => exact nofun
  | cons first dests ih =>
      obtain ⟨hfirst, hdests⟩ := List.nodup_cons.mp hdests
      obtain ⟨hfound, hvalues⟩ := List.forall_mem_cons.mp hvalues
      rw [Outcome.each, Outcome.andThen] at h ⊢
      cases hstep : (r.update first .overwrite (values first)).result with
      | error e =>
          rw [hstep] at h
          cases h
      | ok answer =>
          rw [hstep] at h
          dsimp only at h ⊢
          refine List.forall_mem_cons.mpr ⟨?_, ih hdests hvalues _ h⟩
          have hothers : ∀ dest ∈ dests, dest ≠ first :=
            fun dest hdest heq => hfirst (heq ▸ hdest)
          rw [each_slot? hothers]
          exact update_overwritten hfound hstep

end Gathered

end Intake
