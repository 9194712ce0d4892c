/-
Looking whole values up writes every destination once, from the record as it
was.

The table of a dictionary has merged the entries of a term, and what it gives
for a term are the payloads of all its entries in the order of the file
(`payloads?_ofEntries`). All fields are looked up before any is written. What
is left is how findings are gathered and written (`Proofs/Stage/Gathering`).
-/
import Intake.Stage.DictionaryLookup
import Intake.Proofs.Matching.Entries
import Intake.Proofs.Stage.Gathering

namespace Intake

-- ====================================================== tables

namespace PayloadTable

variable {key : String → String} {term : String}

theorem lookup_cons_eq (known : String) (payloads : List String)
    (rows : List (String × List String)) :
    ((known, payloads) :: rows).lookup term
      = if known = term then some payloads else rows.lookup term := by
  rw [List.lookup_cons]
  by_cases h : known = term
  · rw [if_pos h, beq_iff_eq.mpr h.symm]
  · rw [if_neg h, beq_false_of_ne (Ne.symm h)]

/-- Extending a table adds payloads to those of one term, and leaves the others
as they are. -/
theorem lookup_extend (added : String) (payloads : List String)
    (rows : List (String × List String)) :
    (extend added payloads rows).lookup term
      = if added = term then some ((rows.lookup term).getD [] ++ payloads)
        else rows.lookup term := by
  induction rows with
  | nil => exact lookup_cons_eq added payloads []
  | cons row rows ih =>
      obtain ⟨known, earlier⟩ := row
      rw [extend, lookup_cons_eq]
      by_cases hknown : known = added
      · subst hknown
        rw [if_pos rfl, lookup_cons_eq]
        by_cases hterm : known = term
        · simp [hterm]
        · simp [hterm]
      · rw [if_neg hknown, lookup_cons_eq, ih]
        by_cases hterm : known = term
        · have hother : added ≠ term :=
            fun heq => hknown (hterm.trans heq.symm)
          simp [hterm, hother]
        · simp [hterm]

/-- The table gives the payloads of all entries of a term, in their order. -/
theorem payloads?_ofEntries (key : String → String)
    (entries : List DictionaryEntry) (term : String) :
    ((ofEntries key entries).payloads? term).getD []
      = (entries.filter fun entry => key entry.term == term).flatMap
          DictionaryEntry.payloads := by
  induction entries using List.reverseRecOn with
  | nil => rfl
  | append_singleton entries entry ih =>
      have hstep : (ofEntries key (entries ++ [entry])).payloads? term
          = if key entry.term = term then
              some (((ofEntries key entries).payloads? term).getD []
                ++ entry.payloads)
            else (ofEntries key entries).payloads? term := by
        rw [payloads?, ofEntries, List.foldl_append, payloads?, ofEntries]
        exact lookup_extend _ _ _
      rw [hstep, List.filter_append, List.flatMap_append, ← ih,
        List.filter_singleton]
      by_cases h : key entry.term = term
      · rw [if_pos h, beq_iff_eq.mpr h]
        simp
      · rw [if_neg h, beq_eq_false_iff_ne.mpr h]
        simp

end PayloadTable

namespace DictionaryLookup

variable {o : StageOptions} {stage : DictionaryLookup}
  {environment : Environment} {entries : List DictionaryEntry}

-- ====================================================== options

/-- Accepted options have a route that matches. -/
theorem new_matched (h : new o = .ok stage) : stage.route.Matched := by
  obtain ⟨_, -, h⟩ := Record.bind_eq_ok.mp h
  obtain ⟨route, hroute, h⟩ := Record.bind_eq_ok.mp h
  obtain ⟨path, -, h⟩ := Record.bind_eq_ok.mp h
  obtain ⟨ignoreCase, -, h⟩ := Record.bind_eq_ok.mp h
  obtain ⟨mode, -, h⟩ := Record.bind_eq_ok.mp h
  cases h
  exact Route.read_matched hroute

-- ====================================================== what is found

/-- The payloads of all entries whose term equals a value as both are compared,
in the order of the entries. -/
def payloadsFor (stage : DictionaryLookup) (entries : List DictionaryEntry)
    (value : String) : List String :=
  (entries.filter fun entry => stage.key entry.term == stage.key value).flatMap
    DictionaryEntry.payloads

/-- The findings for a source: the payloads for each of its values that are not
null. -/
def found (stage : DictionaryLookup) (entries : List DictionaryEntry)
    (r : Record) (source : String) : List Value :=
  ((r.getStrings source).flatMap (stage.payloadsFor entries)).map Value.text

/-- Values that nothing is found for add nothing. -/
theorem flatten_filterMap {α β : Type} (f : α → Option (List β))
    (xs : List α) :
    (xs.filterMap f).flatten = xs.flatMap fun x => (f x).getD [] := by
  induction xs with
  | nil => rfl
  | cons x xs ih =>
      cases h : f x with
      | none => simp [h, ih]
      | some ys => simp [h, ih]

/-- The stage finds what its entries give. -/
theorem find_ofEntries (stage : DictionaryLookup)
    (entries : List DictionaryEntry) (r : Record) :
    stage.find (.ofEntries stage.key entries) r = stage.found entries r := by
  funext source
  simp only [find, found, flatten_filterMap, PayloadTable.payloads?_ofEntries]
  rfl

-- ====================================================== the whole

/-- A stage whose dictionary loads can be started, and merges the entries into
a table. -/
theorem start_ok
    (hload : Dictionary.load environment.files stage.path = .ok entries) :
    start environment stage
      = .ok { stage with table := some (.ofEntries stage.key entries) }
          () := by
  rw [start, hload]

/-- A stage made from accepted options, with its dictionary loaded, handles
every record like this. What is found for a source is looked up in the record
as it was. A destination that something was found for is updated once, with all
that was found for its sources in their order, and the destinations come in the
order of the first source that hit them; nothing else is done. So what is
overwritten is all that was found, also where sources share their destination
or are destinations themselves. -/
theorem process_updates_once (hnew : new o = .ok stage)
    (hload : Dictionary.load environment.files stage.path = .ok entries) :
    stage.route.pairs.map (fun pair => (pair.1, some pair.2))
        = stage.route.sources.zipIdx.map
            (fun source => (source.1, stage.route.destFor source.2))
      ∧ ∃ started, start environment stage = .ok started () ∧ ∀ r : Record,
          let values :=
            Gathered.valuesFor (stage.found entries r) stage.route.pairs
          let hits := Gathered.hits (stage.found entries r) stage.route.pairs
          let update (r : Record) (dest : String) :=
            r.update dest stage.mode (values dest)
          hits.Nodup
            ∧ (∀ dest, dest ∈ hits ↔ values dest ≠ [])
            ∧ started.process r = .ofChange (Outcome.each update r hits)
            ∧ ∀ further, (started.process r).result = .ok further →
                further = none
                  ∧ (started.process r).state
                      = hits.foldl (fun r dest => (update r dest).state) r
                  ∧ (stage.mode = .overwrite → ∀ dest ∈ hits,
                      (started.process r).state.fields.slot? dest
                        = some (.ofValues (values dest))) := by
  refine ⟨(new_matched hnew).pairs_eq, _, start_ok hload, fun r => ?_⟩
  intro values hits update
  have hnodup : hits.Nodup := Gathered.nodup_hits _ _
  have hprocess :
      process { stage with table := some (.ofEntries stage.key entries) } r
        = .ofChange (Outcome.each update r hits) := by
    have hfind :
        find { stage with table := some (.ofEntries stage.key entries) }
          (.ofEntries stage.key entries) r = stage.found entries r :=
        find_ofEntries stage entries r
    rw [process]
    dsimp only
    rw [hfind, Gathered.write_collect]
  refine
    ⟨hnodup, fun _ => Gathered.mem_hits, hprocess, fun further hfurther => ?_⟩
  rw [hprocess] at hfurther ⊢
  obtain ⟨rfl, hdone, hstate⟩ := StageResult.ofChange_ok hfurther
  rw [hstate]
  refine ⟨rfl, Outcome.each_ok hdone, fun hmode => ?_⟩
  exact Gathered.overwritten hmode hnodup
    (fun _ hdest => Gathered.mem_hits.mp hdest) r hdone

/-- Places and what they lie in, with a place that is listed twice. -/
def places : List UInt8 :=
  Utf8.encode "Oslo,Norway\nNorway,Europe\n# a comment\nOslo,Nordic\n".toList

/-- Two sources share a destination, which is the second of them. -/
def regionOptions : StageOptions :=
  ⟨[("source", .array [.text "city", .text "region"]),
    ("dest", .array [.text "region"]),
    ("dict_path", .text "f")]⟩

/-- The stage that these options make. -/
def regionStage : DictionaryLookup :=
  { name := "dictionary_lookup", route := ⟨["city", "region"], ["region"]⟩,
    path := "f",
    ignoreCase := false, mode := .overwrite, table := none }

/-- A visit to a city, with its region written down. -/
def visit : Record :=
  { Record.new "visit" with
    fields := { FieldStore.empty with
      fields := [⟨"city", .single (some (.text "Oslo")), some .text⟩,
        ⟨"region", .single (some (.text "Norway")), some .text⟩] } }

/-- Places with what they lead to, one of them twice. -/
def listed : List DictionaryEntry :=
  [⟨"Oslo", ["Norway"]⟩, ⟨"Norway", ["Europe"]⟩, ⟨"Oslo", ["Nordic"]⟩]

/-- The region is looked up as it was, and kept behind what the city leads
to. -/
theorem process_updates_once_visit :
    new regionOptions = .ok regionStage
      ∧ Dictionary.load (Dictionary.oneFile places).files regionStage.path
          = .ok listed
      ∧ ∃ started, start (Dictionary.oneFile places) regionStage
          = .ok started ()
        ∧ (started.process visit).result = .ok none
        ∧ (started.process visit).state.fields.slot? "region"
          = some (.multi [some (.text "Norway"), some (.text "Nordic"),
              some (.text "Europe")]) := by
  have hnew : new regionOptions = .ok regionStage := rfl
  have hentries : Dictionary.ofOctets places = some listed := by decide +kernel
  have hload :
      Dictionary.load (Dictionary.oneFile places).files regionStage.path
        = .ok listed :=
    Dictionary.load_oneFile hentries
  obtain ⟨-, started, hstart, hprocess⟩ := process_updates_once hnew hload
  obtain ⟨-, hhits, hupdates, hgood⟩ := hprocess visit
  have hresult : (started.process visit).result = .ok none := by
    rw [hupdates]
    rfl
  obtain ⟨-, -, hwritten⟩ := hgood none hresult
  have hregion :
      "region" ∈ Gathered.hits (regionStage.found listed visit)
        regionStage.route.pairs :=
    (hhits "region").mpr nofun
  exact ⟨hnew, hload, started, hstart, hresult, hwritten rfl "region" hregion⟩

end DictionaryLookup

end Intake
