/-
What extraction finds, and what stopping at a hit leaves of it.

Every entry has payloads, so a hit contributes something and values are
gathered from a text if there is a hit in it. That makes the values a test for
hits: the search stops at the first text with a hit. Of that text only the
first hit counts, which is the same whether hits that overlap are resolved or
not, because resolving them keeps the first (`head?_leftmost_zero`).
-/
import Intake.Stage.ExtractEntities
import Intake.Proofs.Matching.Entries
import Intake.Proofs.Matching.FirstHit
import Intake.Proofs.Stage.Gathering

namespace Intake

-- ====================================================== options

namespace StageOptions

variable {o o' : StageOptions} {changed key : String}

/-- Options that have the same members but for one key. -/
def SameBut (changed : String) (o o' : StageOptions) : Prop :=
  ∀ key, key ≠ changed → o'.get? key = o.get? key

/-- Options that agree on the name and the type of the stage have the same
label. -/
theorem SameBut.label (h : SameBut changed o o') (hname : changed ≠ "name")
    (htype : changed ≠ "type") (otherwise : String) :
    o'.label otherwise = o.label otherwise := by
  rw [StageOptions.label, StageOptions.label, stageType, stageType,
    h "name" hname.symm, h "type" htype.symm]

/-- Any other option is read alike, with the same errors. -/
theorem SameBut.read {α : Type} (h : SameBut changed o o')
    (hname : changed ≠ "name") (htype : changed ≠ "type")
    (hkey : key ≠ changed) (expected : String) (view : Json → Option α) :
    o'.read key expected view = o.read key expected view := by
  rw [StageOptions.read, StageOptions.read, h key hkey, wrongType, wrongType,
    readingLabel, readingLabel, h.label hname htype]

end StageOptions

namespace ExtractEntities

open WordMatcher (normalize)

variable {o o' : StageOptions} {stage other : ExtractEntities}
  {environment : Environment} {entries : List DictionaryEntry}
  {matcher : WordMatcher} {text : String} {hit : Hit}

/-- What accepted options are read as. -/
structure Reads (o : StageOptions) (stage : ExtractEntities) : Prop where
  name : stage.name = o.label "extract_entities"
  route : Route.read o stage.name = .ok stage.route
  dictionaries :
    (o.getTextList "dictionaries").map (·.getD []) = .ok stage.dictionaries
  ignoreCase :
    (o.getBool "ignore_case").map (·.getD false) = .ok stage.ignoreCase
  wholeWords :
    (o.getBool "only_whole_words").map (·.getD true) = .ok stage.wholeWords
  ignoreOverlaps : (o.getBool "ignore_overlaps").map (·.getD true)
    = .ok stage.ignoreOverlaps
  stopOnHit : (o.getBool "stop_on_hit").map (·.getD false)
    = .ok stage.stopOnHit
  usePayloads :
    (o.getBool "use_payloads").map (·.getD true) = .ok stage.usePayloads
  mode : o.updateMode = .ok stage.mode
  loaded : stage.loaded = none

/-- Accepted options were read one after the other. -/
theorem new_reads (h : new o = .ok stage) : Reads o stage := by
  obtain ⟨_, -, h⟩ := Record.bind_eq_ok.mp h
  obtain ⟨route, hroute, h⟩ := Record.bind_eq_ok.mp h
  obtain ⟨dictionaries, hdictionaries, h⟩ := Record.bind_eq_ok.mp h
  dsimp only at h
  split at h
  · cases h
  · obtain ⟨ignoreCase, hignoreCase, h⟩ := Record.bind_eq_ok.mp h
    obtain ⟨wholeWords, hwholeWords, h⟩ := Record.bind_eq_ok.mp h
    obtain ⟨ignoreOverlaps, hignoreOverlaps, h⟩ := Record.bind_eq_ok.mp h
    obtain ⟨stopOnHit, hstopOnHit, h⟩ := Record.bind_eq_ok.mp h
    obtain ⟨usePayloads, husePayloads, h⟩ := Record.bind_eq_ok.mp h
    obtain ⟨mode, hmode, h⟩ := Record.bind_eq_ok.mp h
    cases h
    exact
      { name := rfl
        route := hroute
        dictionaries := congrArg (Except.map _) hdictionaries
        ignoreCase := congrArg (Except.map _) hignoreCase
        wholeWords := congrArg (Except.map _) hwholeWords
        ignoreOverlaps := congrArg (Except.map _) hignoreOverlaps
        stopOnHit := congrArg (Except.map _) hstopOnHit
        usePayloads := congrArg (Except.map _) husePayloads
        mode := hmode
        loaded := rfl }

/-- Options are read as one stage only. -/
theorem Reads.unique (h : Reads o stage) (h' : Reads o other) :
    other = stage := by
  have hok {α : Type} {x : Except StageError α} {a b : α} (ha : x = .ok a)
      (hb : x = .ok b) : b = a :=
    Except.ok.inj (hb.symm.trans ha)
  have hname : other.name = stage.name := h'.name.trans h.name.symm
  have hroute : other.route = stage.route := hok h.route (hname ▸ h'.route)
  have hdictionaries := hok h.dictionaries h'.dictionaries
  have hignoreCase := hok h.ignoreCase h'.ignoreCase
  have hwholeWords := hok h.wholeWords h'.wholeWords
  have hignoreOverlaps := hok h.ignoreOverlaps h'.ignoreOverlaps
  have hstopOnHit := hok h.stopOnHit h'.stopOnHit
  have husePayloads := hok h.usePayloads h'.usePayloads
  have hmode := hok h.mode h'.mode
  have hloaded := h'.loaded.trans h.loaded.symm
  cases stage
  cases other
  simp_all only

/-- Options that differ in how overlaps are handled make stages that differ in
that. -/
theorem Reads.eq_of_sameBut (h : Reads o stage) (h' : Reads o' other)
    (hsame : StageOptions.SameBut "ignore_overlaps" o o') :
    other = { stage with ignoreOverlaps := other.ignoreOverlaps } := by
  have hlabel := hsame.label (by decide) (by decide)
  have hread {α : Type} {key : String} (hkey : key ≠ "ignore_overlaps")
      (expected : String) (view : Json → Option α) :
      o'.read key expected view = o.read key expected view :=
    hsame.read (by decide) (by decide) hkey expected view
  have hbool {key : String} (hkey : key ≠ "ignore_overlaps") :
      o'.getBool key = o.getBool key :=
    hread hkey _ _
  have hlist {key : String} (hkey : key ≠ "ignore_overlaps") :
      o'.getTextList key = o.getTextList key := hread hkey _ _
  have hmode : o'.updateMode = o.updateMode := by
    rw [StageOptions.updateMode, StageOptions.updateMode, StageOptions.getText,
      StageOptions.getText, hread (by decide), StageOptions.readingLabel,
      StageOptions.readingLabel, hlabel]
  have hroute (name : String) : Route.read o' name = Route.read o name := by
    rw [Route.read, Route.read, hlist (by decide), hlist (by decide)]
  refine Reads.unique (o := o') ?_ h'
  exact
    { name := h.name.trans (hlabel _).symm
      route := (hroute _).trans h.route
      dictionaries := by rw [hlist (by decide)]; exact h.dictionaries
      ignoreCase := by rw [hbool (by decide)]; exact h.ignoreCase
      wholeWords := by rw [hbool (by decide)]; exact h.wholeWords
      ignoreOverlaps := h'.ignoreOverlaps
      stopOnHit := by rw [hbool (by decide)]; exact h.stopOnHit
      usePayloads := by rw [hbool (by decide)]; exact h.usePayloads
      mode := hmode.trans h.mode
      loaded := h.loaded }

-- ====================================================== hits

/-- A hit in a text is accepted: the term of an entry stands there, both as
they are compared, with no letter or number next to it if only whole words are
wanted. -/
def Accepts (stage : ExtractEntities) (entries : List DictionaryEntry)
    (text : String) (hit : Hit) : Prop :=
  ∃ before word after,
    hit.Marks Utf8.width
      (entries.map fun entry => normalize stage.ignoreCase entry.term)
        (normalize stage.ignoreCase text) before word after
      ∧ (stage.wholeWords = true → WordMatcher.Apart before after)

/-- The matcher is the one of a stage for some entries. -/
structure Built (stage : ExtractEntities) (entries : List DictionaryEntry)
    (matcher : WordMatcher) : Prop where
  terms : matcher.terms = entries.map fun entry =>
    normalize stage.ignoreCase entry.term
  ignoreCase : matcher.ignoreCase = stage.ignoreCase
  wholeWords : matcher.wholeWords = stage.wholeWords

/-- The hits of the matcher are the accepted ones. -/
theorem Built.mem_findAll (h : Built stage entries matcher) :
    hit ∈ matcher.findAll text ↔ stage.Accepts entries text hit := by
  rw [WordMatcher.mem_findAll, Accepts, h.terms, h.ignoreCase, h.wholeWords]

/-- A stage with entries can be started, and its matcher does not depend on how
it handles overlaps. -/
theorem start_ok
    (hload : Dictionary.loadAll environment.files stage.dictionaries
      = .ok entries)
    (hentries : entries ≠ []) :
    ∃ matcher, Built stage entries matcher ∧ ∀ ignoreOverlaps,
      start environment { stage with ignoreOverlaps }
        = .ok { stage with ignoreOverlaps, loaded := some (matcher, entries) }
            () := by
  have hterms : ∀ term ∈ entries.map DictionaryEntry.term, term ≠ "" := by
    intro term hterm
    obtain ⟨entry, hentry, rfl⟩ := List.mem_map.mp hterm
    exact (Dictionary.loadAll_filled hload entry hentry).term
  obtain ⟨matcher, hmatcher, hnames, hcase⟩ :=
    WordMatcher.new_ok hterms stage.ignoreCase
  refine ⟨{ matcher with wholeWords := stage.wholeWords },
    ⟨?_, hcase, rfl⟩, fun _ => ?_⟩
  · rw [hnames, List.map_map]
    rfl
  · obtain ⟨first, rest, rfl⟩ := List.exists_cons_of_ne_nil hentries
    simp only [start, hload, hmatcher]

/-- An accepted hit is of an entry. -/
theorem Accepts.entry (h : stage.Accepts entries text hit) :
    ∃ entry, entries[hit.term]? = some entry ∧ entry ∈ entries := by
  obtain ⟨before, word, after, hmarks, -⟩ := h
  have hterm := hmarks.term
  rw [List.getElem?_map, Option.map_eq_some_iff] at hterm
  obtain ⟨entry, hentry, -⟩ := hterm
  exact ⟨entry, hentry, List.mem_of_getElem? hentry⟩

/-- Only the switch that stops at hits matters to how texts are gone
through. -/
theorem gather_congr (h : other.stopOnHit = stage.stopOnHit)
    (extract : String → List Value) (texts : List String) :
    other.gather extract texts = stage.gather extract texts := by
  induction texts with
  | nil => rfl
  | cons text texts ih => rw [gather, gather, ih, h]

/-- Stages that extract alike and stop alike find the same. -/
theorem find_congr
    (hextract : other.extract matcher entries = stage.extract matcher entries)
    (hstop : other.stopOnHit = stage.stopOnHit) (r : Record) :
    other.find matcher entries r = stage.find matcher entries r := by
  funext source
  rw [find, find, hextract, gather_congr hstop]

/-- A stage with its entries loaded writes what it finds for its sources. -/
theorem process_loaded (stage : ExtractEntities) (matcher : WordMatcher)
    (entries : List DictionaryEntry) (r : Record) :
    process { stage with loaded := some (matcher, entries) } r
      = .ofChange (Gathered.write stage.mode r
          (Gathered.collect (stage.find matcher entries r)
            stage.route.pairs)) := by
  have hfind :
      find { stage with loaded := some (matcher, entries) } matcher entries r
        = find stage matcher entries r := by
    apply find_congr
    · rfl
    · rfl
  rw [process]
  dsimp only
  rw [hfind]

/-- A hit stands for the payloads of its entry, or for its term. -/
theorem contribution_eq {entry : DictionaryEntry}
    (h : entries[hit.term]? = some entry) :
    stage.contribution entries hit
      = (if stage.usePayloads then entry.payloads
          else [entry.term]).map Value.text := by
  rw [contribution, h]
  dsimp only
  split
  · rfl
  · rfl

-- ====================================================== stopping at a hit

/-- What a field contributes when the search stops at a hit: nothing if there
is no accepted hit in any of its texts; or else what one hit stands for, the
first accepted one of the first text that has any. -/
inductive OneHit (stage : ExtractEntities) (entries : List DictionaryEntry)
    (texts : List String) : List Value → Prop
  | none (hnone : ∀ text ∈ texts, ∀ hit, ¬stage.Accepts entries text hit) :
      OneHit stage entries texts []
  | one {before after : List String} {text : String} {hit : Hit}
      {entry : DictionaryEntry}
      (htexts : texts = before ++ text :: after)
      (hbefore : ∀ earlier ∈ before, ∀ hit, ¬stage.Accepts entries earlier hit)
      (haccepted : stage.Accepts entries text hit)
      (hfirst : ∀ other, stage.Accepts entries text other → other ≠ hit
        → hit.Precedes other)
      (hentry : entries[hit.term]? = some entry)
      (hpayloads : entry.payloads ≠ []) :
      OneHit stage entries texts
        ((if stage.usePayloads then entry.payloads
          else [entry.term]).map Value.text)

/-- A text without a hit is passed over. -/
theorem OneHit.skip {texts : List String} {values : List Value}
    (hskip : ∀ hit, ¬stage.Accepts entries text hit)
    (h : OneHit stage entries texts values) :
    OneHit stage entries (text :: texts) values := by
  cases h with
  | none hnone => exact .none (List.forall_mem_cons.mpr ⟨hskip, hnone⟩)
  | one htexts hbefore haccepted hfirst hentry hpayloads =>
      exact .one (congrArg (text :: ·) htexts)
        (List.forall_mem_cons.mpr ⟨hskip, hbefore⟩)
        haccepted hfirst hentry hpayloads

/-- Nothing is contributed only where nothing is hit. -/
theorem OneHit.eq_nil_iff {texts : List String} {values : List Value}
    (h : OneHit stage entries texts values) :
    values = [] ↔ ∀ text ∈ texts, ∀ hit, ¬stage.Accepts entries text hit := by
  cases h with
  | none hnone => exact ⟨fun _ => hnone, fun _ => rfl⟩
  | @one before after text hit entry htexts hbefore haccepted
      hfirst hentry hpayloads =>
      constructor
      · intro hnil
        rw [List.map_eq_nil_iff] at hnil
        split at hnil
        · exact absurd hnil hpayloads
        · cases hnil
      · intro hnone
        exact absurd haccepted (hnone text (by simp [htexts]) hit)

/-- Two ways to the first text of a kind lead to the same text. -/
theorem first_unique {α : Type} {p : α → Prop}
    {before before' after after' : List α} {x x' : α}
    (h : before ++ x :: after = before' ++ x' :: after')
    (hbefore : ∀ y ∈ before, ¬p y) (hbefore' : ∀ y ∈ before', ¬p y) (hx : p x)
    (hx' : p x') : x = x' := by
  rcases List.append_eq_append_iff.mp h with
    ⟨more, rfl, hmore⟩ | ⟨more, rfl, hmore⟩
  · cases more with
    | nil => exact (List.cons.inj hmore).1
    | cons y more =>
        obtain ⟨rfl, -⟩ := List.cons.inj hmore
        exact absurd hx (hbefore' x (by simp))
  · cases more with
    | nil => exact (List.cons.inj hmore).1.symm
    | cons y more =>
        obtain ⟨rfl, -⟩ := List.cons.inj hmore
        exact absurd hx' (hbefore x' (by simp))

/-- What a field contributes is settled by the hits in its texts. -/
theorem OneHit.unique {texts : List String} {values values' : List Value}
    (h : OneHit stage entries texts values)
    (h' : OneHit stage entries texts values') :
    values = values' := by
  cases h with
  | none hnone => exact (h'.eq_nil_iff.mpr hnone).symm
  | @one _ _ _ hit _ htexts hbefore haccepted hfirst hentry =>
      cases h' with
      | none hnone => exact absurd haccepted (hnone _ (by simp [htexts]) _)
      | @one _ _ _ hit' _ htexts' hbefore' haccepted' hfirst' hentry' =>
          have htext :=
            first_unique
              (p := fun text => ∃ hit, stage.Accepts entries text hit)
              (htexts.symm.trans htexts')
              (fun y hy => not_exists.mpr (hbefore y hy))
              (fun y hy => not_exists.mpr (hbefore' y hy))
              ⟨_, haccepted⟩ ⟨_, haccepted'⟩
          subst htext
          have hhit : hit = hit' := by
            by_contra hne
            exact (hfirst hit' haccepted' (Ne.symm hne)).asymm
              (hfirst' hit haccepted hne)
          subst hhit
          rw [hentry] at hentry'
          cases hentry'
          rfl

/-- A text contributes what its first hit stands for, whether hits overlap or
not. -/
theorem extract_stop (hstop : stage.stopOnHit = true) :
    stage.extract matcher entries text
      = (matcher.findAll text).head?.toList.flatMap
          (stage.contribution entries) := by
  simp only [extract, if_pos hstop, List.take_one]
  split
  · rw [WordMatcher.findLeftmost, WordMatcher.head?_leftmost_zero]
  · rfl

/-- What is found is the same however overlaps are handled. -/
theorem find_stop (hstop : stage.stopOnHit = true) (ignoreOverlaps : Bool)
    (r : Record) :
    find { stage with ignoreOverlaps } matcher entries r
      = find stage matcher entries r := by
  refine find_congr (funext fun _ => ?_) ?_ r
  · exact (extract_stop (by exact hstop)).trans (extract_stop hstop).symm
  · rfl

/-- The first text that anything was extracted from is the last one to be
looked at. -/
theorem gather_cons_stop (hstop : stage.stopOnHit = true)
    (extract : String → List Value) (text : String) (texts : List String) :
    stage.gather extract (text :: texts)
      = if extract text = [] then stage.gather extract texts
        else extract text := by
  rw [gather, hstop, Bool.true_and]
  cases extract text with
  | nil => rfl
  | cons value values => rfl

/-- The search stops at the first text with a hit, since a hit stands for
something. -/
theorem gather_stop (hstop : stage.stopOnHit = true)
    (hbuilt : Built stage entries matcher)
    (hfilled : ∀ entry ∈ entries, entry.Filled) (texts : List String) :
    OneHit stage entries texts
      (stage.gather (stage.extract matcher entries) texts) := by
  induction texts with
  | nil => exact .none nofun
  | cons text texts ih =>
      rw [gather_cons_stop hstop, extract_stop hstop]
      cases hhead : (matcher.findAll text).head? with
      | none =>
          refine OneHit.skip (fun hit haccepted => ?_) ih
          have hmem := hbuilt.mem_findAll.mpr haccepted
          rw [List.head?_eq_none_iff.mp hhead] at hmem
          cases hmem
      | some hit =>
          have haccepted := hbuilt.mem_findAll.mp (List.mem_of_head? hhead)
          obtain ⟨entry, hentry, hmem⟩ := haccepted.entry
          have hone : OneHit stage entries (text :: texts) _ :=
            .one (List.nil_append (text :: texts)).symm nofun haccepted
              (fun other hother =>
                WordMatcher.precedes_of_head? hhead other
                  (hbuilt.mem_findAll.mpr hother))
              hentry (hfilled entry hmem).payloads
          rw [Option.toList_some, List.flatMap_singleton,
            contribution_eq hentry, if_neg]
          · exact hone
          · intro hnil
            exact hone.eq_nil_iff.mp hnil text List.mem_cons_self hit haccepted

-- ====================================================== the whole

/-- A stage that stops at hits, with its dictionaries loaded, handles every
record like this. A field contributes nothing if none of its values has an
accepted hit, and only then; or else what one hit stands for, the payloads of
its entry, of which there are some, or the term alone. The hit is the leftmost
of the first value that has any, of those the longest, and of those the one
listed first (`OneHit`). What the fields contribute is written to their
destinations, each of which is updated once. All this is the same for options
that handle overlaps differently. -/
theorem process_stops_at_hit (hnew : new o = .ok stage)
    (hstop : o.getBool "stop_on_hit" = .ok (some true))
    (hload : Dictionary.loadAll environment.files stage.dictionaries
      = .ok entries)
    (hentries : entries ≠ []) :
    ∃ found : Record → String → List Value,
      (∀ r source, OneHit stage entries (r.getStrings source) (found r source))
        ∧ (∀ r source, found r source = []
            ↔ ∀ text ∈ r.getStrings source, ∀ hit,
                ¬stage.Accepts entries text hit)
        ∧ ∀ o' other, StageOptions.SameBut "ignore_overlaps" o o'
        → new o' = .ok other →
            ∃ started, start environment other = .ok started () ∧ ∀ r : Record,
              let values := Gathered.valuesFor (found r) stage.route.pairs
              let hits := Gathered.hits (found r) stage.route.pairs
              started.process r
                = .ofChange
                    (Outcome.each
                      (fun r dest => r.update dest stage.mode (values dest))
                      r hits) := by
  have hreads := new_reads hnew
  have hstops : stage.stopOnHit = true := by
    have hread := hreads.stopOnHit
    rw [hstop] at hread
    exact (Except.ok.inj hread).symm
  obtain ⟨matcher, hbuilt, hstart⟩ := start_ok hload hentries
  have hone (r : Record) (source : String) :
      OneHit stage entries (r.getStrings source)
        (stage.find matcher entries r source) :=
    gather_stop hstops hbuilt (Dictionary.loadAll_filled hload) _
  refine ⟨stage.find matcher entries, hone,
    fun r source => (hone r source).eq_nil_iff, ?_⟩
  intro o' other hsame hother
  rw [hreads.eq_of_sameBut (new_reads hother) hsame]
  refine ⟨_, hstart _, fun r => ?_⟩
  have hprocess :=
    process_loaded { stage with ignoreOverlaps := other.ignoreOverlaps }
      matcher entries r
  rw [find_stop hstops, Gathered.write_collect] at hprocess
  exact hprocess

/-- Options that find towns in the body of a letter. -/
def townOptions (ignoreOverlaps : Bool) : StageOptions :=
  ⟨[("ignore_overlaps", .bool ignoreOverlaps),
    ("source", .array [.text "body"]), ("dest", .array [.text "town"]),
    ("dictionaries", .array [.text "f"]),
    ("ignore_case", .bool true), ("stop_on_hit", .bool true)]⟩

/-- The options for the letter differ in how overlaps are handled only. -/
theorem townOptions_sameBut (ignoreOverlaps : Bool) :
    StageOptions.SameBut "ignore_overlaps" (townOptions true)
      (townOptions ignoreOverlaps) := by
  intro key hkey
  have hothers (b : Bool) :
      (townOptions b).get? key
        = Json.lookup key (townOptions b).members.tail := if_neg hkey.symm
  rw [hothers, hothers]
  rfl

/-- The stage that these options make. -/
def townStage (ignoreOverlaps : Bool) : ExtractEntities :=
  { name := "extract_entities", route := ⟨["body"], ["town"]⟩,
    dictionaries := ["f"],
    ignoreCase := true, wholeWords := true, ignoreOverlaps, stopOnHit := true,
    usePayloads := true, mode := .overwrite, loaded := none }

/-- A dictionary of towns, in which one is listed twice. -/
def towns : List DictionaryEntry :=
  [⟨"york", ["York"]⟩, ⟨"new york", ["New York", "NY"]⟩,
    ⟨"New York", ["Big Apple"]⟩]

/-- There is a file from which these entries are loaded. -/
theorem load_towns :
    ∃ environment : Environment, Dictionary.load environment.files "f"
      = .ok towns := by
  have hentries : Dictionary.ofOctets (Utf8.encode
        "york,York\nnew york,New York,NY\nNew York,Big Apple\n".toList)
      = some towns := by
    decide +kernel
  exact ⟨_, Dictionary.load_oneFile hentries⟩

/-- A letter with a greeting, a null and the name of a town. -/
def letter : Record :=
  { Record.new "letter" with
    fields := { FieldStore.empty with
      fields :=
        [⟨"body",
          .multi
            [some (.text "Dear friend"), none, some (.text "in New York")],
          some .text⟩] } }

/-- The matcher for the towns. -/
def townMatcher : WordMatcher :=
  ⟨["york".toList, "new york".toList, "new york".toList], true, true,
    by decide⟩

/-- The hits of the matcher can be listed. -/
theorem accepts_towns {hits : List Hit}
    (h : (townMatcher.occurrences (normalize true text)).filter
      (townMatcher.accepts (normalize true text)) = hits) :
    (townStage true).Accepts towns text hit ↔ hit ∈ hits := by
  have hbuilt : Built (townStage true) towns townMatcher :=
    ⟨by decide +kernel, rfl, rfl⟩
  rw [← hbuilt.mem_findAll, WordMatcher.findAll, List.mem_mergeSort, ← h]
  rfl

/-- There is no town in the first text and there are three in the second, which
overlap. -/
theorem oneHit_letter :
    OneHit (townStage true) towns (letter.getStrings "body")
      [.text "New York", .text "NY"] := by
  have hgreeting (hit : Hit) :
      (townStage true).Accepts towns "Dear friend" hit
        ↔ hit ∈ ([] : List Hit) :=
    accepts_towns (by decide +kernel)
  have hplace (hit : Hit) : (townStage true).Accepts towns "in New York" hit
      ↔ hit ∈ [⟨0, 7, 11⟩, ⟨1, 3, 11⟩, ⟨2, 3, 11⟩] :=
    accepts_towns (by decide +kernel)
  have htexts :
      letter.getStrings "body" = ["Dear friend"] ++ "in New York" :: [] := rfl
  have hentry : towns[1]? = some ⟨"new york", ["New York", "NY"]⟩ := rfl
  refine @OneHit.one (townStage true) towns _ _ _ _ ⟨1, 3, 11⟩ _ htexts ?_
    ((hplace _).mpr (by simp)) ?_ hentry (List.cons_ne_nil _ _)
  · refine List.forall_mem_singleton.mpr fun hit => ?_
    rw [hgreeting]
    exact List.not_mem_nil
  · intro other hother hne
    rw [hplace, List.mem_cons, List.mem_cons, List.mem_singleton] at hother
    rcases hother with rfl | rfl | rfl
    · exact .inl (by decide)
    · exact absurd rfl hne
    · exact .inr ⟨rfl, .inr ⟨rfl, by decide⟩⟩

/-- For the letter both payloads of the longest name are written, however
overlaps are handled. -/
theorem process_stops_at_hit_letter :
    new (townOptions true) = .ok (townStage true)
      ∧ (townOptions true).getBool "stop_on_hit" = .ok (some true)
      ∧ towns ≠ []
      ∧ ∃ environment : Environment,
        Dictionary.loadAll environment.files (townStage true).dictionaries
          = .ok towns
          ∧ ∀ ignoreOverlaps, new (townOptions ignoreOverlaps)
              = .ok (townStage ignoreOverlaps)
            ∧ ∃ started, start environment (townStage ignoreOverlaps)
                = .ok started ()
              ∧ (started.process letter).state.fields.slot? "town"
                = some (.multi [some (.text "New York"),
                    some (.text "NY")]) := by
  obtain ⟨environment, hfile⟩ := load_towns
  have hload := Dictionary.loadAll_singleton hfile
  have hnew (ignoreOverlaps : Bool) :
      new (townOptions ignoreOverlaps) = .ok (townStage ignoreOverlaps) := rfl
  obtain ⟨found, hone, -, hstart⟩ :=
    process_stops_at_hit (hnew true) rfl hload (List.cons_ne_nil _ _)
  have hfound := (hone letter "body").unique oneHit_letter
  have hhit : Gathered.hits (found letter) (townStage true).route.pairs
      = ["town"] := by
    simp [Gathered.hits, townStage, Route.pairs, hfound, List.eraseDups_cons]
  have hvalues :
      Gathered.valuesFor (found letter) (townStage true).route.pairs "town"
        = [.text "New York", .text "NY"] := by
    simp [Gathered.valuesFor, townStage, Route.pairs, hfound]
  refine ⟨rfl, rfl, List.cons_ne_nil _ _, environment, hload,
    fun ignoreOverlaps => ⟨hnew _, ?_⟩⟩
  obtain ⟨started, hstarted, hprocess⟩ :=
    hstart _ _ (townOptions_sameBut ignoreOverlaps) (hnew ignoreOverlaps)
  refine ⟨started, hstarted, ?_⟩
  rw [hprocess, hhit]
  simp only [Outcome.each, hvalues]
  rfl

end ExtractEntities

end Intake
