/-
Looking up and extracting a value that is a term as a whole.

Of all hits in such a value extraction keeps the one of the first entry with
that term: it spans the value, so all others overlap it (`findLeftmost_whole`).
Looking up merges the entries with that term instead. Entries have payloads, so
the two find the same if and only if the term is listed once.
-/
import Intake.Proofs.Stage.Checks
import Intake.Proofs.Stage.Extraction
import Intake.Proofs.Stage.Lookup

namespace Intake

open ExtractEntities (Built towns)
open WordMatcher (normalize)

variable {environment : Environment} {lookup : DictionaryLookup}
  {extraction : ExtractEntities} {entries : List DictionaryEntry}
  {matcher : WordMatcher} {r : Record} {source text : String}

-- ====================================================== terms that are listed

/-- The first entry with a term has all payloads of the term if it is the only
one, since any other had some, too. -/
theorem DictionaryEntry.payloads_eq_iff {p : DictionaryEntry → Bool}
    {entry : DictionaryEntry} (hfilled : ∀ entry ∈ entries, entry.Filled)
    (hfirst : entries.find? p = some entry) :
    entry.payloads = (entries.filter p).flatMap payloads
      ↔ entries.countP p = 1 := by
  rw [← List.head?_filter] at hfirst
  obtain ⟨rest, hrest⟩ := List.head?_eq_some_iff.mp hfirst
  rw [List.countP_eq_length_filter, hrest, List.flatMap_cons,
    List.self_eq_append_right, List.length_cons]
  cases rest with
  | nil => simp
  | cons other rest =>
      have hother : other ∈ entries.filter p := by simp [hrest]
      have hsome := (hfilled other (List.mem_of_mem_filter hother)).payloads
      simp [hsome]

-- ====================================================== the setting

/-- A lookup and an extraction over the same file, which has been read. They
handle case alike, and the extraction has been made from options that leave the
rest to its default. -/
structure OneDictionary (environment : Environment) (lookup : DictionaryLookup)
    (extraction : ExtractEntities) (entries : List DictionaryEntry) :
    Prop where
  lookupOptions : ∃ o, DictionaryLookup.new o = .ok lookup
  defaults : ∃ o, ExtractEntities.new o = .ok extraction
    ∧ ∀ key ∈ ["only_whole_words", "ignore_overlaps", "stop_on_hit",
        "use_payloads"], o.has key = false
  file : extraction.dictionaries = [lookup.path]
  ignoreCase : extraction.ignoreCase = lookup.ignoreCase
  load : Dictionary.load environment.files lookup.path = .ok entries

/-- An entry has the term that a text is, both as they are compared. -/
def DictionaryLookup.hasTerm (lookup : DictionaryLookup) (text : String)
    (entry : DictionaryEntry) : Bool :=
  lookup.key entry.term == lookup.key text

/-- A field has a single text and no other values, and the text is a term of a
dictionary. -/
structure HoldsTerm (lookup : DictionaryLookup)
    (entries : List DictionaryEntry) (r : Record) (source text : String) :
    Prop where
  slot : r.fields.slot? source = some (.single (some (.text text)))
  listed : ∃ entry ∈ entries, lookup.hasTerm text entry = true

/-- The text is the only value that is looked up. -/
theorem HoldsTerm.getStrings (h : HoldsTerm lookup entries r source text) :
    r.getStrings source = [text] := by
  rw [Record.getStrings, Record.getMany, FieldStore.getMany, h.slot]
  rfl

namespace OneDictionary

/-- The switches of the extraction have their defaults. -/
theorem reads_defaults
    (h : OneDictionary environment lookup extraction entries) :
    extraction.wholeWords = true ∧ extraction.ignoreOverlaps = true
      ∧ extraction.stopOnHit = false ∧ extraction.usePayloads = true := by
  obtain ⟨o, hnew, hmissing⟩ := h.defaults
  have hreads := ExtractEntities.new_reads hnew
  have hdefault {key : String} {default b : Bool}
      (hkey : key ∈ ["only_whole_words", "ignore_overlaps", "stop_on_hit",
        "use_payloads"])
      (hread : (o.getBool key).map (·.getD default) = .ok b) :
      b = default := by
    rw [StageOptions.getBool,
      StageOptions.read_of_absent (hmissing key hkey)] at hread
    exact (Except.ok.inj hread).symm
  exact ⟨hdefault (by simp) hreads.wholeWords,
    hdefault (by simp) hreads.ignoreOverlaps,
    hdefault (by simp) hreads.stopOnHit, hdefault (by simp) hreads.usePayloads⟩

/-- Looking a term up finds the payloads of all entries that have it. -/
theorem find_lookup (hholds : HoldsTerm lookup entries r source text) :
    lookup.find (.ofEntries lookup.key entries) r source
      = (lookup.payloadsFor entries text).map Value.text := by
  rw [DictionaryLookup.find_ofEntries, DictionaryLookup.found,
    hholds.getStrings, List.flatMap_singleton]

/-- The first entry that has the term has the only hit that is left. -/
theorem findLeftmost_eq
    (h : OneDictionary environment lookup extraction entries)
    (hbuilt : Built extraction entries matcher)
    (hholds : HoldsTerm lookup entries r source text) :
    ∃ entry hit, entries.find? (lookup.hasTerm text) = some entry
      ∧ entries[hit.term]? = some entry
      ∧ matcher.findLeftmost text = [hit] := by
  have hnormalize (s : String) :
      normalize matcher.ignoreCase s = (lookup.key s).toList := by
    rw [hbuilt.ignoreCase, h.ignoreCase]
    rfl
  have hterms (index : Nat) :
      matcher.terms[index]? = some (normalize matcher.ignoreCase text)
        ↔ ∃ entry, entries[index]? = some entry
            ∧ lookup.hasTerm text entry = true := by
    rw [hbuilt.terms, ← hbuilt.ignoreCase, List.getElem?_map,
      Option.map_eq_some_iff]
    simp only [hnormalize, String.toList_inj, DictionaryLookup.hasTerm,
      beq_iff_eq]
  obtain ⟨entry, hfirst⟩ :=
    Option.isSome_iff_exists.mp (List.find?_isSome.mpr hholds.listed)
  obtain ⟨hterm, index, hlt, hentry, hbefore⟩ :=
    List.find?_eq_some_iff_getElem.mp hfirst
  have hindex : entries[index]? = some entry :=
    List.getElem?_eq_some_iff.mpr ⟨hlt, hentry⟩
  refine ⟨entry, _, hfirst, hindex, WordMatcher.findLeftmost_whole ?_ ?_⟩
  · exact (hterms index).mpr ⟨entry, hindex, hterm⟩
  · intro i hi hsame
    obtain ⟨earlier, hearlier, hsame⟩ := (hterms i).mp hsame
    obtain ⟨_, rfl⟩ := List.getElem?_eq_some_iff.mp hearlier
    have hnot := hbefore i hi
    rw [hsame] at hnot
    cases hnot

/-- Extraction finds the payloads of the first entry that has the term. -/
theorem find_extraction
    (h : OneDictionary environment lookup extraction entries)
    (hbuilt : Built extraction entries matcher)
    (hholds : HoldsTerm lookup entries r source text) :
    ∃ entry, entries.find? (lookup.hasTerm text) = some entry
      ∧ extraction.find matcher entries r source
          = entry.payloads.map Value.text := by
  obtain ⟨-, hoverlaps, hstop, hpayloads⟩ := h.reads_defaults
  obtain ⟨entry, hit, hfirst, hentry, hhits⟩ := h.findLeftmost_eq hbuilt hholds
  refine ⟨entry, hfirst, ?_⟩
  have hextract : extraction.extract matcher entries text
      = entry.payloads.map Value.text := by
    rw [ExtractEntities.extract, hoverlaps, hstop, if_pos rfl,
      if_neg Bool.false_ne_true, hhits, List.flatMap_singleton,
      ExtractEntities.contribution_eq hentry, hpayloads, if_pos rfl]
  rw [ExtractEntities.find, hholds.getStrings, ExtractEntities.gather,
    ExtractEntities.gather, hextract, hstop, Bool.false_and,
    if_neg Bool.false_ne_true, List.append_nil]

/-- The two find the same if the term is listed once, and only then. -/
theorem find_eq_iff (h : OneDictionary environment lookup extraction entries)
    (hbuilt : Built extraction entries matcher)
    (hholds : HoldsTerm lookup entries r source text) :
    extraction.find matcher entries r source
        = lookup.find (.ofEntries lookup.key entries) r source
      ↔ entries.countP (lookup.hasTerm text) = 1 := by
  obtain ⟨entry, hfirst, hextraction⟩ := h.find_extraction hbuilt hholds
  rw [hextraction, find_lookup hholds,
    List.map_inj_right fun _ _ => Value.text.inj]
  exact DictionaryEntry.payloads_eq_iff (Dictionary.load_filled h.load) hfirst

/-- Both stages can be started, with the entries of the file in their
tables. -/
theorem starts (h : OneDictionary environment lookup extraction entries)
    (hentries : entries ≠ []) :
    DictionaryLookup.start environment lookup
        = .ok { lookup with table := some (.ofEntries lookup.key entries) } ()
      ∧ ∃ matcher, Built extraction entries matcher
        ∧ ExtractEntities.start environment extraction
          = .ok { extraction with loaded := some (matcher, entries) } () := by
  have hload : Dictionary.loadAll environment.files extraction.dictionaries
      = .ok entries := by
    rw [h.file]
    exact Dictionary.loadAll_singleton h.load
  obtain ⟨matcher, hbuilt, hstart⟩ := ExtractEntities.start_ok hload hentries
  exact ⟨DictionaryLookup.start_ok h.load, matcher, hbuilt, hstart _⟩

/-- Looking up and extracting find the same for a field if and only if the term
that the field holds is listed once. Extraction keeps to the first entry that
has the term, and looking up goes by all of them. What a started stage finds
for its sources is what it gathers and writes. -/
theorem find_eq_iff_listed_once
    (h : OneDictionary environment lookup extraction entries)
    (hentries : entries ≠ []) :
    ∃ table matcher,
      (∃ started, DictionaryLookup.start environment lookup = .ok started ()
        ∧ ∀ r : Record,
          started.process r = .ofChange (Gathered.write lookup.mode r
            (Gathered.collect (lookup.find table r) lookup.route.pairs)))
        ∧ (∃ started,
            ExtractEntities.start environment extraction = .ok started ()
          ∧ ∀ r : Record, started.process r
              = .ofChange (Gathered.write extraction.mode r
            (Gathered.collect (extraction.find matcher entries r)
              extraction.route.pairs)))
        ∧ ∀ (r : Record) (source text : String),
            HoldsTerm lookup entries r source text →
          lookup.find table r source
            = (lookup.payloadsFor entries text).map Value.text
            ∧ (∃ entry, entries.find? (lookup.hasTerm text) = some entry
              ∧ extraction.find matcher entries r source
                  = entry.payloads.map Value.text)
            ∧ (extraction.find matcher entries r source
                = lookup.find table r source
              ↔ entries.countP (lookup.hasTerm text) = 1) := by
  obtain ⟨hlookup, matcher, hbuilt, hextraction⟩ := h.starts hentries
  refine ⟨_, matcher, ⟨_, hlookup, fun r => rfl⟩,
    ⟨_, hextraction,
      ExtractEntities.process_loaded extraction matcher entries⟩, ?_⟩
  intro r source text hholds
  exact ⟨find_lookup hholds, h.find_extraction hbuilt hholds,
    h.find_eq_iff hbuilt hholds⟩

-- ================================================ a term that is listed twice

/-- Towns are looked up, whatever their case. -/
def townLookup : DictionaryLookup :=
  { name := "dictionary_lookup", route := ⟨["body"], ["town"]⟩,
    path := "f", ignoreCase := true,
    mode := .overwrite, table := none }

/-- Towns are extracted, whatever their case. -/
def townExtraction : ExtractEntities :=
  { ExtractEntities.townStage true with stopOnHit := false }

/-- The two stages share the dictionary of towns. -/
theorem towns_oneDictionary :
    ∃ environment,
      OneDictionary environment townLookup townExtraction towns := by
  obtain ⟨environment, hload⟩ := ExtractEntities.load_towns
  refine ⟨environment,
    ⟨⟨[("source", .array [.text "body"]), ("dest", .array [.text "town"]),
      ("dict_path", .text "f"), ("ignore_case", .bool true)]⟩, rfl⟩,
    ⟨⟨[("source", .array [.text "body"]), ("dest", .array [.text "town"]),
      ("dictionaries", .array [.text "f"]), ("ignore_case", .bool true)]⟩,
        rfl, by decide⟩,
    rfl, rfl, hload⟩

/-- A postcard on which a town is written, and nothing else. -/
def postcard (town : String) : Record :=
  { Record.new "postcard" with
    fields := { FieldStore.empty with
      fields := [⟨"body", .single (some (.text town)), some .text⟩] } }

/-- A town that is listed is a term that the postcard holds. -/
theorem postcard_holdsTerm {town : String}
    (h : ∃ entry ∈ towns, townLookup.hasTerm town entry = true) :
    HoldsTerm townLookup towns (postcard town) "body" town := ⟨rfl, h⟩

/-- York is listed once and New York twice. -/
theorem find_eq_iff_listed_once_towns :
    ∃ environment table matcher,
      OneDictionary environment townLookup townExtraction towns
        ∧ towns ≠ []
        ∧ HoldsTerm townLookup towns (postcard "York") "body" "York"
        ∧ HoldsTerm townLookup towns (postcard "New York") "body" "New York"
        ∧ townExtraction.find matcher towns (postcard "York") "body"
          = townLookup.find table (postcard "York") "body"
        ∧ townExtraction.find matcher towns (postcard "New York") "body"
          ≠ townLookup.find table (postcard "New York") "body" := by
  obtain ⟨environment, htowns⟩ := towns_oneDictionary
  have hyork : HoldsTerm townLookup towns (postcard "York") "body" "York" :=
    postcard_holdsTerm (by decide +kernel)
  have hnewYork :
      HoldsTerm townLookup towns (postcard "New York") "body" "New York" :=
    postcard_holdsTerm (by decide +kernel)
  obtain ⟨table, matcher, -, -, hfind⟩ :=
    htowns.find_eq_iff_listed_once (List.cons_ne_nil _ _)
  obtain ⟨-, -, honce⟩ := hfind _ _ _ hyork
  obtain ⟨-, -, htwice⟩ := hfind _ _ _ hnewYork
  refine ⟨environment, table, matcher, htowns, List.cons_ne_nil _ _,
    hyork, hnewYork, ?_, ?_⟩
  · exact honce.mpr (by decide +kernel)
  · exact fun hsame => absurd (htwice.mp hsame) (by decide +kernel)

/-- Extraction misses what the second entry for New York has. -/
theorem not_find_eq :
    ¬ ∀ (environment : Environment) (lookup : DictionaryLookup)
      (extraction : ExtractEntities)
        (entries : List DictionaryEntry),
      OneDictionary environment lookup extraction entries → entries ≠ [] →
        ∃ table matcher,
          DictionaryLookup.start environment lookup
            = .ok { lookup with table := some table } ()
            ∧ ExtractEntities.start environment extraction
              = .ok { extraction with loaded := some (matcher, entries) } ()
            ∧ ∀ (r : Record) (source text : String),
                HoldsTerm lookup entries r source text →
              extraction.find matcher entries r source
                = lookup.find table r source := by
  intro hall
  obtain ⟨environment, htowns⟩ := towns_oneDictionary
  obtain ⟨table, matcher, hlookup, hextraction, hsame⟩ :=
    hall _ _ _ _ htowns (List.cons_ne_nil _ _)
  have hnewYork :
      HoldsTerm townLookup towns (postcard "New York") "body" "New York" :=
    postcard_holdsTerm (by decide +kernel)
  obtain ⟨hlookup', matcher', hbuilt, hextraction'⟩ :=
    htowns.starts (List.cons_ne_nil _ _)
  rw [hlookup'] at hlookup
  cases hlookup
  rw [hextraction'] at hextraction
  cases hextraction
  have honce := (htowns.find_eq_iff hbuilt hnewYork).mp (hsame _ _ _ hnewYork)
  exact absurd honce (by decide +kernel)

end OneDictionary

end Intake
