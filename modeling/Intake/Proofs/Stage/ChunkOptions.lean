/-
What options a stage is accepted with that divides texts.

The options are checked one after the other, most of them by themselves: their
names, what kind of document each of them is, and the bounds of the integers.
Three conditions are about several options (`Accepted`): the custom method
needs a separator, the fixed one a size, and chunks are shared by windows only
if these hold more, and if no text is borrowed. The conditions of the checks
come to those of `Accepted`, so there is nothing else that is refused and
nothing of this that is let through (`new_accepts`).
-/
import Intake.Stage.ChunkText
import Intake.Proofs.Record.Reading
import Intake.Proofs.Stage.Checks

namespace Intake.ChunkText

open Record (bind_eq_ok)
open StageOptions (checked_integer checked_getText)

variable {o : StageOptions} {key : String}

-- ====================================================== accepted options

/-- All options that there are. -/
def optionNames : List String :=
  ["type", "name", "source", "dest", "chunking_method", "regex",
   "length_to_split", "clean_chunks", "pre_merge_min_chunk_len",
   "pre_merge_max_chunk_len", "chunks_to_merge", "chunks_to_overlap",
   "overlap_percentage", "character_limit"]

/-- The methods by name. -/
def methodNames : List String := ["fixed", "paragraph", "sentence", "custom"]

/-- Two texts that differ in the case of ASCII letters at most. -/
def SameLetters (s t : String) : Prop :=
  UpdateMode.lowerAscii s = UpdateMode.lowerAscii t

/-- The options name a method, in whatever case. -/
def Names (o : StageOptions) (method : String) : Prop :=
  ∃ s, o.get? "chunking_method" = some (.text s) ∧ SameLetters s method

/-- The document is a positive integer. -/
def IsPositive (j : Json) : Prop := j.IsInteger fun i => 0 < i

/-- Options that make a stage. -/
structure Accepted (o : StageOptions) : Prop where
  declared : ∀ key ∈ o.keys, key ∈ optionNames
  source : ∃ s, o.get? "source" = some (.text s)
  dest : o.IfGiven "dest" Json.IsText
  regex : o.IfGiven "regex" Json.IsText
  method : o.IfGiven "chunking_method" fun j =>
    ∃ s, j = .text s ∧ ∃ method ∈ methodNames, SameLetters s method
  custom : Names o "custom" →
    ∃ s, o.get? "regex" = some (.text s) ∧ s ≠ ""
      ∧ (Pattern.parse s).isSome = true
  size : o.IfGiven "length_to_split" IsPositive
  fixed : Names o "fixed" → o.has "length_to_split" = true
  leastLength : o.IfGiven "pre_merge_min_chunk_len" IsPositive
  greatestLength : o.IfGiven "pre_merge_max_chunk_len" IsPositive
  limit : o.IfGiven "character_limit" IsPositive
  merged : o.IfGiven "chunks_to_merge" (Json.IsInteger fun i => 1 ≤ i)
  borrowed : o.IfGiven "overlap_percentage"
    (Json.IsInteger fun i => 0 ≤ i ∧ i ≤ 100)
  shared : o.IfGiven "chunks_to_overlap" fun j =>
    j.IsInteger (fun i => 0 ≤ i ∧ i < o.integer "chunks_to_merge" 1)
      ∧ o.IfGiven "overlap_percentage" (Json.IsInteger fun i => i = 0)
  cleans : o.IfGiven "clean_chunks" Json.IsBool

-- =================================================== the checks by themselves

/-- The declared options are the ones that there are. -/
theorem declares_iff : spec.declares key = true ↔ key ∈ optionNames := by
  simp only [StageSpec.declares, StageSpec.commonOptions, spec, optionNames,
    Bool.or_eq_true, List.contains_iff_mem, List.mem_cons, List.not_mem_nil,
    or_false, or_assoc]

/-- The source is required, and there are no options of other names. -/
theorem checked_validate :
    Checked (spec.validate o)
      (o.has "source" = true ∧ ∀ key ∈ o.keys, key ∈ optionNames) := by
  refine (spec.checked_validate o).congr (and_congr ?_ ?_)
  · exact List.forall_mem_singleton
  · simp only [declares_iff]

/-- A size passes if it is positive or missing. -/
theorem checked_positive :
    Checked (positive o key) (o.IfGiven key IsPositive) := by
  refine checked_integer 1 (by decide) fun given hgiven => ?_
  cases given with
  | none => exact .passed none (by rw [← hgiven]; decide)
  | some i =>
      rw [← hgiven]
      dsimp only [Option.getD_some]
      split
      · next hpos => exact .passed _ hpos
      · next hpos => exact .refused _ _ hpos

/-- Chunks may be merged by any number from one on. -/
theorem checked_readMerged :
    Checked (readMerged o)
      (o.IfGiven "chunks_to_merge" (Json.IsInteger fun i => 1 ≤ i)) := by
  refine checked_integer 1 (by decide) fun given hgiven => ?_
  dsimp only
  rw [hgiven]
  split
  · next hlt => exact .refused _ _ (by omega)
  · next hle => exact .passed _ (by omega)

/-- A number of chunks that passed is the one that the options give. -/
theorem readMerged_eq {merged : Int} (h : readMerged o = .ok merged) :
    merged = o.integer "chunks_to_merge" 1 := by
  obtain ⟨given, hgiven, h⟩ := bind_eq_ok.mp h
  rw [← StageOptions.getD_getLong hgiven]
  dsimp only at h
  split at h
  · cases h
  · exact (Except.ok.inj h).symm

/-- A percentage passes if it is one, or missing. -/
theorem checked_readBorrowed :
    Checked (readBorrowed o)
      (o.IfGiven "overlap_percentage"
        (Json.IsInteger fun i => 0 ≤ i ∧ i ≤ 100)) := by
  refine checked_integer 0 (by decide) fun given hgiven => ?_
  dsimp only
  rw [hgiven]
  split
  · next hout => exact .refused _ _ (by omega)
  · next hin => exact .passed _ (by omega)

/-- A percentage that passed is the one that the options give, and not
negative. -/
theorem readBorrowed_eq {borrowed : Int} (h : readBorrowed o = .ok borrowed) :
    borrowed = o.integer "overlap_percentage" 0 ∧ 0 ≤ borrowed := by
  obtain ⟨given, hgiven, h⟩ := bind_eq_ok.mp h
  rw [← StageOptions.getD_getLong hgiven]
  dsimp only at h
  split at h
  · cases h
  · next hin =>
      obtain rfl := Except.ok.inj h
      exact ⟨rfl, by omega⟩

/-- A size that was read is there if and only if the option is. -/
theorem isSome_positive {size : Option Nat} (h : positive o key = .ok size) :
    size.isSome = o.has key := by
  obtain ⟨given, hgiven, h⟩ := bind_eq_ok.mp h
  rw [← StageOptions.isSome_read hgiven]
  cases given with
  | none =>
      obtain rfl := Except.ok.inj h
      rfl
  | some i =>
      dsimp only at h
      split at h
      · obtain rfl := Except.ok.inj h
        rfl
      · cases h

/-- A percentage that has passed its check is nothing if it is missing or
zero. -/
theorem readBorrowed_eq_zero_iff {borrowed : Int}
    (h : readBorrowed o = .ok borrowed) :
    o.IfGiven "overlap_percentage" (Json.IsInteger fun i => i = 0)
      ↔ borrowed = 0 := by
  have hgiven :
      o.IfGiven "overlap_percentage" (Json.IsInteger fun _ => True) := by
    have hpassed : Checked (readBorrowed o) _ := checked_readBorrowed
    rw [h] at hpassed
    intro j hj
    obtain ⟨i, hi, -⟩ := hpassed.holds j hj
    exact ⟨i, hi, trivial⟩
  rw [← StageOptions.ifGiven_isInteger_iff (p := fun i => i = 0) 0 rfl,
    ← (readBorrowed_eq h).1, and_iff_right hgiven]

-- ====================================================== the method

/-- A method in the letters that name it. -/
def MethodName.text : MethodName → String
  | .fixed => "fixed"
  | .paragraph => "paragraph"
  | .sentence => "sentence"
  | .custom => "custom"

/-- Every method has its name. -/
theorem mem_methodNames {method : String} :
    method ∈ methodNames ↔ ∃ name : MethodName, method = name.text := by
  constructor
  · intro h
    simp only [methodNames, List.mem_cons, List.not_mem_nil, or_false] at h
    rcases h with rfl | rfl | rfl | rfl
    · exact ⟨.fixed, rfl⟩
    · exact ⟨.paragraph, rfl⟩
    · exact ⟨.sentence, rfl⟩
    · exact ⟨.custom, rfl⟩
  · rintro ⟨name, rfl⟩
    cases name <;> decide

/-- Names of methods are in lower case already. -/
theorem sameLetters_iff {s : String} (name : MethodName) :
    SameLetters s name.text ↔ UpdateMode.lowerAscii s = name.text := by
  have hlower : UpdateMode.lowerAscii name.text = name.text := by
    cases name <;> decide
  rw [SameLetters, hlower]

/-- A text names one method at most. -/
theorem methodName?_eq_ok {s : String} {name : MethodName} :
    methodName? s = .ok name ↔ SameLetters s name.text := by
  rw [sameLetters_iff, methodName?]
  constructor
  · intro h
    split at h
    · next hfixed => exact Except.ok.inj h ▸ hfixed
    split at h
    · next hparagraph => exact Except.ok.inj h ▸ hparagraph
    split at h
    · next hsentence => exact Except.ok.inj h ▸ hsentence
    split at h
    · next hcustom => exact Except.ok.inj h ▸ hcustom
    · cases h
  · intro h
    rw [h]
    cases name <;> rfl

/-- The name of a method passes in whatever case. -/
theorem checked_methodName (s : String) :
    Checked ((methodName? s).mapError (refusal o))
      (∃ method ∈ methodNames, SameLetters s method) := by
  cases hname : methodName? s with
  | ok name =>
      exact .passed name ⟨name.text, mem_methodNames.mpr ⟨name, rfl⟩,
        methodName?_eq_ok.mp hname⟩
  | error message =>
      refine .refused _ _ fun ⟨method, hmethod, hsame⟩ => ?_
      obtain ⟨name, rfl⟩ := mem_methodNames.mp hmethod
      rw [methodName?_eq_ok.mpr hsame] at hname
      cases hname

/-- So does an option that is one, or that is missing. -/
theorem checked_readName :
    Checked (readName o) (o.IfGiven "chunking_method" fun j =>
      ∃ s, j = .text s ∧ ∃ method ∈ methodNames, SameLetters s method) := by
  have hcheck : Checked (readName o) (o.IfGiven "chunking_method" Json.IsText
      ∧ o.IfGiven "chunking_method" fun j =>
        ∃ s, j = .text s ∧ ∃ method ∈ methodNames, SameLetters s method) := by
    refine checked_getText.bind fun value hvalue => ?_
    have hget := StageOptions.get?_of_getText hvalue
    cases value with
    | none => exact .passed _ (StageOptions.ifGiven_of_none hget)
    | some s =>
        refine (checked_methodName s).congr ?_
        rw [StageOptions.ifGiven_iff_of_some hget]
        exact ⟨fun h => ⟨s, rfl, h⟩, fun ⟨_, hs, h⟩ => Json.text.inj hs ▸ h⟩
  refine hcheck.congr (and_iff_right_of_imp fun h j hj => ?_)
  obtain ⟨s, rfl, -⟩ := h j hj
  exact ⟨s, rfl⟩

/-- A method other than that of sentences is the one that the options name. -/
theorem names_iff {name : MethodName} (h : readName o = .ok name)
    (other : MethodName) (hother : other ≠ .sentence) :
    Names o other.text ↔ name = other := by
  obtain ⟨value, hvalue, h⟩ := bind_eq_ok.mp h
  have hget := StageOptions.get?_of_getText hvalue
  rw [Names, hget]
  cases value with
  | none =>
      obtain rfl := Except.ok.inj h
      exact
        ⟨fun ⟨_, hs, _⟩ => (nomatch hs), fun hsame => absurd hsame.symm hother⟩
  | some s =>
      have hname : methodName? s = .ok name := by
        dsimp only at h
        cases hread : methodName? s with
        | ok name' =>
            rw [hread] at h
            exact congrArg Except.ok (Except.ok.inj h)
        | error message =>
            rw [hread] at h
            cases h
      have hletters : SameLetters s other.text ↔ name = other := by
        rw [← methodName?_eq_ok, hname, Except.ok.injEq]
      rw [← hletters]
      exact ⟨fun ⟨_, hs, h⟩ => Json.text.inj (Option.some.inj hs) ▸ h,
        fun h => ⟨s, rfl, h⟩⟩

-- ====================================================== what a method needs

/-- A separator passes if it is a pattern that is not empty. -/
theorem checked_separator (pattern : Option String) :
    Checked (separator o pattern)
      (∃ s, pattern = some s ∧ s ≠ "" ∧ (Pattern.parse s).isSome = true) := by
  unfold separator
  cases pattern with
  | none => exact .refused _ _ fun ⟨_, hs, _⟩ => nomatch hs
  | some s =>
      dsimp only
      split
      · next hempty =>
          refine .refused _ _ fun ⟨_, hs, hne, _⟩ => hne ?_
          rw [← Option.some.inj hs]
          exact String.isEmpty_iff.mp hempty
      · next hempty =>
          have hne : s ≠ "" := fun h => hempty (String.isEmpty_iff.mpr h)
          split
          · next pattern hpattern =>
              exact .passed _ ⟨s, rfl, hne, by rw [hpattern]; rfl⟩
          · next hpattern =>
              refine .refused _ _ fun ⟨_, hs, _, hsome⟩ => ?_
              rw [← Option.some.inj hs, hpattern] at hsome
              cases hsome

/-- The pattern has to be a text, and it is read as one for the custom method
alone. -/
theorem checked_readSeparator (name : MethodName) :
    Checked (readSeparator o name)
      (o.IfGiven "regex" Json.IsText ∧ (name = .custom →
        ∃ s, o.get? "regex" = some (.text s) ∧ s ≠ ""
          ∧ (Pattern.parse s).isSome = true)) := by
  refine checked_getText.bind fun pattern hpattern => ?_
  rw [StageOptions.get?_of_getText hpattern]
  split
  · next hcustom =>
      refine (checked_separator pattern).congr ?_
      simp only [hcustom, forall_const, Option.map_eq_some_iff,
        Json.text.injEq, exists_eq_right]
  · next hother => exact .passed _ fun hcustom => absurd hcustom hother

/-- The checks of the method, with what the method needs of other options. -/
theorem checked_readMethod : Checked (readMethod o)
    ((o.IfGiven "chunking_method" fun j =>
        ∃ s, j = .text s ∧ ∃ method ∈ methodNames, SameLetters s method)
      ∧ (o.IfGiven "regex" Json.IsText ∧ (Names o "custom" →
        ∃ s, o.get? "regex" = some (.text s) ∧ s ≠ ""
          ∧ (Pattern.parse s).isSome = true))
      ∧ o.IfGiven "length_to_split" IsPositive
      ∧ (Names o "fixed" → o.has "length_to_split" = true)) := by
  refine checked_readName.bind fun name hname => ?_
  have hcustom : Names o "custom" ↔ name = .custom :=
    names_iff hname .custom nofun
  have hfixed : Names o "fixed" ↔ name = .fixed := names_iff hname .fixed nofun
  rw [hcustom, hfixed]
  refine (checked_readSeparator name).bind fun program _ => ?_
  refine checked_positive.bind fun size hsize => ?_
  rw [← isSome_positive hsize]
  cases name with
  | fixed =>
      cases size with
      | some size => exact .passed _ fun _ => rfl
      | none => exact .refused _ _ fun h => nomatch h rfl
  | paragraph => exact .passed _ nofun
  | sentence => exact .passed _ nofun
  | custom => exact .passed _ nofun

-- ====================================================== shared chunks

/-- The number of shared chunks passes if it is less than what the windows hold
and no text is borrowed. -/
theorem checked_readShared {merged borrowed : Int}
    (hmerged : readMerged o = .ok merged)
    (hborrowed : readBorrowed o = .ok borrowed) :
    Checked (readShared o merged borrowed)
      (o.IfGiven "chunks_to_overlap" fun j =>
        j.IsInteger (fun i => 0 ≤ i ∧ i < o.integer "chunks_to_merge" 1)
          ∧ o.IfGiven "overlap_percentage"
              (Json.IsInteger fun i => i = 0)) := by
  rw [readBorrowed_eq_zero_iff hborrowed, ← readMerged_eq hmerged]
  have hcheck : Checked (readShared o merged borrowed)
      (o.IfGiven "chunks_to_overlap" (Json.IsInteger fun _ => True)
        ∧ o.IfGiven "chunks_to_overlap" fun j =>
          j.IsInteger (fun i => 0 ≤ i ∧ i < merged) ∧ borrowed = 0) := by
    refine StageOptions.checked_getLong.bind fun given hgiven => ?_
    obtain ⟨found, hget, rfl⟩ := StageOptions.get?_of_getLong hgiven
    cases found with
    | none => exact .passed _ (StageOptions.ifGiven_of_none hget)
    | some i =>
        rw [StageOptions.ifGiven_iff_of_some hget,
          StageOptions.isInteger_ofLong]
        have hnonneg := (readBorrowed_eq hborrowed).2
        dsimp only [Option.map_some]
        split
        · next hpos => exact .refused _ _ (by omega)
        · split
          · next hout => exact .refused _ _ (by omega)
          · next hin => exact .passed _ (by omega)
  refine hcheck.congr (and_iff_right_of_imp fun h j hj => ?_)
  obtain ⟨⟨i, hi, -⟩, -⟩ := h j hj
  exact ⟨i, hi, trivial⟩

-- ====================================================== all checks

/-- All checks together come to the conditions of accepted options. -/
theorem checked_new (o : StageOptions) : Checked (new o) (Accepted o) := by
  have hcheck : Checked (new o) _ :=
    checked_validate.bind fun _ _ =>
    checked_readMethod.bind fun method _ =>
    checked_readMerged.bind fun merged hmerged =>
    checked_readBorrowed.bind fun borrowed hborrowed =>
    (checked_readShared hmerged hborrowed).bind fun shared _ =>
    StageOptions.checked_requireText.bind fun source _ =>
    checked_getText.bind fun dest _ =>
    StageOptions.checked_getBool.bind fun cleans _ =>
    checked_positive.bind fun leastLength _ =>
    checked_positive.bind fun greatestLength _ =>
    checked_positive.bind fun limit _ => .passed _ trivial
  refine hcheck.congr ⟨?_, fun h => ?_⟩
  · rintro ⟨⟨-, hdeclared⟩, ⟨hmethod, ⟨hregex, hcustom⟩, hsize, hfixed⟩,
      hmerged, hborrowed, hshared, hsource, hdest, hcleans, hleast, hgreatest,
      hlimit, -⟩
    exact ⟨hdeclared, hsource, hdest, hregex, hmethod, hcustom, hsize, hfixed,
      hleast, hgreatest, hlimit, hmerged, hborrowed, hshared, hcleans⟩
  · have hsource : o.has "source" = true := by
      obtain ⟨s, hs⟩ := h.source
      rw [StageOptions.has, hs]
      rfl
    exact ⟨⟨hsource, h.declared⟩,
      ⟨h.method, ⟨h.regex, h.custom⟩, h.size, h.fixed⟩, h.merged,
      h.borrowed, h.shared, h.source, h.dest, h.cleans, h.leastLength,
      h.greatestLength, h.limit, trivial⟩

/-- Options make a stage if they are accepted, and are refused with a
configuration error otherwise. -/
theorem new_accepts (o : StageOptions) :
    (Accepted o ∧ ∃ stage, new o = .ok stage)
      ∨ (¬Accepted o ∧ ∃ name message,
          new o = .error (.config name message)) := by
  have hcheck := checked_new o
  generalize new o = made at hcheck
  cases hcheck with
  | passed stage holds => exact .inl ⟨holds, stage, rfl⟩
  | refused name message fails => exact .inr ⟨fails, name, message, rfl⟩

end Intake.ChunkText
