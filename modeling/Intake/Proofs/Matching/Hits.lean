/-
The hits of a matcher.

The search compares octets and a hit is judged by characters. An occurrence of
a term among the octets of a text is one among its characters, since terms are
not empty (`mem_occurrences`), so the offsets of a hit divide the text where
characters begin and its neighbours are those of the term (`accepts_iff`).

Sorting moves hits only. So nothing is lost between the search and the hits,
and what is filtered out is what whole words leave out (`findAll_exact`).
-/
import Intake.Proofs.Matching.Search
import Intake.Proofs.Text.Boundary

namespace Intake

-- ====================================================== the order of hits

namespace Hit

/-- Leading is transitive. -/
theorem Leads.trans {a b c : Hit} (hab : a.Leads b) (hbc : b.Leads c) :
    a.Leads c := by
  rw [Leads] at hab hbc ⊢
  omega

/-- Of two hits one leads the other. -/
theorem leads_total (a b : Hit) : a.Leads b ∨ b.Leads a := by
  rw [Leads, Leads]
  omega

end Hit

namespace WordMatcher

variable {m : WordMatcher} {text before word after : List Char} {hit : Hit}

-- ====================================================== occurrences

/-- The occurrences in a text are those of terms among its characters. -/
theorem mem_occurrences :
    hit ∈ m.occurrences text ↔ ∃ before word after,
      hit.Marks Utf8.width m.terms text before word after := by
  have hfilled : ∀ term ∈ m.terms.map Utf8.encode, term ≠ [] := by
    intro term hterm
    obtain ⟨word, hword, rfl⟩ := List.mem_map.mp hterm
    exact List.length_pos_iff.mp (Utf8.width_pos (m.filled word hword))
  rw [occurrences, mem_search hfilled]
  constructor
  · rintro ⟨front, octets, back, hmarks⟩
    have hterm := hmarks.term
    rw [List.getElem?_map, Option.map_eq_some_iff] at hterm
    obtain ⟨word, hword, rfl⟩ := hterm
    obtain ⟨before, after, htext, rfl, rfl⟩ :=
      Utf8.encode_eq_append (m.filled word (List.mem_of_getElem? hword))
        hmarks.text
    refine ⟨before, word, after, hword, htext, hmarks.start, ?_⟩
    rw [hmarks.stop, Utf8.width, Utf8.encode_append]
  · rintro ⟨before, word, after, hmarks⟩
    refine ⟨Utf8.encode before, Utf8.encode word, Utf8.encode after,
      ?_, ?_, hmarks.start, ?_⟩
    · rw [List.getElem?_map, hmarks.term, Option.map_some]
    · rw [hmarks.text, Utf8.encode_append, Utf8.encode_append]
    · rw [hmarks.stop, Utf8.width, Utf8.encode_append]

-- ====================================================== neighbours

/-- No letter or number is next to what stands between two texts. -/
def Apart (before after : List Char) : Prop :=
  ∀ c, before.getLast? = some c ∨ after.head? = some c
    → Text.isAlphanumeric c = false

/-- A word stands apart if neither neighbour is a letter or a number. -/
theorem apart_iff :
    Apart before after ↔
      (before.getLast?.any Text.isAlphanumeric
        || after.head?.any Text.isAlphanumeric) = false := by
  rw [Bool.or_eq_false_iff, Apart]
  cases before.getLast? <;> cases after.head? <;> simp [or_imp, forall_and]

/-- The text in front of a hit, cut at its first octet. -/
theorem splitAt_start {terms : List (List Char)}
    (hmarks : hit.Marks Utf8.width terms text before word after) :
    Utf8.splitAt hit.start text = (before, word ++ after) := by
  rw [hmarks.start, hmarks.text, List.append_assoc, Utf8.splitAt_append]

/-- The text behind a hit, cut at its last octet. -/
theorem splitAt_stop {terms : List (List Char)}
    (hmarks : hit.Marks Utf8.width terms text before word after) :
    Utf8.splitAt hit.stop text = (before ++ word, after) := by
  rw [hmarks.stop, hmarks.text, Utf8.splitAt_append]

/-- An occurrence is accepted for its neighbours. -/
theorem accepts_iff
    (hmarks : hit.Marks Utf8.width m.terms text before word after) :
    m.accepts text hit = true
      ↔ (m.wholeWords = true → Apart before after) := by
  rw [accepts, splitAt_start hmarks, splitAt_stop hmarks, apart_iff]
  cases m.wholeWords with
  | false => simp
  | true => simp

-- ====================================================== all hits

/-- No hit is found twice. -/
theorem nodup_findAll (m : WordMatcher) (text : String) :
    (m.findAll text).Nodup :=
  (List.mergeSort_perm _ _).nodup_iff.mpr ((nodup_search _ _).filter _)

/-- The hits are the occurrences of terms, whole words if these are wanted. -/
theorem mem_findAll {text : String} :
    hit ∈ m.findAll text ↔ ∃ before word after,
      hit.Marks Utf8.width m.terms (normalize m.ignoreCase text)
        before word after
        ∧ (m.wholeWords = true → Apart before after) := by
  rw [findAll, List.mem_mergeSort, List.mem_filter, mem_occurrences]
  constructor
  · rintro ⟨⟨before, word, after, hmarks⟩, haccepted⟩
    exact ⟨before, word, after, hmarks, (accepts_iff hmarks).mp haccepted⟩
  · rintro ⟨before, word, after, hmarks, hapart⟩
    exact ⟨⟨before, word, after, hmarks⟩, (accepts_iff hmarks).mpr hapart⟩

/-- Hits are found in the order in which they lead. -/
theorem sorted_findAll (m : WordMatcher) (text : String) :
    (m.findAll text).Pairwise Hit.Leads := by
  refine (List.pairwise_mergeSort ?_ ?_ _).imp of_decide_eq_true
  · intro a b c hab hbc
    exact
      decide_eq_true ((of_decide_eq_true hab).trans (of_decide_eq_true hbc))
  · intro a b
    rw [Bool.or_eq_true, decide_eq_true_eq, decide_eq_true_eq]
    exact a.leads_total b

/-- A hit spans an octet at least. -/
theorem start_lt_stop {text : String} (h : hit ∈ m.findAll text) :
    hit.start < hit.stop := by
  obtain ⟨before, word, after, hmarks, -⟩ := mem_findAll.mp h
  have hword :=
    Utf8.width_pos (m.filled word (List.mem_of_getElem? hmarks.term))
  rw [hmarks.start, hmarks.stop, Utf8.width_append]
  exact Nat.lt_add_of_pos_right hword

-- ====================================================== a new matcher

/-- There is a matcher for terms of which none is empty. -/
theorem new_ok {terms : List String} (hterms : ∀ term ∈ terms, term ≠ "")
    (ignoreCase : Bool) :
    ∃ m, new terms ignoreCase = .ok m
      ∧ m.terms = terms.map (normalize ignoreCase)
      ∧ m.ignoreCase = ignoreCase := by
  have hnone : terms.findIdx? String.isEmpty = none := by
    rw [List.findIdx?_eq_none_iff]
    intro term hterm
    simpa using hterms term hterm
  rw [new]
  split
  · next hsome =>
      rw [hnone] at hsome
      cases hsome
  · exact ⟨_, rfl, rfl, rfl⟩

/-- A new matcher tells once, and in order, exactly the occurrences of its
terms in the text as it is compared; if whole words are wanted, only those that
no letter or number is next to. -/
theorem findAll_exact {terms : List String}
    (hterms : ∀ term ∈ terms, term ≠ "") (ignoreCase : Bool) :
    ∃ m, new terms ignoreCase = .ok m ∧ ∀ (wholeWords : Bool) (text : String),
      let hits := findAll { m with wholeWords } text
      hits.Nodup ∧ hits.Pairwise Hit.Leads
        ∧ ∀ hit, hit ∈ hits ↔ ∃ before word after,
        hit.Marks Utf8.width (terms.map (normalize ignoreCase))
          (normalize ignoreCase text)
            before word after
          ∧ (wholeWords = true → Apart before after) := by
  obtain ⟨m, hm, hnames, rfl⟩ := new_ok hterms ignoreCase
  refine ⟨m, hm, fun wholeWords text =>
    ⟨nodup_findAll _ _, sorted_findAll _ _, fun hit => ?_⟩⟩
  rw [mem_findAll, ← hnames]

/-- Offsets are octets, of which `é` has two. Behind `n` it is no word of its
own. -/
theorem findAll_exact_accents :
    (∀ term ∈ ["é", "né"], term ≠ "") ∧ ∃ m, new ["é", "né"] true = .ok m
      ∧ ⟨1, 0, 3⟩ ∈ findAll { m with wholeWords := true } "Né!"
      ∧ ⟨0, 1, 3⟩ ∉ findAll { m with wholeWords := true } "Né!"
      ∧ ⟨0, 1, 3⟩ ∈ findAll { m with wholeWords := false } "Né!" := by
  have hterms : ∀ term ∈ ["é", "né"], term ≠ "" := by decide
  obtain ⟨m, hm, hexact⟩ := findAll_exact hterms true
  refine ⟨hterms, m, hm, ((hexact true "Né!").2.2 _).mpr ?_, fun hmem => ?_,
    ((hexact false "Né!").2.2 _).mpr ?_⟩
  · refine ⟨[], ['n', 'é'], ['!'],
      ⟨by decide, by decide, by decide, by decide⟩, fun _ => ?_⟩
    rw [apart_iff]
    decide
  · obtain ⟨before, word, after, hmarks, hapart⟩ :=
      ((hexact true "Né!").2.2 _).mp hmem
    have hbefore : ['n'] = before := congrArg Prod.fst (splitAt_start hmarks)
    have hletter := hapart rfl 'n' (Or.inl (hbefore ▸ rfl))
    exact absurd hletter (by decide)
  · exact ⟨['n'], ['é'], ['!'], ⟨by decide, by decide, by decide, by decide⟩,
      nofun⟩

end WordMatcher

end Intake
