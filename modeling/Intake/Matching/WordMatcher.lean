/-
Finding any of several terms in a text.

The search compares octets and tells every occurrence of every term,
overlapping ones too. When only whole words are wanted, the characters on
either side of an occurrence must not be letters or numbers; the term
itself may be any text. Ignoring case lowers both the terms and the text,
so the offsets of an occurrence are octets of the lowered text.
-/
import Intake.Text.Alphanumeric
import Intake.Text.Lowercase
import Intake.Text.Utf8

namespace Intake

/-- An occurrence: the index of the term and the octets it spans. -/
structure Hit where
  term : Nat
  start : Nat
  stop : Nat
deriving DecidableEq, Repr

/-- The hit starts first, or is at least as long as another that starts with
it. -/
def Hit.Leads (a b : Hit) : Prop :=
  a.start < b.start ∨ a.start = b.start ∧ b.stop ≤ a.stop

instance (a b : Hit) : Decidable (a.Leads b) :=
  inferInstanceAs (Decidable (_ ∨ _))

/-- Terms to look for, as they are compared, none of them empty, and what
counts as a hit. -/
structure WordMatcher where
  terms : List (List Char)
  ignoreCase : Bool
  wholeWords : Bool
  filled : ∀ term ∈ terms, term ≠ []
deriving Repr

namespace WordMatcher

/-- The text as it is compared. -/
def normalize (ignoreCase : Bool) (text : String) : List Char :=
  (if ignoreCase then Text.lowercase text else text).toList

/-- A term that is not empty is not empty as it is compared either: lowercasing
leaves something of every character. -/
theorem normalize_ne_nil (ignoreCase : Bool) {term : String}
    (h : term.isEmpty = false) :
    normalize ignoreCase term ≠ [] := by
  have hchars : term.toList ≠ [] := fun hnil => by
    rw [String.toList_eq_nil_iff.mp hnil] at h
    cases h
  rw [normalize]
  cases ignoreCase with
  | false => exact hchars
  | true => exact Text.lowercase_ne_nil hchars

/-- Where no term is empty, none is empty as it is compared. -/
theorem filled_of_findIdx? (ignoreCase : Bool) {terms : List String}
    (h : terms.findIdx? String.isEmpty = none) :
    ∀ term ∈ terms.map (normalize ignoreCase), term ≠ [] := by
  intro term hterm
  obtain ⟨t, ht, rfl⟩ := List.mem_map.mp hterm
  exact normalize_ne_nil ignoreCase (List.findIdx?_eq_none_iff.mp h t ht)

/-- A matcher for whole words. No term is empty. -/
def new (terms : List String) (ignoreCase : Bool) :
    Except String WordMatcher :=
  match h : terms.findIdx? String.isEmpty with
  | some index => .error ("term " ++ toString index ++ " is empty")
  | none =>
    .ok ⟨terms.map (normalize ignoreCase), ignoreCase, true,
      filled_of_findIdx? ignoreCase h⟩

-- ====================================================== the search

/-- The occurrences that end behind some octets. These and the terms are given
last octet first. -/
def endingBehind (terms : List (List UInt8)) (stop : Nat) (read : List UInt8) :
    List Hit :=
  terms.zipIdx.filterMap fun (term, index) =>
    if term.isPrefixOf read then some ⟨index, stop - term.length, stop⟩
    else none

/-- The occurrences that end within octets still to be read. -/
def searchBehind (terms : List (List UInt8)) (stop : Nat) (read : List UInt8) :
    List UInt8 → List Hit
  | [] => []
  | b :: rest =>
    endingBehind terms (stop + 1) (b :: read)
      ++ searchBehind terms (stop + 1) (b :: read) rest

/-- The occurrences of terms in a text, those first that end first. -/
def search (terms : List (List UInt8)) (text : List UInt8) : List Hit :=
  searchBehind (terms.map List.reverse) 0 [] text

-- ====================================================== hits

/-- The neighbours of an occurrence allow it. -/
def accepts (m : WordMatcher) (text : List Char) (hit : Hit) : Bool :=
  let before := (Utf8.splitAt hit.start text).1.getLast?
  let after := (Utf8.splitAt hit.stop text).2.head?
  !m.wholeWords
    || !(before.any Text.isAlphanumeric || after.any Text.isAlphanumeric)

/-- The occurrences of the terms in a text as it is compared. -/
def occurrences (m : WordMatcher) (text : List Char) : List Hit :=
  search (m.terms.map Utf8.encode) (Utf8.encode text)

/-- Some accepted hit lies in the text. -/
def isMatch (m : WordMatcher) (text : String) : Bool :=
  let text := normalize m.ignoreCase text
  (m.occurrences text).any (m.accepts text)

/-- All hits, by their start and then the longer ones first. -/
def findAll (m : WordMatcher) (text : String) : List Hit :=
  let text := normalize m.ignoreCase text
  ((m.occurrences text).filter (m.accepts text)).mergeSort fun a b =>
    decide (a.Leads b)

/-- The hits that begin where the last one kept has ended. -/
def leftmost (bound : Nat) : List Hit → List Hit
  | [] => []
  | hit :: hits =>
    if bound ≤ hit.start then hit :: leftmost hit.stop hits
    else leftmost bound hits

/-- Hits without overlap, the leftmost kept and of those the longest. -/
def findLeftmost (m : WordMatcher) (text : String) : List Hit :=
  leftmost 0 (m.findAll text)

end WordMatcher

end Intake
