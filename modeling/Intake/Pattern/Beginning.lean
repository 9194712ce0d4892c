/-
The texts that the matches of a pattern begin with, and the patterns that
are a choice of texts.

A list of beginnings is kept short: at most 250 of them, each of at most
100 octets. A beginning that is the whole of a match is exact; one that
was cut off, or behind which the list was given up, is not. A list that
would become too long is given up altogether, and then anything may begin
a match.
-/
import Intake.Pattern.Syntax
import Intake.Text.Utf8

namespace Intake.Pattern

/-- Octets that matches begin with; exact ones are a whole match. -/
structure Beginning where
  octets : List UInt8
  exact : Bool

/-- The beginnings of all matches, the preferred ones first, or none if
anything may begin a match. -/
abbrev Beginnings := Option (List Beginning)

namespace Beginning

/-- The beginning of the empty match, which is all of it. -/
def nothing : Beginning := ⟨[], true⟩

/-- Octets that a match begins with but does not end with. -/
def asInexact (b : Beginning) : Beginning := { b with exact := false }

/-- At most a number of octets. -/
def keep (count : Nat) (b : Beginning) : Beginning :=
  if b.octets.length ≤ count then b else ⟨b.octets.take count, false⟩

/-- The beginnings that follow one, equal neighbours taken together. -/
def joinFrom : Beginning → List Beginning → List Beginning
  | b, [] => [b]
  | b, c :: rest =>
    if b.octets = c.octets then joinFrom ⟨b.octets, b.exact && c.exact⟩ rest
    else b :: joinFrom c rest

/-- Equal neighbours are one, and exact only if all of them are. -/
def join : List Beginning → List Beginning
  | [] => []
  | b :: rest => joinFrom b rest

/-- An exact beginning goes on with another. -/
def follow (b c : Beginning) : Beginning := ⟨b.octets ++ c.octets, c.exact⟩

end Beginning

namespace Beginnings

open Beginning (keep join)

/-- The most beginnings that a list may have. -/
def countLimit : Nat := 250

/-- The most octets that a beginning may have. -/
def lengthLimit : Nat := 100

/-- The most characters of a set, and the most rounds of a repetition, that
are looked at. -/
def widthLimit : Nat := 10

/-- No beginning can be made longer. -/
def isInexact (bs : Beginnings) : Bool :=
  match bs with
  | some list => list.all fun b => !b.exact
  | none => true

/-- Matches go on behind each of the beginnings. -/
def asInexact (bs : Beginnings) : Beginnings :=
  bs.map fun list => list.map Beginning.asInexact

/-- Beginnings cut off at the limit of their length. -/
def shortened (bs : Beginnings) : Beginnings :=
  bs.map fun list => list.map (keep lengthLimit)

-- ====================================================== composition

/-- The beginnings of what begins with the first ones and goes on with the
second ones. -/
def behind (first second : Beginnings) : Beginnings :=
  match first, second with
  | none, _ => none
  | some list, none =>
    if list.any fun b => b.octets.isEmpty then none
    else shortened (asInexact (some list))
  | some list, some others =>
    if countLimit < list.length * others.length then
      if list.any fun b => b.octets.isEmpty then none
      else shortened (asInexact (some list))
    else
      let all := list.flatMap fun b =>
        if b.exact then others.map b.follow else [b]
      shortened (some (join all))

/-- The beginnings of either of two. Where they are too many, the first
four octets have to do. -/
def either (first second : Beginnings) : Beginnings :=
  match first, second with
  | some list, some others =>
    if list.length + others.length ≤ countLimit then
      some (join (list ++ others))
    else
      let list := join (list.map (keep 4))
      let others := join (others.map (keep 4))
      if list.length + others.length ≤ countLimit then
        some (join (list ++ others)) else none
  | _, _ => none

/-- The number of characters of a set. -/
def size (s : CharSet) : Nat :=
  s.ranges.foldl (fun n (a, b) => n + (b - a + 1)) 0

/-- The beginnings of a character of a set. -/
def ofSet (s : CharSet) : Beginnings :=
  if widthLimit < size s then none
  else
    let codes :=
      s.ranges.flatMap fun (a, b) => (List.range (b - a + 1)).map (a + ·)
    some (codes.map fun code => ⟨Utf8.encodeChar (Char.ofNat code), true⟩)

/-- The beginnings of a number of rounds. -/
def several (body : Beginnings) : Nat → Beginnings → Beginnings
  | 0, done => done
  | count + 1, done =>
    if done.isInexact then done else several body count (done.behind body)

/-- The beginnings of a repetition. -/
def ofRounds (body : Beginnings) (least : Nat) (most : Option Nat)
    (greedy : Bool) : Beginnings :=
  if least = 0 then
    let body := if most = some 1 then body else body.asInexact
    if greedy then body.either (some [.nothing])
    else either (some [.nothing]) body
  else
    let all := several body (min least widthLimit) (some [.nothing])
    if most = some least ∧ least ≤ widthLimit then all else all.asInexact

mutual

/-- The beginnings of the matches of a pattern. -/
def ofPattern : Pattern → Beginnings
  | .empty | .look _ => some [.nothing]
  | .text cs => shortened (some [⟨Utf8.encode cs, true⟩])
  | .oneOf s _ => ofSet s
  | .group _ body => ofPattern body
  | .seq parts => ofAll parts (some [.nothing])
  | .alt branches => ofAny branches (some [])
  | .rounds body least most greedy =>
      ofRounds (ofPattern body) least most greedy

/-- The beginnings of parts in a row behind others. -/
def ofAll : List Pattern → Beginnings → Beginnings
  | [], done => done
  | p :: ps, done =>
      if done.isInexact then done else ofAll ps (done.behind (ofPattern p))

/-- The beginnings of others or of any of the branches. -/
def ofAny : List Pattern → Beginnings → Beginnings
  | [], done => done
  | p :: ps, done =>
      if done.isNone then done else ofAny ps (done.either (ofPattern p))

end

-- ====================================================== choices

/-- The beginnings that can come about: none of the kept ones in front of
them begins them. -/
def preferred (kept : List Beginning) : List Beginning → List Beginning
  | [] => []
  | b :: rest =>
    if kept.any fun c => c.octets.isPrefixOf b.octets then preferred kept rest
    else b :: preferred (b :: kept) rest

/-- What two texts begin with alike. -/
def shared : List UInt8 → List UInt8 → List UInt8
  | b :: bs, c :: cs => if b = c then b :: shared bs cs else []
  | _, _ => []

/-- What all texts begin with alike. -/
def sharedByAll : List Beginning → List UInt8
  | [] => []
  | b :: rest => rest.foldl (fun done c => shared done c.octets) b.octets

/-- The octets that seldom occur in texts. -/
def isRare (b : UInt8) : Bool :=
  let ranges : List (UInt8 × UInt8) :=
    [(0x00, 0x09), (0x0B, 0x0C), (0x0E, 0x1F), (0x21, 0x27),
      (0x2A, 0x2B), (0x33, 0x38),
     (0x3B, 0x5E), (0x60, 0x60), (0x6A, 0x6B), (0x71, 0x71),
       (0x77, 0x77), (0x7A, 0x7B),
     (0x7D, 0x7F), (0x85, 0x8F), (0x91, 0xB0), (0xB2, 0xB4),
       (0xB8, 0xB8), (0xBE, 0xBE)]
  ranges.any fun (first, last) => first ≤ b && b ≤ last

/-- Cuts beginnings shorter as long as they are more than a number of them. -/
def cutDown : List (Nat × Nat) → List Beginning → List Beginning
  | [], list => list
  | (count, most) :: rest, list =>
    if list.length ≤ most then list
    else cutDown rest (preferred [] (list.map (keep count)))

/-- Beginnings that are searched for as they are: neither what they begin
with alike nor what is left after cutting them is searched for instead. -/
def areSearched (count : Nat) (list : List Beginning) : Bool :=
  let common := sharedByAll list
  let longest := list.foldl (fun n b => max n b.octets.length) 0
  if 1 < count && common.length ≤ 3 && common.head?.any isRare then longest ≤ 1
  else if 4 < common.length || (1 < common.length && 16 < list.length) then
    longest ≤ common.length
  else
    let cut := cutDown [(5, 10), (4, 10), (3, 64), (2, 64), (1, 10)] list
    cut.all Beginning.exact || cut.any (fun b => b.octets.length ≤ 2)
      || 64 < cut.length

/-- A choice of few texts: no beginning is empty, and those that can come
about are exact. -/
def areTexts : Beginnings → Bool
  | some list =>
    let kept := preferred [] list
    !list.isEmpty && list.all (fun b => !b.octets.isEmpty)
      && kept.all Beginning.exact
      && areSearched list.length kept
  | none => false

end Beginnings

mutual

/-- The pattern has no conditions and counts no groups. -/
def isPlain : Pattern → Bool
  | .look _ | .group _ _ => false
  | .seq parts => areAllPlain parts
  | .alt branches => areAllPlain branches
  | .rounds body _ _ _ => body.isPlain
  | _ => true

/-- None of the patterns has conditions or counts groups. -/
def areAllPlain : List Pattern → Bool
  | [] => true
  | p :: ps => p.isPlain && areAllPlain ps

end

/-- Thousands of texts to choose from. -/
def isManyTexts : Pattern → Bool
  | .alt branches => 3000 ≤ branches.length && branches.all fun
    | .text _ => true
    | _ => false
  | _ => false

/-- The pattern is a choice of texts, which are searched for directly. -/
def isChoiceOfTexts (p : Pattern) : Bool :=
  p.isPlain && ((Beginnings.ofPattern p).areTexts || p.isManyTexts)

end Intake.Pattern
