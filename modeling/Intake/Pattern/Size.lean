/-
How large a pattern is as a machine of states, forwards and backwards.

A machine reads octets. A state takes 32 octets of memory, each of its
octet ranges 8 more if it has several, and each of its choices 4. The
states are counted as they are laid down: a set of characters beyond ASCII
shares states between the sequences of octets that end alike, as far as
they are still remembered, and what is remembered depends on the numbers of
the states. A pattern is refused if either machine exceeds the limit.
-/
import Intake.Pattern.Octets
import Intake.Pattern.Syntax

namespace Intake.Pattern

/-- The most octets that a machine may take. -/
def sizeLimit : Nat := 10485760

/-- A machine under construction: its states and the octets they take. -/
structure Draft where
  states : Nat
  octets : Nat

/-- A part of a machine laid down: the whole machine so far, and whether
the part ends in a choice, to which each way on adds one. -/
abbrev Laid := Option (Draft × Bool)

namespace Draft

/-- A machine within the limit. -/
def checked (d : Draft) : Option Draft :=
  if sizeLimit < d.octets then none else some d

/-- Adds a state with so many octets of its own. -/
def add (extra : Nat) (d : Draft) : Option Draft :=
  checked ⟨d.states + 1, d.octets + 32 + extra⟩

/-- Adds ways to choices. -/
def choose (count : Nat) (d : Draft) : Option Draft :=
  checked ⟨d.states, d.octets + 4 * count⟩

/-- Leads on from the end of a part. -/
def leave (choice : Bool) (d : Draft) : Option Draft :=
  if choice then d.choose 1 else some d

/-- Adds states in a row. -/
def addMany : Nat → Draft → Option Draft
  | 0, d => some d
  | count + 1, d => d.add 0 >>= addMany count

-- ====================================================== memory

/-- What hashing of numbers starts with. -/
def hashStart : UInt64 := 14695981039346656037

/-- One step of hashing. -/
def hashWith (h : UInt64) (n : Nat) : UInt64 :=
  (h ^^^ UInt64.ofNat n) * 1099511628211

/-- The place at which a list of numbers is remembered. -/
def slot (places : Nat) (numbers : List Nat) : Nat :=
  (numbers.foldl hashWith hashStart).toNat % places

/-- States remembered by what they are. Each place holds the latest. -/
structure Memory where
  places : Array (List Nat × Nat)

/-- Nothing is remembered in any of the places. -/
def noMemory (places : Nat) : Memory := ⟨Array.replicate places ([], 0)⟩

/-- The number of the state that is described by numbers, if it is still
remembered. -/
def Memory.find? (m : Memory) (key : List Nat) : Option Nat :=
  match m.places[slot m.places.size key]? with
  | some (known, state) => if known == key then some state else none
  | none => none

/-- Remembers a state, in place of another one that shares its place. -/
def Memory.insert (m : Memory) (key : List Nat) (state : Nat) : Memory :=
  ⟨m.places.setIfInBounds (slot m.places.size key) (key, state)⟩

-- ====================================================== sets, forwards

/-- A state whose ranges are not complete: the finished ones with their
targets as numbers in a row, the latest first, and the range whose target
is not known yet. -/
structure Open where
  done : List (Nat × Nat × Nat)
  last : Option (Nat × Nat)

/-- All ranges of a state once the target of the last one is known. -/
def Open.finish (o : Open) (target : Nat) : List (Nat × Nat × Nat) :=
  match o.last with
  | some (a, b) => (a, b, target) :: o.done
  | none => o.done

/-- The machine for a set while its sequences are read in ascending order,
with the open states of the latest sequence, the deepest first. -/
structure Sharing where
  draft : Draft
  memory : Memory
  target : Nat
  opens : List Open

/-- The number of the state with given ranges, which is laid down unless it
is remembered. -/
def Sharing.close (s : Sharing) (done : List (Nat × Nat × Nat)) :
    Option (Sharing × Nat) :=
  let key := done.reverse.flatMap fun (a, b, target) => [a, b, target]
  match s.memory.find? key with
  | some state => some (s, state)
  | none => do
    let draft ← s.draft.add (8 * done.length)
    return ({ s with draft, memory := s.memory.insert key s.draft.states },
      s.draft.states)

/-- Closes the open states below a depth, deepest first, and gives the last
range above them its target. -/
def Sharing.closeTo (s : Sharing) (count : Nat) (target : Nat) :
    Option Sharing :=
  match count, s.opens with
  | count + 1, o :: opens => do
    let (s, state) ← s.close (o.finish target)
    { s with opens }.closeTo count state
  | _, o :: opens => some { s with opens := ⟨o.finish target, none⟩ :: opens }
  | _, [] => some s

/-- The number of ranges that a sequence shares with the open states, from
the first octet on. -/
def sharedDepth : List (Nat × Nat) → List Open → Nat
  | range :: ranges, o :: opens =>
    if o.last = some range then sharedDepth ranges opens + 1 else 0
  | _, _ => 0

/-- Reads one sequence. -/
def Sharing.read (s : Sharing) (sequence : List (Nat × Nat)) :
    Option Sharing := do
  let shared := sharedDepth sequence s.opens.reverse
  let s ← s.closeTo (s.opens.length - (shared + 1)) s.target
  match sequence.drop shared, s.opens with
  | range :: ranges, o :: opens =>
    let deeper := ranges.map fun range => (⟨[], some range⟩ : Open)
    return { s with
      opens := deeper.reverse ++ { o with last := some range } :: opens }
  | _, _ => return s

/-- The machine that reads a character of a set from its first octet on. -/
def setForwards (sequences : List (List (Nat × Nat))) (d : Draft) :
    Option Draft := do
  let target := d.states
  let d ← d.add 0
  let s ← sequences.foldlM Sharing.read ⟨d, noMemory 10000,
    target, [⟨[], none⟩]⟩
  let s ← s.closeTo (s.opens.length - 1) target
  match s.opens with
  | [o] => return (← s.close o.done).1.draft
  | _ => return s.draft

-- ====================================================== sets, backwards

/-- Leads on from a state by an octet range, in a state that may be
remembered. -/
def backStep (walk : Draft × Memory × Nat) (range : Nat × Nat) :
    Option (Draft × Memory × Nat) :=
  let (d, memory, state) := walk
  let key := [state, range.1, range.2]
  match memory.find? key with
  | some known => some (d, memory, known)
  | none => do
    let added ← d.add 0
    return (added, memory.insert key d.states, d.states)

/-- Leads on from the end by a sequence, and from the choice to its front. -/
def backSequence (stop : Nat) (walk : Draft × Memory)
    (sequence : List (Nat × Nat)) :
    Option (Draft × Memory) := do
  let (d, memory, _) ← sequence.foldlM backStep (walk.1, walk.2, stop)
  return (← d.choose 1, memory)

/-- The machine that reads a character of a set from its last octet on. -/
def setBackwards (sequences : List (List (Nat × Nat))) (d : Draft) :
    Option Draft := do
  let d ← d.add 0
  let stop := d.states
  let d ← d.add 0
  return (← sequences.foldlM (backSequence stop) (d, noMemory 1000)).1

/-- Lays down the machine for one character of a set. Characters below 128 are
single octets, so one state does for them in either direction. -/
def set (backwards : Bool) (s : CharSet) (d : Draft) : Option Draft :=
  if s.isAscii then do (← d.add 0).add (8 * s.ranges.length)
  else if backwards then setBackwards (Octets.ofSet s) d
  else setForwards (Octets.ofSet s) d

-- ====================================================== texts as alternatives

/-- The groups of words between empty ones. -/
def between : List (List UInt8) → List (List (List UInt8))
  | [] => [[]]
  | word :: rest =>
    match word, between rest with
    | [], groups => [] :: groups
    | word, first :: groups => (word :: first) :: groups
    | word, [] => [[word]]

/-- Words of which the empty ones in front count as one. -/
def oneEmptyInFront : List (List UInt8) → List (List UInt8)
  | [] :: rest => [] :: rest.dropWhile List.isEmpty
  | words => words

/-- What follows an octet in the words that begin with it. -/
def tailsOf (b : UInt8) (words : List (List UInt8)) : List (List UInt8) :=
  words.filterMap fun
    | [] => none
    | c :: rest => if c = b then some rest else none

/-- The states for words, of which earlier ones are preferred, without the
common end. Words share states up to where they differ, but none across a
word that ends there. The fuel is the length of the longest word. -/
def words : Nat → List (List UInt8) → Draft → Option Draft
  | 0, _, d => some d
  | fuel + 1, list, d =>
    if list.all List.isEmpty then some d
    else do
      let groups := between (oneEmptyInFront list)
      let d ← groups.foldlM (fun d list => do
        let heads := (list.filterMap List.head?).eraseDups
        let d ← heads.foldlM (fun d b => words fuel (tailsOf b list) d) d
        match heads.length with
        | 0 => return d
        | 1 => (← d.add 0).choose 1
        | count => (← d.add (8 * count)).choose 1) d
      d.add (4 * (groups.length - 1))

/-- Lays down texts to choose from, in the direction in which the machine
reads. -/
def texts (backwards : Bool) (list : List (List Char)) (d : Draft) :
    Option Draft := do
  let octets := list.map fun cs =>
    if backwards then (Utf8.encode cs).reverse else Utf8.encode cs
  words (octets.foldl (fun n word => max n word.length) 0) octets (← d.add 0)

-- ====================================================== repetitions

/-- A part a number of times behind the end of another. -/
def copies (part : Draft → Laid) : Nat → Bool → Draft → Laid
  | 0, choice, d => some (d, choice)
  | count + 1, choice, d => do
    let (d, next) ← part d
    copies part count next (← d.leave choice)

/-- A part an exact number of times. -/
def exactly (part : Draft → Laid) : Nat → Draft → Laid
  | 0, d => do return (← d.add 0, false)
  | count + 1, d => do
    let (d, choice) ← part d
    copies part count choice d

/-- A part a number of times, each time behind a choice to end. -/
def optional (part : Draft → Laid) : Nat → Bool → Draft → Laid
  | 0, choice, d => do return (← d.leave choice, false)
  | count + 1, choice, d => do
    let (d, next) ← part (← d.add 0)
    optional part count next (← (← d.leave choice).choose 2)

/-- A part without an upper limit. One that may be empty is guarded by a
second choice. -/
def unlimited (part : Draft → Laid) (takes : Bool) : Nat → Draft → Laid
  | 0, d => do
    if takes then
      let (d, choice) ← part (← d.add 0)
      return (← (← d.choose 1).leave choice, true)
    else
      let (d, choice) ← part d
      let d ← (← d.add 0).leave choice
      let d ← (← d.add 0).add 0
      return (← d.choose 4, false)
  | 1, d => do
    let (d, choice) ← part d
    return (← (← (← d.add 0).leave choice).choose 1, true)
  | count + 2, d => do
    let (d, before) ← exactly part (count + 1) d
    let (d, choice) ← part d
    return (← (← (← (← d.add 0).leave before).leave choice).choose 1, true)

/-- Lays down rounds of a part, of which a least number is always gone
through. -/
def rounds (part : Draft → Laid) (takes : Bool) (least : Nat)
    (most : Option Nat) (d : Draft) : Laid :=
  match least, most with
  | least, none => unlimited part takes least d
  | 0, some 1 => do
    let (d, choice) ← part (← d.add 0)
    return (← (← (← d.add 0).choose 2).leave choice, false)
  | least, some most => do
    let (d, choice) ← exactly part least d
    if least = most then return (d, choice)
    else optional part (most - least) choice (← d.add 0)

-- ====================================================== patterns

/-- The characters of a text. -/
def texts? : Pattern → Option (List Char)
  | .text cs => some cs
  | _ => none

mutual

/-- Lays down a pattern. Groups that are counted show forwards only. -/
def lay (backwards : Bool) : Pattern → Draft → Laid
  | .empty, d | .look _, d => do return (← d.add 0, false)
  | .text cs, d => do return (← d.addMany (octetCount cs), false)
  | .oneOf s _, d => do return (← d.set backwards s, false)
  | .group _ body, d =>
    if backwards then lay backwards body d
    else do
      let (d, choice) ← lay backwards body (← d.add 0)
      return (← (← d.add 0).leave choice, false)
  | .seq parts, d => layAll backwards parts none d
  | .alt branches, d =>
    match branches.mapM texts? with
    | some list => do return (← d.texts backwards list, false)
    | none => layAny backwards branches 0 d
  | .rounds body least most _, d =>
    rounds (lay backwards body) (body.leastLength.any (0 < ·)) least most d

/-- Lays down parts in a row behind another. -/
def layAll (backwards : Bool) : List Pattern → Option Bool → Draft → Laid
  | [], some choice, d => some (d, choice)
  | [], none, d => do return (← d.add 0, false)
  | p :: ps, before, d => do
    let (d, choice) ← lay backwards p d
    layAll backwards ps (some choice) (← d.leave (before.getD false))

/-- Lays down branches. The choice between them and their common end follow
the second one. -/
def layAny (backwards : Bool) : List Pattern → Nat → Draft → Laid
  | [], _, d => some (d, false)
  | p :: ps, index, d => do
    let (d, choice) ← lay backwards p d
    let d ← (← d.leave choice).choose 1
    let d ← if index = 1 then do (← d.add 0).add 0 else some d
    layAny backwards ps (index + 1) d

end

-- ====================================================== machines

/-- The beginning of a machine that skips octets until a match begins, or a
single state if matches begin at one end only. -/
def entrance (anchored : Bool) : Option Draft :=
  let d : Draft := ⟨0, 0⟩
  if anchored then d.add 0
  else do (← (← (← d.add 0).add 0).add 8).choose 2

/-- The machine that finds the end of a match. -/
def forwards (p : Pattern) : Option Draft := do
  let (d, choice) ← lay false p (← (← entrance (p.opensWith .textStart)).add 0)
  (← (← d.add 0).leave choice).add 0

/-- The machine that finds the start of a match. -/
def backwards (p : Pattern) : Option Draft := do
  let (d, choice) ← lay true p (← entrance (p.opensWith .textEnd))
  (← d.add 0).leave choice

end Draft

/-- Both machines of the pattern keep to the limit. -/
def fits (p : Pattern) : Bool :=
  (Draft.forwards p).isSome && (Draft.backwards p.mirror).isSome

end Intake.Pattern
