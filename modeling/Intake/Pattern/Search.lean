/-
Finding the first match of a pattern in a text, and cutting text at all
its matches.

The machine reads the text once. Its threads stand in order of
preference, no two at one instruction; a thread that accepts ends all
those behind it, and new threads start only until a match is known. So
the match found starts as far left as possible and is the preferred one
of those that start there.
-/
import Intake.Pattern.Program

namespace Intake.Pattern

/-- A thread: its instruction and where its match began. -/
structure Thread where
  place : Nat
  start : Nat

/-- Threads in reverse order, and the instructions already visited. -/
structure Threads where
  visited : Array Bool
  list : List Thread

/-- A match from one character index up to another. -/
structure Span where
  start : Nat
  stop : Nat
deriving DecidableEq, Repr

namespace Program

/-- No thread waits anywhere, and no place was visited. -/
def noThreads (p : Program) : Threads := ⟨Array.replicate p.size false, []⟩

/-- Adds the threads that the places of a list lead to without reading,
given the characters around. The first place and all it leads to come
before the others. No place is visited twice. -/
def follow (p : Program) (before after : Option Char) (start : Nat) :
    Nat → List Nat → Threads → Threads
  | 0, _, threads => threads
  | _ + 1, [], threads => threads
  | fuel + 1, place :: places, threads =>
    if threads.visited.getD place true then
      follow p before after start fuel places threads
    else
      let threads :=
        { threads with visited := threads.visited.setIfInBounds place true }
      match p[place]? with
      | some (.jump next) =>
          follow p before after start fuel (next :: places) threads
      | some (.fork preferred other) =>
        follow p before after start fuel (preferred :: other :: places) threads
      | some (.look condition next) =>
        if condition.holds before after then
          follow p before after start fuel (next :: places) threads
        else follow p before after start fuel places threads
      | some _ =>
        follow p before after start fuel places
          { threads with list := ⟨place, start⟩ :: threads.list }
      | none => follow p before after start fuel places threads

/-- Starts a thread. Each visited place adds at most two to the list. -/
def enter (p : Program) (before after : Option Char) (start place : Nat)
    (threads : Threads) : Threads :=
  follow p before after start (2 * p.size + 2) [place] threads

/-- Lets every thread read a character, in order, until one accepts. -/
def step (p : Program) (index : Nat) (c after : Option Char) :
    List Thread → Threads → Option Span × Threads
  | [], next => (none, next)
  | thread :: rest, next =>
    match p[thread.place]? with
    | some .accept => (some ⟨thread.start, index⟩, next)
    | some (.read characters place) =>
      if c.any characters.has then
        step p index c after rest (enter p c after thread.start place next)
      else step p index c after rest next
    | _ => step p index c after rest next

/-- Runs the threads over the rest of a text, keeping the best match so far. -/
def search (p : Program) (index : Nat) (threads : List Thread)
    (best : Option Span) :
    List Char → Option Span
  | [] => (step p index none none threads p.noThreads).1 <|> best
  | c :: cs =>
    let (found, next) := step p index (some c) cs.head? threads p.noThreads
    let best := found <|> best
    let next := if best.isNone then
      enter p (some c) cs.head? (index + 1) 0 next else next
    if next.list.isEmpty && best.isSome then best
    else search p (index + 1) next.list.reverse best cs

/-- The first match in a text that lies at an index behind a character. -/
def find (p : Program) (index : Nat) (before : Option Char) (cs : List Char) :
    Option Span :=
  search p index (enter p before cs.head? index 0 p.noThreads).list.reverse
    none cs

/-- All matches that do not overlap. An empty match where the last one
ended does not count; the search goes on one character later. -/
def findAll (p : Program) :
    Nat → Nat → Option Char → Option Nat → List Char → List Span
  | 0, _, _, _, _ => []
  | fuel + 1, index, before, last, cs =>
    match find p index before cs with
    | none => []
    | some span =>
      if span.start = span.stop ∧ last = some span.stop then
        match cs with
        | [] => []
        | c :: rest => findAll p fuel (index + 1) (some c) last rest
      else
        let read := span.stop - index
        let before := if read = 0 then before else cs[read - 1]?
        span :: findAll p fuel span.stop before (some span.stop) (cs.drop read)

/-- All matches in a text. Every two steps read at least one character. -/
def spans (p : Program) (cs : List Char) : List Span :=
  findAll p (2 * cs.length + 2) 0 none none cs

/-- What lies before, between and behind spans of a text from an index on. -/
def between (index : Nat) (cs : List Char) : List Span → List (List Char)
  | [] => [cs]
  | span :: rest =>
    cs.take (span.start - index) :: between span.stop
      (cs.drop (span.stop - index)) rest

end Program

end Intake.Pattern
