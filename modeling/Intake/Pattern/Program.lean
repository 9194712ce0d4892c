/-
Patterns as programs for a machine of many threads.

Each instruction of a program names those that may run next. A fork names
the preferred one first, which is all that the order among the ways to
match depends on.
-/
import Intake.Pattern.Syntax

namespace Intake.Pattern

/-- What a machine that runs a pattern does at a place. -/
inductive Instruction where
  /-- reads one character of the set -/
  | read (characters : CharSet) (next : Nat)
  | look (condition : Look) (next : Nat)
  | fork (preferred other : Nat)
  | jump (next : Nat)
  | accept
deriving Repr, Inhabited

/-- A pattern as instructions, each at its place. -/
abbrev Program := Array Instruction

namespace Program

/-- Writes an instruction whose targets are known only now. -/
def patch (p : Program) (place : Nat) (i : Instruction) : Program :=
  p.setIfInBounds place i

/-- A fork into the body of a repetition or out of it. Greedy repetitions
prefer the body. -/
def forkTo (greedy : Bool) (body out : Nat) : Instruction :=
  if greedy then .fork body out else .fork out body

/-- Adds code a number of times in a row. -/
def times (code : Program → Program) : Nat → Program → Program
  | 0, p => p
  | count + 1, p => times code count (code p)

/-- Adds code a number of times, each time behind a fork to the common end,
which is known only at the end. -/
def optional (greedy : Bool) (code : Program → Program) :
    Nat → List Nat → Program → Program
  | 0, forks, p =>
    let stop := p.size
    forks.foldl (fun p place => p.patch place (forkTo greedy (place + 1) stop))
      p
  | count + 1, forks, p =>
      optional greedy code count (p.size :: forks) (code (p.push .accept))

/-- Sends instructions to the end of the program. -/
def jumpToEnd (jumps : List Nat) (p : Program) : Program :=
  let stop := p.size
  jumps.foldl (fun p place => p.patch place (.jump stop)) p

/-- Adds code once or more. -/
def oneOrMore (greedy : Bool) (code : Program → Program) (p : Program) :
    Program :=
  let start := p.size
  let p := code p
  p.push (forkTo greedy start (p.size + 1))

mutual

/-- Adds the code of a pattern at the end; it leaves by running off that
end. -/
def compile : Pattern → Program → Program
  | .empty, p => p
  | .text cs, p =>
      cs.foldl (fun p c => p.push (.read (.single c) (p.size + 1))) p
  | .oneOf characters _, p => p.push (.read characters (p.size + 1))
  | .look condition, p => p.push (.look condition (p.size + 1))
  | .group _ body, p => compile body p
  | .seq parts, p => compileAll parts p
  | .alt branches, p => compileAny branches [] p
  | .rounds body least (some most) greedy, p =>
    optional greedy (compile body) (most - least) []
      (times (compile body) least p)
  | .rounds body 0 none greedy, p =>
    let start := p.size
    let p := oneOrMore greedy (compile body) (p.push .accept)
    p.patch start (forkTo greedy (start + 1) p.size)
  | .rounds body (least + 1) none greedy, p =>
    oneOrMore greedy (compile body) (times (compile body) least p)

/-- Adds the code of patterns, each of which goes on with the next one. -/
def compileAll : List Pattern → Program → Program
  | [], p => p
  | pattern :: rest, p => compileAll rest (compile pattern p)

/-- Adds branches, each but the last behind a fork to the next one. What
leads from finished branches to the common end is known only there. -/
def compileAny : List Pattern → List Nat → Program → Program
  | [], jumps, p => jumpToEnd jumps p
  | [pattern], jumps, p => jumpToEnd jumps (compile pattern p)
  | pattern :: rest, jumps, p =>
    let start := p.size
    let p := compile pattern (p.push .accept)
    let stop := p.size
    let p := p.patch start (.fork (start + 1) (stop + 1))
    compileAny rest (stop :: jumps) (p.push .accept)

end

/-- The program of a whole pattern. -/
def ofPattern (pattern : Pattern) : Program :=
  (compile pattern #[]).push .accept

end Program

end Intake.Pattern
