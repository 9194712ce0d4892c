/-
Patterns: what a regular expression matches, after its flags have been
worked into it.
-/
import Intake.Pattern.Named

namespace Intake

namespace Pattern

/-- A condition on the place between two characters. -/
inductive Look where
  | textStart
  | textEnd
  | lineStart
  | lineEnd
  /-- line ends of a line feed, a carriage return, or both -/
  | anyLineStart
  | anyLineEnd
  | wordBoundary (unicode : Bool)
  | notWordBoundary (unicode : Bool)
  | wordStart (unicode : Bool)
  | wordEnd (unicode : Bool)
  | wordStartHalf (unicode : Bool)
  | wordEndHalf (unicode : Bool)
deriving Repr, DecidableEq

end Pattern

/-- A pattern. Of several branches it prefers the first; a greedy
repetition prefers more rounds. -/
inductive Pattern where
  | empty
  /-- characters in a row, at least one -/
  | text (characters : List Char)
  /-- a character of a set, named under the Unicode flag or without it -/
  | oneOf (characters : Pattern.CharSet) (unicode : Bool)
  | look (condition : Pattern.Look)
  /-- a group that is counted -/
  | group (number : Nat) (body : Pattern)
  | seq (parts : List Pattern)
  | alt (branches : List Pattern)
  | rounds (body : Pattern) (least : Nat) (most : Option Nat) (greedy : Bool)
deriving Repr, Inhabited

namespace Pattern

/-- The character is there and is one of words. -/
def word (c : Option Char) (unicode : Bool) : Bool :=
  c.any (CharSet.word unicode).has

/-- The condition holds between two characters, of which either may be
missing. -/
def Look.holds (before after : Option Char) : Look → Bool
  | .textStart => before.isNone
  | .textEnd => after.isNone
  | .lineStart => before.isNone || before == some '\n'
  | .lineEnd => after.isNone || after == some '\n'
  | .anyLineStart =>
    before.isNone || before == some '\n'
      || (before == some '\r' && after != some '\n')
  | .anyLineEnd =>
    after.isNone || after == some '\r'
      || (after == some '\n' && before != some '\r')
  | .wordBoundary u => word before u != word after u
  | .notWordBoundary u => word before u == word after u
  | .wordStart u => !word before u && word after u
  | .wordEnd u => word before u && !word after u
  | .wordStartHalf u => !word before u
  | .wordEndHalf u => !word after u

-- ====================================================== equality

mutual

/-- Two patterns are written alike. -/
def same : Pattern → Pattern → Bool
  | .empty, .empty => true
  | .text cs, .text ds => cs == ds
  | .oneOf s u, .oneOf t v => s == t && u == v
  | .look l, .look m => l == m
  | .group n a, .group m b => n == m && same a b
  | .seq ps, .seq qs => sameAll ps qs
  | .alt ps, .alt qs => sameAll ps qs
  | .rounds a least most greedy, .rounds b least' most' greedy' =>
    least == least' && most == most' && greedy == greedy' && same a b
  | _, _ => false

/-- Lists of equal length whose patterns are the same one by one. -/
def sameAll : List Pattern → List Pattern → Bool
  | [], [] => true
  | p :: ps, q :: qs => same p q && sameAll ps qs
  | _, _ => false

end

-- ====================================================== lengths

/-- The octets of characters. -/
def octetCount (cs : List Char) : Nat := cs.foldl (fun n c => n + c.utf8Size) 0

/-- The octets of a code point's character. -/
def octetsOfCode (code : Nat) : Nat := (Char.ofNat code).utf8Size

mutual

/-- The least number of octets a match has; none if nothing may match. -/
def leastLength : Pattern → Option Nat
  | .empty | .look _ => some 0
  | .text cs => some (octetCount cs)
  | .oneOf s _ => s.ranges.head?.map fun range => octetsOfCode range.1
  | .group _ body => body.leastLength
  | .seq parts => leastOfAll parts
  | .alt branches => leastOfAny branches
  | .rounds body least _ _ => body.leastLength.map (· * least)

/-- The least length of a sequence is the sum of its parts. -/
def leastOfAll : List Pattern → Option Nat
  | [] => some 0
  | p :: ps => do return (← p.leastLength) + (← leastOfAll ps)

/-- The least length of a choice, if every branch has one; there is none
without branches. -/
def leastOfAny : List Pattern → Option Nat
  | [] => none
  | [p] => p.leastLength
  | p :: ps => do return min (← p.leastLength) (← leastOfAny ps)

end

mutual

/-- The greatest number of octets a match has; none if there is no limit,
or if nothing may match. -/
def greatestLength : Pattern → Option Nat
  | .empty | .look _ => some 0
  | .text cs => some (octetCount cs)
  | .oneOf s _ => s.ranges.getLast?.map fun range => octetsOfCode range.2
  | .group _ body => body.greatestLength
  | .seq parts => greatestOfAll parts
  | .alt branches => greatestOfAny branches
  | .rounds body _ most _ => do return (← body.greatestLength) * (← most)

/-- The greatest length of a sequence is the sum of its parts. -/
def greatestOfAll : List Pattern → Option Nat
  | [] => some 0
  | p :: ps => do return (← p.greatestLength) + (← greatestOfAll ps)

/-- The greatest length of a choice, if every branch has one. -/
def greatestOfAny : List Pattern → Option Nat
  | [] => none
  | [p] => p.greatestLength
  | p :: ps => do return max (← p.greatestLength) (← greatestOfAny ps)

end

-- ====================================================== anchors

mutual

/-- Every match begins under the condition. -/
def opensWith (l : Look) : Pattern → Bool
  | .look m => l == m
  | .group _ body => body.opensWith l
  | .seq parts => anyOpensWith l parts
  | .alt branches => allOpenWith l branches
  | .rounds body least _ _ => 0 < least && body.opensWith l
  | _ => false

/-- One of the parts up to the first that may take a character begins under
the condition. -/
def anyOpensWith (l : Look) : List Pattern → Bool
  | [] => false
  | p :: ps =>
      p.opensWith l || (p.greatestLength == some 0 && anyOpensWith l ps)

/-- All patterns of a list open with the condition. -/
def allOpenWith (l : Look) : List Pattern → Bool
  | [] => true
  | p :: ps => p.opensWith l && allOpenWith l ps

end

mutual

/-- The pattern with the parts of every sequence in reverse order. -/
def mirror : Pattern → Pattern
  | .group n body => .group n body.mirror
  | .seq parts => .seq (mirrorParts parts [])
  | .alt branches => .alt (mirrorAll branches)
  | .rounds body least most greedy => .rounds body.mirror least most greedy
  | p => p

/-- Mirrored parts in reverse order in front of others. -/
def mirrorParts : List Pattern → List Pattern → List Pattern
  | [], done => done
  | p :: ps, done => mirrorParts ps (p.mirror :: done)

/-- The mirrored patterns of a list, each at its place. -/
def mirrorAll : List Pattern → List Pattern
  | [] => []
  | p :: ps => p.mirror :: mirrorAll ps

end

end Pattern

end Intake
