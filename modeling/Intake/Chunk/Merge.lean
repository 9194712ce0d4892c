/-
Putting chunks together and cutting them off.

Lengths are counted in characters. Joined chunks have a space between them
and are trimmed. Windows of several chunks may share chunks; the
percentage overlap borrows text from both neighbours of a chunk instead.
-/
import Intake.Chunk.Split

namespace Intake.Chunk

open Text (trim)

/-- Chunks with a space between them. -/
def spaced (chunks : List (List Char)) : List Char := [' '].intercalate chunks

/-- A trimmed group of chunks. -/
def join (group : List (List Char)) : List Char := trim (spaced group)

-- ====================================================== a least length

/-- Consecutive groups, each closed by the chunk that brings its length,
with a space counted behind every chunk, to `least`; and the group that
stays open at the end. -/
def closeGroups (least : Nat) (group : List (List Char)) (length : Nat) :
    List (List Char) → List (List (List Char)) × List (List Char)
  | [] => ([], group)
  | chunk :: rest =>
    let length := length + chunk.length + 1
    let group := group ++ [chunk]
    if length < least then closeGroups least group length rest
    else
      let (closed, left) := closeGroups least [] 0 rest
      (group :: closed, left)

/-- Joins the open group behind the last closed one. -/
def foldTail (closed : List (List Char)) (left : List (List Char)) :
    List (List Char) :=
  if left.isEmpty then closed
  else match closed.getLast? with
    | none => [join left]
    | some last => closed.dropLast ++ [trim (last ++ ' ' :: spaced left)]

/-- Joins neighbours until each group has the least length. -/
def mergeToLength (least : Nat) (chunks : List (List Char)) :
    List (List Char) :=
  if chunks.length ≤ 1 then chunks
  else
    let (closed, left) := closeGroups least [] 0 chunks
    foldTail (closed.map join) left

-- ====================================================== a greatest length

/-- A chunk that is too long is cut off and trimmed. -/
def truncate (greatest : Nat) (chunk : List Char) : List Char :=
  if greatest < chunk.length then trim (chunk.take greatest) else chunk

-- ====================================================== windows

/-- Joins consecutive groups of a number of chunks. -/
def merge (count : Nat) (chunks : List (List Char)) : List (List Char) :=
  (groupsOf count chunks).map join

/-- Where windows of `count` items that share `shared` items begin. -/
def windowStarts (count shared length : Nat) : List Nat :=
  let step := count - shared
  (List.range ((length - shared + step - 1) / step)).map (· * step)

/-- Windows of `count` chunks of which neighbours share `shared`; fewer
chunks than one window holds are left as they are. -/
def mergeShared (count shared : Nat) (chunks : List (List Char)) :
    List (List Char) :=
  if chunks.isEmpty || chunks.length < count then chunks
  else (windowStarts count shared chunks.length).map fun start =>
    join ((chunks.drop start).take count)

-- ====================================================== borrowed text

/-- The last `n` characters. -/
def takeLast (n : Nat) (cs : List Char) : List Char := cs.drop (cs.length - n)

/-- A chunk between the end of the one before it and the start of the one
behind it, each a percentage of its own length. -/
def borrow (percentage : Nat) (before : Option (List Char)) (chunk : List Char)
    (after : Option (List Char)) : List Char :=
  let count := chunk.length * percentage / 100
  let front := (before.map fun c => takeLast count c ++ [' ']).getD []
  let back := (after.map fun c => ' ' :: c.take count).getD []
  trim (front ++ chunk ++ back)

/-- The chunks with what each of them borrows, given the chunk in front of the
first. Neighbours lend from their own text, not from what they have borrowed
themselves. -/
def borrowFrom (percentage : Nat) (before : Option (List Char)) :
    List (List Char) → List (List Char)
  | [] => []
  | chunk :: rest =>
    borrow percentage before chunk rest.head?
      :: borrowFrom percentage (some chunk) rest

/-- Every chunk extended by a percentage of its length from each neighbour. -/
def overlap (percentage : Nat) (chunks : List (List Char)) :
    List (List Char) :=
  if chunks.length ≤ 1 then chunks else borrowFrom percentage none chunks

end Intake.Chunk
