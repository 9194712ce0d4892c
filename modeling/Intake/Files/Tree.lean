/-
A tree of files below a working directory.

Paths are text with slashes. Empty steps and single dots in a path do not
count, two dots lead up, and symbolic links are followed wherever they
occur in a path; a chain of more than forty of them leads nowhere. What
lies above the working directory is not there.
-/
namespace Intake

/-- What is at a place of the tree. -/
inductive FileNode where
  | directory
  | file (octets : List UInt8)
  | link (target : String)
deriving Repr, DecidableEq

/-- The places below the working directory by the names that lead to them. -/
structure FileTree where
  nodes : List (List String × FileNode)
deriving Repr, Inhabited

namespace FileTree

/-- The tree with nothing but its root. -/
def empty : FileTree := ⟨[]⟩

-- ====================================================== paths

/-- The names a path leads through. -/
def steps (path : String) : List String :=
  (path.splitOn "/").filter fun name => name != "" && name != "."

/-- The path begins at the root. -/
def isAbsolute (path : String) : Bool := path.toList.head? == some '/'

/-- The path can only name a directory. -/
def namesDirectory (path : String) : Bool :=
  let last := (path.splitOn "/").getLast?
  last == some "" || last == some "."

/-- A name of at most 255 octets, which something can be created under. -/
def isShortName (name : String) : Bool := name.utf8ByteSize ≤ 255

/-- A path below the working directory that can be followed: it has at most
4095 octets and no zero character. -/
def isUsable (path : String) : Bool :=
  !isAbsolute path && path.utf8ByteSize ≤ 4095 && !path.toList.contains '\x00'

-- ====================================================== places

/-- What is at a place; the working directory itself is a directory. -/
def node? (t : FileTree) (place : List String) : Option FileNode :=
  if place.isEmpty then some .directory else t.nodes.lookup place

/-- Puts something at a place. -/
def put (t : FileTree) (place : List String) (node : FileNode) : FileTree :=
  ⟨(t.nodes.filter fun entry => entry.1 != place) ++ [(place, node)]⟩

/-- The most links that are followed on the way to one place. -/
def linkLimit : Nat := 40

/-- The place that names lead to from a directory, links followed. -/
def resolveFrom (t : FileTree) (links : Nat) (base : List String) :
    List String → Option (List String)
  | [] => some base
  | name :: rest =>
    if name = ".." then
      if base.isEmpty then none else resolveFrom t links base.dropLast rest
    else
      match t.node? (base ++ [name]) with
      | none => none
      | some .directory => resolveFrom t links (base ++ [name]) rest
      | some (.file _) => if rest.isEmpty then some (base ++ [name]) else none
      | some (.link target) =>
        match links with
        | 0 => none
        | links + 1 =>
          if isAbsolute target then none
          else resolveFrom t links base (steps target ++ rest)
termination_by names => (links, names.length)

/-- The place a path leads to, links followed. -/
def resolve (t : FileTree) (path : String) : Option (List String) :=
  if path.isEmpty || !isUsable path then none
  else
    match t.resolveFrom linkLimit [] (steps path) with
    | none => none
    | some place =>
      if namesDirectory path && t.node? place != some .directory then none
      else some place

/-- A path leads to a directory, through links if there are any. -/
def isDirectory (t : FileTree) (path : String) : Bool :=
  ((t.resolve path).bind t.node?) == some .directory

/-- Why a file cannot be read. -/
inductive ReadError where
  | cannotOpen
  | cannotRead
deriving DecidableEq, Repr

/-- The octets of a file. A directory opens but cannot be read. -/
def read (t : FileTree) (path : String) : Except ReadError (List UInt8) :=
  match (t.resolve path).bind t.node? with
  | some (.file octets) => .ok octets
  | some .directory => .error .cannotRead
  | _ => .error .cannotOpen

-- ====================================================== writing

/-- Creates the directories on a way that are missing. -/
def createFrom (t : FileTree) (base : List String) :
    List String → Option FileTree
  | [] => some t
  | name :: rest =>
    match t.resolveFrom linkLimit base [name] with
    | some place =>
      if t.node? place = some .directory then createFrom t place rest else none
    | none =>
      if name = ".." || !isShortName name
        || (t.node? (base ++ [name])).isSome then none
      else createFrom (t.put (base ++ [name]) .directory) (base ++ [name]) rest

/-- The tree with all directories on a path. Nothing comes of it where a step
is something else already. -/
def createDirectories (t : FileTree) (path : String) : Option FileTree :=
  if isUsable path then t.createFrom [] (steps path) else none

/-- The path without its last name. -/
def parent (path : String) : String :=
  let names := (path.splitOn "/").reverse
  let rest := (names.dropWhile fun n => n == "" || n == ".").drop 1
  "/".intercalate (rest.dropWhile fun n => n == ""
    || (n == "." && rest.length > 1)).reverse

/-- Opens a file for adding to its end, creating it if it is missing. -/
def openAppend (t : FileTree) (path : String) : Option FileTree :=
  match t.resolve path with
  | some place =>
    match t.node? place with
    | some (.file _) => some t
    | _ => none
  | none =>
    if path.isEmpty || !isUsable path || namesDirectory path then none
    else
      match (steps path).getLast? with
      | none => none
      | some name =>
        match t.resolveFrom linkLimit [] (steps path).dropLast with
        | none => none
        | some base =>
          if name = ".." || !isShortName name
            || t.node? base != some .directory
              || (t.node? (base ++ [name])).isSome then
            none
          else some (t.put (base ++ [name]) (.file []))

/-- Adds octets to the end of an open file. -/
def append (t : FileTree) (path : String) (octets : List UInt8) :
    Option FileTree :=
  match t.resolve path with
  | none => none
  | some place =>
    match t.node? place with
    | some (.file before) => some (t.put place (.file (before ++ octets)))
    | _ => none

/-- Puts a file at a path with the directories above it. -/
def withNode (t : FileTree) (path : String) (node : FileNode) : FileTree :=
  let place := steps path
  let above := (List.range (place.length - 1)).map fun i => place.take (i + 1)
  let t := above.foldl
    (fun t d => if (t.node? d).isSome then t else t.put d .directory) t
  t.put place node

end FileTree

end Intake
