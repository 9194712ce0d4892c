/-
All regular files below a directory, by the names that lead to them.

Links inside are followed only on demand; a link back to a directory on
the way to itself is passed over, and so is one that leads nowhere. The
directory may itself be given by a link. Files come in the order of their
names, compared step by step.
-/
import Intake.Files.Tree

namespace Intake.FileTree

-- ====================================================== directories

/-- The names in a directory with what is behind them. -/
def children (t : FileTree) (place : List String) : List (String × FileNode) :=
  t.nodes.filterMap fun (names, node) =>
    match names.getLast? with
    | some name => if names.dropLast = place then some (name, node) else none
    | none => none

/-- The path itself names a link. -/
def isLink (t : FileTree) (path : String) : Bool :=
  match (steps path).getLast? with
  | none => false
  | some name =>
    if namesDirectory path || name == ".." then false
    else match t.resolveFrom linkLimit [] (steps path).dropLast with
      | none => false
      | some base => match t.node? (base ++ [name]) with
        | some (.link _) => true
        | _ => false

-- ====================================================== walks

/-- Names do not come behind other names: the first that differ decide. -/
def notBehind : List String → List String → Bool
  | [], _ => true
  | _ :: _, [] => false
  | a :: as, b :: bs => if a = b then notBehind as bs else a < b

/-- The files below a place that names lead to, in no order. The places on
the way there are given, and `fuel` bounds the depth. -/
def below (t : FileTree) (follow : Bool) :
    Nat → List (List String) → List String → List String → List (List String)
  | 0, _, _, _ => []
  | fuel + 1, above, place, names =>
    let above := place :: above
    (t.children place).flatMap fun (name, node) =>
      let names := names ++ [name]
      match node with
      | .file _ => [names]
      | .directory => below t follow fuel above (place ++ [name]) names
      | .link _ =>
        if !follow then []
        else match t.resolveFrom linkLimit place [name] with
          | none => []
          | some target =>
            match t.node? target with
            | some (.file _) => [names]
            | some .directory =>
              if above.contains target then []
              else below t follow fuel above target names
            | _ => []

/-- No walk goes deeper: between two links it goes down one way, and no
link leads to the same place twice. -/
def walkLimit (t : FileTree) : Nat :=
  (t.nodes.length + 2) * (t.nodes.length + 2)

/-- The files below a path, or the file that the path itself leads to. -/
def walk (t : FileTree) (follow : Bool) (path : String) : List (List String) :=
  match t.resolve path with
  | none => []
  | some place =>
    match t.node? place with
    | some (.file _) => if t.isLink path && !follow then [] else [[]]
    | some .directory =>
      (t.below follow t.walkLimit [] place []).mergeSort notBehind
    | _ => []

/-- The path of names below another path. -/
def join (path : String) (names : List String) : String :=
  if names.isEmpty then path
  else if path.isEmpty || path.toList.getLast? == some '/' then
    path ++ "/".intercalate names
  else path ++ "/" ++ "/".intercalate names

end Intake.FileTree
