/-
The command line: gathers the files below the working directory, carries
the words out, prints what comes of it and writes the files that changed.

Resources by address are out of reach, and so are files above the working
directory.
-/
import Intake.Command.Report
import Std.Time.DateTime.Timestamp

namespace Intake.Main

-- ====================================================== gathering

/-- A moment of the system's clock. -/
def instantOf (t : IO.FS.SystemTime) : Instant := ⟨t.sec, t.nsec.toNat⟩

/-- The files gathered so far, and the dates of each. -/
structure Gathered where
  tree : FileTree
  dates : List (String × FileDates)

/-- The way up from a place and down to a target, if that lies at or below the
root. -/
def linkTarget (root target : String) (place : List String) : Option String :=
  if target = root || (root ++ "/").isPrefixOf target then
    let up := List.replicate (place.length - 1) ".."
    let down := FileTree.steps (String.ofList (target.toList.drop root.length))
    some ("/".intercalate (up ++ down))
  else none

/-- Adds one entry of a directory, and what is below it. -/
partial def gather (root : String) (place : List String)
  (entry : IO.FS.DirEntry) (g : Gathered) :
    IO Gathered := do
  let place := place ++ [entry.fileName]
  let facts ← entry.path.symlinkMetadata
  match facts.type with
  | .dir =>
    let mut g := { g with tree := g.tree.put place .directory }
    for child in ← entry.path.readDir do
      g ← gather root place child g
    return g
  | .file =>
    let octets := (← IO.FS.readBinFile entry.path).toList
    let dates : FileDates :=
      ⟨instantOf facts.modified, instantOf facts.modified⟩
    return ⟨g.tree.put place (.file octets),
      ("/".intercalate place, dates) :: g.dates⟩
  | .symlink =>
    let target ← (IO.FS.realPath entry.path).toBaseIO
    match target.toOption.bind fun target =>
      linkTarget root target.toString place with
    | some target => return { g with tree := g.tree.put place (.link target) }
    | none => return g
  | .other => return g

/-- All that is below the working directory. -/
def gatherAll : IO Gathered := do
  let root ← IO.FS.realPath (← IO.currentDir)
  let mut g : Gathered := ⟨FileTree.empty, []⟩
  for entry in ← root.readDir do
    g ← gather root.toString [] entry g
  return g

/-- The dates of the file that a path leads to. -/
def datesOf (g : Gathered) (now : Instant) (path : String) : FileDates :=
  let place := (g.tree.resolve path).getD []
  (g.dates.lookup ("/".intercalate place)).getD ⟨now, now⟩

/-- A random id for a run, in five groups of hexadecimal digits. -/
def randomRunId : IO String := do
  let octets := (← IO.getRandomBytes 16).toList
  let octets := octets.mapIdx fun i b =>
    if i = 6 then b % 16 + 64 else if i = 8 then b % 64 + 128 else b
  let digits := Hex.encode octets
  let group (start size : Nat) : String :=
    String.ofList ((digits.drop start).take size)
  return "-".intercalate [group 0 8, group 8 4, group 12 4,
    group 16 4, group 20 12]

-- ====================================================== telling

/-- Writes the files that were not there before, or not like this. -/
def writeChanges (before after : FileTree) : IO Unit := do
  for (place, node) in after.nodes do
    if before.node? place != some node then
      match node with
      | .directory => IO.FS.createDirAll ("/".intercalate place)
      | .file octets =>
          IO.FS.writeBinFile ("/".intercalate place) ⟨octets.toArray⟩
      | .link _ => pure ()

/-- Tells why a command ended. -/
def tell : Ending → IO Unit
  | .success => pure ()
  | .failure f => IO.eprint (Report.unlines (Report.failureLines f))
  | .misuse => IO.eprintln "error: the command line cannot be read"

end Intake.Main

open Intake Intake.Main in
/-- Reads the world into an environment, makes the report and carries it out.
The address of a resource is never followed. -/
def main (words : List String) : IO UInt32 := do
  let clock ← Std.Time.Timestamp.now
  let now : Instant := ⟨clock.val.second.val, clock.val.nano.val.toNat⟩
  let gathered ← gatherAll
  let environment : Environment :=
    ⟨gathered.tree, now, datesOf gathered now, fun _ => .error "out of reach"⟩
  let report := Report.ofWords environment (← randomRunId) words
  IO.print report.output
  writeChanges gathered.tree report.files
  tell report.ending
  return UInt32.ofNat report.ending.code
