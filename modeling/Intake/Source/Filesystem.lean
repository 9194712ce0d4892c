/-
Files below a directory as records, one a file.

A file counts if its path below the directory matches a pattern that
includes and none that excludes; directories of version control, builds
and packages are always excluded. The content of a file is kept as octets
or as text.
-/
import Intake.Config.Basic
import Intake.Files.Glob
import Intake.Files.Walk
import Intake.Source.Basic

namespace Intake.FilesystemSource

/-- What is excluded from every directory. -/
def standardExcludes : List String :=
  ["**/.git/**", "**/target/**", "**/node_modules/**"]

/-- The paths of the files that count, in order. -/
def scan (files : FileTree) (config : FilesystemConfig) :
    Except Failure (List String) := do
  let included ← Glob.readAll config.includeGlobs
  let excluded ← Glob.readAll (standardExcludes ++ config.excludeGlobs)
  let counts (names : List String) : Bool :=
    let path := "/".intercalate names
    !Glob.anyMatch excluded path && Glob.anyMatch included path
  return ((files.walk config.followSymlinks config.root).filter counts).map
    (FileTree.join config.root)

/-- The content of a file as a value. -/
def content (config : FilesystemConfig) (octets : List UInt8) : Value :=
  if config.contentAsText then
    .text (String.ofList (Utf8.decodeLenient octets)) else .bytes octets

/-- The fields of a file in the order in which they are written. -/
def fieldsOf (config : FilesystemConfig) (dates : FileDates) (path : String)
    (octets : List UInt8) : List (String × Value) :=
  [("file_path", .text path),
   ("file_modification_date", .timestamp dates.modified),
   ("file_creation_date", .timestamp dates.created),
   ("file_size_bytes", .long (Int64.ofNat octets.length)),
   ("file_content", content config octets)]

/-- The record of a file, if it can be read. -/
def recordOf? (environment : Environment) (config : FilesystemConfig)
    (path : String) : Option Record :=
  match environment.files.read path with
  | .error _ => none
  | .ok octets =>
    let written :=
      Outcome.each
        (fun r (entry : String × Value) => r.setField entry.1 entry.2)
      (Record.new (recordId config.idPrefix path))
      (fieldsOf config (environment.dates path) path octets)
    written.result.toOption.map fun _ => written.state

/-- The records of the files that the patterns choose. A file that cannot be
read is left out. -/
def records (environment : Environment) (config : FilesystemConfig) :
    Except Failure (List Record) :=
  (scan environment.files config).map fun paths =>
    paths.filterMap (recordOf? environment config)

/-- The source is ready if its directory is there. -/
def prepare (files : FileTree) (config : FilesystemConfig) :
    Except Failure Unit :=
  if files.isDirectory config.root then .ok ()
  else .error (.told
    ("Filesystem connector root does not exist: " ++ config.root))

/-- The patterns are read on opening, the files for their records. -/
def run (environment : Environment) (config : FilesystemConfig) : SourceRun :=
  ⟨prepare environment.files config, .ofRecords (records environment config),
    .ok ()⟩

end Intake.FilesystemSource
