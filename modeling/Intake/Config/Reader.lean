/-
Reading a configuration from a TOML document or file.

A group of settings is a table, or an array that gives the settings by
place. Settings nobody knows are passed over, and a setting that is
missing has its default; only the pipeline and the roots and paths of
sources have none.
-/
import Intake.Config.Basic
import Intake.Toml.Parser
import Intake.Text.Utf8

namespace Intake.Config

open Toml (Members)

-- ====================================================== single settings

/-- The settings in a group of which the places have the given names. -/
def settings (names : List String) : Toml → Option Members
  | .table _ members => some members
  | .array _ items => some (names.zip items)
  | .time s => some [(Toml.timeKey, .text s)]
  | _ => none

/-- A setting, or else its default. -/
def setting {α : Type} (members : Members) (name : String)
    (view : Toml → Option α) (otherwise : α) : Option α :=
  match Toml.lookup name members with
  | none => some otherwise
  | some value => view value

/-- A setting without a default. -/
def required {α : Type} (members : Members) (name : String)
    (view : Toml → Option α) : Option α :=
  (Toml.lookup name members).bind view

/-- A text. -/
def text? : Toml → Option String
  | .text s => some s
  | _ => none

/-- A truth value. -/
def bool? : Toml → Option Bool
  | .bool b => some b
  | _ => none

/-- A natural number below a limit. -/
def nat? (limit : Nat) : Toml → Option Nat
  | .integer i =>
    if 0 ≤ i.toInt ∧ i.toInt.toNat < limit then some i.toInt.toNat else none
  | _ => none

/-- A text of one character. -/
def char? : Toml → Option Char
  | .text s =>
    match s.toList with
    | [c] => some c
    | _ => none
  | _ => none

/-- An array of which every item is read in one way. -/
def list? {α : Type} (view : Toml → Option α) : Toml → Option (List α)
  | .array _ items => items.mapM view
  | _ => none

/-- A value whose absence is an absence. -/
def maybe? {α : Type} (view : Toml → Option α) (value : Toml) :
    Option (Option α) :=
  (view value).map some

/-- A table of which every value is read in one way, in the order of its
keys. -/
def named? {α : Type} (view : Toml → Option α) (value : Toml) :
    Option (List (String × α)) :=
  match value with
  | .array _ _ => none
  | _ => do
    let members ← settings [] value
    let entries ← members.mapM fun (name, value) => (view value).map (name, ·)
    some (Json.byKey entries)

-- ====================================================== groups

/-- How records are queued and worked on. Sizes fit a word of 64 bits. -/
def runner? (value : Toml) : Option RunnerConfig := do
  let ms ← settings ["queue_capacity", "workers"] value
  let defaults : RunnerConfig := {}
  let queueCapacity ← setting ms "queue_capacity"
    (nat? UInt64.size) defaults.queueCapacity
  let workers ← setting ms "workers" (nat? UInt64.size) defaults.workers
  some { queueCapacity, workers }

/-- The options of a stage as a JSON object. -/
def stage? (value : Toml) : Option StageOptions :=
  match value.toJson with
  | .object members => some ⟨members⟩
  | _ => none

/-- The name and the stages of the pipeline. -/
def pipeline? (value : Toml) : Option PipelineConfig := do
  let ms ← settings ["name", "stages"] value
  let name ← setting ms "name" text? PipelineConfig.defaultName
  let stages ← setting ms "stages" (list? stage?) []
  some { name, stages }

/-- A kind of sink by its name, or as a table that holds nothing else. -/
def sinkKind? : Toml → Option SinkKind
  | .text "stdout" => some .stdout
  | .text "jsonl" => some .jsonl
  | .table _ [(name, .table _ [])] => kindOf name
  | .table _ [(name, .array _ [])] => kindOf name
  | _ => none
where
  kindOf (name : String) : Option SinkKind :=
    if name = "stdout" then some .stdout
    else if name = "jsonl" then some .jsonl else none

/-- The sink. Its limit of retries fits a word of 32 bits, the pause one of
64. -/
def sink? (value : Toml) : Option SinkConfig := do
  let ms ← settings ["type", "path", "max_retries", "retry_backoff_ms"] value
  let defaults : SinkConfig := {}
  let kind ← setting ms "type" sinkKind? defaults.kind
  let path ← setting ms "path" (maybe? text?) defaults.path
  let maxRetries ← setting ms "max_retries"
    (nat? UInt32.size) defaults.maxRetries
  let retryBackoffMs ← setting ms "retry_backoff_ms"
    (nat? UInt64.size) defaults.retryBackoffMs
  some { kind, path, maxRetries, retryBackoffMs }

/-- A directory as a source. Its root has no default. -/
def filesystem? (value : Toml) : Option FilesystemConfig := do
  let ms ← settings ["root", "include_globs", "exclude_globs",
    "follow_symlinks", "doc_id_prefix", "content_as_text"] value
  let defaults : FilesystemConfig := { root := "" }
  let root ← required ms "root" text?
  let includeGlobs ← setting ms "include_globs"
    (list? text?) defaults.includeGlobs
  let excludeGlobs ← setting ms "exclude_globs"
    (list? text?) defaults.excludeGlobs
  let followSymlinks ← setting ms "follow_symlinks" bool?
    defaults.followSymlinks
  let idPrefix ← setting ms "doc_id_prefix" text? defaults.idPrefix
  let contentAsText ← setting ms "content_as_text" bool? defaults.contentAsText
  some
    { root, includeGlobs, excludeGlobs, followSymlinks, idPrefix,
      contentAsText }

/-- A file of written records as a source. -/
def jsonl? (value : Toml) : Option JsonlConfig := do
  let ms ← settings ["path", "doc_id_prefix"] value
  let path ← required ms "path" text?
  let idPrefix ← setting ms "doc_id_prefix" text? ""
  some { path, idPrefix }

/-- A file of rows as a source. -/
def csv? (value : Toml) : Option CsvConfig := do
  let ms ← settings ["path", "id_field", "doc_id_prefix", "delimiter"] value
  let defaults : CsvConfig := { path := "" }
  let path ← required ms "path" text?
  let idField ← setting ms "id_field" (maybe? text?) defaults.idField
  let idPrefix ← setting ms "doc_id_prefix" text? defaults.idPrefix
  let delimiter ← setting ms "delimiter" char? defaults.delimiter
  some { path, idField, idPrefix, delimiter }

/-- The sources under their names, one table for each kind. -/
def sources? (value : Toml) : Option SourcesConfig := do
  let ms ← settings ["filesystem", "jsonl", "csv"] value
  let filesystem ← setting ms "filesystem" (named? filesystem?) []
  let jsonl ← setting ms "jsonl" (named? jsonl?) []
  let csv ← setting ms "csv" (named? csv?) []
  some { filesystem, jsonl, csv }

/-- The configuration of a document, not yet checked. -/
def ofMembers (ms : Members) : Option Config := do
  let runner ← setting ms "runner" runner? {}
  let pipeline ← required ms "pipeline" pipeline?
  let sink ← setting ms "indexer" sink? {}
  let sources ← setting ms "connectors" sources? {}
  some { runner, pipeline, sink, sources }

-- ====================================================== documents and files

/-- The configuration of a TOML text. -/
def parse (s : String) : Except ConfigError Config :=
  match (Toml.parse s).bind ofMembers with
  | some config => config.check
  | none => .error .unreadable

/-- The configuration of a file. -/
def load (files : FileTree) (path : String) : Except Failure Config :=
  match (files.read path).toOption.bind Utf8.decode with
  | none => .error (.external ("Failed to read config file: " ++ path))
  | some content =>
    (parse (String.ofList content)).mapError fun e =>
      e.failure.during ("Invalid config: " ++ path)

end Intake.Config
