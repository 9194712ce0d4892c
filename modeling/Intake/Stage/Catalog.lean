/-
The stages that exist, as one type, and the registries of their types.
-/
import Intake.Stage.Registry
import Intake.Stage.ChunkText
import Intake.Stage.Contains
import Intake.Stage.RenameFields
import Intake.Stage.CopyFields
import Intake.Stage.DropRecord
import Intake.Stage.EmitNestedChildren
import Intake.Stage.Timestamp
import Intake.Stage.DictionaryLookup
import Intake.Stage.ExtractEntities
import Intake.Stage.FetchUri

namespace Intake

/-- A stage of one of the built-in types. -/
inductive CatalogStage where
  | chunkText (stage : ChunkText)
  | renameFields (stage : RenameFields)
  | copyFields (stage : CopyFields)
  | contains (stage : Contains)
  | timestamp (stage : Timestamp)
  | dropRecord (stage : DropRecord)
  | emitNestedChildren (stage : EmitNestedChildren)
  | fetchUri (stage : FetchUri)
  | dictionaryLookup (stage : DictionaryLookup)
  | extractEntities (stage : ExtractEntities)
deriving Repr

namespace CatalogStage

/-- The name of the stage within. -/
def name : CatalogStage → String
  | .chunkText s => s.name
  | .renameFields s => s.name
  | .copyFields s => s.name
  | .contains s => s.name
  | .timestamp s => s.name
  | .dropRecord s => s.name
  | .emitNestedChildren s => s.name
  | .fetchUri s => s.name
  | .dictionaryLookup s => s.name
  | .extractEntities s => s.name

/-- Starts the stage within. -/
def start (environment : Environment) :
    CatalogStage → Outcome StageError CatalogStage Unit
  | .chunkText s => (Stage.start environment s).within .chunkText
  | .renameFields s => (Stage.start environment s).within .renameFields
  | .copyFields s => (Stage.start environment s).within .copyFields
  | .contains s => (Stage.start environment s).within .contains
  | .timestamp s => (Stage.start environment s).within .timestamp
  | .dropRecord s => (Stage.start environment s).within .dropRecord
  | .emitNestedChildren s =>
      (Stage.start environment s).within .emitNestedChildren
  | .fetchUri s => (Stage.start environment s).within .fetchUri
  | .dictionaryLookup s => (Stage.start environment s).within .dictionaryLookup
  | .extractEntities s => (Stage.start environment s).within .extractEntities

/-- What the stage within makes of a record. -/
def process (environment : Environment) : CatalogStage → Record → StageResult
  | .chunkText s => Stage.process environment s
  | .renameFields s => Stage.process environment s
  | .copyFields s => Stage.process environment s
  | .contains s => Stage.process environment s
  | .timestamp s => Stage.process environment s
  | .dropRecord s => Stage.process environment s
  | .emitNestedChildren s => Stage.process environment s
  | .fetchUri s => Stage.process environment s
  | .dictionaryLookup s => Stage.process environment s
  | .extractEntities s => Stage.process environment s

/-- Stops the stage within. -/
def stop : CatalogStage → Outcome StageError CatalogStage Unit
  | .chunkText s => (Stage.stop s).within .chunkText
  | .renameFields s => (Stage.stop s).within .renameFields
  | .copyFields s => (Stage.stop s).within .copyFields
  | .contains s => (Stage.stop s).within .contains
  | .timestamp s => (Stage.stop s).within .timestamp
  | .dropRecord s => (Stage.stop s).within .dropRecord
  | .emitNestedChildren s => (Stage.stop s).within .emitNestedChildren
  | .fetchUri s => (Stage.stop s).within .fetchUri
  | .dictionaryLookup s => (Stage.stop s).within .dictionaryLookup
  | .extractEntities s => (Stage.stop s).within .extractEntities

instance : Stage CatalogStage where
  name := name
  start := start
  process := process
  stop := stop

end CatalogStage

namespace StageRegistry

/-- A type of stage of the catalog. -/
def catalogType {σ : Type} (name description : String)
    (build : StageOptions → Except StageError σ) (place : σ → CatalogStage) :
    StageType CatalogStage :=
  ⟨name, description, fun o => (build o).map place⟩

/-- The stages that need nothing but the record. -/
def core : StageRegistry CatalogStage :=
  [catalogType "chunk_text" "Split a text field into chunk child records"
    ChunkText.new .chunkText,
   catalogType "rename_fields" "Rename fields according to a mapping"
     RenameFields.new
     .renameFields,
   catalogType "copy_fields" "Copy field values according to a mapping"
     CopyFields.new .copyFields,
   catalogType "contains"
     "Tag records whose fields contain any of a set of words" Contains.new
     .contains,
   catalogType "timestamp" "Write the current UTC time into a field"
     Timestamp.new .timestamp,
   catalogType "drop_record"
     "Drop records, optionally only those matching a field value"
     DropRecord.new .dropRecord,
   catalogType "emit_nested_children"
     "Emit attached children as independent records"
     EmitNestedChildren.new .emitNestedChildren].foldl register empty

/-- All stages. -/
def catalog : StageRegistry CatalogStage :=
  [catalogType "fetch_uri"
    "Download the URL in a field and store the response body" FetchUri.new
     .fetchUri,
   catalogType "dictionary_lookup"
     "Map whole field values through a dictionary file"
     DictionaryLookup.new .dictionaryLookup,
   catalogType "extract_entities"
     "Extract dictionary terms found in text fields"
     ExtractEntities.new .extractEntities].foldl register core

end StageRegistry

end Intake
