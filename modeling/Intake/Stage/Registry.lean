/-
The types of stages by name, and the building of a stage from its options.
-/
import Intake.Stage.Basic

namespace Intake

/-- A type of stage: its name, a line about it, and how one is built. -/
structure StageType (σ : Type) where
  name : String
  description : String
  build : StageOptions → Except StageError σ

/-- The types of stages in the order of their registration. -/
structure StageRegistry (σ : Type) where
  types : List (StageType σ)

namespace StageRegistry

variable {σ τ : Type}

/-- No stage types are known. -/
def empty : StageRegistry σ := ⟨[]⟩

/-- Adds a type at the end, in place of an earlier one of the same name. -/
def register (registry : StageRegistry σ) (type : StageType σ) :
    StageRegistry σ :=
  ⟨(registry.types.filter fun t => t.name != type.name) ++ [type]⟩

/-- The stage type of a name. -/
def find? (registry : StageRegistry σ) (name : String) :
    Option (StageType σ) :=
  registry.types.find? fun t => t.name == name

/-- Builds the stage that the option `type` names. -/
def build (registry : StageRegistry σ) (o : StageOptions) :
    Except StageError σ :=
  match o.stageType with
  | none => .error (.config o.readingLabel "missing option: type")
  | some name =>
    match registry.find? name with
    | none =>
        .error (.config o.readingLabel ("unknown stage type '" ++ name ++ "'"))
    | some type => type.build o

/-- The same types, building stages of another kind. -/
def map (f : σ → τ) (registry : StageRegistry σ) : StageRegistry τ :=
  ⟨registry.types.map fun t =>
    ⟨t.name, t.description, fun o => (t.build o).map f⟩⟩

end StageRegistry

end Intake
