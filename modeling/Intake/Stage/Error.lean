/-
Errors of stages and pipelines, with their messages.
-/
import Intake.Field.Error

namespace Intake

/-- What goes wrong with a stage, from reading its options on. -/
inductive StageError where
  /-- bad or missing options, found when a pipeline is assembled -/
  | config (stage message : String)
  | lifecycle (stage message : String)
  | start (stage message : String)
  | field (error : FieldError)
  | processing (stage record message : String)
deriving DecidableEq, Repr

namespace StageError

/-- The message of each error. -/
def message : StageError → String
  | .config stage m => "stage `" ++ stage ++ "` configuration: " ++ m
  | .lifecycle stage m => "stage `" ++ stage ++ "`: " ++ m
  | .start stage m => "stage `" ++ stage ++ "` failed to start: " ++ m
  | .field e => e.message
  | .processing stage record m =>
    "stage `" ++ stage ++ "` failed on record `" ++ record ++ "`: " ++ m

/-- An error that was found in the options. -/
def isConfig : StageError → Bool
  | .config _ _ => true
  | _ => false

end StageError

end Intake
