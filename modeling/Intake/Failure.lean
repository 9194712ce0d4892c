/-
Failures outside the pipeline: a cause and what was being done, outermost
first.

Where the cause is told by a library or by the system, its wording is not
part of the failure and stands as `<detail>`.
-/
import Intake.Stage.Error

namespace Intake

/-- Where a failure comes from. The detail of an external one is not known
here. -/
inductive Cause where
  | told (message : String)
  | external
  | field (error : FieldError)
  | stage (error : StageError)
deriving DecidableEq, Repr

/-- A cause with what was going on around it, the outermost first. -/
structure Failure where
  contexts : List String
  cause : Cause
deriving DecidableEq, Repr

namespace Failure

/-- A failure that is nothing but its message. -/
def told (message : String) : Failure := ⟨[], .told message⟩

/-- A failure of the world while something was being done. -/
def external (context : String) : Failure := ⟨[context], .external⟩

/-- A failure of the world with nothing said about what was being done. -/
def unexplained : Failure := ⟨[], .external⟩

/-- Adds what was being done around the failure. -/
def during (context : String) (f : Failure) : Failure :=
  { f with contexts := context :: f.contexts }

/-- The text of a cause. -/
def causeText : Cause → String
  | .told m => m
  | .external => "<detail>"
  | .field e => e.message
  | .stage e => e.message

/-- What was being done and the cause, outermost first. -/
def parts (f : Failure) : List String := f.contexts ++ [causeText f.cause]

/-- All parts on one line. -/
def message (f : Failure) : String := ": ".intercalate f.parts

/-- The outermost part. -/
def headline (f : Failure) : String := f.contexts.headD (causeText f.cause)

end Failure

end Intake
