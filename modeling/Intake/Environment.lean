/-
The world around a run: its files, the time, and resources by address.
-/
import Intake.Files.Tree
import Intake.Time.Instant

namespace Intake

/-- An answer to a request for a resource. -/
structure Response where
  status : Int32
  body : List UInt8

/-- When a file came to be and when it last changed. -/
structure FileDates where
  created : Instant
  modified : Instant

/-- What a run reads of the world around it: files with their dates, the time,
and resources at addresses. -/
structure Environment where
  files : FileTree
  now : Instant
  /-- the dates of the file at a path -/
  dates : String → FileDates
  /-- the resource at an address, or why it cannot be had -/
  fetch : String → Except String Response

end Intake
