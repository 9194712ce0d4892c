import Intake.Main
import Intake.Proofs.Traversal.Order
import Intake.Proofs.Traversal.History
import Intake.Proofs.Traversal.Discipline
import Intake.Proofs.Traversal.Balance
import Intake.Proofs.Traversal.Split
import Intake.Proofs.Field.Frame
import Intake.Proofs.Field.Typing
import Intake.Proofs.Record.Tree
import Intake.Proofs.Record.Edit
import Intake.Proofs.Record.Reading
import Intake.Proofs.Record.Reach
import Intake.Proofs.Number.Finite
import Intake.Proofs.Json.Token
import Intake.Proofs.Json.Reread
import Intake.Proofs.Record.WriteRead
import Intake.Proofs.Record.Exact
import Intake.Proofs.Record.RoundTrip
import Intake.Proofs.Text.Ink
import Intake.Proofs.Chunk.Ink
import Intake.Proofs.Stage.Chunking
import Intake.Proofs.Stage.Descent
import Intake.Proofs.Traversal.Invariant
import Intake.Proofs.Delivery.Journal
import Intake.Proofs.Run.Accounting
import Intake.Proofs.Run.Pool
import Intake.Proofs.Files.Append
import Intake.Proofs.Run.OneRun
import Intake.Proofs.Text.Utf8
import Intake.Proofs.Source.Replay
import Intake.Proofs.Field.Atomic
import Intake.Proofs.Record.Reserved
import Intake.Proofs.Json.Entries
import Intake.Proofs.Json.Equality
import Intake.Proofs.Field.Equality
import Intake.Proofs.Record.Equality
import Intake.Proofs.Pipeline.Session
import Intake.Proofs.Traversal.Surface
import Intake.Proofs.Pipeline.Restart
import Intake.Proofs.Traversal.Replace
import Intake.Proofs.Matching.Search
import Intake.Proofs.Text.Boundary
import Intake.Proofs.Matching.Hits
import Intake.Proofs.Matching.Leftmost
import Intake.Proofs.Text.Lowercase
import Intake.Proofs.Matching.WholeWords
import Intake.Proofs.Matching.IgnoredCase
import Intake.Proofs.Stage.Windows
import Intake.Proofs.Chunk.LeastLength
import Intake.Proofs.Chunk.Runs
import Intake.Proofs.Chunk.Paragraphs
import Intake.Proofs.Chunk.Cleaning
import Intake.Proofs.Chunk.Sentences
import Intake.Proofs.Chunk.Places
import Intake.Proofs.Stage.Children
import Intake.Proofs.Chunk.SentenceEnds
import Intake.Proofs.Field.Adding
import Intake.Proofs.Record.Sound
import Intake.Proofs.Record.Rename
import Intake.Proofs.Record.Copy
import Intake.Proofs.Record.Update
import Intake.Proofs.Field.Occurrences
import Intake.Proofs.Record.Duplicates
import Intake.Proofs.Text.Base64
import Intake.Proofs.Time.Calendar
import Intake.Proofs.Time.Instant
import Intake.Proofs.Record.Getters
import Intake.Proofs.Record.Acceptance
import Intake.Proofs.Traversal.Surfacing
import Intake.Proofs.Delivery.Retries
import Intake.Proofs.Stage.Gathering
import Intake.Proofs.Stage.Lookup
import Intake.Proofs.Matching.FirstHit
import Intake.Proofs.Matching.Entries
import Intake.Proofs.Stage.Extraction
import Intake.Proofs.Stage.WholeTerms
import Intake.Proofs.Stage.Checks
import Intake.Proofs.Stage.ChunkOptions
import Intake.Proofs.Csv.Lines
import Intake.Proofs.Matching.WrittenDictionary
import Intake.Proofs.Csv.Numbering
import Intake.Proofs.Record.LastWrites
import Intake.Proofs.Source.RowFields
import Intake.Proofs.Source.RowIds
import Intake.Proofs.Text.Slices
import Intake.Proofs.Chunk.Borrowing
