/-
The stage that divides a text field into chunks.

The text is split, cleaned, joined to a least length, cut to a greatest
one, then joined in windows that share chunks, or joined and extended by
borrowed text, and cut to a last limit. Every chunk becomes a child of the
record that knows its number and its place among the others.
-/
import Intake.Stage.Basic
import Intake.Chunk.Sentence
import Intake.Chunk.Clean
import Intake.Chunk.Merge
import Intake.Pattern.Parser
import Intake.Pattern.Search

namespace Intake

/-- How a text is split. -/
inductive ChunkMethod where
  | fixed (size : Nat)
  | paragraph
  | sentence
  | custom (separator : Pattern.Program)
deriving Repr

/-- Divides a text into chunks and attaches each of them as a child. The steps
between dividing and attaching are left out unless options ask for them. -/
structure ChunkText where
  name : String
  source : String
  dest : String
  method : ChunkMethod
  cleans : Bool
  leastLength : Option Nat
  greatestLength : Option Nat
  merged : Nat
  shared : Option Nat
  borrowed : Nat
  limit : Option Nat
  started : Bool
deriving Repr

namespace ChunkText

-- ====================================================== options

/-- The options of the stage. -/
def spec : StageSpec :=
  { required := ["source"]
    optional := ["dest", "chunking_method", "regex", "length_to_split",
      "clean_chunks", "pre_merge_min_chunk_len", "pre_merge_max_chunk_len",
      "chunks_to_merge", "chunks_to_overlap", "overlap_percentage",
      "character_limit"] }

/-- The methods by name. -/
inductive MethodName where
  | fixed | paragraph | sentence | custom
deriving DecidableEq, Repr

/-- The method that a text names in any case of its letters. -/
def methodName? (s : String) : Except String MethodName :=
  let lowered := UpdateMode.lowerAscii s
  if lowered = "fixed" then .ok .fixed
  else if lowered = "paragraph" then .ok .paragraph
  else if lowered = "sentence" then .ok .sentence
  else if lowered = "custom" then .ok .custom
  else .error ("unknown chunking_method '" ++ lowered
    ++ "': expected fixed, paragraph, sentence, or custom")

/-- An integer option that is positive if it is there. -/
def positive (o : StageOptions) (key : String) :
    Except StageError (Option Nat) := do
  match ← o.getLong key with
  | none => .ok none
  | some i =>
    if 0 < i then .ok (some i.toNat)
    else .error (.config (o.label "chunk_text")
      (key ++ " must be a positive integer"))

/-- An option that is refused with a message of its own. -/
def refusal (o : StageOptions) (message : String) : StageError :=
  .config (o.label "chunk_text") message

/-- The name of the method, that of sentences unless the options tell
otherwise. -/
def readName (o : StageOptions) : Except StageError MethodName := do
  match ← o.getText "chunking_method" with
  | some s => (methodName? s).mapError (refusal o)
  | none => .ok .sentence

/-- The separator of the custom method. What is wrong with a pattern that
cannot be read is told as `<detail>`. -/
def separator (o : StageOptions) (pattern : Option String) :
    Except StageError Pattern.Program :=
  match pattern with
  | none => .error (refusal o "custom chunking requires a non-empty regex")
  | some s =>
    if s.isEmpty then
      .error (refusal o "custom chunking requires a non-empty regex")
    else match Pattern.parse s with
      | some pattern => .ok (Pattern.Program.ofPattern pattern)
      | none => .error (refusal o ("invalid regex '" ++ s ++ "': <detail>"))

/-- The separator, which no method but the custom one has. -/
def readSeparator (o : StageOptions) (name : MethodName) :
    Except StageError Pattern.Program := do
  let pattern ← o.getText "regex"
  if name = .custom then separator o pattern else .ok #[]

/-- The method with what it needs: a size, or a separator. -/
def readMethod (o : StageOptions) : Except StageError ChunkMethod := do
  let name ← readName o
  let program ← readSeparator o name
  let size ← positive o "length_to_split"
  match name, size with
  | .fixed, some size => .ok (.fixed size)
  | .fixed, none =>
      .error (refusal o "fixed chunking requires a positive length_to_split")
  | .paragraph, _ => .ok .paragraph
  | .sentence, _ => .ok .sentence
  | .custom, _ => .ok (.custom program)

/-- The number of chunks that windows hold. -/
def readMerged (o : StageOptions) : Except StageError Int := do
  let merged := (← o.getLong "chunks_to_merge").getD 1
  if merged < 1 then .error (refusal o "chunks_to_merge must be at least 1")
  else .ok merged

/-- The percentage of a chunk that it borrows from its neighbours. -/
def readBorrowed (o : StageOptions) : Except StageError Int := do
  let borrowed := (← o.getLong "overlap_percentage").getD 0
  if borrowed < 0 ∨ 100 < borrowed then
    .error (refusal o "overlap_percentage must be between 0 and 100")
  else .ok borrowed

/-- The number of chunks that windows share, smaller than the number they
hold. -/
def readShared (o : StageOptions) (merged borrowed : Int) :
    Except StageError (Option Nat) := do
  match ← o.getLong "chunks_to_overlap" with
  | none => .ok none
  | some i =>
    if 0 < borrowed then
      .error (refusal o
        "chunks_to_overlap and overlap_percentage cannot both be set")
    else if i < 0 ∨ merged ≤ i then
      .error <| refusal o
        "chunks_to_overlap must be at least 0 and smaller than chunks_to_merge"
    else .ok (some i.toNat)

/-- Reads and checks the options. -/
def new (o : StageOptions) : Except StageError ChunkText := do
  spec.validate o
  let method ← readMethod o
  let merged ← readMerged o
  let borrowed ← readBorrowed o
  let shared ← readShared o merged borrowed
  let source ← o.requireText "source"
  let dest ← o.getText "dest"
  let cleans ← o.getBool "clean_chunks"
  let leastLength ← positive o "pre_merge_min_chunk_len"
  let greatestLength ← positive o "pre_merge_max_chunk_len"
  let limit ← positive o "character_limit"
  return {
    name := o.label "chunk_text", source, dest := dest.getD "chunk", method,
    cleans := cleans.getD false, leastLength, greatestLength,
    merged := merged.toNat, shared, borrowed := borrowed.toNat, limit,
    started := false }

-- ====================================================== chunks

/-- Pieces between the matches of a separator. An empty first piece is kept
unless the separator matched nothing at the start; empty last pieces go. -/
def splitAt (separator : Pattern.Program) (text : List Char) :
    List (List Char) :=
  let spans := separator.spans text
  let pieces := match spans.head?, Pattern.Program.between 0 text spans with
    | some ⟨0, 0⟩, [] :: rest => rest
    | _, pieces => pieces
  Chunk.dropTrailingEmpty pieces

/-- The pieces of a text by the method of the stage. -/
def split (stage : ChunkText) (text : List Char) :
    Except StageError (List (List Char)) :=
  match stage.method with
  | .fixed size => .ok (Chunk.groupsOf size text)
  | .paragraph => .ok (Chunk.paragraphs text)
  | .custom separator => .ok (splitAt separator text)
  | .sentence =>
    if stage.started then .ok (Sentence.detect text)
    else .error (.lifecycle stage.name
      "sentence detector not loaded; call start() first")

/-- Joins chunks in windows, or joins them and lets them borrow text. -/
def combine (stage : ChunkText) (chunks : List (List Char)) :
    List (List Char) :=
  match stage.shared with
  | some shared => Chunk.mergeShared stage.merged shared chunks
  | none =>
    let chunks :=
      if 1 < stage.merged then Chunk.merge stage.merged chunks else chunks
    if 0 < stage.borrowed then Chunk.overlap stage.borrowed chunks else chunks

/-- Chunks of at most so many characters, if there is a limit. -/
def truncateAll (limit : Option Nat) (chunks : List (List Char)) :
    List (List Char) :=
  match limit with
  | some limit => chunks.map (Chunk.truncate limit)
  | none => chunks

/-- What becomes of the pieces of a text. -/
def refine (stage : ChunkText) (pieces : List (List Char)) :
    List (List Char) :=
  let chunks := if stage.cleans then pieces.map Chunk.clean else pieces
  let chunks := match stage.leastLength with
    | some least => Chunk.mergeToLength least chunks
    | none => chunks
  truncateAll stage.limit
    (stage.combine (truncateAll stage.greatestLength chunks))

/-- The chunks of a text. -/
def chunk (stage : ChunkText) (text : List Char) :
    Except StageError (List (List Char)) :=
  (stage.split text).map stage.refine

-- ====================================================== children

/-- A count as a value. -/
def long (n : Nat) : Value := .long (Int64.ofNat n)

/-- The child for a chunk: its number among `total`, and the characters
before it. -/
def child (dest parent : String) (total number offset : Nat)
    (chunk : List Char) : Record.Change Unit :=
  let new := Record.new (parent ++ "-" ++ toString number)
  Outcome.each (fun r (entry : String × Value) => r.setField entry.1 entry.2)
    new
    [("parent_id", .text parent), ("chunk_number", long number),
     ("total_chunks", long total), ("offset", long offset),
     ("length", long chunk.length), (dest, .text (String.ofList chunk))]

/-- Adds the children for chunks, of which the first has a given number and
that many characters before it. -/
def addChildren (dest : String) (total : Nat) :
    Nat → Nat → Record → List (List Char) → Outcome StageError Record Unit
  | _, _, r, [] => .ok r ()
  | number, offset, r, chunk :: rest =>
    let made := child dest r.id total number offset chunk
    match made.result with
    | .error e => .fail r (.field e)
    | .ok () =>
      addChildren dest total (number + 1) (offset + chunk.length)
        (r.addChild made.state) rest

/-- Attaches the chunks of the source text. A text that is missing or blank has
none. -/
def process (stage : ChunkText) (r : Record) : StageResult :=
  match r.getText stage.source with
  | none => .unchanged r
  | some text =>
    if Text.isBlank text.toList then .unchanged r
    else match stage.chunk text.toList with
      | .error e => .fail r e
      | .ok chunks =>
        (addChildren stage.dest chunks.length 1 0 r chunks).andThen fun r _ =>
          .ok r none

instance : Stage ChunkText where
  name := ChunkText.name
  start _ stage := .ok { stage with started := true } ()
  process _ := process
  stop stage := .ok stage ()

end ChunkText

end Intake
