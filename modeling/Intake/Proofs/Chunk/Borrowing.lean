/-
Chunks extended by text of their neighbours.

The chunk before is handed down the list as it was given, so at every place a
chunk meets both neighbours unextended (`getElem?_borrowFrom`), and no text is
passed on that was borrowed itself. A neighbour lends as many characters as are
asked for or all it has (`Front`, `Back`), which bounds the extended text.
Trimming takes off no more of the chunk in the middle than trimming it alone.

Counted in characters and cut by octets, what is lent is put together as octets
(`splice`). None of the cuts divides a character, so these are the octets of
the extended text (`splice_eq`).
-/
import Intake.Chunk.Merge
import Intake.Proofs.Text.Slices
import Intake.Proofs.Text.Trim

namespace Intake.Chunk

open Text (trim)

variable {count : Nat} {before after : Option (List Char)}
  {chunks : List (List Char)}

-- ====================================================== statement vocabulary

/-- The number of characters that a chunk borrows on either side. -/
def loan (percentage : Nat) (chunk : List Char) : Nat :=
  percentage * chunk.length / 100

/-- The chunk in front of a place. -/
def before? (chunks : List (List Char)) : Nat → Option (List Char)
  | 0 => none
  | place + 1 => chunks[place]?

/-- What stands in front of an extended chunk: the end of the chunk before it,
as long as the loan or the whole of it, and a space. -/
inductive Front (count : Nat) : Option (List Char) → List Char → Prop where
  | nothing : Front count none []
  | lent {text tail : List Char} (ends : tail <:+ text)
      (length : tail.length = min count text.length) :
        Front count (some text) (tail ++ [' '])

/-- What stands behind an extended chunk: a space and the start of the chunk
behind it, as long as the loan or the whole of it. -/
inductive Back (count : Nat) : Option (List Char) → List Char → Prop where
  | nothing : Back count none []
  | lent {text head : List Char} (begins : head <+: text)
      (length : head.length = min count text.length) :
        Back count (some text) (' ' :: head)

/-- The octets of what stands in front of an extended chunk, cut out of those
of the chunk before it, unless the cut divides a character. -/
def cutBefore (count : Nat) : Option (List Char) → Option (List UInt8)
  | none => some []
  | some text => (Utf8.cutBack count text).map (· ++ Utf8.encode [' '])

/-- The octets behind a chunk: a space and the front of the neighbour, if it
can be cut there. -/
def cutBehind (count : Nat) : Option (List Char) → Option (List UInt8)
  | none => some []
  | some text => (Utf8.cutFront count text).map (Utf8.encode [' '] ++ ·)

/-- The octets of a chunk between those that are cut out of its neighbours. -/
def splice (percentage : Nat) (before : Option (List Char)) (chunk : List Char)
    (after : Option (List Char)) : Option (List UInt8) := do
  let front ← cutBefore (loan percentage chunk) before
  let back ← cutBehind (loan percentage chunk) after
  return front ++ (Utf8.encode chunk ++ back)

/-- A chunk extended at its place among the chunks that were given. -/
structure Extends (percentage : Nat) (chunks : List (List Char)) (place : Nat)
    (chunk result : List Char) : Prop where
  text : ∃ front back,
    Front (loan percentage chunk) (before? chunks place) front
    ∧ Back (loan percentage chunk) chunks[place + 1]? back
    ∧ result = trim (front ++ (chunk ++ back))
  holds : trim chunk <:+: result
  atMost : result.length ≤ chunk.length + 2 * loan percentage chunk + 2
  undivided :
    ((splice percentage (before? chunks place) chunk chunks[place + 1]?).bind
    Utf8.decode).map trim = some result

-- ====================================================== one chunk

/-- The front that a chunk is given. -/
def frontOf (count : Nat) : Option (List Char) → List Char
  | none => []
  | some text => takeLast count text ++ [' ']

/-- What a chunk borrows from behind: a space and the first characters of the
neighbour. -/
def backOf (count : Nat) : Option (List Char) → List Char
  | none => []
  | some text => ' ' :: text.take count

/-- What is put in front of a chunk ends with a space, and before it stands the
end of the neighbour. -/
theorem front_frontOf (count : Nat) (before : Option (List Char)) :
    Front count before (frontOf count before) := by
  cases before with
  | none => exact Front.nothing
  | some text =>
      refine Front.lent (List.drop_suffix _ _) ?_
      unfold takeLast
      rw [List.length_drop]
      omega

/-- What is put behind a chunk begins with a space, and behind it stands the
beginning of the neighbour. -/
theorem back_backOf (count : Nat) (after : Option (List Char)) :
    Back count after (backOf count after) := by
  cases after with
  | none => exact Back.nothing
  | some text => exact Back.lent (List.take_prefix _ _) List.length_take

/-- The front has a space beside the characters that were lent. -/
theorem Front.length_le {front : List Char} (h : Front count before front) :
    front.length ≤ count + 1 := by
  cases h with
  | nothing => exact Nat.zero_le _
  | lent _ hlength =>
      rw [List.length_append, hlength]
      exact Nat.add_le_add_right (Nat.min_le_left _ _) 1

/-- The back has a space beside the characters that were lent. -/
theorem Back.length_le {back : List Char} (h : Back count after back) :
    back.length ≤ count + 1 := by
  cases h with
  | nothing => exact Nat.zero_le _
  | lent _ hlength =>
      rw [List.length_cons, hlength]
      exact Nat.add_le_add_right (Nat.min_le_left _ _) 1

/-- Borrowing is putting both loans around the chunk and trimming the whole. -/
theorem borrow_eq (percentage : Nat) (before : Option (List Char))
    (chunk : List Char) (after : Option (List Char)) :
    borrow percentage before chunk after
      = trim (frontOf (loan percentage chunk) before
          ++ (chunk ++ backOf (loan percentage chunk) after)) := by
  unfold borrow loan
  rw [Nat.mul_comm chunk.length]
  cases before <;> cases after <;> simp [frontOf, backOf]

/-- Cutting the neighbour in front by octets gives the octets of the characters
that are lent, so no character is cut. -/
theorem cutBefore_eq (count : Nat) (before : Option (List Char)) :
    cutBefore count before = some (Utf8.encode (frontOf count before)) := by
  cases before with
  | none => rfl
  | some text =>
      show (Utf8.cutBack count text).map (· ++ Utf8.encode [' '])
        = some (Utf8.encode (takeLast count text ++ [' ']))
      rw [Utf8.cutBack_eq, Option.map_some, Utf8.encode_append]
      rfl

/-- Cutting the neighbour behind by octets gives the octets of the characters
that are lent. -/
theorem cutBehind_eq (count : Nat) (after : Option (List Char)) :
    cutBehind count after = some (Utf8.encode (backOf count after)) := by
  cases after with
  | none => rfl
  | some text =>
      show (Utf8.cutFront count text).map (Utf8.encode [' '] ++ ·)
        = some (Utf8.encode ([' '] ++ text.take count))
      rw [Utf8.cutFront_eq, Option.map_some, Utf8.encode_append]

/-- No cut divides a character, and the octets are those of the extended
text. -/
theorem splice_eq (percentage : Nat) (before : Option (List Char))
    (chunk : List Char) (after : Option (List Char)) :
    splice percentage before chunk after
      = some (Utf8.encode (frontOf (loan percentage chunk) before
          ++ (chunk ++ backOf (loan percentage chunk) after))) := by
  unfold splice
  rw [cutBefore_eq, cutBehind_eq, Utf8.encode_append, Utf8.encode_append]
  rfl

/-- A chunk that borrows from those around it is extended by them. -/
theorem extends_borrow (percentage : Nat) (chunks : List (List Char))
    (place : Nat) (chunk : List Char) :
    Extends percentage chunks place chunk
      (borrow percentage (before? chunks place) chunk chunks[place + 1]?) where
  text := by
    rw [borrow_eq]
    exact ⟨_, _, front_frontOf _ _, back_backOf _ _, rfl⟩
  holds := by
    rw [borrow_eq]
    exact Text.trim_isInfix _ _ _
  atMost := by
    have hfront :=
      (front_frontOf (loan percentage chunk) (before? chunks place)).length_le
    have hback :=
      (back_backOf (loan percentage chunk) chunks[place + 1]?).length_le
    rw [borrow_eq]
    apply Nat.le_trans (Text.length_trim_le _)
    simp only [List.length_append]
    omega
  undivided := by
    rw [splice_eq, Option.bind_some, Utf8.decode_encode, Option.map_some,
      borrow_eq]

-- ====================================================== all chunks

/-- Every chunk is extended, and none is added. -/
theorem length_borrowFrom (percentage : Nat) (before : Option (List Char))
    (chunks : List (List Char)) :
    (borrowFrom percentage before chunks).length = chunks.length := by
  induction chunks generalizing before with
  | nil => rfl
  | cons chunk rest ih => simp [borrowFrom, ih]

/-- Behind the first place, the chunk before is the one of the list. -/
theorem getElem?_borrowFrom_succ (percentage : Nat)
    (before : Option (List Char)) (chunks : List (List Char)) (place : Nat) :
    (borrowFrom percentage before chunks)[place + 1]?
      = chunks[place + 1]?.map fun chunk =>
          borrow percentage chunks[place]? chunk chunks[place + 2]? := by
  induction chunks generalizing before place with
  | nil => rfl
  | cons first rest ih =>
      rw [borrowFrom, List.getElem?_cons_succ]
      cases place with
      | zero =>
          -- the first chunk has been handed down to the next one
          cases rest with
          | nil => rfl
          | cons next rest => simp [borrowFrom, List.head?_eq_getElem?]
      | succ place => rw [ih]; rfl

/-- Every chunk borrows from the chunks around it as they were given. -/
theorem getElem?_borrowFrom (percentage : Nat) (chunks : List (List Char))
    (place : Nat) :
    (borrowFrom percentage none chunks)[place]?
      = chunks[place]?.map fun chunk =>
          borrow percentage (before? chunks place) chunk
            chunks[place + 1]? := by
  cases place with
  | zero =>
      cases chunks with
      | nil => rfl
      | cons first rest => simp [borrowFrom, before?, List.head?_eq_getElem?]
  | succ place => exact getElem?_borrowFrom_succ percentage none chunks place

/-- Of two and more chunks each is extended at its place: between the end of
the chunk before it and the start of the chunk behind it, as they were given,
with a space to either side and trimmed as a whole. The extended text holds the
trimmed chunk, is longer by two loans and two spaces at most, and is what comes
out when the texts are cut by octets. -/
theorem overlap_extends (percentage : Nat) (hcount : 2 ≤ chunks.length) :
    (overlap percentage chunks).length = chunks.length
      ∧ ∀ place chunk, chunks[place]? = some chunk →
          ∃ result, (overlap percentage chunks)[place]? = some result
            ∧ Extends percentage chunks place chunk result := by
  unfold overlap
  rw [if_neg (by omega)]
  refine ⟨length_borrowFrom percentage none chunks, ?_⟩
  intro place chunk hchunk
  refine ⟨_, ?_, extends_borrow percentage chunks place chunk⟩
  rw [getElem?_borrowFrom, hchunk, Option.map_some]

/-- Neighbours shorter than the loan, with characters of two octets. -/
def words : List (List Char) := [['n', 'é'], ['G', 'r', 'ö', 'ß', 'e'], ['ü']]

/-- Three words with letters of two octets, of which the one in the middle
borrows on both sides. -/
theorem overlap_extends_words :
    2 ≤ words.length ∧ words[1]? = some ['G', 'r', 'ö', 'ß', 'e']
      ∧ (overlap 60 words).length = 3
      ∧ Extends 60 words 1 ['G', 'r', 'ö', 'ß', 'e'] "né Größe ü".toList := by
  have hcount : 2 ≤ words.length := by decide
  obtain ⟨hlength, hplaces⟩ := overlap_extends 60 hcount
  obtain ⟨result, hresult, hextends⟩ := hplaces 1 _ rfl
  have htext : (overlap 60 words)[1]? = some "né Größe ü".toList := by decide
  rw [htext] at hresult
  obtain rfl := Option.some.inj hresult
  exact ⟨hcount, rfl, hlength, hextends⟩

-- the last chunk is too short to borrow anything
example :
    overlap 60 words = ["né G".toList, "né Größe ü".toList, "ü".toList] :=
  by decide

end Intake.Chunk
