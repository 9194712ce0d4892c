/-
The digest SHA-256 of a message of octets.

The message is padded to blocks of sixty-four octets. Each block is
expanded to sixty-four words, one for every round, and the rounds fold it
into a state of eight words. Words are added modulo 2^32.
-/
namespace Intake.Sha256

-- ====================================================== words

/-- Rotation of a word to the right, by fewer bits than it has. -/
def rotateRight (x n : UInt32) : UInt32 := (x >>> n) ||| (x <<< (32 - n))

/-- Each bit of the first word chooses between the bits of the other two. -/
def choose (x y z : UInt32) : UInt32 := (x &&& y) ^^^ (~~~x &&& z)

/-- Each bit that at least two of the words have. -/
def majority (x y z : UInt32) : UInt32 := (x &&& y) ^^^ (x &&& z) ^^^ (y &&& z)

/-- The mixing of the first word of the state in a round. -/
def bigSigma0 (x : UInt32) : UInt32 :=
  rotateRight x 2 ^^^ rotateRight x 13 ^^^ rotateRight x 22

/-- The mixing of the fifth word of the state in a round. -/
def bigSigma1 (x : UInt32) : UInt32 :=
  rotateRight x 6 ^^^ rotateRight x 11 ^^^ rotateRight x 25

/-- The mixing of the word fifteen places back when a block is extended. -/
def smallSigma0 (x : UInt32) : UInt32 :=
  rotateRight x 7 ^^^ rotateRight x 18 ^^^ (x >>> 3)

/-- The mixing of the word two places back when a block is extended. -/
def smallSigma1 (x : UInt32) : UInt32 :=
  rotateRight x 17 ^^^ rotateRight x 19 ^^^ (x >>> 10)

/-- The word that four octets spell, the highest first. -/
def wordOf (a b c d : UInt8) : UInt32 :=
  (a.toUInt32 <<< 24) ||| (b.toUInt32 <<< 16) |||
    (c.toUInt32 <<< 8) ||| d.toUInt32

/-- The octets of a word, the most significant first. -/
def octetsOf (x : UInt32) : List UInt8 :=
  [(x >>> 24).toUInt8, (x >>> 16).toUInt8, (x >>> 8).toUInt8, x.toUInt8]

/-- The words of a message, the octets of each from the most significant on.
Fewer than four octets at the end are left out; padded messages have none. -/
def wordsOf : List UInt8 → List UInt32
  | a :: b :: c :: d :: rest => wordOf a b c d :: wordsOf rest
  | _ => []

-- ====================================================== constants

/-- What each round adds: the fractions of the cube roots of the first
sixty-four primes. -/
def roundConstants : List UInt32 :=
  [0x428a2f98, 0x71374491, 0xb5c0fbcf, 0xe9b5dba5, 0x3956c25b, 0x59f111f1,
   0x923f82a4, 0xab1c5ed5, 0xd807aa98, 0x12835b01, 0x243185be, 0x550c7dc3,
   0x72be5d74, 0x80deb1fe, 0x9bdc06a7, 0xc19bf174, 0xe49b69c1, 0xefbe4786,
   0x0fc19dc6, 0x240ca1cc, 0x2de92c6f, 0x4a7484aa, 0x5cb0a9dc, 0x76f988da,
   0x983e5152, 0xa831c66d, 0xb00327c8, 0xbf597fc7, 0xc6e00bf3, 0xd5a79147,
   0x06ca6351, 0x14292967, 0x27b70a85, 0x2e1b2138, 0x4d2c6dfc, 0x53380d13,
   0x650a7354, 0x766a0abb, 0x81c2c92e, 0x92722c85, 0xa2bfe8a1, 0xa81a664b,
   0xc24b8b70, 0xc76c51a3, 0xd192e819, 0xd6990624, 0xf40e3585, 0x106aa070,
   0x19a4c116, 0x1e376c08, 0x2748774c, 0x34b0bcb5, 0x391c0cb3, 0x4ed8aa4a,
   0x5b9cca4f, 0x682e6ff3, 0x748f82ee, 0x78a5636f, 0x84c87814, 0x8cc70208,
   0x90befffa, 0xa4506ceb, 0xbef9a3f7, 0xc67178f2]

/-- The eight words between blocks. -/
structure State where
  a : UInt32
  b : UInt32
  c : UInt32
  d : UInt32
  e : UInt32
  f : UInt32
  g : UInt32
  h : UInt32
deriving DecidableEq, Repr

/-- The state before the first block: the fractions of the square roots of
the first eight primes. -/
def State.start : State :=
  ⟨0x6a09e667, 0xbb67ae85, 0x3c6ef372, 0xa54ff53a, 0x510e527f,
    0x9b05688c, 0x1f83d9ab, 0x5be0cd19⟩

/-- Two states added word by word, as each block ends. -/
def State.add (s t : State) : State :=
  ⟨s.a + t.a, s.b + t.b, s.c + t.c, s.d + t.d, s.e + t.e, s.f + t.f,
    s.g + t.g, s.h + t.h⟩

/-- The octets of a state, which are the digest behind the last block. -/
def State.octets (s : State) : List UInt8 :=
  [s.a, s.b, s.c, s.d, s.e, s.f, s.g, s.h].flatMap octetsOf

-- ====================================================== blocks

/-- The zeros between the mark behind a message and its length. -/
def paddingZeros (size : Nat) : Nat := (119 - size % 64) % 64

/-- The length of a message in bits, in eight octets. -/
def lengthOctets (size : Nat) : List UInt8 :=
  (List.range 8).map fun i =>
    UInt8.ofNat (size * 8 / Nat.pow 256 (7 - i) % 256)

/-- The message in whole blocks. -/
def pad (message : List UInt8) : List UInt8 :=
  message ++ 0x80 :: List.replicate (paddingZeros message.length) 0
    ++ lengthOctets message.length

/-- Adds `count` words to a list kept in reverse. -/
def extend : Nat → List UInt32 → List UInt32
  | 0, words => words
  | count + 1, words =>
    let back (i : Nat) := words.getD (i - 1) 0
    extend count
      ((smallSigma1 (back 2) + back 7 + smallSigma0 (back 15) + back 16)
        :: words)

/-- The words of the rounds for the sixteen words of a block. -/
def schedule (block : List UInt32) : List UInt32 :=
  (extend 48 block.reverse).reverse

/-- One round with its word and its constant. -/
def round (s : State) (word : UInt32 × UInt32) : State :=
  let t := s.h + bigSigma1 s.e + choose s.e s.f s.g + word.2 + word.1
  ⟨t + (bigSigma0 s.a + majority s.a s.b s.c), s.a, s.b, s.c,
    s.d + t, s.e, s.f, s.g⟩

/-- Folds one block into the state. -/
def compress (s : State) (block : List UInt32) : State :=
  s.add (((schedule block).zip roundConstants).foldl round s)

/-- Folds words into the state, sixteen at a time, for a number of blocks. -/
def compressAll : Nat → State → List UInt32 → State
  | 0, s, _ => s
  | blocks + 1, s, words =>
      compressAll blocks (compress s (words.take 16)) (words.drop 16)

/-- The thirty-two octets of the digest. -/
def digest (message : List UInt8) : List UInt8 :=
  let words := wordsOf (pad message)
  (compressAll (words.length / 16) State.start words).octets

end Intake.Sha256
