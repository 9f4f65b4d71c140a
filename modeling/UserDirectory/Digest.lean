/-
The 128-bit digest of a sequence of bytes that avatar services look images up by. The message is
filled up to whole blocks with a single bit, zeros and its length, and each block is mixed into four
words in sixty-four steps. All arithmetic is on words of 32 bits and wraps.
-/

import UserDirectory.Text.Utf8

namespace UserDirectory.Digest

/-! ### The words of a message -/

/-- The four little-endian bytes of a word. -/
def wordBytes (word : UInt32) : List UInt8 :=
  [word.toUInt8, (word >>> 8).toUInt8, (word >>> 16).toUInt8, (word >>> 24).toUInt8]

/-- The word of four little-endian bytes. -/
def wordOf (a b c d : UInt8) : UInt32 :=
  a.toUInt32 ||| (b.toUInt32 <<< 8) ||| (c.toUInt32 <<< 16) ||| (d.toUInt32 <<< 24)

/-- The words of bytes, four bytes each; bytes that do not fill a word are left out. -/
def words : List UInt8 → List UInt32
  | a :: b :: c :: d :: rest => wordOf a b c d :: words rest
  | _ => []

/-- A message filled up to a whole number of blocks of 64 bytes: one set bit, zeros, and the number
of bits of the message in eight bytes. -/
def fill (message : List UInt8) : List UInt8 :=
  let bits := UInt64.ofNat (8 * message.length)
  let zeros : List UInt8 := List.replicate ((119 - message.length % 64) % 64) 0
  message ++ (0x80 :: zeros) ++
    wordBytes bits.toUInt32 ++ wordBytes (bits >>> 32).toUInt32

/-- Cut words into blocks of sixteen. -/
def blocks : (count : Nat) → List UInt32 → List (Array UInt32)
  | 0, _ => []
  | count + 1, message => (message.take 16).toArray :: blocks count (message.drop 16)

/-! ### Mixing a block into the state -/

/-- The constant added in each step. -/
def stepConstants : Array UInt32 := #[
  0xd76aa478, 0xe8c7b756, 0x242070db, 0xc1bdceee, 0xf57c0faf, 0x4787c62a, 0xa8304613, 0xfd469501,
  0x698098d8, 0x8b44f7af, 0xffff5bb1, 0x895cd7be, 0x6b901122, 0xfd987193, 0xa679438e, 0x49b40821,
  0xf61e2562, 0xc040b340, 0x265e5a51, 0xe9b6c7aa, 0xd62f105d, 0x02441453, 0xd8a1e681, 0xe7d3fbc8,
  0x21e1cde6, 0xc33707d6, 0xf4d50d87, 0x455a14ed, 0xa9e3e905, 0xfcefa3f8, 0x676f02d9, 0x8d2a4c8a,
  0xfffa3942, 0x8771f681, 0x6d9d6122, 0xfde5380c, 0xa4beea44, 0x4bdecfa9, 0xf6bb4b60, 0xbebfbc70,
  0x289b7ec6, 0xeaa127fa, 0xd4ef3085, 0x04881d05, 0xd9d4d039, 0xe6db99e5, 0x1fa27cf8, 0xc4ac5665,
  0xf4292244, 0x432aff97, 0xab9423a7, 0xfc93a039, 0x655b59c3, 0x8f0ccc92, 0xffeff47d, 0x85845dd1,
  0x6fa87e4f, 0xfe2ce6e0, 0xa3014314, 0x4e0811a1, 0xf7537e82, 0xbd3af235, 0x2ad7d2bb, 0xeb86d391]

/-- How far a step rotates, by its round and its place among four. -/
def rotations : Array UInt32 := #[7, 12, 17, 22, 5, 9, 14, 20, 4, 11, 16, 23, 6, 10, 15, 21]

/-- Rotate a word to the left. -/
def rotate (word amount : UInt32) : UInt32 :=
  (word <<< amount) ||| (word >>> (32 - amount))

/-- The four words that a message is mixed into. -/
structure State where
  /-- The first word. -/
  a : UInt32
  /-- The second word. -/
  b : UInt32
  /-- The third word. -/
  c : UInt32
  /-- The fourth word. -/
  d : UInt32
deriving Repr, DecidableEq

/-- The state before any block. -/
def State.start : State :=
  ⟨0x67452301, 0xefcdab89, 0x98badcfe, 0x10325476⟩

/-- The word that a step combines of the state, and the place of the block word it takes in. -/
def combine (state : State) (step : Nat) : UInt32 × Nat :=
  match step / 16 with
  | 0 => ((state.b &&& state.c) ||| (~~~state.b &&& state.d), step)
  | 1 => ((state.d &&& state.b) ||| (~~~state.d &&& state.c), (5 * step + 1) % 16)
  | 2 => (state.b ^^^ state.c ^^^ state.d, (3 * step + 5) % 16)
  | _ => (state.c ^^^ (state.b ||| ~~~state.d), 7 * step % 16)

/-- One step. -/
def mixStep (block : Array UInt32) (state : State) (step : Nat) : State :=
  let (combined, place) := combine state step
  let sum := combined + state.a + stepConstants.getD step 0 + block.getD place 0
  let amount := rotations.getD (step / 16 * 4 + step % 4) 0
  ⟨state.d, state.b + rotate sum amount, state.b, state.c⟩

/-- Mix a block into the state. -/
def mixBlock (state : State) (block : Array UInt32) : State :=
  let mixed := (List.range 64).foldl (mixStep block) state
  ⟨state.a + mixed.a, state.b + mixed.b, state.c + mixed.c, state.d + mixed.d⟩

/-! ### The digest -/

/-- The sixteen bytes of the digest of a message. -/
def digest (message : List UInt8) : List UInt8 :=
  let filled := fill message
  let state := (blocks (filled.length / 64) (words filled)).foldl mixBlock .start
  wordBytes state.a ++ wordBytes state.b ++ wordBytes state.c ++ wordBytes state.d

/-- A byte in two hexadecimal digits. -/
def hexPair (byte : UInt8) : List Char :=
  [Nat.digitChar (byte.toNat / 16), Nat.digitChar (byte.toNat % 16)]

/-- The digest of the bytes of a text, in hexadecimal. -/
def hexOfText (text : String) : String :=
  String.ofList ((digest (Text.toUtf8 text.toList)).flatMap hexPair)

end UserDirectory.Digest
