/-
# RIPEMD-160, and the digest of a digest (`hash160`)

A block passes through two lines of eighty rounds that differ in their word order, turns and
constants; the two results are then added crosswise.
-/
import ScriptTemplate.Digest.Word
import ScriptTemplate.Digest.Sha256

namespace ScriptTemplate.Digest

namespace Ripemd160

/-- The five words that pass from block to block. -/
structure State where
  a : UInt32
  b : UInt32
  c : UInt32
  d : UInt32
  e : UInt32
deriving DecidableEq, Repr, Inhabited

/-- One round of a line: how words are mixed, which word of the block is added, how far the sum
is turned. -/
structure Round where
  mix : UInt32 → UInt32 → UInt32 → UInt32
  constant : UInt32
  word : Nat
  turn : UInt32

/-- The five mixing functions, in the order the left line uses them. -/
def mixes : List (UInt32 → UInt32 → UInt32 → UInt32) := [
  fun x y z => x ^^^ y ^^^ z,
  fun x y z => (x &&& y) ||| (~~~x &&& z),
  fun x y z => (x ||| ~~~y) ^^^ z,
  fun x y z => (x &&& z) ||| (y &&& ~~~z),
  fun x y z => x ^^^ (y ||| ~~~z)]

/-- Sixteen rounds with one mixing function and one constant. -/
def sixteen (mix : UInt32 → UInt32 → UInt32 → UInt32) (constant : UInt32)
    (words : List Nat) (turns : List UInt32) : List Round :=
  List.zipWith (fun word turn => ⟨mix, constant, word, turn⟩) words turns

/-- A line: five groups of sixteen rounds. -/
def line (mixers : List (UInt32 → UInt32 → UInt32 → UInt32)) (constants : List UInt32)
    (words : List (List Nat)) (turns : List (List UInt32)) : List Round :=
  ((mixers.zip constants).zip (words.zip turns)).flatMap
    fun ((mix, constant), (order, turn)) => sixteen mix constant order turn

/-- The rounds of the left line. -/
def leftLine : List Round := line mixes
  [0x00000000, 0x5a827999, 0x6ed9eba1, 0x8f1bbcdc, 0xa953fd4e]
  [[0, 1, 2, 3, 4, 5, 6, 7, 8, 9, 10, 11, 12, 13, 14, 15],
   [7, 4, 13, 1, 10, 6, 15, 3, 12, 0, 9, 5, 2, 14, 11, 8],
   [3, 10, 14, 4, 9, 15, 8, 1, 2, 7, 0, 6, 13, 11, 5, 12],
   [1, 9, 11, 10, 0, 8, 12, 4, 13, 3, 7, 15, 14, 5, 6, 2],
   [4, 0, 5, 9, 7, 12, 2, 10, 14, 1, 3, 8, 11, 6, 15, 13]]
  [[11, 14, 15, 12, 5, 8, 7, 9, 11, 13, 14, 15, 6, 7, 9, 8],
   [7, 6, 8, 13, 11, 9, 7, 15, 7, 12, 15, 9, 11, 7, 13, 12],
   [11, 13, 6, 7, 14, 9, 13, 15, 14, 8, 13, 6, 5, 12, 7, 5],
   [11, 12, 14, 15, 14, 15, 9, 8, 9, 14, 5, 6, 8, 6, 5, 12],
   [9, 15, 5, 11, 6, 8, 13, 12, 5, 12, 13, 14, 11, 8, 5, 6]]

/-- The rounds of the right line. -/
def rightLine : List Round := line mixes.reverse
  [0x50a28be6, 0x5c4dd124, 0x6d703ef3, 0x7a6d76e9, 0x00000000]
  [[5, 14, 7, 0, 9, 2, 11, 4, 13, 6, 15, 8, 1, 10, 3, 12],
   [6, 11, 3, 7, 0, 13, 5, 10, 14, 15, 8, 12, 4, 9, 1, 2],
   [15, 5, 1, 3, 7, 14, 6, 9, 11, 8, 12, 2, 10, 0, 4, 13],
   [8, 6, 4, 1, 3, 11, 15, 0, 5, 12, 2, 13, 9, 7, 10, 14],
   [12, 15, 10, 4, 1, 5, 8, 7, 6, 2, 13, 14, 0, 3, 9, 11]]
  [[8, 9, 9, 11, 13, 15, 15, 5, 7, 7, 8, 11, 14, 14, 12, 6],
   [9, 13, 15, 7, 12, 8, 9, 11, 7, 7, 12, 7, 6, 15, 13, 11],
   [9, 7, 15, 11, 8, 6, 6, 14, 12, 13, 5, 14, 13, 13, 7, 5],
   [15, 5, 8, 11, 14, 14, 6, 14, 6, 9, 12, 9, 12, 5, 15, 8],
   [8, 5, 12, 9, 12, 5, 14, 6, 8, 13, 6, 5, 15, 13, 11, 11]]

/-- The state before the first block. -/
def initial : State := ⟨0x67452301, 0xefcdab89, 0x98badcfe, 0x10325476, 0xc3d2e1f0⟩

/-- One round of a line. -/
def step (block : List UInt32) (s : State) (r : Round) : State :=
  let sum := s.a + r.mix s.b s.c s.d + block.getD r.word 0 + r.constant
  ⟨s.e, rotateLeft sum r.turn + s.e, s.b, rotateLeft s.c 10, s.d⟩

/-- Mixes one block into the state: both lines start from it and are added crosswise. -/
def compress (s : State) (block : List UInt32) : State :=
  let l := leftLine.foldl (step block) s
  let r := rightLine.foldl (step block) s
  ⟨s.b + l.c + r.d, s.c + l.d + r.e, s.d + l.e + r.a, s.e + l.a + r.b, s.a + l.b + r.c⟩

/-- The bytes of a final state. -/
def State.bytes (s : State) : Bytes := [s.a, s.b, s.c, s.d, s.e].flatMap littleEndianBytes

end Ripemd160

/-- The RIPEMD-160 digest of a message. -/
def ripemd160 (message : Bytes) : Bytes :=
  (absorb Ripemd160.compress Ripemd160.initial
    (littleEndianWords (closed message ++ bitLength message))).bytes

/-- **A RIPEMD-160 digest has twenty bytes.** -/
@[simp] theorem length_ripemd160 (message : Bytes) : (ripemd160 message).length = 20 := by
  simp [ripemd160, Ripemd160.State.bytes, littleEndianBytes]

/-- The short digest that stands for a script: RIPEMD-160 of SHA-256. -/
def hash160 (message : Bytes) : Bytes := ripemd160 (sha256 message)

/-- **A short digest has twenty bytes.** -/
@[simp] theorem length_hash160 (message : Bytes) : (hash160 message).length = 20 := by
  simp [hash160]

end ScriptTemplate.Digest
