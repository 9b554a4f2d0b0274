/-
# Words and padding of the iterated digests

Both digests of this library read a message as blocks of sixteen 32-bit words.  They share the
padding (a closing bit, zeros, the bit length in eight bytes) and differ only in which end of a
word comes first.
-/
import ScriptTemplate.Bytes

namespace ScriptTemplate.Digest

/-- Turns a word to the left. -/
def rotateLeft (x n : UInt32) : UInt32 := (x <<< n) ||| (x >>> (32 - n))

/-- Turns a word to the right. -/
def rotateRight (x n : UInt32) : UInt32 := (x >>> n) ||| (x <<< (32 - n))

/-- The four bytes of a word, highest first. -/
def bigEndianBytes (w : UInt32) : Bytes :=
  [(w >>> 24).toUInt8, (w >>> 16).toUInt8, (w >>> 8).toUInt8, w.toUInt8]

/-- The four bytes of a word, lowest first. -/
def littleEndianBytes (w : UInt32) : Bytes :=
  [w.toUInt8, (w >>> 8).toUInt8, (w >>> 16).toUInt8, (w >>> 24).toUInt8]

/-- Reads words with the highest byte first; fewer than four bytes at the end are no word. -/
def bigEndianWords : Bytes → List UInt32
  | a :: b :: c :: d :: rest =>
    ((a.toUInt32 <<< 24) ||| (b.toUInt32 <<< 16) ||| (c.toUInt32 <<< 8) ||| d.toUInt32)
      :: bigEndianWords rest
  | _ => []

/-- Reads words with the lowest byte first; fewer than four bytes at the end are no word. -/
def littleEndianWords : Bytes → List UInt32
  | a :: b :: c :: d :: rest =>
    ((d.toUInt32 <<< 24) ||| (c.toUInt32 <<< 16) ||| (b.toUInt32 <<< 8) ||| a.toUInt32)
      :: littleEndianWords rest
  | _ => []

/-- How many zero bytes stand between the closing bit and the length, so that whole blocks
of sixty-four bytes result. -/
def zeroCount (length : Nat) : Nat := (119 - length % 64) % 64

/-- A message with its closing bit and zeros; the length is still to follow. -/
def closed (message : Bytes) : Bytes :=
  message ++ 0x80 :: List.replicate (zeroCount message.length) 0

/-- The bit length of a message in eight bytes, lowest first. -/
def bitLength (message : Bytes) : Bytes := Bytes.littleEndian 8 (8 * message.length)

/-- Folds a compression function over blocks of sixteen words. -/
def absorb {σ : Type} (compress : σ → List UInt32 → σ) (state : σ) (words : List UInt32) : σ :=
  if words.isEmpty then state
  else absorb compress (compress state (words.take 16)) (words.drop 16)
termination_by words.length
decreasing_by
  cases words with
  | nil => simp_all
  | cons => simp only [List.length_drop, List.length_cons]; omega

/-- **Padding completes a block.** -/
theorem closed_length_mod (message : Bytes) :
    ((closed message).length + (bitLength message).length) % 64 = 0 := by
  simp only [closed, bitLength, zeroCount, List.length_append, List.length_cons,
    List.length_replicate, Bytes.length_littleEndian]
  omega

end ScriptTemplate.Digest
