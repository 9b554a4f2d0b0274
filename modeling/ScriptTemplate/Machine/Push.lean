/-
# Pushes (`encode_push`)

An instruction that puts a byte string on the stack names its length first.  The encoder takes
the shortest of the five forms: no data at all, the length as the opcode itself, or an opcode
with one, two or four length bytes, lowest first.
-/
import ScriptTemplate.Bytes

namespace ScriptTemplate.Push

/-- The longest data whose length is its own opcode. -/
def directLimit : Nat := 75

/-- Opcode of a push with one length byte. -/
def oneByteLength : UInt8 := 0x4c

/-- Opcode of a push with two length bytes. -/
def twoByteLength : UInt8 := 0x4d

/-- Opcode of a push with four length bytes. -/
def fourByteLength : UInt8 := 0x4e

/-- The number of bytes that no push form can carry. -/
def sizeLimit : Nat := 0x100000000

/-- What stands before the data of a push of the given length. -/
def header (length : Nat) : Bytes :=
  if length ≤ directLimit then [UInt8.ofNat length]
  else if length ≤ 0xff then oneByteLength :: Bytes.littleEndian 1 length
  else if length ≤ 0xffff then twoByteLength :: Bytes.littleEndian 2 length
  else fourByteLength :: Bytes.littleEndian 4 length

/-- The shortest instruction that pushes the data, for data below `sizeLimit`. -/
def encode (data : Bytes) : Bytes := header data.length ++ data

end ScriptTemplate.Push
