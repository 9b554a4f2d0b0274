/-
# Byte strings

Bytecode, pushed data and digests are all byte strings.  They are lists, so that a machine
can read its code from the front and so that concatenation is `++`.

The hexadecimal form written here has two lower-case digits a byte.  Reading accepts either
case, and refuses an odd digit out; `ofHex?_toHex` says that reading gives back what was
written.
-/
import ScriptTemplate.Text.Basic

namespace ScriptTemplate

/-- A byte string, first byte first. -/
abbrev Bytes := List UInt8

namespace Hex

/-- The lower-case digit of a value below sixteen. -/
def digit (n : Nat) : CodePoint :=
  if n < 10 then .ofNat (48 + n) else .ofNat (87 + n)

/-- The value of a hexadecimal digit of either case. -/
def value? (c : CodePoint) : Option Nat :=
  if c.isWithin '0' '9' then some (c.toNat - 48)
  else if c.isWithin 'a' 'f' then some (c.toNat - 87)
  else if c.isWithin 'A' 'F' then some (c.toNat - 55)
  else none

/-- Whether a character is a hexadecimal digit of either case. -/
def isDigit (c : CodePoint) : Bool := (value? c).isSome

/-- The two digits of a byte, the high one first. -/
def ofByte (b : UInt8) : Text := [digit (b.toNat / 16), digit (b.toNat % 16)]

/-- The byte of two digits, the high one first. -/
def byte? (high low : CodePoint) : Option UInt8 :=
  match value? high, value? low with
  | some h, some l => some (UInt8.ofNat (16 * h + l))
  | _, _ => none

end Hex

namespace Bytes

/-- The hexadecimal text of a byte string, two digits a byte. -/
def toHex (bytes : Bytes) : Text := bytes.flatMap Hex.ofByte

/-- Reads digits in pairs; refuses a character that is no digit and a digit without a partner. -/
def ofHex? : Text → Option Bytes
  | [] => some []
  | [_] => none
  | high :: low :: rest =>
    match Hex.byte? high low with
    | some b => (ofHex? rest).map (b :: ·)
    | none => none

/-- The bytes of a number, lowest first, in a fixed width. -/
def littleEndian : Nat → Nat → Bytes
  | 0, _ => []
  | width + 1, n => UInt8.ofNat (n % 256) :: littleEndian width (n / 256)

@[simp] theorem length_littleEndian (width n : Nat) : (littleEndian width n).length = width := by
  induction width generalizing n with
  | zero => rfl
  | succ width ih => simp [littleEndian, ih]

/-- A byte string repeated a number of times. -/
def replicated (unit : Bytes) (count : Nat) : Bytes := (List.replicate count unit).flatten

end Bytes

/-! ## Writing and reading back -/

namespace Hex

/-- **The digits of a value below sixteen read back.** -/
theorem value?_digit : ∀ n < 16, value? (digit n) = some n := by decide

/-- **A written byte reads back.** -/
theorem byte?_digits (b : UInt8) :
    byte? (digit (b.toNat / 16)) (digit (b.toNat % 16)) = some b := by
  have hb : b.toNat < 256 := b.toNat_lt
  have hh : value? (digit (b.toNat / 16)) = some (b.toNat / 16) := value?_digit _ (by omega)
  have hl : value? (digit (b.toNat % 16)) = some (b.toNat % 16) := value?_digit _ (by omega)
  have hn : 16 * (b.toNat / 16) + b.toNat % 16 = b.toNat := by omega
  simp [byte?, hh, hl, hn]

end Hex

namespace Bytes

/-- **Reading gives back what was written.** -/
theorem ofHex?_toHex (bytes : Bytes) : ofHex? bytes.toHex = some bytes := by
  induction bytes with
  | nil => rfl
  | cons b rest ih =>
    have step : toHex (b :: rest) =
        Hex.digit (b.toNat / 16) :: Hex.digit (b.toNat % 16) :: toHex rest := by
      simp [toHex, Hex.ofByte]
    rw [step, ofHex?, Hex.byte?_digits, ih]
    rfl

end Bytes

end ScriptTemplate
