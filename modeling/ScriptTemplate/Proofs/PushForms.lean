/-
# Pushes are told apart, and none is longer than it has to be

A code is pushes and operations one behind the other, with nothing between them.  Whoever looks for
the data of a push, such as the redeem script at the end of an unlocking script, has to find it from
the bytes alone.  This file says that there is one way to do so.

* `Carries` lists the push forms of the instruction set: the length as the opcode, or an opcode with
  one, two or four length bytes behind it.  It says what the length bytes MEAN (`Bytes.number`), not
  how they are written, so one data may have up to four forms.
* **What a push carries is read off its front, whatever follows** (`Carries.unique`).  This holds
  for all forms together, not only for those that the encoder writes.
* **The encoder takes the shortest form, and there is only one that short** (`Carries.shortest`).

The opcodes of the four forms differ, so the first byte gives the form away; then the length bytes
have a fixed width, and then the data has a known length.  At each point both codes agree on how far
to go.
-/
import Mathlib
import ScriptTemplate.Proofs.MachineRuns

namespace ScriptTemplate

/-! ## 1. Numbers in bytes -/

namespace Bytes

/-- The number that bytes stand for, the lowest byte first. -/
def number : Bytes → Nat
  | [] => 0
  | byte :: rest => byte.toNat + 256 * number rest

theorem number_lt (bytes : Bytes) : bytes.number < 256 ^ bytes.length := by
  induction bytes with
  | nil => exact Nat.zero_lt_one
  | cons byte rest ih =>
    have small : byte.toNat < 256 := byte.toNat_lt
    rw [number, List.length_cons, Nat.pow_succ]
    omega

/-- A number that is small enough for its width is read back. -/
theorem number_littleEndian {width n : Nat} (h : n < 256 ^ width) :
    (littleEndian width n).number = n := by
  induction width generalizing n with
  | zero =>
    rw [Nat.pow_zero, Nat.lt_one_iff] at h
    exact h.symm
  | succ width ih =>
    rw [Nat.pow_succ] at h
    have low : (UInt8.ofNat (n % 256)).toNat = n % 256 := Machine.toNat_ofNat_of_le (by omega)
    rw [littleEndian, number, ih (by omega), low]
    omega

/-- **Bytes are what their number is written as.**  So a width and a number leave one choice. -/
theorem littleEndian_number (bytes : Bytes) : littleEndian bytes.length bytes.number = bytes := by
  induction bytes with
  | nil => rfl
  | cons byte rest ih =>
    have small : byte.toNat < 256 := byte.toNat_lt
    have low : (byte.toNat + 256 * number rest) % 256 = byte.toNat := by omega
    have high : (byte.toNat + 256 * number rest) / 256 = number rest := by omega
    rw [List.length_cons, number, littleEndian, low, high, UInt8.ofNat_toNat, ih]

end Bytes

/-! ## 2. The push forms -/

namespace Push

/-- How many length bytes stand behind the opcode of a push. -/
def lengthWidth? (opcode : UInt8) : Option Nat :=
  if opcode = oneByteLength then some 1
  else if opcode = twoByteLength then some 2
  else if opcode = fourByteLength then some 4
  else none

theorem lengthWidth?_eq_some_iff {opcode : UInt8} {width : Nat} :
    lengthWidth? opcode = some width ↔
      opcode = oneByteLength ∧ width = 1 ∨ opcode = twoByteLength ∧ width = 2 ∨
        opcode = fourByteLength ∧ width = 4 := by
  constructor
  · intro known
    unfold lengthWidth? at known
    split_ifs at known with one two four
    · exact .inl ⟨one, (Option.some.inj known).symm⟩
    · exact .inr (.inl ⟨two, (Option.some.inj known).symm⟩)
    · exact .inr (.inr ⟨four, (Option.some.inj known).symm⟩)
  · rintro (⟨rfl, rfl⟩ | ⟨rfl, rfl⟩ | ⟨rfl, rfl⟩) <;> rfl

/-- The widths tell the opcodes apart. -/
theorem lengthWidth?_inj {opcode opcode' : UInt8} {width : Nat}
    (known : lengthWidth? opcode = some width) (known' : lengthWidth? opcode' = some width) :
    opcode = opcode' := by
  rw [lengthWidth?_eq_some_iff] at known known'
  grind

/-- An opcode that is a length itself has no length bytes behind it. -/
theorem lengthWidth?_of_direct {opcode : UInt8} (short : opcode.toNat ≤ directLimit) :
    lengthWidth? opcode = none := by
  cases known : lengthWidth? opcode with
  | none => rfl
  | some width =>
    rcases lengthWidth?_eq_some_iff.mp known with ⟨rfl, -⟩ | ⟨rfl, -⟩ | ⟨rfl, -⟩ <;>
      exact absurd short (by decide)

/-- **A code is a push of the data**, in any of the forms of the instruction set. -/
inductive Carries (data : Bytes) : Bytes → Prop
  /-- The opcode is the length. -/
  | direct {opcode : UInt8} (short : opcode.toNat ≤ directLimit)
    (announced : opcode.toNat = data.length) : Carries data (opcode :: data)
  /-- The length stands in the bytes behind the opcode. -/
  | counted {opcode : UInt8} {width : Nat} {count : Bytes}
    (known : lengthWidth? opcode = some width) (wide : count.length = width)
    (announced : count.number = data.length) : Carries data (opcode :: (count ++ data))

/-- **The front of a code decides what it pushes, and where the push ends.** -/
theorem Carries.unique {data other form form' rest rest' : Bytes} (carries : Carries data form)
    (carries' : Carries other form') (same : form ++ rest = form' ++ rest') :
    data = other ∧ rest = rest' := by
  cases carries with
  | direct short announced =>
    cases carries' with
    | direct _ announced' =>
      obtain ⟨rfl, behind⟩ := List.cons.inj same
      exact List.append_inj behind (announced.symm.trans announced')
    | counted known _ _ =>
      obtain ⟨rfl, -⟩ := List.cons.inj same
      rw [lengthWidth?_of_direct short] at known
      cases known
  | counted known wide announced =>
    cases carries' with
    | direct short _ =>
      obtain ⟨rfl, -⟩ := List.cons.inj same
      rw [lengthWidth?_of_direct short] at known
      cases known
    | counted known' wide' announced' =>
      -- The opcodes agree, hence the widths, hence the length bytes, hence the lengths.
      rw [List.cons_append, List.cons_append, List.append_assoc, List.append_assoc] at same
      obtain ⟨rfl, behind⟩ := List.cons.inj same
      obtain rfl := Option.some.inj (known.symm.trans known')
      obtain ⟨rfl, left⟩ := List.append_inj behind (wide.trans wide'.symm)
      exact List.append_inj left (announced.symm.trans announced')

/-! ## 3. The form that the encoder takes -/

theorem header_of_direct {length : Nat} (short : length ≤ directLimit) :
    header length = [UInt8.ofNat length] := by
  rw [header, if_pos short]

/-- **The choice of the encoder** for a length that is no opcode: the least width that does. -/
structure Chosen (length : Nat) (opcode : UInt8) (width : Nat) : Prop where
  known : lengthWidth? opcode = some width
  written : header length = opcode :: Bytes.littleEndian width length
  fits : length < sizeLimit → length < 256 ^ width
  least : ∀ opcode' width', lengthWidth? opcode' = some width' → length < 256 ^ width' →
    width ≤ width'

theorem exists_chosen {length : Nat} (long : directLimit < length) :
    ∃ opcode width, Chosen length opcode width := by
  have notDirect : ¬ length ≤ directLimit := Nat.not_le.mpr long
  rcases Nat.lt_or_ge 0xff length with notOne | one
  · rcases Nat.lt_or_ge 0xffff length with notTwo | two
    · refine ⟨fourByteLength, 4, rfl, ?_, fun small => small, fun opcode' width' known fits => ?_⟩
      · rw [header, if_neg notDirect, if_neg (Nat.not_le.mpr notOne),
          if_neg (Nat.not_le.mpr notTwo)]
      · rcases lengthWidth?_eq_some_iff.mp known with ⟨-, rfl⟩ | ⟨-, rfl⟩ | ⟨-, rfl⟩ <;> omega
    · refine ⟨twoByteLength, 2, rfl, ?_, fun _ => Nat.lt_succ_of_le two,
        fun opcode' width' known fits => ?_⟩
      · rw [header, if_neg notDirect, if_neg (Nat.not_le.mpr notOne), if_pos two]
      · rcases lengthWidth?_eq_some_iff.mp known with ⟨-, rfl⟩ | ⟨-, rfl⟩ | ⟨-, rfl⟩ <;> omega
  · refine ⟨oneByteLength, 1, rfl, ?_, fun _ => Nat.lt_succ_of_le one,
      fun opcode' width' known fits => ?_⟩
    · rw [header, if_neg notDirect, if_pos one]
    · rcases lengthWidth?_eq_some_iff.mp known with ⟨-, rfl⟩ | ⟨-, rfl⟩ | ⟨-, rfl⟩ <;> omega

/-- **The encoder writes a push form**, as long as the length can be announced at all. -/
theorem carries_encode {data : Bytes} (small : data.length < sizeLimit) :
    Carries data (encode data) := by
  unfold encode
  rcases Nat.lt_or_ge directLimit data.length with long | short
  · obtain ⟨opcode, width, chosen⟩ := exists_chosen long
    rw [chosen.written]
    exact .counted chosen.known (Bytes.length_littleEndian width _)
      (Bytes.number_littleEndian (chosen.fits small))
  · have announced : (UInt8.ofNat data.length).toNat = data.length :=
      Machine.toNat_ofNat_of_le (short.trans (by decide))
    rw [header_of_direct short]
    exact .direct (announced.trans_le short) announced

/-- **Any other push of the same data is longer than the encoder's.** -/
theorem Carries.shortest {data form : Bytes} (carries : Carries data form) :
    form = encode data ∨ (encode data).length < form.length := by
  cases carries with
  | direct short announced =>
    left
    rw [encode, header_of_direct (announced ▸ short), ← announced, UInt8.ofNat_toNat,
      List.singleton_append]
  | @counted opcode width count known wide announced =>
    rcases Nat.lt_or_ge directLimit data.length with long | short
    · have fits : data.length < 256 ^ width := by
        rw [← announced, ← wide]
        exact count.number_lt
      obtain ⟨opcode', width', chosen⟩ := exists_chosen long
      rcases (chosen.least opcode width known fits).eq_or_lt with rfl | narrower
      · -- The width gives the opcode, and with the length it gives the length bytes.
        left
        have written : count = Bytes.littleEndian width' data.length := by
          rw [← wide, ← announced, Bytes.littleEndian_number]
        rw [encode, chosen.written, written, lengthWidth?_inj known chosen.known, List.cons_append]
      · right
        rw [encode, chosen.written]
        simp only [List.length_append, List.length_cons, Bytes.length_littleEndian, wide]
        omega
    · have some_byte : 1 ≤ width := by
        rcases lengthWidth?_eq_some_iff.mp known with ⟨-, rfl⟩ | ⟨-, rfl⟩ | ⟨-, rfl⟩ <;> omega
      right
      rw [encode, header_of_direct short]
      simp only [List.length_append, List.length_cons, List.length_nil, wide]
      omega

/-- **The encoder writes a prefix code, and the shortest one that the push forms allow.**  Two codes
that start with encoded pushes and are equal push the same data and go on with the same bytes.  What
is written is a push form of the data, and every other push form of that data is longer. -/
theorem encode_is_minimal_prefix_code {data other : Bytes} (small : data.length < sizeLimit)
    (small' : other.length < sizeLimit) :
    (∀ rest rest' : Bytes, encode data ++ rest = encode other ++ rest' →
      data = other ∧ rest = rest') ∧
    Carries data (encode data) ∧
    ∀ form, Carries data form → form ≠ encode data → (encode data).length < form.length := by
  refine ⟨?_, carries_encode small, ?_⟩
  · intro rest rest' same
    exact (carries_encode small).unique (carries_encode small') same
  · intro form carries different
    exact carries.shortest.resolve_left different

/-- 76 bytes are the least to need a length byte.  Their push never starts like the push of 75, even
where all data bytes look like opcodes of such a push; and four length bytes are three too many. -/
theorem encode_is_minimal_prefix_code_first_counted :
    (List.replicate 76 (0x4b : UInt8)).length < sizeLimit ∧
    (∀ rest rest' : Bytes, encode (List.replicate 76 0x4b) ++ rest ≠
      encode (List.replicate 75 0x4b) ++ rest') ∧
    Carries (List.replicate 76 0x4b) (fourByteLength :: ([76, 0, 0, 0] ++ List.replicate 76 0x4b)) ∧
    (encode (List.replicate 76 0x4b)).length <
      (fourByteLength :: ([76, 0, 0, 0] ++ List.replicate 76 (0x4b : UInt8))).length := by
  have small : (List.replicate 76 (0x4b : UInt8)).length < sizeLimit := by decide
  have small' : (List.replicate 75 (0x4b : UInt8)).length < sizeLimit := by decide
  have carries : Carries (List.replicate 76 0x4b)
      (fourByteLength :: ([76, 0, 0, 0] ++ List.replicate 76 0x4b)) :=
    .counted rfl rfl (by decide)
  obtain ⟨apart, -, longer⟩ := encode_is_minimal_prefix_code small small'
  refine ⟨small, ?_, carries, longer _ carries (by decide)⟩
  intro rest rest' same
  have lengths := congrArg List.length (apart rest rest' same).1
  rw [List.length_replicate, List.length_replicate] at lengths
  cases lengths

end Push

end ScriptTemplate
