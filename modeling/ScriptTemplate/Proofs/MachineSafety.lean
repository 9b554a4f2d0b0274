/-
# The machine is safe on every code

A code is any row of bytes, not only what the encoder writes, and the machine jumps by lengths that
it reads from it.  This file looks at a run from the outside, instruction by instruction, and says
what can happen on the way and where it can end.

* A `Point` is a stack and a place in the code; `Step` is one instruction that goes on, by the
  machine's own rule for a single instruction.
* **What a step has done** is told by positions in the code and items on the stack (`Does`): a push
  takes as many bytes as it announces, all of them from the code, and an operation finds all items
  that it takes.  `Step.does` shows that every step is of one of these two kinds.
* **Where a run ends** is told by `Ends`: at the end of the code, before an instruction that stops
  the machine, or before a push whose length is missing.  There is no other way (`ends_runFrom`),
  since every step moves forward and none moves past the end of the code.
-/
import Mathlib
import ScriptTemplate.Proofs.MachineRuns

namespace ScriptTemplate.Machine

/-! ## 1. Single instructions -/

/-- Where a machine is on its way through a code. -/
structure Point where
  stack : Stack
  /-- How many bytes it has read. -/
  read : Nat

/-- **An instruction goes on.** -/
inductive Step (code : Bytes) : Point → Point → Prop
  | intro {stack after : Stack} {read used : Nat} {opcode : UInt8} {rest : Bytes}
    (fetched : code.drop read = opcode :: rest)
    (proceeds : effect stack opcode rest = .proceed after used) :
    Step code ⟨stack, read⟩ ⟨after, read + 1 + used⟩

/-- An instruction stops the machine with a fault, so many bytes having been read then. -/
inductive Stops (code : Bytes) : Point → Fault → Nat → Prop
  | intro {stack : Stack} {read used : Nat} {opcode : UInt8} {rest : Bytes} {fault : Fault}
    (fetched : code.drop read = opcode :: rest)
    (halts : effect stack opcode rest = .halt fault used) :
    Stops code ⟨stack, read⟩ fault (read + 1 + used)

/-- A push at a place of a code: how many bytes it takes to say so, and the length that it
announces. -/
inductive Announces (code : Bytes) (read : Nat) : Nat → Nat → Prop
  | direct {opcode : UInt8} (fetched : code[read]? = some opcode)
    (short : opcode.toNat ≤ Push.directLimit) : Announces code read 1 opcode.toNat
  | oneByte {length : UInt8} (fetched : code[read]? = some Push.oneByteLength)
    (follows : code[read + 1]? = some length) : Announces code read 2 length.toNat

/-- How many items an operation takes from the stack. -/
def Operation.takes : Operation → Nat
  | .equal => 2
  | .drop | .duplicate | .sha256 | .hash160 => 1

/-- **What an instruction does that goes on.**  A push puts an item of the announced length on the
stack, cut from the code behind the announcement.  An operation takes its items, which are all
there, and touches nothing below them. -/
inductive Does (code : Bytes) : Point → Point → Prop
  | push {stack : Stack} {item : Bytes} {read header length : Nat}
    (announced : Announces code read header length)
    (cut : (code.drop (read + header)).take length = item) (whole : item.length = length) :
    Does code ⟨stack, read⟩ ⟨item :: stack, read + header + length⟩
  | operate {opcode : UInt8} {operation : Operation} {taken given below : Stack} {read : Nat}
    (fetched : code[read]? = some opcode)
    (known : Operation.ofOpcode? opcode = some operation)
    (enough : taken.length = operation.takes) (applied : operation.apply? taken = some given) :
    Does code ⟨taken ++ below, read⟩ ⟨given ++ below, read + 1⟩

/-- An operation works on the items that it takes, and on no others. -/
theorem Operation.exists_of_apply? {operation : Operation} {stack after : Stack}
    (h : operation.apply? stack = some after) :
    ∃ taken given below, stack = taken ++ below ∧ after = given ++ below ∧
      taken.length = operation.takes ∧ operation.apply? taken = some given := by
  cases operation with
  | equal =>
    match stack, h with
    | b :: a :: below, h => exact ⟨[b, a], _, below, rfl, (Option.some.inj h).symm, rfl, rfl⟩
  | drop =>
    match stack, h with
    | top :: below, h => exact ⟨[top], [], below, rfl, (Option.some.inj h).symm, rfl, rfl⟩
  | duplicate =>
    match stack, h with
    | top :: below, h => exact ⟨[top], [top, top], below, rfl, (Option.some.inj h).symm, rfl, rfl⟩
  | sha256 =>
    match stack, h with
    | top :: below, h => exact ⟨[top], [_], below, rfl, (Option.some.inj h).symm, rfl, rfl⟩
  | hash160 =>
    match stack, h with
    | top :: below, h => exact ⟨[top], [_], below, rfl, (Option.some.inj h).symm, rfl, rfl⟩

/-- A place of the code where something is left to read. -/
theorem getElem?_of_drop {code rest : Bytes} {read : Nat} {byte : UInt8}
    (h : code.drop read = byte :: rest) :
    code[read]? = some byte ∧ code.drop (read + 1) = rest := by
  constructor
  · rw [← List.head?_drop, h, List.head?_cons]
  · rw [← List.tail_drop, h, List.tail_cons]

/-- **Every step is a push of a whole item, or an operation that finds its items.** -/
theorem Step.does {code : Bytes} {p q : Point} (step : Step code p q) : Does code p q := by
  obtain @⟨stack, after, read, used, opcode, rest, fetched, proceeds⟩ := step
  obtain ⟨at_read, behind⟩ := getElem?_of_drop fetched
  unfold effect at proceeds
  split at proceeds
  · next short =>
    obtain ⟨room, rfl, rfl⟩ := pushEffect_eq_proceed_iff.mp proceeds
    rw [Nat.zero_add]
    refine .push (.direct at_read short) (by rw [behind]) ?_
    exact List.length_take_of_le room
  · split at proceeds
    · next announced =>
      split at proceeds
      · cases proceeds
      · next length rest =>
        obtain ⟨room, rfl, rfl⟩ := pushEffect_eq_proceed_iff.mp proceeds
        obtain ⟨at_next, behind⟩ := getElem?_of_drop behind
        rw [show read + 1 + (1 + length.toNat) = read + 2 + length.toNat by omega]
        refine .push (.oneByte (announced ▸ at_read) at_next) (by rw [behind]) ?_
        exact List.length_take_of_le room
    · split at proceeds
      · cases proceeds
      · next operation known =>
        split at proceeds
        · cases proceeds
        · next applied =>
          cases proceeds
          obtain ⟨taken, given, below, rfl, rfl, enough, applied⟩ :=
            Operation.exists_of_apply? applied
          exact .operate at_read known enough applied

/-- An instruction that stops the machine has read no more code than there is. -/
theorem used_le_of_halt {stack : Stack} {opcode : UInt8} {code : Bytes} {fault : Fault}
    {used : Nat} (h : effect stack opcode code = .halt fault used) : used ≤ code.length := by
  have pushed {skipped length : Nat} {code : Bytes}
      (h : pushEffect stack skipped length code = .halt fault used) : used = skipped := by
    unfold pushEffect at h
    split at h
    · cases h
    · cases h
      rfl
  unfold effect at h
  split at h
  · rw [pushed h]
    exact Nat.zero_le _
  · split at h
    · split at h
      · cases h
      · rw [pushed h, List.length_cons]
        omega
    · split at h
      · cases h
        exact Nat.zero_le _
      · split at h
        · cases h
          exact Nat.zero_le _
        · cases h

/-- Something is left to read: the place lies inside of the code. -/
theorem length_of_drop {code rest : Bytes} {read : Nat} {byte : UInt8}
    (h : code.drop read = byte :: rest) : read + 1 + rest.length = code.length := by
  have length := congrArg List.length h
  rw [List.length_drop, List.length_cons] at length
  omega

theorem Step.read_lt {code : Bytes} {p q : Point} (step : Step code p q) : p.read < q.read := by
  obtain ⟨-, -⟩ := step
  simp only
  omega

theorem Step.read_le {code : Bytes} {p q : Point} (step : Step code p q) :
    q.read ≤ code.length := by
  obtain ⟨fetched, proceeds⟩ := step
  have used := used_le_of_effect proceeds
  have length := length_of_drop fetched
  simp only
  omega

theorem Stops.read_le {code : Bytes} {p : Point} {fault : Fault} {stop : Nat}
    (stops : Stops code p fault stop) : stop ≤ code.length := by
  obtain ⟨fetched, halts⟩ := stops
  have used := used_le_of_halt halts
  have length := length_of_drop fetched
  omega

/-! ## 2. Runs -/

/-- A run comes by a point. -/
def Reaches (code : Bytes) : Point → Point → Prop := Relation.ReflTransGen (Step code)

/-- **Steps come to an end**: each goes forward, and none goes past the end of the code. -/
theorem no_endless_steps (code : Bytes) (start : Point) :
    ¬ ∃ points : Nat → Point, points 0 = start ∧ ∀ n, Step code (points n) (points (n + 1)) := by
  rintro ⟨points, -, steps⟩
  have forward (n : Nat) : n ≤ (points n).read := by
    induction n with
    | zero => exact Nat.zero_le _
    | succ n ih =>
      have := (steps n).read_lt
      omega
  have inside := (steps code.length).read_le
  have beyond := forward (code.length + 1)
  omega

/-- A run from the start is a run from every point that it comes by. -/
theorem runFrom_of_reaches {code : Bytes} {p q : Point} (reaches : Reaches code p q) :
    runFrom p.stack p.read (code.drop p.read) = runFrom q.stack q.read (code.drop q.read) := by
  induction reaches with
  | refl => rfl
  | tail _ step ih =>
    obtain ⟨fetched, proceeds⟩ := step
    rw [ih]
    simp only
    rw [fetched, runFrom_of_proceed proceeds, ← (getElem?_of_drop fetched).2, List.drop_drop]

/-- **Where a run ends**: behind all of its code; before an instruction that stops the machine, with
the stack that was there; or before a last byte that announces a push and leaves out its length. -/
inductive Ends (code : Bytes) (start : Point) : Option State → Prop
  | finished {stack : Stack} (reached : Reaches code start ⟨stack, code.length⟩) :
    Ends code start (some ⟨stack, code.length, none⟩)
  | stopped {point : Point} {fault : Fault} {stop : Nat} (reached : Reaches code start point)
    (stops : Stops code point fault stop) :
    Ends code start (some ⟨point.stack, stop, some fault⟩)
  | cutOff {stack : Stack} {read : Nat} (reached : Reaches code start ⟨stack, read⟩)
    (last : code.drop read = [Push.oneByteLength]) : Ends code start none

theorem Ends.of_step {code : Bytes} {p q : Point} {outcome : Option State} (step : Step code p q)
    (ends : Ends code q outcome) : Ends code p outcome := by
  cases ends with
  | finished reached => exact .finished (.head step reached)
  | stopped reached stops => exact .stopped (.head step reached) stops
  | cutOff reached last => exact .cutOff (.head step reached) last

/-- **A run ends in one of the three ways.** -/
theorem ends_runFrom {code rest : Bytes} {stack : Stack} {read : Nat}
    (left : code.drop read = rest) (inside : read ≤ code.length) :
    Ends code ⟨stack, read⟩ (runFrom stack read rest) := by
  -- The induction follows the instructions; `code` is the whole of it, `rest` what is left.
  fun_induction runFrom stack read rest with
  | case1 stack read =>
    have whole : read = code.length :=
      Nat.le_antisymm inside (List.drop_eq_nil_iff.mp left)
    subst whole
    exact .finished .refl
  | case2 stack read opcode rest after used proceeds ih =>
    have step : Step code ⟨stack, read⟩ ⟨after, read + 1 + used⟩ := .intro left proceeds
    refine .of_step step (ih ?_ step.read_le)
    rw [← (getElem?_of_drop left).2, List.drop_drop]
  | case3 stack read opcode rest fault used halts => exact .stopped .refl (.intro left halts)
  | case4 stack read opcode rest truncated =>
    obtain ⟨rfl, rfl⟩ := effect_eq_truncated_iff.mp truncated
    exact .cutOff .refl left

namespace Ends

variable {code : Bytes} {start : Point} {state : State}

theorem exists_oneByteLength (ends : Ends code start none) :
    ∃ before left, code = before ++ [Push.oneByteLength] ∧
      Reaches code start ⟨left, before.length⟩ := by
  cases ends with
  | @cutOff left read reached last =>
    refine ⟨code.take read, left, ?_, ?_⟩
    · rw [← last, List.take_append_drop]
    · have length := length_of_drop last
      rw [List.length_take_of_le (by omega)]
      exact reached

theorem read_le (ends : Ends code start (some state)) : state.read ≤ code.length := by
  cases ends with
  | finished reached => exact Nat.le_refl _
  | stopped reached stops => exact stops.read_le

theorem of_clean (ends : Ends code start (some state)) (clean : state.fault = none) :
    state.read = code.length ∧ Reaches code start ⟨state.stack, state.read⟩ := by
  cases ends with
  | finished reached => exact ⟨rfl, reached⟩
  | stopped reached stops => cases clean

theorem of_fault {fault : Fault} (ends : Ends code start (some state))
    (faulty : state.fault = some fault) :
    ∃ read, Reaches code start ⟨state.stack, read⟩ ∧
      Stops code ⟨state.stack, read⟩ fault state.read := by
  cases ends with
  | finished reached => cases faulty
  | stopped reached stops =>
    cases faulty
    exact ⟨_, reached, stops⟩

end Ends

/-- A run that comes to a push without its length has no outcome. -/
theorem run_eq_none_of_reaches {before : Bytes} {stack left : Stack}
    (reached : Reaches (before ++ [Push.oneByteLength]) ⟨stack, 0⟩ ⟨left, before.length⟩) :
    run stack (before ++ [Push.oneByteLength]) = none := by
  have same := runFrom_of_reaches reached
  rw [List.drop_left] at same
  refine same.trans ?_
  rw [runFrom]
  simp only [effect_eq_truncated_iff.mpr ⟨rfl, rfl⟩]

/-- **A safe run of a code**, from a stack to an outcome. -/
structure SafeRun (code : Bytes) (stack : Stack) (outcome : Option State) : Prop where
  /-- Every instruction that goes on pushes a whole item or finds all items that it takes. -/
  whole : ∀ p q, Reaches code ⟨stack, 0⟩ p → Step code p q → Does code p q
  ending : ¬ ∃ points : Nat → Point, points 0 = ⟨stack, 0⟩ ∧
    ∀ n, Step code (points n) (points (n + 1))
  /-- There is no outcome exactly if the run comes to a last byte that announces a push with one
  length byte. -/
  cutOff : outcome = none ↔ ∃ before left, code = before ++ [Push.oneByteLength] ∧
    Reaches code ⟨stack, 0⟩ ⟨left, before.length⟩
  inside : ∀ state, outcome = some state → state.read ≤ code.length
  /-- Without a fault all of the code is read. -/
  finished : ∀ state, outcome = some state → state.fault = none →
    state.read = code.length ∧ Reaches code ⟨stack, 0⟩ ⟨state.stack, state.read⟩
  /-- With a fault the stack is the one from before the instruction that stopped the machine. -/
  atomic : ∀ state fault, outcome = some state → state.fault = some fault →
    ∃ read, Reaches code ⟨stack, 0⟩ ⟨state.stack, read⟩ ∧
      Stops code ⟨state.stack, read⟩ fault state.read

/-- **The machine is safe on every code and every stack.**  A run ends.  Every instruction on the
way pushes an item of the length that it announces, or is an operation whose items are all on the
stack.  The run has no outcome only where a length is missing at the very end; otherwise it has read
at most the code, and all of it if there is no fault, and a fault leaves the stack as the instruction
found it. -/
theorem run_safe (code : Bytes) (stack : Stack) : SafeRun code stack (run stack code) := by
  have ends : Ends code ⟨stack, 0⟩ (run stack code) := ends_runFrom rfl (Nat.zero_le _)
  refine ⟨fun _ _ _ => Step.does, no_endless_steps code _, ⟨?_, ?_⟩, ?_, ?_, ?_⟩
  · intro missing
    rw [missing] at ends
    exact ends.exists_oneByteLength
  · rintro ⟨before, left, rfl, reached⟩
    exact run_eq_none_of_reaches reached
  · intro state returned
    rw [returned] at ends
    exact ends.read_le
  · intro state returned clean
    rw [returned] at ends
    exact ends.of_clean clean
  · intro state fault returned faulty
    rw [returned] at ends
    exact ends.of_fault faulty

end ScriptTemplate.Machine
