/-
# Runs of the machine, piece by piece

The machine reads its code from the front, so what it does with a code that is put together from
two pieces can be told from the pieces.  This file says how, for the three things that the rest of
the development needs:

* **a run goes on where the run of its first piece stopped** (`run_append`), provided that piece
  ran to its end without a fault;
* **a push instruction puts its data on the stack** if there are at most 255 bytes of it
  (`runFrom_encode`), and stops the machine at once if there are more (`runFrom_encode_long`):
  the encoder knows two forms that the machine does not;
* **a run has no outcome in one case only** (`run_eq_none_iff`): the code ends with the opcode of
  a push with one length byte, and all of the code before it has run without a fault.

All of them rest on one fact about a single instruction, `effect_of_take`: what an instruction
does is decided by its opcode, the stack and the bytes it uses.
-/
import ScriptTemplate.Machine.Basic

namespace ScriptTemplate.Machine

/-! ## 1. One instruction -/

/-- A push goes on if the code has enough bytes left. -/
theorem pushEffect_eq_proceed_iff {stack after : Stack} {skipped length used : Nat}
    {code : Bytes} :
    pushEffect stack skipped length code = .proceed after used ↔
      length ≤ code.length ∧ code.take length :: stack = after ∧ skipped + length = used := by
  unfold pushEffect
  split
  · next room => simp [room]
  · next short => simp [short]

/-- A push always has an effect. -/
theorem pushEffect_ne_truncated (stack : Stack) (skipped length : Nat) (code : Bytes) :
    pushEffect stack skipped length code ≠ .truncated := by
  unfold pushEffect
  split <;> simp

/-- An instruction that goes on has used no more code than there is. -/
theorem used_le_of_effect {stack after : Stack} {opcode : UInt8} {code : Bytes} {used : Nat}
    (h : effect stack opcode code = .proceed after used) : used ≤ code.length := by
  unfold effect at h
  split at h
  · obtain ⟨room, -, rfl⟩ := pushEffect_eq_proceed_iff.mp h
    omega
  · split at h
    · split at h
      · cases h
      · obtain ⟨room, -, rfl⟩ := pushEffect_eq_proceed_iff.mp h
        rw [List.length_cons]
        omega
    · split at h
      · cases h
      · split at h
        · cases h
        · cases h
          exact Nat.zero_le _

/-- **An instruction looks at the bytes it uses and no further.** -/
theorem effect_of_take {stack after : Stack} {opcode : UInt8} {code other : Bytes} {used : Nat}
    (h : effect stack opcode code = .proceed after used)
    (same : code.take used = other.take used) (room : used ≤ other.length) :
    effect stack opcode other = .proceed after used := by
  unfold effect at h ⊢
  split at h
  · next direct =>
    rw [if_pos direct]
    obtain ⟨-, rfl, rfl⟩ := pushEffect_eq_proceed_iff.mp h
    rw [Nat.zero_add] at same room
    exact pushEffect_eq_proceed_iff.mpr ⟨room, by rw [same], rfl⟩
  · next indirect =>
    rw [if_neg indirect]
    split at h
    · next announced =>
      rw [if_pos announced]
      split at h
      · cases h
      · next length rest =>
        obtain ⟨-, rfl, rfl⟩ := pushEffect_eq_proceed_iff.mp h
        -- The length byte is among the bytes used, so `other` starts with it too.
        cases other with
        | nil => simp at room
        | cons first others =>
          rw [Nat.add_comm, List.take_succ_cons, List.take_succ_cons, List.cons.injEq] at same
          obtain ⟨rfl, same⟩ := same
          rw [List.length_cons] at room
          exact pushEffect_eq_proceed_iff.mpr ⟨by omega, by rw [same], rfl⟩
    · next operation => rw [if_neg operation]; exact h

/-- More code behind an instruction changes nothing about it. -/
theorem effect_append {stack after : Stack} {opcode : UInt8} {code : Bytes} {used : Nat}
    (h : effect stack opcode code = .proceed after used) (more : Bytes) :
    effect stack opcode (code ++ more) = .proceed after used := by
  have room := used_le_of_effect h
  refine effect_of_take h ?_ (by rw [List.length_append]; omega)
  rw [List.take_append_of_le_length room]

/-- The one instruction without an effect. -/
theorem effect_eq_truncated_iff {stack : Stack} {opcode : UInt8} {code : Bytes} :
    effect stack opcode code = .truncated ↔ opcode = Push.oneByteLength ∧ code = [] := by
  constructor
  · intro h
    unfold effect at h
    split at h
    · exact absurd h (pushEffect_ne_truncated _ _ _ _)
    · split at h
      · next announced =>
        split at h
        · exact ⟨announced, rfl⟩
        · exact absurd h (pushEffect_ne_truncated _ _ _ _)
      · split at h
        · cases h
        · split at h <;> cases h
  · rintro ⟨rfl, rfl⟩
    rfl

/-! ## 2. Runs of two pieces -/

/-- A state that has read more code before. -/
def State.advanced (state : State) (before : Nat) : State :=
  { state with read := before + state.read }

@[simp] theorem stack_advanced (state : State) (before : Nat) :
    (state.advanced before).stack = state.stack := rfl

@[simp] theorem fault_advanced (state : State) (before : Nat) :
    (state.advanced before).fault = state.fault := rfl

@[simp] theorem read_advanced (state : State) (before : Nat) :
    (state.advanced before).read = before + state.read := rfl

@[simp] theorem runFrom_nil (stack : Stack) (read : Nat) :
    runFrom stack read [] = some ⟨stack, read, none⟩ := by
  rw [runFrom]

/-- An instruction that goes on. -/
theorem runFrom_of_proceed {stack after : Stack} {opcode : UInt8} {code : Bytes} {used : Nat}
    (h : effect stack opcode code = .proceed after used) (read : Nat) :
    runFrom stack read (opcode :: code) = runFrom after (read + 1 + used) (code.drop used) := by
  rw [runFrom]
  simp only [h]

/-- An instruction that stops the machine. -/
theorem runFrom_of_halt {stack : Stack} {opcode : UInt8} {code : Bytes} {fault : Fault}
    {used : Nat} (h : effect stack opcode code = .halt fault used) (read : Nat) :
    runFrom stack read (opcode :: code) = some ⟨stack, read + 1 + used, some fault⟩ := by
  rw [runFrom]
  simp only [h]

/-- How much was read before decides nothing but the final count. -/
theorem runFrom_add (stack : Stack) (before read : Nat) (code : Bytes) :
    runFrom stack (before + read) code = (runFrom stack read code).map (·.advanced before) := by
  fun_induction runFrom stack read code with
  | case1 stack read => rw [runFrom_nil]; rfl
  | case2 stack read opcode code after used h ih =>
    rw [runFrom_of_proceed h, ← ih]
    congr 1
    omega
  | case3 stack read opcode code fault used h =>
    rw [runFrom_of_halt h]
    simp [State.advanced, Nat.add_assoc]
  | case4 stack read opcode code h =>
    rw [runFrom]
    simp only [h, Option.map_none]

theorem runFrom_eq_run (stack : Stack) (read : Nat) (code : Bytes) :
    runFrom stack read code = (run stack code).map (·.advanced read) :=
  runFrom_add stack read 0 code

/-- A run without a fault has read all of its code, and goes on with what follows it. -/
theorem runFrom_append {stack after : Stack} {read stop : Nat} {code : Bytes}
    (h : runFrom stack read code = some ⟨after, stop, none⟩) (more : Bytes) :
    stop = read + code.length ∧ runFrom stack read (code ++ more) = runFrom after stop more := by
  -- The induction follows the instructions of the first piece.
  fun_induction runFrom stack read code with
  | case1 stack read =>
    cases h
    exact ⟨rfl, rfl⟩
  | case2 stack read opcode code next used step ih =>
    have room := used_le_of_effect step
    obtain ⟨count, joined⟩ := ih h
    rw [List.length_drop] at count
    refine ⟨by rw [count, List.length_cons]; omega, ?_⟩
    rw [List.cons_append, runFrom_of_proceed (effect_append step more),
      List.drop_append_of_le_length room, joined]
  | case3 stack read opcode code fault used step => cases h
  | case4 stack read opcode code step => cases h

/-- **A run goes on where the run of its first piece stopped.** -/
theorem run_append {stack : Stack} {code : Bytes} {state : State}
    (h : run stack code = some state) (clean : state.fault = none) (more : Bytes) :
    state.read = code.length ∧
      run stack (code ++ more) = (run state.stack more).map (·.advanced code.length) := by
  obtain ⟨after, stop, fault⟩ := state
  subst clean
  obtain ⟨count, joined⟩ := runFrom_append h more
  rw [Nat.zero_add] at count
  refine ⟨count, ?_⟩
  rw [run, joined, count, runFrom_eq_run]

/-! ## 3. Runs without an outcome -/

/-- **A code misses a length** if its last byte announces a push with one length byte and the
machine gets there: all of the code before it runs without a fault. -/
def MissesLength (code : Bytes) : Prop :=
  ∃ before state, code = before ++ [Push.oneByteLength] ∧ run [] before = some state ∧
    state.fault = none

theorem runFrom_eq_none {stack : Stack} {read : Nat} {code : Bytes}
    (h : runFrom stack read code = none) :
    ∃ before after, code = before ++ [Push.oneByteLength] ∧
      runFrom stack read before = some ⟨after, read + before.length, none⟩ := by
  fun_induction runFrom stack read code with
  | case1 stack read => cases h
  | case2 stack read opcode code next used step ih =>
    obtain ⟨before, after, cut, ran⟩ := ih h
    have room := used_le_of_effect step
    -- The instruction uses bytes before the last one only, so it does the same without it.
    have whole : code = code.take used ++ before ++ [Push.oneByteLength] := by
      rw [List.append_assoc, ← cut, List.take_append_drop]
    have taken : (code.take used).length = used := List.length_take_of_le room
    have same : effect stack opcode (code.take used ++ before) = .proceed next used := by
      refine effect_of_take step ?_ (by rw [List.length_append, taken]; omega)
      rw [List.take_append_of_le_length (Nat.le_of_eq taken.symm), List.take_take,
        Nat.min_self]
    refine ⟨opcode :: (code.take used ++ before), after, by rw [List.cons_append, ← whole], ?_⟩
    rw [runFrom_of_proceed same, List.drop_append_of_le_length (Nat.le_of_eq taken.symm),
      List.drop_of_length_le (Nat.le_of_eq taken), List.nil_append, ran]
    simp only [List.length_cons, List.length_append, taken]
    congr 2
    omega
  | case3 stack read opcode code fault used step => cases h
  | case4 stack read opcode code step =>
    obtain ⟨rfl, rfl⟩ := effect_eq_truncated_iff.mp step
    exact ⟨[], stack, rfl, by rw [runFrom_nil]; rfl⟩

/-- **A run has no outcome exactly if its code misses a length.** -/
theorem run_eq_none_iff {code : Bytes} : run [] code = none ↔ MissesLength code := by
  constructor
  · intro h
    obtain ⟨before, after, cut, ran⟩ := runFrom_eq_none h
    exact ⟨before, _, cut, ran, rfl⟩
  · rintro ⟨before, state, rfl, ran, clean⟩
    have last : run state.stack [Push.oneByteLength] = none := by
      rw [run, runFrom]
      simp only [effect_eq_truncated_iff.mpr ⟨rfl, rfl⟩]
    rw [(run_append ran clean _).2, last]
    rfl

/-! ## 4. Pushes -/

/-- An opcode that is a length itself. -/
theorem effect_of_direct {opcode : UInt8} (h : opcode.toNat ≤ Push.directLimit) (stack : Stack)
    (code : Bytes) : effect stack opcode code = pushEffect stack 0 opcode.toNat code := by
  unfold effect
  rw [if_pos h]

/-- An opcode with its length in the next byte. -/
theorem effect_oneByteLength (stack : Stack) (length : UInt8) (code : Bytes) :
    effect stack Push.oneByteLength (length :: code) = pushEffect stack 1 length.toNat code := rfl

theorem toNat_ofNat_of_le {n : Nat} (h : n ≤ 0xff) : (UInt8.ofNat n).toNat = n := by
  rw [UInt8.toNat_ofNat']
  exact Nat.mod_eq_of_lt (by omega)

/-- **A push of at most 255 bytes puts them on the stack.** -/
theorem runFrom_encode {data : Bytes} (short : data.length ≤ 0xff) (stack : Stack)
    (read : Nat) (code : Bytes) :
    runFrom stack read (Push.encode data ++ code) =
      runFrom (data :: stack) (read + (Push.encode data).length) code := by
  have room : data.length ≤ (data ++ code).length := by rw [List.length_append]; omega
  have front : (data ++ code).take data.length = data := List.take_left' rfl
  have back : (data ++ code).drop data.length = code := List.drop_left' rfl
  have length : (UInt8.ofNat data.length).toNat = data.length := toNat_ofNat_of_le short
  unfold Push.encode Push.header
  by_cases direct : data.length ≤ Push.directLimit
  · -- The length is the opcode itself.
    have step : effect stack (UInt8.ofNat data.length) (data ++ code) =
        .proceed (data :: stack) data.length := by
      rw [effect_of_direct (by rw [length]; exact direct), length]
      exact pushEffect_eq_proceed_iff.mpr ⟨room, by rw [front], Nat.zero_add _⟩
    rw [if_pos direct, List.append_assoc, List.singleton_append, runFrom_of_proceed step, back,
      List.length_append, List.length_singleton, Nat.add_assoc]
  · -- The length stands in the byte after the opcode.
    have step : effect stack Push.oneByteLength (UInt8.ofNat data.length :: (data ++ code)) =
        .proceed (data :: stack) (1 + data.length) := by
      rw [effect_oneByteLength, length]
      exact pushEffect_eq_proceed_iff.mpr ⟨room, by rw [front], rfl⟩
    rw [if_neg direct, if_pos short]
    simp only [Bytes.littleEndian, Nat.mod_eq_of_lt (show data.length < 256 by omega),
      List.cons_append, List.nil_append]
    rw [runFrom_of_proceed step, Nat.add_comm 1, List.drop_succ_cons, back]
    simp only [List.length_cons]
    congr 1
    omega

/-- The opcode of the push of data that is too long for the machine. -/
def longPushOpcode (data : Bytes) : UInt8 :=
  if data.length ≤ 0xffff then Push.twoByteLength else Push.fourByteLength

/-- The opcodes of longer pushes belong to no instruction. -/
theorem effect_longPushOpcode (stack : Stack) (data code : Bytes) :
    effect stack (longPushOpcode data) code = .halt (.unsupported (longPushOpcode data)) 0 := by
  unfold longPushOpcode
  split <;> rfl

/-- **A longer push stops the machine at once.** -/
theorem runFrom_encode_long {data : Bytes} (long : 0xff < data.length) (stack : Stack)
    (read : Nat) (code : Bytes) :
    runFrom stack read (Push.encode data ++ code) =
      some ⟨stack, read + 1, some (.unsupported (longPushOpcode data))⟩ := by
  have notDirect : ¬ data.length ≤ Push.directLimit := by
    unfold Push.directLimit
    omega
  obtain ⟨rest, split⟩ : ∃ rest, Push.encode data ++ code = longPushOpcode data :: rest := by
    unfold Push.encode Push.header longPushOpcode
    rw [if_neg notDirect, if_neg (by omega)]
    split <;> exact ⟨_, rfl⟩
  rw [split, runFrom_of_halt (effect_longPushOpcode stack data rest)]

/-- **What the machine makes of every push.**  At most 255 bytes are put on the stack, and all of
the instruction is read.  More than that is refused: the machine stops behind the opcode, says that
it does not know it, and leaves the stack alone. -/
theorem run_encode (data : Bytes) (stack : Stack) :
    run stack (Push.encode data) =
      some (if data.length ≤ 0xff then ⟨data :: stack, (Push.encode data).length, none⟩
        else ⟨stack, 1, some (.unsupported (longPushOpcode data))⟩) := by
  rw [run, ← List.append_nil (Push.encode data)]
  by_cases short : data.length ≤ 0xff
  · rw [if_pos short, runFrom_encode short, runFrom_nil, Nat.zero_add, List.append_nil]
  · have long : 0xff < data.length := Nat.lt_of_not_le short
    rw [if_neg short, runFrom_encode_long long, Nat.zero_add]

/-- The encoder has forms that the machine does not know: 256 bytes are already too many. -/
theorem not_every_push_runs :
    ¬ ∀ (data : Bytes) (stack : Stack), data.length < Push.sizeLimit →
      ∃ state, run stack (Push.encode data) = some state ∧ state.fault = none ∧
        state.stack = data :: stack := by
  intro runs
  have size : (List.replicate 256 (0 : UInt8)).length = 256 := List.length_replicate
  obtain ⟨state, ran, clean, -⟩ := runs (List.replicate 256 0) [] (by rw [size]; decide)
  have refused := runFrom_encode_long (show 0xff < (List.replicate 256 (0 : UInt8)).length by
    rw [size]; decide) [] 0 []
  rw [List.append_nil] at refused
  have same := Option.some.inj (ran.symm.trans refused)
  rw [same] at clean
  cases clean

end ScriptTemplate.Machine
