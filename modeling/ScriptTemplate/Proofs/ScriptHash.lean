/-
# Pay-to-script-hash: what the two transforms make of a script, and that they fit together

Both transforms compile a small fixed script in an environment of its own.  So what they come to
is a matter of running these two scripts through all stages, for bytecode of any length.

* **The lock** (`lockOutcome_short`, `lockOutcome_failed`).  The fixed script evaluates a push of
  the locking bytecode followed by a digest.  The machine knows pushes of up to 255 bytes; up to
  there the outcome is the check of the digest, beyond it (or without a machine) the evaluation
  fails, and the reduction has that one error.
* **The unlocking script** (`unlockOutcome_eq`).  No machine is involved, so there is no such
  bound: the outcome is the unlocking bytecode and a push of the locking bytecode.

The two belong together through the machine: after the unlocking part the locking bytecode is on
top of the stack, and the check leaves the digest equal to itself
(`run_lockBytecode`).  Only the encoder's limit of 2^32 bytes is assumed anywhere, and that the
ceiling on nested scripts is not below one.
-/
import Mathlib
import ScriptTemplate.Proofs.Gathering
import ScriptTemplate.Proofs.StandardStages

namespace ScriptTemplate.Toolchain

open Script

/-! ## 1. Environments of their own -/

/-- A script that is alone in its environment is handed out, unless the ceiling forbids any. -/
theorem locate_derive {env : Environment} (room : ∀ ceiling ∈ env.ceiling, 1 ≤ ceiling)
    (id text : Text) (kinds : Dictionary VariableKind) (machine : Bool) :
    (env.derive [(id, some text)] kinds machine).locate id = .ok text := by
  have there : (env.derive [(id, some text)] kinds machine).script? id = some text := by
    simp [Environment.script?, Environment.derive]
  have notFull : (env.derive [(id, some text)] kinds machine).fullAt? = none := by
    unfold Environment.fullAt? Environment.derive
    cases h : env.ceiling with
    | none => rfl
    | some ceiling =>
      have := room ceiling h
      simp only [List.length_nil]
      rw [if_neg (by omega)]
  unfold Environment.locate
  rw [there, notFull]
  simp [Environment.derive]

/-- Where some script is handed out, the ceiling is not below one. -/
theorem room_of_locate {env : Environment} {id text : Text} (h : env.locate id = .ok text) :
    ∀ ceiling ∈ env.ceiling, 1 ≤ ceiling := by
  intro ceiling given
  obtain ⟨-, -, notFull⟩ := Environment.of_locate h
  have below : ¬ ceiling ≤ env.ancestry.length := by
    intro full
    simp [Environment.fullAt?, Option.mem_def.mp given, full] at notFull
  omega

/-- A script that compiles was handed out. -/
theorem locate_of_success {env : Environment} {data : Data} {id : Text} {success : ScriptSuccess}
    (h : standard.referenceOutcome data env id = .ok (.success success)) :
    ∃ text, env.locate id = .ok text := by
  cases located : env.locate id with
  | ok text => exact ⟨text, rfl⟩
  | error refusal =>
    rw [standard.referenceOutcome_of_refused data located] at h
    cases h

/-! ## 2. The check of a digest -/

/-- The tree of the check. -/
def lockTree : List Node := [
  .identifier "OP_HASH160" ⟨1, 1, 1, 11⟩,
  .group .push [
    .group .evaluation [
      .group .push [.identifier lockingVariable ⟨1, 16, 1, 31⟩] ⟨1, 15, 1, 32⟩,
      .identifier "OP_HASH160" ⟨1, 33, 1, 43⟩] ⟨1, 13, 1, 44⟩] ⟨1, 12, 1, 45⟩,
  .identifier "OP_EQUAL" ⟨1, 46, 1, 54⟩]

theorem parse_digestLock : Script.parse digestLock = .ok lockTree := by cbv

/-- The evaluation inside the check: push the bytecode, take its digest. -/
def lockEvaluation (locking : Bytes) : List Resolved := [
  .group .push [.bytecode locking ⟨1, 16, 1, 31⟩] ⟨1, 15, 1, 32⟩,
  .bytecode [0xa9] ⟨1, 33, 1, 43⟩]

/-- The check with its names resolved. -/
def lockPieces (locking : Bytes) : List Resolved := [
  .bytecode [0xa9] ⟨1, 1, 1, 11⟩,
  .group .push [.group .evaluation (lockEvaluation locking) ⟨1, 13, 1, 44⟩] ⟨1, 12, 1, 45⟩,
  .bytecode [0x87] ⟨1, 46, 1, 54⟩]

section Names

variable {data : Data} {env : Environment} {answer : Text → Except Escape Verdict}

/-- A name that stands for an opcode resolves to it. -/
theorem settle_opcode {name : Text} {value : UInt8} (h : meaning data env name = .opcode value)
    (range : SourceRange) :
    ((Node.identifier name range).resolve data env).settle answer =
      .ok (.bytecode [value] range) := by
  rw [settle_resolve_identifier, settledName, h]

/-- A name that stands for a value resolves to it. -/
theorem settle_value {name : Text} {value : Bytes} (h : meaning data env name = .value value)
    (range : SourceRange) :
    ((Node.identifier name range).resolve data env).settle answer =
      .ok (.bytecode value range) := by
  rw [settle_resolve_identifier, settledName, h]

theorem meaning_of_opcode {name : Text} {value : UInt8} (h : opcode? name = some value) :
    meaning data env name = .opcode value := by
  rw [meaning, h]

end Names

/-- The locking bytecode is what the check's variable stands for. -/
theorem meaning_lockingVariable (env : Environment) (locking : Bytes) :
    meaning (lockData locking) ((lockEnvironment env).descend digestLockId) lockingVariable =
      .value locking := rfl

theorem settle_lockTree (env : Environment) (locking : Bytes)
    (answer : Text → Except Escape Verdict) :
    (resolveAll (lockData locking) ((lockEnvironment env).descend digestLockId) lockTree).settle
      answer = .ok (lockPieces locking) := by
  have digest : opcode? "OP_HASH160" = some 0xa9 := by cbv
  have equal : opcode? "OP_EQUAL" = some 0x87 := by cbv
  refine settle_resolveAll_cons_of_ok (settle_opcode (meaning_of_opcode digest) _) ?_
  refine settle_resolveAll_cons_of_ok ?_
    (settle_resolveAll_cons_of_ok (settle_opcode (meaning_of_opcode equal) _)
      settle_resolveAll_nil)
  refine settle_resolve_group_of_ok (settle_resolveAll_cons_of_ok ?_ settle_resolveAll_nil) _ _
  refine settle_resolve_group_of_ok (settle_resolveAll_cons_of_ok ?_
    (settle_resolveAll_cons_of_ok (settle_opcode (meaning_of_opcode digest) _)
      settle_resolveAll_nil)) _ _
  exact settle_resolve_group_of_ok (settle_resolveAll_cons_of_ok
    (settle_value (meaning_lockingVariable env locking) _) settle_resolveAll_nil) _ _

/-- **The check goes straight to its reduction**: it parses and all of its names resolve. -/
theorem lockOutcome_eq {env : Environment} (room : ∀ ceiling ∈ env.ceiling, 1 ≤ ceiling)
    (locking : Bytes) :
    standard.lockOutcome env locking =
      (gatherAll env.capabilities (lockPieces locking)).map fun gathered =>
        reductionOutcome lockTree (lockPieces locking) gathered.reduction := by
  have located : (lockEnvironment env).locate digestLockId = .ok digestLock :=
    locate_derive room digestLockId digestLock _ _
  unfold lockOutcome
  rw [standard.referenceOutcome_of_located _ located]
  exact textOutcome_of_resolved parse_digestLock (settle_lockTree env locking _) rfl

/-! ## 3. What the check reduces to -/

/-- The bytecode that checks the digest of a locking script. -/
def lockBytecode (locking : Bytes) : Bytes :=
  [0xa9, 0x14] ++ Digest.hash160 locking ++ [0x87]

/-- A digest is pushed with its length of twenty for an opcode. -/
theorem encode_hash160 (locking : Bytes) :
    Push.encode (Digest.hash160 locking) = 0x14 :: Digest.hash160 locking := by
  unfold Push.encode
  rw [Digest.length_hash160]
  rfl

section Reduction

variable {capabilities : Capabilities} {locking : Bytes}

theorem closeGroup_push {inner : Gathered} (small : inner.output.length < Push.sizeLimit)
    (range : SourceRange) :
    closeGroup capabilities .push range inner =
      .ok { inner with output := Push.encode inner.output } := by
  rw [closeGroup, closePush, if_pos small]

/-- A push bracket around bytecode gathers the push of it. -/
theorem gather_push_bytecode (small : locking.length < Push.sizeLimit) (range whole : SourceRange) :
    (Resolved.group .push [.bytecode locking range] whole).gather capabilities =
      .ok { output := Push.encode locking } :=
  gather_group_of_ok (gatherAll_bytecode locking) (closeGroup_push small whole)

theorem gatherAll_lockEvaluation (small : locking.length < Push.sizeLimit) :
    gatherAll capabilities (lockEvaluation locking) =
      .ok { output := Push.encode locking ++ [0xa9] } :=
  gatherAll_cons_of_ok (gather_push_bytecode small _ _) (gatherAll_bytecode [0xa9])

/-- What the check gathers, given what its evaluation does. -/
theorem gatherAll_lockPieces {inner : Gathered} (small : locking.length < Push.sizeLimit)
    (evaluated : closeEvaluation capabilities ⟨1, 13, 1, 44⟩
      { output := Push.encode locking ++ [0xa9] } = .ok inner)
    (short : inner.output.length < Push.sizeLimit) :
    gatherAll capabilities (lockPieces locking) =
      .ok ⟨[0xa9] ++ Push.encode inner.output ++ [0x87], inner.errors, inner.states⟩ := by
  have evaluation : gatherAll capabilities
      [.group .evaluation (lockEvaluation locking) ⟨1, 13, 1, 44⟩] = .ok inner :=
    gatherAll_singleton (gather_group_of_ok (gatherAll_lockEvaluation small) evaluated)
  unfold lockPieces
  rw [gatherAll_cons_of_ok (gather_bytecode [0xa9])
    (gatherAll_cons_of_ok (gather_group_of_ok evaluation (closeGroup_push short _))
      (gatherAll_bytecode [0x87]))]
  simp [Gathered.append_def]

/-- The machine takes the digest of at most 255 bytes. -/
theorem run_lockEvaluation (short : locking.length ≤ 255) :
    ∃ read, Machine.run [] (Push.encode locking ++ [0xa9]) =
      some ⟨[Digest.hash160 locking], read, none⟩ := by
  have digest : Machine.effect [locking] 0xa9 [] = .proceed [Digest.hash160 locking] 0 := rfl
  refine ⟨0 + (Push.encode locking).length + 1 + 0, ?_⟩
  rw [Machine.run, Machine.runFrom_encode short, Machine.runFrom_of_proceed digest]
  exact Machine.runFrom_nil _ _

/-- **The check of at most 255 bytes reduces to the check of their digest.** -/
theorem gatherAll_lockPieces_short (able : capabilities.canEvaluate)
    (short : locking.length ≤ 255) :
    ∃ states, gatherAll capabilities (lockPieces locking) =
      .ok ⟨lockBytecode locking, [], states⟩ := by
  obtain ⟨read, ran⟩ := run_lockEvaluation short
  have evaluated : closeEvaluation capabilities ⟨1, 13, 1, 44⟩
      { output := Push.encode locking ++ [0xa9] } =
      .ok ⟨Digest.hash160 locking, [], [⟨[Digest.hash160 locking], read, none⟩]⟩ := by
    rw [closeEvaluation, if_pos able, ran]
    rfl
  have small : locking.length < Push.sizeLimit := by unfold Push.sizeLimit; omega
  have twenty : (Digest.hash160 locking).length < Push.sizeLimit := by
    rw [Digest.length_hash160]
    unfold Push.sizeLimit
    omega
  refine ⟨[⟨[Digest.hash160 locking], read, none⟩], ?_⟩
  rw [gatherAll_lockPieces small evaluated twenty, encode_hash160]
  simp only [lockBytecode, List.cons_append, List.nil_append]

/-- **All other checks fail**, with the one error that their evaluation reports. -/
theorem gatherAll_lockPieces_failed (small : locking.length < Push.sizeLimit)
    (unfit : ¬ (capabilities.canEvaluate ∧ locking.length ≤ 255)) :
    ∃ output error states, gatherAll capabilities (lockPieces locking) =
      .ok ⟨output, [error], states⟩ := by
  have failed : ∃ error states, closeEvaluation capabilities ⟨1, 13, 1, 44⟩
      { output := Push.encode locking ++ [0xa9] } = .ok ⟨[], [error], states⟩ := by
    unfold closeEvaluation
    by_cases able : capabilities.canEvaluate
    · have long : 255 < locking.length := Nat.not_le.mp fun short => unfit ⟨able, short⟩
      rw [if_pos able, Machine.run, Machine.runFrom_encode_long long]
      exact ⟨_, _, rfl⟩
    · rw [if_neg able]
      exact ⟨_, _, rfl⟩
  obtain ⟨error, states, evaluated⟩ := failed
  have empty : ([] : Bytes).length < Push.sizeLimit := by decide
  exact ⟨_, error, states, gatherAll_lockPieces small evaluated empty⟩

/-- A check that reduces has at most 255 bytes to push: more of them fail, and too many for the
encoder escape. -/
theorem short_of_gatherAll_lockPieces {output : Bytes} {states : List Machine.State}
    (h : gatherAll capabilities (lockPieces locking) = .ok ⟨output, [], states⟩) :
    capabilities.canEvaluate ∧ locking.length ≤ 255 := by
  by_cases small : locking.length < Push.sizeLimit
  · by_cases fit : capabilities.canEvaluate ∧ locking.length ≤ 255
    · exact fit
    · obtain ⟨_, _, _, failed⟩ := gatherAll_lockPieces_failed small fit
      rw [failed] at h
      cases h
  · -- The innermost push is the first bracket that closes.
    have demanded : Resolved.Demands capabilities
        (.group .push [.group .evaluation (lockEvaluation locking) ⟨1, 13, 1, 44⟩]
          ⟨1, 12, 1, 45⟩) (.push locking) :=
      .inside List.mem_cons_self (.inside List.mem_cons_self
        (.closing (gatherAll_bytecode locking) .push))
    have member : (.group .push [.group .evaluation (lockEvaluation locking) ⟨1, 13, 1, 44⟩]
        ⟨1, 12, 1, 45⟩) ∈ lockPieces locking := by simp [lockPieces]
    exact absurd h (gatherAll_escapes member demanded (.oversized (Nat.not_lt.mp small)) _)

end Reduction

/-! ## 4. The outcome of the check -/

variable {env : Environment} {data : Data} {id : Text} {locking unlocking : Bytes}

theorem lockOutcome_short (room : ∀ ceiling ∈ env.ceiling, 1 ≤ ceiling)
    (able : env.capabilities.canEvaluate) (short : locking.length ≤ 255) :
    ∃ success, standard.lockOutcome env locking = .ok (.success success) ∧
      success.bytecode = lockBytecode locking := by
  obtain ⟨states, gathered⟩ := gatherAll_lockPieces_short able short
  rw [lockOutcome_eq room, gathered]
  exact ⟨_, rfl, rfl⟩

theorem lockOutcome_failed (room : ∀ ceiling ∈ env.ceiling, 1 ≤ ceiling)
    (small : locking.length < Push.sizeLimit)
    (unfit : ¬ (env.capabilities.canEvaluate ∧ locking.length ≤ 255)) :
    ∃ failure, standard.lockOutcome env locking = .ok (.failure failure) ∧
      failure.stage = .reduce ∧ failure.others = [] := by
  obtain ⟨output, error, states, gathered⟩ := gatherAll_lockPieces_failed small unfit
  rw [lockOutcome_eq room, gathered]
  exact ⟨_, rfl, rfl, rfl⟩

/-- **A check that succeeds is the check of a digest**, and of at most 255 bytes. -/
theorem of_lockOutcome_success {success : ScriptSuccess}
    (h : standard.lockOutcome env locking = .ok (.success success)) :
    locking.length ≤ 255 ∧ success.bytecode = lockBytecode locking := by
  have room : ∀ ceiling ∈ env.ceiling, 1 ≤ ceiling := by
    obtain ⟨text, located⟩ := locate_of_success h
    exact fun ceiling given => room_of_locate located ceiling given
  have fit : env.capabilities.canEvaluate ∧ locking.length ≤ 255 := by
    rw [lockOutcome_eq room, map_eq_ok_iff] at h
    obtain ⟨⟨output, errors, states⟩, gathered, reduced⟩ := h
    cases errors with
    | nil => exact short_of_gatherAll_lockPieces gathered
    | cons first others => cases reduced
  obtain ⟨other, same, bytecode⟩ := lockOutcome_short room fit.1 fit.2
  rw [h] at same
  cases same
  exact ⟨fit.2, bytecode⟩

/-! ## 5. The completed unlocking script -/

/-- The tree of the completed unlocking script. -/
def unlockTree : List Node := [
  .identifier unlockingVariable ⟨1, 1, 1, 18⟩,
  .group .push [.identifier lockingVariable ⟨1, 20, 1, 35⟩] ⟨1, 19, 1, 36⟩]

theorem parse_digestUnlock : Script.parse digestUnlock = .ok unlockTree := by cbv

/-- The completed unlocking script with its names resolved. -/
def unlockPieces (unlocking locking : Bytes) : List Resolved := [
  .bytecode unlocking ⟨1, 1, 1, 18⟩,
  .group .push [.bytecode locking ⟨1, 20, 1, 35⟩] ⟨1, 19, 1, 36⟩]

theorem settle_unlockTree (env : Environment) (unlocking locking : Bytes)
    (answer : Text → Except Escape Verdict) :
    (resolveAll (unlockData unlocking locking) ((unlockEnvironment env).descend digestUnlockId)
      unlockTree).settle answer = .ok (unlockPieces unlocking locking) := by
  have first : meaning (unlockData unlocking locking)
      ((unlockEnvironment env).descend digestUnlockId) unlockingVariable = .value unlocking := rfl
  have second : meaning (unlockData unlocking locking)
      ((unlockEnvironment env).descend digestUnlockId) lockingVariable = .value locking := rfl
  refine settle_resolveAll_cons_of_ok (settle_value first _) ?_
  refine settle_resolveAll_cons_of_ok ?_ settle_resolveAll_nil
  exact settle_resolve_group_of_ok (settle_resolveAll_cons_of_ok (settle_value second _)
    settle_resolveAll_nil) _ _

theorem gatherAll_unlockPieces (capabilities : Capabilities) (unlocking : Bytes)
    (small : locking.length < Push.sizeLimit) :
    gatherAll capabilities (unlockPieces unlocking locking) =
      .ok { output := unlocking ++ Push.encode locking } :=
  gatherAll_cons_of_ok (gather_bytecode unlocking)
    (gatherAll_singleton (gather_push_bytecode small _ _))

/-- **The completed unlocking script is the unlocking script and a push of the locking script**,
whatever the machine can carry. -/
theorem unlockOutcome_eq (room : ∀ ceiling ∈ env.ceiling, 1 ≤ ceiling) (unlocking : Bytes)
    (small : locking.length < Push.sizeLimit) :
    ∃ success, standard.unlockOutcome env unlocking locking = .ok (.success success) ∧
      success.bytecode = unlocking ++ Push.encode locking := by
  have located : (unlockEnvironment env).locate digestUnlockId = .ok digestUnlock :=
    locate_derive room digestUnlockId digestUnlock _ _
  unfold unlockOutcome
  rw [standard.referenceOutcome_of_located _ located,
    textOutcome_of_resolved parse_digestUnlock (settle_unlockTree env unlocking locking _) rfl,
    gatherAll_unlockPieces _ unlocking small]
  exact ⟨_, rfl, rfl⟩

/-! ## 6. Scripts with their transform -/

variable {raw lock : ScriptSuccess}

/-- A script of type `p2sh` and a script that unlocks it, to try the transforms on. -/
def pairedEnvironment : Environment where
  scripts := [("lock", some "OP_1"), ("unlock", some "<0xab>")]
  lockingTypes := [("lock", .p2sh)]
  unlocks := [("unlock", some "lock")]

theorem pairedEnvironment_lock :
    ∃ raw, standard.referenceOutcome {} pairedEnvironment "lock" = .ok (.success raw) ∧
      raw.bytecode = [0x51] :=
  map_verdict_eq_ok_iff.mp (by cbv)

theorem pairedEnvironment_unlock :
    ∃ raw, standard.referenceOutcome {} pairedEnvironment "unlock" = .ok (.success raw) ∧
      raw.bytecode = [0x01, 0xab] :=
  map_verdict_eq_ok_iff.mp (by cbv)

/-! ## 7. The transforms, exactly -/

/-- **What the check of a digest has to come to.**  Evaluations being possible, it succeeds for up
to 255 bytes and has one error for more; otherwise it fails in any case. -/
structure LocksDigest (env : Environment) (locking : Bytes) (result : ScriptResult) : Prop where
  succeeded_iff : env.capabilities.canEvaluate → (result.succeeded ↔ locking.length ≤ 255)
  bytecode : ∀ success, result = .success success →
    success.bytecode = [0xa9, 0x14] ++ Digest.hash160 locking ++ [0x87]
  long : env.capabilities.canEvaluate → 255 < locking.length →
    ∃ failure, result = .failure failure ∧ failure.stage = .reduce ∧ failure.errors.length = 1
  unable : ¬ env.capabilities.canEvaluate →
    ∃ failure, result = .failure failure ∧ failure.stage = .reduce

theorem exists_locksDigest (room : ∀ ceiling ∈ env.ceiling, 1 ≤ ceiling)
    (small : locking.length < Push.sizeLimit) :
    ∃ result, standard.lockOutcome env locking = .ok result ∧ LocksDigest env locking result := by
  by_cases fit : env.capabilities.canEvaluate ∧ locking.length ≤ 255
  · obtain ⟨success, outcome, bytecode⟩ := lockOutcome_short room fit.1 fit.2
    refine ⟨.success success, outcome, ?_, ?_, ?_, ?_⟩
    · exact fun _ => ⟨fun _ => fit.2, fun _ => rfl⟩
    · rintro _ ⟨⟩
      exact bytecode
    · intro _ long
      have := fit.2
      omega
    · exact fun unable => absurd fit.1 unable
  · obtain ⟨failure, outcome, stage, others⟩ := lockOutcome_failed room small fit
    have one : failure.errors.length = 1 := by rw [Failure.errors, others]; rfl
    refine ⟨.failure failure, outcome, ?_, ?_, ?_, ?_⟩
    · intro able
      constructor
      · exact fun never => nomatch never
      · exact fun short => absurd ⟨able, short⟩ fit
    · exact fun _ never => nomatch never
    · exact fun _ _ => ⟨failure, rfl, stage, one⟩
    · exact fun _ => ⟨failure, rfl, stage⟩

/-- **The locking transform, exactly.**  The check of a digest comes to what `LocksDigest` says,
whatever else the environment holds; and a script of type `p2sh` that passes the gate and compiles
comes to the failure of that check, or to its bytecode with the artifacts of the script itself. -/
theorem compileDigestLock_exact (env : Environment) :
    (∀ locking : Bytes, locking.length < Push.sizeLimit →
      (∀ ceiling ∈ env.ceiling, 1 ≤ ceiling) →
      ∃ result, (standard.compileDigestLock env locking).Yields (.ok result) ∧
        LocksDigest env locking result) ∧
    (∀ (data : Data) (id : Text) (ambient : Ambient) (raw : ScriptSuccess),
      env.lockingType id = .p2sh → locktimeMismatch? data env id = none →
      ((standard.compileReference data env id).run ambient).1 = .ok (.success raw) →
      raw.bytecode.length < Push.sizeLimit →
      ∃ result, (standard.compileDigestLock env raw.bytecode).Yields (.ok result) ∧
        LocksDigest env raw.bytecode result ∧
        (∀ failure, result = .failure failure →
          (standard.compile data env id).Yields (.ok (.failure failure))) ∧
        (∀ wrapped, result = .success wrapped →
          (standard.compile data env id).Yields (.ok (.success {
            bytecode := wrapped.bytecode
            artifacts := raw.artifacts
            transform := some .p2shLocking })))) := by
  have yields (locking : Bytes) :
      (standard.compileDigestLock env locking).Yields (standard.lockOutcome env locking) :=
    standard.yields_compileReference _ _ _
  constructor
  · intro locking small room
    obtain ⟨result, outcome, spec⟩ := exists_locksDigest room small
    exact ⟨result, outcome ▸ yields locking, spec⟩
  · intro data id ambient raw locks passes ran small
    have compiled := (standard.yields_compileReference data env id).eq_of_run ran
    obtain ⟨text, located⟩ := locate_of_success compiled
    obtain ⟨result, outcome, spec⟩ := exists_locksDigest (room_of_locate located) small
    -- The script itself comes to the same check, transformed.
    have script : standard.scriptOutcome data env id =
        .ok (transformed raw .p2shLocking result) := by
      rw [scriptOutcome_of_success passes compiled, transformOutcome_lock locks, outcome]
      rfl
    have whole := standard.yields_compile data env id
    rw [script] at whole
    refine ⟨result, outcome ▸ yields raw.bytecode, spec, ?_, ?_⟩
    · rintro failure rfl
      exact whole
    · rintro wrapped rfl
      exact whole

/-- A lock of one byte is compiled to the check of its digest. -/
theorem compileDigestLock_pairedEnvironment :
    ∃ success, (standard.compile {} pairedEnvironment "lock").Yields (.ok (.success success)) ∧
      success.bytecode = [0xa9, 0x14] ++ Digest.hash160 [0x51] ++ [0x87] := by
  obtain ⟨raw, compiled, bytecode⟩ := pairedEnvironment_lock
  have small : raw.bytecode.length < Push.sizeLimit := by rw [bytecode]; decide
  have ran := (compiled ▸ standard.yields_compileReference {} pairedEnvironment "lock") default
  obtain ⟨result, -, spec, -, wraps⟩ :=
    (compileDigestLock_exact pairedEnvironment).2 {} "lock" default raw rfl rfl ran small
  have succeeded := (spec.succeeded_iff rfl).mpr (by rw [bytecode]; decide)
  cases result with
  | failure failure => cases succeeded
  | success wrapped =>
    refine ⟨_, wraps wrapped rfl, ?_⟩
    rw [← bytecode]
    exact spec.bytecode wrapped rfl

/-- **The unlocking transform, exactly.**  The completed unlocking script is the unlocking bytecode
with a push of the locking bytecode, with or without a machine; and a script that unlocks a script
of type `p2sh` comes to the first of the two failures there is, or to both scripts put together. -/
theorem compileDigestUnlock_exact (env : Environment) :
    (∀ unlocking locking : Bytes, locking.length < Push.sizeLimit →
      (∀ ceiling ∈ env.ceiling, 1 ≤ ceiling) →
      ∃ success, (standard.compileDigestUnlock env unlocking locking).Yields
          (.ok (.success success)) ∧
        success.bytecode = unlocking ++ Push.encode locking) ∧
    (∀ (data : Data) (id lockingId : Text), env.lockingType id ≠ .p2sh →
      env.unlocked? id = some lockingId → env.lockingType lockingId = .p2sh →
      locktimeMismatch? data env id = none →
      (∀ (ambient : Ambient) failure,
        ((standard.compileReference data env id).run ambient).1 = .ok (.failure failure) →
        (standard.compile data env id).Yields (.ok (.failure failure))) ∧
      (∀ (ambient : Ambient) raw,
        ((standard.compileReference data env id).run ambient).1 = .ok (.success raw) →
        (∀ (ambient : Ambient) failure,
          ((standard.compileReference data env lockingId).run ambient).1 =
            .ok (.failure failure) →
          (standard.compile data env id).Yields (.ok (.failure failure))) ∧
        (∀ (ambient : Ambient) locking,
          ((standard.compileReference data env lockingId).run ambient).1 =
            .ok (.success locking) →
          locking.bytecode.length < Push.sizeLimit →
          (standard.compile data env id).Yields (.ok (.success {
            bytecode := raw.bytecode ++ Push.encode locking.bytecode
            artifacts := raw.artifacts
            transform := some .p2shUnlocking }))))) := by
  constructor
  · intro unlocking locking small room
    obtain ⟨success, outcome, bytecode⟩ := unlockOutcome_eq room unlocking small
    exact ⟨success, outcome ▸ standard.yields_compileReference _ _ _, bytecode⟩
  · intro data id lockingId plain pairs locks passes
    have whole := standard.yields_compile data env id
    constructor
    · intro ambient failure ran
      have compiled := (standard.yields_compileReference data env id).eq_of_run ran
      rwa [scriptOutcome_of_failure passes compiled] at whole
    · intro ambient raw ran
      have compiled := (standard.yields_compileReference data env id).eq_of_run ran
      rw [scriptOutcome_of_success passes compiled,
        transformOutcome_unlock plain (digestLockOf?_eq pairs locks)] at whole
      constructor
      · intro ambient failure ran
        rwa [(standard.yields_compileReference data env lockingId).eq_of_run ran] at whole
      · intro ambient locking ran small
        obtain ⟨text, located⟩ := locate_of_success compiled
        obtain ⟨success, outcome, bytecode⟩ :=
          unlockOutcome_eq (room_of_locate located) raw.bytecode small
        rw [(standard.yields_compileReference data env lockingId).eq_of_run ran] at whole
        have completed : standard.completedOutcome env raw (.success locking) =
            .ok (transformed raw .p2shUnlocking (.success success)) := by
          rw [completedOutcome, outcome]
          rfl
        rw [← bytecode]
        exact completed ▸ whole

/-- An unlocking script of two bytes gets a push of the lock of one byte. -/
theorem compileDigestUnlock_pairedEnvironment :
    ∃ success, (standard.compile {} pairedEnvironment "unlock").Yields (.ok (.success success)) ∧
      success.bytecode = [0x01, 0xab, 0x01, 0x51] := by
  obtain ⟨raw, compiled, bytecode⟩ := pairedEnvironment_unlock
  obtain ⟨lock, compiledLock, lockBytecode⟩ := pairedEnvironment_lock
  have small : lock.bytecode.length < Push.sizeLimit := by rw [lockBytecode]; decide
  have ran := (compiled ▸ standard.yields_compileReference {} pairedEnvironment "unlock") default
  have ranLock :=
    (compiledLock ▸ standard.yields_compileReference {} pairedEnvironment "lock") default
  have spec := (compileDigestUnlock_exact pairedEnvironment).2 {} "unlock" "lock"
    (by decide) rfl rfl rfl
  refine ⟨_, (spec.2 default raw ran).2 default lock ranLock small, ?_⟩
  rw [bytecode, lockBytecode]
  rfl

/-! ## 8. Unlocking, then locking -/

/-- **The check accepts the bytes it was made for.**  They are on top of the stack; the check
replaces them by the value one. -/
theorem run_lockBytecode (stack : Machine.Stack) (read : Nat) (locking : Bytes) :
    Machine.runFrom (locking :: stack) read (lockBytecode locking) =
      some ⟨[1] :: stack, read + (lockBytecode locking).length, none⟩ := by
  have shape : lockBytecode locking = 0xa9 :: (Push.encode (Digest.hash160 locking) ++ [0x87]) := by
    rw [encode_hash160]
    rfl
  have digest (code : Bytes) : Machine.effect (locking :: stack) 0xa9 code =
      .proceed (Digest.hash160 locking :: stack) 0 := rfl
  have equal : Machine.effect (Digest.hash160 locking :: Digest.hash160 locking :: stack) 0x87 [] =
      .proceed ([1] :: stack) 0 := by
    show Machine.Effect.proceed ((if Digest.hash160 locking = Digest.hash160 locking then [1]
      else []) :: stack) 0 = _
    rw [if_pos rfl]
  have twenty : (Digest.hash160 locking).length ≤ 0xff := by
    rw [Digest.length_hash160]
    decide
  rw [shape, Machine.runFrom_of_proceed (digest _), List.drop_zero,
    Machine.runFrom_encode twenty, Machine.runFrom_of_proceed equal, List.drop_zero,
    Machine.runFrom_nil, List.length_cons, List.length_append, List.length_singleton]
  rw [Option.some.injEq, Machine.State.mk.injEq]
  exact ⟨rfl, by omega, rfl⟩

/-- An unlocking code with a push of the locking bytecode, and then its check. -/
theorem run_unlock_then_lock {state : Machine.State} (ran : Machine.run [] unlocking = some state)
    (clean : state.fault = none) (short : locking.length ≤ 255) :
    Machine.run [] (unlocking ++ Push.encode locking ++ lockBytecode locking) =
      some ⟨[1] :: state.stack,
        (unlocking ++ Push.encode locking ++ lockBytecode locking).length, none⟩ := by
  rw [List.append_assoc, (Machine.run_append ran clean _).2, Machine.run,
    Machine.runFrom_encode short, run_lockBytecode]
  simp only [Option.map_some, Machine.State.advanced, List.length_append, Nat.zero_add]

/-- A script of type `p2sh` that succeeds is the check of its own short bytecode. -/
theorem of_lock_success (locks : env.lockingType id = .p2sh)
    (h : standard.scriptOutcome data env id = .ok (.success lock)) :
    ∃ raw, standard.referenceOutcome data env id = .ok (.success raw) ∧
      raw.bytecode.length ≤ 255 ∧ lock.bytecode = lockBytecode raw.bytecode := by
  obtain ⟨raw, compiled, wrapped⟩ := of_scriptOutcome_success h
  rw [transformOutcome_lock locks, map_eq_ok_iff] at wrapped
  obtain ⟨check, checked, same⟩ := wrapped
  cases check with
  | failure outcome => cases same
  | success check =>
    obtain ⟨short, bytecode⟩ := of_lockOutcome_success checked
    cases same
    exact ⟨raw, compiled, short, bytecode⟩

/-- An unlocking script that succeeds ends with a push of the locking script as it is written. -/
theorem of_unlock_success {lockingId : Text} {redeem unlock : ScriptSuccess}
    (plain : env.lockingType id ≠ .p2sh) (pairs : env.unlocked? id = some lockingId)
    (locks : env.lockingType lockingId = .p2sh)
    (locking : standard.referenceOutcome data env lockingId = .ok (.success redeem))
    (small : redeem.bytecode.length < Push.sizeLimit)
    (h : standard.scriptOutcome data env id = .ok (.success unlock)) :
    ∃ raw, standard.referenceOutcome data env id = .ok (.success raw) ∧
      unlock.bytecode = raw.bytecode ++ Push.encode redeem.bytecode := by
  obtain ⟨raw, compiled, completed⟩ := of_scriptOutcome_success h
  obtain ⟨text, located⟩ := locate_of_success compiled
  obtain ⟨assembled, outcome, bytecode⟩ :=
    unlockOutcome_eq (room_of_locate located) raw.bytecode small
  rw [transformOutcome_unlock plain (digestLockOf?_eq pairs locks), locking] at completed
  have same : standard.completedOutcome env raw (.success redeem) = .ok (.success unlock) :=
    completed
  rw [completedOutcome, outcome] at same
  cases same
  exact ⟨raw, compiled, bytecode⟩

/-- **The two transforms fit together.**  Where a script unlocks a script of type `p2sh` and both
compile, running the one's bytecode and then the other's does what the unlocking script does as it
is written, and leaves the value one on top. -/
theorem unlock_then_lock (data : Data) (env : Environment) (id lockingId : Text)
    (pairs : env.unlocked? id = some lockingId) (locks : env.lockingType lockingId = .p2sh)
    (plain : env.lockingType id ≠ .p2sh)
    (lock unlock : ScriptSuccess) (here there : Ambient)
    (locked : ((standard.compile data env lockingId).run here).1 = .ok (.success lock))
    (unlocked : ((standard.compile data env id).run there).1 = .ok (.success unlock)) :
    ∃ raw, (standard.compileReference data env id).Yields (.ok (.success raw)) ∧
      ∀ state, Machine.run [] raw.bytecode = some state → state.fault = none →
        Machine.run [] (unlock.bytecode ++ lock.bytecode) =
          some ⟨[1] :: state.stack, (unlock.bytecode ++ lock.bytecode).length, none⟩ := by
  obtain ⟨redeem, locking, short, check⟩ :=
    of_lock_success locks ((standard.yields_compile data env lockingId).eq_of_run locked)
  have small : redeem.bytecode.length < Push.sizeLimit := by unfold Push.sizeLimit; omega
  obtain ⟨raw, compiled, completed⟩ := of_unlock_success plain pairs locks locking small
    ((standard.yields_compile data env id).eq_of_run unlocked)
  refine ⟨raw, compiled ▸ standard.yields_compileReference data env id, ?_⟩
  intro state ran clean
  rw [completed, check]
  exact run_unlock_then_lock ran clean short

/-- A push of one byte unlocks the lock of one byte: the pushed byte stays, with one on top. -/
theorem unlock_then_lock_pairedEnvironment :
    ∃ lock unlock : ScriptSuccess,
      (standard.compile {} pairedEnvironment "lock").Yields (.ok (.success lock)) ∧
      (standard.compile {} pairedEnvironment "unlock").Yields (.ok (.success unlock)) ∧
      Machine.run [] (unlock.bytecode ++ lock.bytecode) =
        some ⟨[[1], [0xab]], (unlock.bytecode ++ lock.bytecode).length, none⟩ := by
  obtain ⟨redeem, compiledLock, redeemBytecode⟩ := pairedEnvironment_lock
  obtain ⟨check, checked, -⟩ : ∃ success,
      standard.lockOutcome pairedEnvironment redeem.bytecode = .ok (.success success) ∧ _ :=
    lockOutcome_short (by decide) rfl (by rw [redeemBytecode]; decide)
  have lockOutcome : standard.scriptOutcome {} pairedEnvironment "lock" =
      .ok (transformed redeem .p2shLocking (.success check)) := by
    rw [scriptOutcome_of_success rfl compiledLock, transformOutcome_lock rfl, checked]
    rfl
  obtain ⟨unlock, unlockOutcome, -⟩ : ∃ success,
      standard.scriptOutcome {} pairedEnvironment "unlock" = .ok (.success success) ∧
        success.bytecode = [0x01, 0xab, 0x01, 0x51] :=
    map_verdict_eq_ok_iff.mp (by cbv)
  have locked := lockOutcome ▸ standard.yields_compile {} pairedEnvironment "lock"
  have unlocked := unlockOutcome ▸ standard.yields_compile {} pairedEnvironment "unlock"
  refine ⟨_, unlock, locked, unlocked, ?_⟩
  obtain ⟨raw, yields, accepts⟩ := unlock_then_lock {} pairedEnvironment "unlock" "lock" rfl rfl
    (by decide) _ unlock default default (locked default) (unlocked default)
  -- What the unlocking script leaves as it is written: the pushed byte.
  obtain ⟨script, compiled, bytecode⟩ := pairedEnvironment_unlock
  have same : script = raw := by
    have := (standard.yields_compileReference {} pairedEnvironment "unlock" default).symm.trans
      (yields default)
    exact Result.success.inj (Except.ok.inj (compiled.symm.trans this))
  subst same
  exact accepts ⟨[[0xab]], 2, none⟩ (by rw [bytecode]; cbv) rfl

end ScriptTemplate.Toolchain
