/-
# Locktimes and pay-to-script-hash (`check_locktime_type`, `apply_transforms`)

The locktime gate comes before everything else: a script that requires a height is not compiled
for a transaction with a timestamp, nor the other way round.

A locking script of type `p2sh` is replaced by a check of its digest, and the script that unlocks
it gets a push of the locking script at its end.  Both are compilations in an environment of
their own, with the same toolchain.
-/
import ScriptTemplate.Compile.Reference

namespace ScriptTemplate.Toolchain

variable {τ ρ σ : Type}

/-- The logger of locktimes and transforms. -/
def transformLogger : Text := "transforms"

/-! ## The locktime gate -/

/-- A locktime of the wrong kind. -/
inductive LocktimeMismatch
  | wantsHeight (id : Text) (locktime : Int)
  | wantsTimestamp (id : Text) (locktime : Int)
deriving DecidableEq, Repr, Inhabited

/-- The text of a mismatch. -/
def LocktimeMismatch.message : LocktimeMismatch → Text
  | .wantsHeight id locktime =>
    "The script \"" ++ id ++ "\" requires a height-based locktime (less than 500,000,000), but "
      ++ "this transaction uses a timestamp-based locktime (\"" ++ toString locktime ++ "\")."
  | .wantsTimestamp id locktime =>
    "The script \"" ++ id ++ "\" requires a timestamp-based locktime (greater than or equal to "
      ++ "500,000,000), but this transaction uses a height-based locktime (\""
      ++ toString locktime ++ "\")."

/-- What the log says about a mismatch. -/
def LocktimeMismatch.note : LocktimeMismatch → Text
  | .wantsHeight id locktime =>
    "Script " ++ Text.quoted id ++ " requires a height locktime, got " ++ toString locktime
  | .wantsTimestamp id locktime =>
    "Script " ++ Text.quoted id ++ " requires a timestamp locktime, got " ++ toString locktime

/-- The mismatch between a script's requirement and the locktime at hand; none if there is no
requirement, no locktime, or they agree. -/
def locktimeMismatch? (data : Data) (env : Environment) (id : Text) : Option LocktimeMismatch :=
  match data.locktime, env.timeLock id with
  | some locktime, .height =>
    if timestampThreshold ≤ locktime then some (.wantsHeight id locktime) else none
  | some locktime, .timestamp =>
    if locktime < timestampThreshold then some (.wantsTimestamp id locktime) else none
  | _, _ => none

/-- The gate: a failure on a mismatch, nothing else. -/
def checkLocktime (data : Data) (env : Environment) (id : Text) :
    CompileM (Option (Result τ ρ σ)) := do
  match locktimeMismatch? data env id with
  | none => return none
  | some mismatch =>
    CompileM.log .warning transformLogger mismatch.note
    return some (.environmental mismatch.message)

/-! ## Pay-to-script-hash -/

/-- The variable that holds the locking bytecode. -/
def lockingVariable : Text := "lockingBytecode"

/-- The variable that holds the unlocking bytecode. -/
def unlockingVariable : Text := "unlockingBytecode"

/-- The id of the script that checks a digest. -/
def digestLockId : Text := "p2shLocking"

/-- The script that checks a digest. -/
def digestLock : Text := "OP_HASH160 <$(<lockingBytecode> OP_HASH160)> OP_EQUAL"

/-- The id of the script that unlocks a digest check. -/
def digestUnlockId : Text := "p2shUnlocking"

/-- The script that unlocks a digest check. -/
def digestUnlock : Text := "unlockingBytecode <lockingBytecode>"

/-- The check of the digest of a locking script. -/
def compileDigestLock (T : Toolchain τ ρ σ) (env : Environment) (locking : Bytes) :
    CompileM (Result τ ρ σ) :=
  T.compileReference { bytecode := [(lockingVariable, locking)] }
    (env.derive [(digestLockId, some digestLock)] [(lockingVariable, .addressData)]
      env.capabilities.machine)
    digestLockId

/-- The unlocking script, followed by a push of the locking script.  No machine is needed. -/
def compileDigestUnlock (T : Toolchain τ ρ σ) (env : Environment) (unlocking locking : Bytes) :
    CompileM (Result τ ρ σ) :=
  T.compileReference
    { bytecode := [(lockingVariable, locking), (unlockingVariable, unlocking)] }
    (env.derive [(digestUnlockId, some digestUnlock)]
      [(lockingVariable, .addressData), (unlockingVariable, .addressData)] false)
    digestUnlockId

/-- The raw outcome with transformed bytecode; the artifacts stay those of the raw outcome. -/
def transformed (raw : Success τ ρ σ) (transform : Transform) : Result τ ρ σ → Result τ ρ σ
  | .success outcome =>
    .success { raw with bytecode := outcome.bytecode, transform := some transform }
  | .failure outcome => .failure outcome

/-- What the log says about a locking script that is wrapped. -/
def wrappingNote (id : Text) : Text :=
  "Wrapping " ++ Text.quoted id ++ " as P2SH locking script"

/-- What the log says about an unlocking script that is completed. -/
def completingNote (id lockingId : Text) : Text :=
  "Assembling P2SH unlocking script " ++ Text.quoted id ++ " for " ++ Text.quoted lockingId

/-- Wraps a locking script of type `p2sh`. -/
def wrapLocking (T : Toolchain τ ρ σ) (env : Environment) (id : Text) (raw : Success τ ρ σ) :
    CompileM (Result τ ρ σ) := do
  CompileM.log .debug transformLogger (wrappingNote id)
  return transformed raw .p2shLocking (← T.compileDigestLock env raw.bytecode)

/-- Completes the unlocking script of a locking script of type `p2sh`. -/
def completeUnlocking (T : Toolchain τ ρ σ) (data : Data) (env : Environment)
    (id lockingId : Text) (raw : Success τ ρ σ) : CompileM (Result τ ρ σ) := do
  CompileM.log .debug transformLogger (completingNote id lockingId)
  match ← T.compileReference data env lockingId with
  | .failure outcome => return .failure outcome
  | .success locking =>
    return transformed raw .p2shUnlocking
      (← T.compileDigestUnlock env raw.bytecode locking.bytecode)

/-- The locking script of type `p2sh` that a script unlocks. -/
def digestLockOf? (env : Environment) (id : Text) : Option Text :=
  (env.unlocked? id).filter fun lockingId => env.lockingType lockingId = .p2sh

/-- Applies the transform that a script's classification calls for. -/
def applyTransform (T : Toolchain τ ρ σ) (data : Data) (env : Environment) (id : Text)
    (raw : Success τ ρ σ) : CompileM (Result τ ρ σ) :=
  if env.lockingType id = .p2sh then T.wrapLocking env id raw
  else
    match digestLockOf? env id with
    | some lockingId => T.completeUnlocking data env id lockingId raw
    | none => pure (.success raw)

end ScriptTemplate.Toolchain
