/-
# The locktime gate

A script may require that the locktime of its transaction is a height, or that it is a timestamp.
A top-level compilation looks at that requirement, and at the locktime, before anything else; no
other part of a compilation looks at either.

* `WrongLocktime` says when the two do not fit, and `run_compile_of_mismatch` what a compilation
  then comes to: an outcome and surroundings in which the toolchain does not occur.
* **Behind the gate a failure is that of a script by its id** (`reference_of_scriptOutcome`): of the
  script itself, of the locking script that it unlocks, or of a wrapper.  None of these says what
  the gate says, so the requirements of these scripts stop nothing.
* A script that passes comes to the same under any two locktimes that let it pass
  (`scriptOutcome_eq_of_passes`), since neither it nor its locking script can see them.
-/
import Mathlib
import ScriptTemplate.Proofs.RelevantInputs
import ScriptTemplate.Proofs.ResultShape
import ScriptTemplate.Proofs.Statistics

namespace ScriptTemplate.Toolchain

open Metrics

variable {τ ρ σ : Type}

/-! ## 1. Locktimes that do not fit -/

/-- **The locktime does not fit a script**: there is one, and it is a timestamp where the script
requires a height, or a height where the script requires a timestamp. -/
def WrongLocktime (data : Data) (env : Environment) (id : Text) : Prop :=
  ∃ locktime, data.locktime = some locktime ∧
    (env.timeLock id = .height ∧ 500000000 ≤ locktime ∨
      env.timeLock id = .timestamp ∧ locktime < 500000000)

section Fitting

variable {data : Data} {env : Environment} {id : Text}

/-- The gate finds exactly the locktimes that do not fit. -/
theorem isSome_locktimeMismatch?_iff :
    (locktimeMismatch? data env id).isSome ↔ WrongLocktime data env id := by
  have threshold : (500000000 : Int) = timestampThreshold := rfl
  rw [WrongLocktime, threshold, locktimeMismatch?]
  cases data.locktime with
  | none => simp
  | some locktime => cases env.timeLock id <;> simp

theorem locktimeMismatch?_eq_none_iff :
    locktimeMismatch? data env id = none ↔ ¬ WrongLocktime data env id := by
  rw [← isSome_locktimeMismatch?_iff, Option.not_isSome_iff_eq_none]

end Fitting

/-! ## 2. A compilation that is stopped -/

/-- **A top-level compilation that the gate has stopped**: it fails with one message, which has no
place, has called no stage and entered no script, and has recorded its failure. -/
structure StoppedAtGate (before : Ambient) (outcome : Except Escape (Result τ ρ σ))
    (after : Ambient) : Prop where
  fails : ∃ failure : Failure τ ρ σ, outcome = .ok (.failure failure) ∧ failure.stage = .parse ∧
    failure.artifacts = {} ∧ ∃ message, failure.errors = [⟨message, ⟨0, 0, 0, 0⟩⟩]
  calls : after.journal = before.journal
  depth : after.metrics.dependencyDepth = before.metrics.dependencyDepth
  cycles : after.metrics.circularDependencies = before.metrics.circularDependencies
  recorded : ∀ label, after.metrics.compilations.value label =
    before.metrics.compilations.value label + if label = "parse" then 1 else 0
  timed : after.metrics.compilationSeconds.count = before.metrics.compilationSeconds.count + 1
  transforms : after.metrics.transforms = before.metrics.transforms

section Stopped

variable {data : Data} {env : Environment} {id : Text} {mismatch : LocktimeMismatch}

/-- **The whole of a compilation that is stopped.**  The toolchain does not occur in it. -/
theorem run_compile_of_mismatch (T : Toolchain τ ρ σ)
    (found : locktimeMismatch? data env id = some mismatch) (ambient : Ambient) :
    (T.compile data env id).run ambient =
      (.ok (.environmental mismatch.message),
        { (ambient.begun.after [.own (.log .warning transformLogger mismatch.note)]).reported id
            ambient.duration (.environmental mismatch.message : Result τ ρ σ) with
          trace := ambient.trace }) := by
  have outcome : T.scriptOutcome data env id = .ok (.environmental mismatch.message) := by
    rw [scriptOutcome, found]
  have events : T.gatedEvents data env id =
      [.own (.log .warning transformLogger mismatch.note)] := by
    rw [gatedEvents, found]
  rw [T.run_compile, outcome, events]

theorem stoppedAtGate_of_mismatch (T : Toolchain τ ρ σ)
    (found : locktimeMismatch? data env id = some mismatch) (ambient : Ambient) :
    StoppedAtGate ambient ((T.compile data env id).run ambient).1
      ((T.compile data env id).run ambient).2 := by
  rw [T.run_compile_of_mismatch found]
  refine ⟨⟨_, rfl, rfl, rfl, mismatch.message, rfl⟩, ?_, rfl, rfl, fun label => ?_, rfl, rfl⟩
  · simp [Ambient.reported, Ambient.after_singleton, Ambient.begun, Event.stageCall?, Event.own]
  · exact LabeledCounter.value_increment _ _ label

end Stopped

/-! ## 3. Behind the gate -/

section Behind

variable {T : Toolchain τ ρ σ} {data : Data} {env : Environment} {id text : Text}
  {failure : Failure τ ρ σ}

/-- **A failure behind the gate is that of a script by its id.** -/
theorem reference_of_scriptOutcome (passes : locktimeMismatch? data env id = none)
    (h : T.scriptOutcome data env id = .ok (.failure failure)) :
    ∃ given around other, T.referenceOutcome given around other = .ok (.failure failure) := by
  rw [scriptOutcome, passes] at h
  obtain ⟨result, compiled, h⟩ := bind_eq_ok_iff.mp h
  cases result with
  | failure outcome =>
    cases h
    exact ⟨data, env, id, compiled⟩
  | success raw =>
    replace h : T.transformOutcome data env id raw = .ok (.failure failure) := h
    unfold transformOutcome at h
    split at h
    · obtain ⟨wrapper, compiled, same⟩ := map_eq_ok_iff.mp h
      cases failure_of_transformed same
      exact ⟨_, _, _, compiled⟩
    split at h
    · cases h
    · next lockingId _ =>
      obtain ⟨result, compiled, h⟩ := bind_eq_ok_iff.mp h
      cases result with
      | failure outcome =>
        cases h
        exact ⟨data, env, lockingId, compiled⟩
      | success locking =>
        obtain ⟨completed, compiled, same⟩ := map_eq_ok_iff.mp h
        cases failure_of_transformed same
        exact ⟨_, _, _, compiled⟩

/-! The messages of the gate, of refusals and of parsers are told apart by their first letters. -/

theorem LocktimeMismatch.head?_message (mismatch : LocktimeMismatch) :
    mismatch.message.head? = some (.char 'T') := by
  cases mismatch <;> rfl

theorem refusal_message_ne (refusal : Refusal) (mismatch : LocktimeMismatch) :
    refusal.message ≠ mismatch.message := by
  intro same
  have heads := congrArg List.head? same
  rw [mismatch.head?_message] at heads
  cases refusal <;> cases heads

theorem describe_ne (expected : List Text) (mismatch : LocktimeMismatch) :
    ParseFailure.describe expected ≠ mismatch.message := by
  intro same
  have heads := congrArg List.head? same
  rw [mismatch.head?_message] at heads
  cases heads

/-- **No script by its id says what the gate says.** -/
theorem referenceOutcome_ne_mismatch (T : Toolchain τ ρ σ) (data : Data) (env : Environment)
    (id : Text) (mismatch : LocktimeMismatch) :
    T.referenceOutcome data env id ≠ .ok (.environmental mismatch.message) := by
  intro h
  cases located : env.locate id with
  | error refusal =>
    rw [T.referenceOutcome_of_refused data located] at h
    have messages : refusal.message = mismatch.message := by
      simpa [Result.environmental] using h
    exact refusal_message_ne refusal mismatch messages
  | ok text =>
    rw [T.referenceOutcome_of_located data located] at h
    generalize result : (Result.environmental mismatch.message : Result τ ρ σ) = ended at h
    -- Of the ways in which a text ends, only a failed parse is a failure at the same stage.
    cases textEnds_of_textOutcome h with
    | @unparsed unparsed _ =>
      have messages : mismatch.message = ParseFailure.describe unparsed.expected := by
        simp only [Result.environmental, Result.failure.injEq, Failure.mk.injEq,
          ParseFailure.diagnostic, Diagnostic.mk.injEq] at result
        exact result.2.1.1
      exact describe_ne unparsed.expected mismatch messages.symm
    | unresolved _ _ _ => cases result
    | @reduced _ _ reduction _ _ _ _ => cases reduction <;> cases result

/-- **Only the gate says that a locktime does not fit.** -/
theorem scriptOutcome_eq_mismatch_iff (T : Toolchain τ ρ σ) (data : Data) (env : Environment)
    (id : Text) :
    (∃ mismatch : LocktimeMismatch,
        T.scriptOutcome data env id = .ok (.environmental mismatch.message)) ↔
      WrongLocktime data env id := by
  rw [← isSome_locktimeMismatch?_iff]
  constructor
  · rintro ⟨mismatch, stopped⟩
    by_contra fits
    have passes := Option.not_isSome_iff_eq_none.mp fits
    obtain ⟨given, around, other, same⟩ := reference_of_scriptOutcome passes stopped
    exact T.referenceOutcome_ne_mismatch given around other mismatch same
  · intro wrong
    obtain ⟨mismatch, found⟩ := Option.isSome_iff_exists.mp wrong
    exact ⟨mismatch, by rw [scriptOutcome, found]⟩

end Behind

/-! ## 4. Locktimes that fit -/

/-- **A script that passes comes to the same under all data with its values**, and whatever the
scripts are required to have for a locktime. -/
theorem scriptOutcome_eq_of_passes {data data' : Data} {env : Environment} {id : Text}
    {timeLocks : Dictionary TimeLock}
    (values : ∀ name, data'.bytecode.lookup name = data.bytecode.lookup name)
    (passes : locktimeMismatch? data env id = none)
    (passes' : locktimeMismatch? data' { env with timeLocks } id = none) :
    standard.scriptOutcome data' { env with timeLocks } id =
      standard.scriptOutcome data env id := by
  have unseen (name : Text) :
      standard.referenceOutcome data' { env with timeLocks } name =
        standard.referenceOutcome data env name :=
    referenceOutcome_eq_of_agrees
      ⟨rfl, rfl, rfl, rfl, fun name _ => ⟨rfl, rfl, values name⟩⟩
  -- The wrappers are compiled with data and an environment of their own.
  have transforms (raw : Success (List Script.Node) (List Script.Resolved) Machine.State) :
      standard.transformOutcome data' { env with timeLocks } id raw =
        standard.transformOutcome data env id raw := by
    unfold transformOutcome
    simp only [unseen]
    rfl
  have gated : standard.gatedOutcome data' { env with timeLocks } id =
      standard.gatedOutcome data env id := by
    funext result
    cases result with
    | failure outcome => rfl
    | success raw => exact transforms raw
  rw [scriptOutcome, scriptOutcome, passes, passes', unseen, gated]

/-- **The locktime gate is exact, comes first, and is the only place where a locktime matters.**
A top-level compilation reports a locktime that does not fit, be it of this script or of any other,
exactly if the locktime does not fit the script that is asked for.  It is then stopped: it fails
with one message that has no place, leaves no stage call and no depth behind, records one failure,
and is the same with every toolchain.  With the standard toolchain, two compilations that pass come
to the same result or escape if their data has the same values, whatever else there is in the data
and whatever locktimes the scripts require. -/
theorem compile_gated_by_locktime (T : Toolchain τ ρ σ) (data : Data) (env : Environment)
    (id : Text) (ambient : Ambient) :
    ((∃ mismatch : LocktimeMismatch,
        ((T.compile data env id).run ambient).1 = .ok (.environmental mismatch.message)) ↔
      WrongLocktime data env id) ∧
    (WrongLocktime data env id →
      StoppedAtGate ambient ((T.compile data env id).run ambient).1
          ((T.compile data env id).run ambient).2 ∧
        ∀ other : Toolchain τ ρ σ,
          (other.compile data env id).run ambient = (T.compile data env id).run ambient) ∧
    ∀ (data' : Data) (timeLocks : Dictionary TimeLock) (there : Ambient),
      (∀ name, data'.bytecode.lookup name = data.bytecode.lookup name) →
      ¬ WrongLocktime data env id → ¬ WrongLocktime data' { env with timeLocks } id →
      ((standard.compile data' { env with timeLocks } id).run there).1 =
        ((standard.compile data env id).run ambient).1 := by
  refine ⟨?_, ?_, ?_⟩
  · rw [T.yields_compile data env id ambient]
    exact T.scriptOutcome_eq_mismatch_iff data env id
  · intro wrong
    obtain ⟨mismatch, found⟩ := Option.isSome_iff_exists.mp (isSome_locktimeMismatch?_iff.mpr wrong)
    refine ⟨T.stoppedAtGate_of_mismatch found ambient, fun other => ?_⟩
    rw [other.run_compile_of_mismatch found, T.run_compile_of_mismatch found]
  · intro data' timeLocks there values fits fits'
    rw [standard.yields_compile data' _ id there, standard.yields_compile data env id ambient]
    exact scriptOutcome_eq_of_passes values (locktimeMismatch?_eq_none_iff.mpr fits)
      (locktimeMismatch?_eq_none_iff.mpr fits')

/-- A script that requires a height.  It unlocks one of type `p2sh`, which requires a timestamp and
refers to a third that does so too. -/
def heightEnvironment : Environment where
  scripts := [("spend", some "<0x51>"), ("guard", some "floor"), ("floor", some "OP_1")]
  lockingTypes := [("guard", .p2sh)]
  unlocks := [("spend", some "guard")]
  timeLocks := [("spend", .height), ("guard", .timestamp), ("floor", .timestamp)]

/-- Data with a locktime and nothing else. -/
def lockedAt (locktime : Int) : Data where
  operation := some { locktime := some locktime }

/-- The first timestamp stops the script.  The last height does not, though it fits neither of the
other two scripts: the script comes to the same as without a locktime, also in another block. -/
theorem compile_gated_by_locktime_boundary :
    WrongLocktime (lockedAt 500000000) heightEnvironment "spend" ∧
      StoppedAtGate default
        ((standard.compile (lockedAt 500000000) heightEnvironment "spend").run default).1
        ((standard.compile (lockedAt 500000000) heightEnvironment "spend").run default).2 ∧
      (¬ ∃ mismatch : LocktimeMismatch,
        ((standard.compile (lockedAt 499999999) heightEnvironment "spend").run default).1 =
          .ok (.environmental mismatch.message)) ∧
      ((standard.compile (lockedAt 499999999) heightEnvironment "spend").run default).1 =
        ((standard.compile { blockHeight := some 7 } heightEnvironment "spend").run default).1 := by
  have stopped : WrongLocktime (lockedAt 500000000) heightEnvironment "spend" :=
    isSome_locktimeMismatch?_iff.mp (by decide)
  have fits : ¬ WrongLocktime (lockedAt 499999999) heightEnvironment "spend" :=
    locktimeMismatch?_eq_none_iff.mp (by decide)
  have fits' : ¬ WrongLocktime { blockHeight := some 7 } heightEnvironment "spend" :=
    locktimeMismatch?_eq_none_iff.mp (by decide)
  exact ⟨stopped, ((compile_gated_by_locktime standard _ _ _ default).2.1 stopped).1,
    fun blamed => fits ((compile_gated_by_locktime standard _ _ _ default).1.mp blamed),
    (compile_gated_by_locktime standard { blockHeight := some 7 } heightEnvironment "spend"
      default).2.2 (lockedAt 499999999) heightEnvironment.timeLocks default (fun _ => rfl) fits'
      fits⟩

end ScriptTemplate.Toolchain
