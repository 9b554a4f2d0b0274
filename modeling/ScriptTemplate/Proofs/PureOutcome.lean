/-
# What a compilation comes to, its surroundings left aside

A compilation logs, counts, reads the clock and notes its stage calls.  None of that comes back
into its outcome.  This file makes the fact usable: for each of the three ways into the compiler
it gives the outcome as a plain function of toolchain, data, environment and argument, and shows
that the compilation ends with that outcome in ALL surroundings.

* `CompileM.Yields` says that a step has one outcome wherever it is run.
* `Resolving.settle` does a resolver's work when the answers to its questions are known.
* `Toolchain.referenceOutcome`, `textOutcome` and `scriptOutcome` are the outcomes of a script by
  its id, of a text without an id, and of a script with gate and transform.
* `Request.yields_perform` joins the two sides for all three ways in at once.
* `Toolchain.TextEnds` lists the ways in which a text ends with a result, and what all of them and
  the transforms keep holds of every result (`Toolchain.Inherited.outcome`).

What the surroundings look like AFTERWARDS is not a matter of this file.
-/
import ScriptTemplate.Compile.Top

namespace ScriptTemplate

/-! ## 1. Chained outcomes -/

section Chained

variable {ε α β : Type} {x : Except ε α} {f : α → Except ε β} {g : α → β} {b : β} {e : ε}

/-- A chain returns if both of its parts do. -/
theorem bind_eq_ok_iff : x >>= f = .ok b ↔ ∃ a, x = .ok a ∧ f a = .ok b := by
  cases x <;> simp [bind, Except.bind]

/-- A chain escapes in its first part, or in its second part after the first returned. -/
theorem bind_eq_error_iff :
    x >>= f = .error e ↔ x = .error e ∨ ∃ a, x = .ok a ∧ f a = .error e := by
  cases x <;> simp [bind, Except.bind]

theorem map_eq_ok_iff : x.map g = .ok b ↔ ∃ a, x = .ok a ∧ g a = b := by
  cases x <;> simp [Except.map]

theorem map_eq_error_iff : x.map g = .error e ↔ x = .error e := by
  cases x <;> simp [Except.map]

end Chained

/-! ## 2. Steps with one outcome -/

namespace CompileM

variable {α β : Type}

/-- **A step yields an outcome** if it ends with it in all surroundings. -/
def Yields (step : CompileM α) (outcome : Except Escape α) : Prop :=
  ∀ ambient, (step.run ambient).1 = outcome

/-- A step that never escapes; which value it returns may depend on its surroundings. -/
def Returns (step : CompileM α) : Prop := ∀ ambient, ∃ value, (step.run ambient).1 = .ok value

theorem yields_pure (value : α) : (pure value : CompileM α).Yields (.ok value) := fun _ => rfl

theorem yields_ofExcept (outcome : Except Escape α) : (ofExcept outcome).Yields outcome :=
  fun _ => rfl

theorem returns_update (change : Ambient → Ambient) : (update change).Returns :=
  fun _ => ⟨(), rfl⟩

theorem returns_readClock : readClock.Returns := fun _ => ⟨_, rfl⟩

theorem returns_compilationId : compilationId.Returns := by
  intro ambient
  cases h : normalizedId ambient.trace.compilationId with
  | some id => exact ⟨id, by simp only [run, compilationId, h]⟩
  | none =>
    exact ⟨ambient.host.freshId (ambient.drawn + 1), by simp only [run, compilationId, h]⟩

/-- One step after another: the outcomes are chained the same way. -/
theorem Yields.bind {step : CompileM α} {next : α → CompileM β} {outcome : Except Escape α}
    {rest : α → Except Escape β} (first : step.Yields outcome)
    (second : ∀ value, (next value).Yields (rest value)) :
    (step >>= next).Yields (outcome >>= rest) := by
  intro ambient
  have hf := first ambient
  rw [run_bind]
  rcases hs : step.run ambient with ⟨_ | value, after⟩
  · rw [hs] at hf
    rw [← hf]
    rfl
  · rw [hs] at hf
    rw [← hf]
    exact second value after

/-- What is done with the result of a step can be done with its outcome. -/
theorem Yields.map {step : CompileM α} {outcome : Except Escape α} (h : step.Yields outcome)
    (f : α → β) : (step >>= fun value => pure (f value)).Yields (outcome.map f) := by
  have chained := h.bind fun value => yields_pure (f value)
  cases outcome <;> exact chained

/-- After a step that never escapes, what follows is run with some value in some surroundings. -/
theorem Returns.run_bind {step : CompileM α} (h : step.Returns) (next : α → CompileM β)
    (ambient : Ambient) :
    ∃ value after, (step >>= next).run ambient = (next value).run after := by
  obtain ⟨value, hv⟩ := h ambient
  rw [CompileM.run_bind]
  rcases hs : step.run ambient with ⟨_ | other, after⟩
  · rw [hs] at hv
    cases hv
  · exact ⟨other, after, rfl⟩

/-- A step that never escapes leaves the outcome to what follows, if that is the same for every
value it may return. -/
theorem Returns.andThen {step : CompileM α} {next : α → CompileM β} {outcome : Except Escape β}
    (first : step.Returns) (second : ∀ value, (next value).Yields outcome) :
    (step >>= next).Yields outcome := by
  intro ambient
  obtain ⟨value, after, goesOn⟩ := first.run_bind next ambient
  rw [goesOn]
  exact second value after

theorem Returns.bind {step : CompileM α} {next : α → CompileM β}
    (first : step.Returns) (second : ∀ value, (next value).Returns) :
    (step >>= next).Returns := by
  intro ambient
  obtain ⟨value, after, goesOn⟩ := first.run_bind next ambient
  rw [goesOn]
  exact second value after

/-- What a step ends with somewhere, it yields. -/
theorem Yields.eq_of_run {step : CompileM α} {outcome found : Except Escape α} {ambient : Ambient}
    (h : step.Yields outcome) (ran : (step.run ambient).1 = found) : outcome = found :=
  (h ambient).symm.trans ran

/-- A changed trace changes no outcome. -/
theorem Yields.within {step : CompileM α} {outcome : Except Escape α} (h : step.Yields outcome)
    (change : TraceChange) : (CompileM.within change step).Yields outcome :=
  fun _ => h _

end CompileM

/-! ## 3. Resolvers with known answers -/

namespace Resolving

variable {α β : Type}

/-- Does a resolver's work, each question having a known answer. -/
def settle (answer : Text → Except Escape Verdict) : Resolving α → Except Escape α
  | .done value => .ok value
  | .fail escape => .error escape
  | .reference id next =>
    match answer id with
    | .error escape => .error escape
    | .ok verdict => (next verdict).settle answer

/-- **Work in two parts settles in two parts.** -/
theorem settle_bind (answer : Text → Except Escape Verdict) (r : Resolving α)
    (next : α → Resolving β) :
    (r.bind next).settle answer = r.settle answer >>= fun value => (next value).settle answer := by
  induction r with
  | done value => rfl
  | fail escape => rfl
  | reference id ask ih =>
    simp only [Resolving.bind, settle]
    cases answer id with
    | error escape => rfl
    | ok verdict => exact ih verdict

/-- A resolver yields what it settles to, if the steps that answer it yield the known answers. -/
theorem yields_run {answer : Text → CompileM Verdict} {known : Text → Except Escape Verdict}
    (h : ∀ id, (answer id).Yields (known id)) (r : Resolving α) :
    (r.run answer).Yields (r.settle known) := by
  induction r with
  | done value => exact CompileM.yields_pure value
  | fail escape => exact CompileM.yields_ofExcept _
  | reference id ask ih =>
    have both := (h id).bind ih
    have split : (known id >>= fun verdict => (ask verdict).settle known) =
        (Resolving.reference id ask).settle known := by
      simp only [settle]
      cases known id <;> rfl
    rwa [split] at both

end Resolving

/-! ## 4. The stages, and scripts by their id -/

namespace Toolchain

variable {τ ρ σ : Type}

/-- The outcome of a reduction, together with what led to it. -/
def reductionOutcome (tree : τ) (resolved : ρ) (reduction : Reduction σ) : Result τ ρ σ :=
  match reduction with
  | .bytecode bytecode _ =>
    .success { bytecode, artifacts := ⟨some tree, some resolved, some reduction⟩ }
  | .errors first others _ =>
    .failure {
      stage := .reduce, first, others
      artifacts := ⟨some tree, some resolved, some reduction⟩ }

/-- The outcome of a resolved tree: its errors if it has any, else that of its reduction. -/
def resolvedOutcome (T : Toolchain τ ρ σ) (env : Environment) (tree : τ) (resolved : ρ) :
    Except Escape (Result τ ρ σ) :=
  match T.collect resolved with
  | [] => (T.reduce env.capabilities resolved).map (reductionOutcome tree resolved)
  | first :: others =>
    .ok (.failure {
      stage := .resolve, first, others
      artifacts := { parse := some tree, resolve := some resolved } })

/-- The outcome of a text, the verdicts on the scripts it refers to being known. -/
def stagesOutcome (T : Toolchain τ ρ σ) (data : Data) (env : Environment)
    (known : Text → Except Escape Verdict) (text : Text) : Except Escape (Result τ ρ σ) := do
  match ← T.parse text with
  | .error failure => .ok (.failure { stage := .parse, first := failure.diagnostic })
  | .ok tree => T.resolvedOutcome env tree (← (T.resolve data env tree).settle known)

/-- The outcome of a script by its id, without gate and transform. -/
def referenceOutcome (T : Toolchain τ ρ σ) (data : Data) (env : Environment) (id : Text) :
    Except Escape (Result τ ρ σ) :=
  match h : env.locate id with
  | .error refusal => .ok (.environmental refusal.message)
  | .ok text =>
    have := Environment.pending_descend_lt h
    T.stagesOutcome data (env.descend id)
      (fun other => (T.referenceOutcome data (env.descend id) other).map Result.verdict) text
termination_by env.pending

/-- The verdict on a script by its id. -/
def verdictOutcome (T : Toolchain τ ρ σ) (data : Data) (env : Environment) (id : Text) :
    Except Escape Verdict :=
  (T.referenceOutcome data env id).map Result.verdict

/-- The outcome of a text that has no id. -/
def textOutcome (T : Toolchain τ ρ σ) (data : Data) (env : Environment) (text : Text) :
    Except Escape (Result τ ρ σ) :=
  T.stagesOutcome data env (T.verdictOutcome data env) text

/-- A script that is refused has its refusal for an outcome. -/
theorem referenceOutcome_of_refused (T : Toolchain τ ρ σ) (data : Data) {env : Environment}
    {id : Text} {refusal : Refusal} (h : env.locate id = .error refusal) :
    T.referenceOutcome data env id = .ok (.environmental refusal.message) := by
  rw [referenceOutcome]
  split
  · next found => rw [h] at found; cases found; rfl
  · next found => rw [h] at found; cases found

/-- **A script is its text, one level further down.** -/
theorem referenceOutcome_of_located (T : Toolchain τ ρ σ) (data : Data) {env : Environment}
    {id text : Text} (h : env.locate id = .ok text) :
    T.referenceOutcome data env id = T.textOutcome data (env.descend id) text := by
  rw [referenceOutcome]
  split
  · next found => rw [h] at found; cases found
  · next found => rw [h] at found; cases found; rfl

/-! ## 5. Gate and transform -/

/-- The data that the check of a digest is compiled with. -/
def lockData (locking : Bytes) : Data := { bytecode := [(lockingVariable, locking)] }

/-- The environment that the check of a digest is compiled in. -/
def lockEnvironment (env : Environment) : Environment :=
  env.derive [(digestLockId, some digestLock)] [(lockingVariable, .addressData)]
    env.capabilities.machine

/-- The data that an unlocking script is completed with. -/
def unlockData (unlocking locking : Bytes) : Data :=
  { bytecode := [(lockingVariable, locking), (unlockingVariable, unlocking)] }

/-- The environment that an unlocking script is completed in. -/
def unlockEnvironment (env : Environment) : Environment :=
  env.derive [(digestUnlockId, some digestUnlock)]
    [(lockingVariable, .addressData), (unlockingVariable, .addressData)] false

/-- The outcome of the check of a digest. -/
def lockOutcome (T : Toolchain τ ρ σ) (env : Environment) (locking : Bytes) :
    Except Escape (Result τ ρ σ) :=
  T.referenceOutcome (lockData locking) (lockEnvironment env) digestLockId

/-- The outcome of an unlocking script with a push of the locking script. -/
def unlockOutcome (T : Toolchain τ ρ σ) (env : Environment) (unlocking locking : Bytes) :
    Except Escape (Result τ ρ σ) :=
  T.referenceOutcome (unlockData unlocking locking) (unlockEnvironment env) digestUnlockId

/-- An unlocking script together with the outcome of the locking script that it unlocks. -/
def completedOutcome (T : Toolchain τ ρ σ) (env : Environment) (raw : Success τ ρ σ) :
    Result τ ρ σ → Except Escape (Result τ ρ σ)
  | .failure outcome => .ok (.failure outcome)
  | .success locking =>
    (T.unlockOutcome env raw.bytecode locking.bytecode).map (transformed raw .p2shUnlocking)

/-- What a raw outcome becomes under the transform that its classification calls for. -/
def transformOutcome (T : Toolchain τ ρ σ) (data : Data) (env : Environment) (id : Text)
    (raw : Success τ ρ σ) : Except Escape (Result τ ρ σ) :=
  if env.lockingType id = .p2sh then
    (T.lockOutcome env raw.bytecode).map (transformed raw .p2shLocking)
  else
    match digestLockOf? env id with
    | none => .ok (.success raw)
    | some lockingId => T.referenceOutcome data env lockingId >>= T.completedOutcome env raw

/-- What the outcome of a script becomes after the gate: a failure stays as it is. -/
def gatedOutcome (T : Toolchain τ ρ σ) (data : Data) (env : Environment) (id : Text) :
    Result τ ρ σ → Except Escape (Result τ ρ σ)
  | .failure outcome => .ok (.failure outcome)
  | .success raw => T.transformOutcome data env id raw

/-- The outcome of a script by its id, with gate and transform. -/
def scriptOutcome (T : Toolchain τ ρ σ) (data : Data) (env : Environment) (id : Text) :
    Except Escape (Result τ ρ σ) :=
  match locktimeMismatch? data env id with
  | some mismatch => .ok (.environmental mismatch.message)
  | none => T.referenceOutcome data env id >>= T.gatedOutcome data env id

section Gated

variable {T : Toolchain τ ρ σ} {data : Data} {env : Environment} {id lockingId : Text}
  {raw success : Success τ ρ σ}

/-- The script that a script unlocks, if it is of type `p2sh`. -/
theorem digestLockOf?_eq (pairs : env.unlocked? id = some lockingId)
    (locks : env.lockingType lockingId = .p2sh) : digestLockOf? env id = some lockingId := by
  simp [digestLockOf?, pairs, locks]

theorem transformOutcome_lock (locks : env.lockingType id = .p2sh) :
    T.transformOutcome data env id raw =
      (T.lockOutcome env raw.bytecode).map (transformed raw .p2shLocking) := by
  rw [transformOutcome, if_pos locks]

theorem transformOutcome_unlock (plain : env.lockingType id ≠ .p2sh)
    (pairs : digestLockOf? env id = some lockingId) :
    T.transformOutcome data env id raw =
      T.referenceOutcome data env lockingId >>= T.completedOutcome env raw := by
  rw [transformOutcome, if_neg plain, pairs]

/-- A script that passes the gate and does not compile has its failure for an outcome. -/
theorem scriptOutcome_of_failure {failure : Failure τ ρ σ}
    (passes : locktimeMismatch? data env id = none)
    (compiled : T.referenceOutcome data env id = .ok (.failure failure)) :
    T.scriptOutcome data env id = .ok (.failure failure) := by
  rw [scriptOutcome, passes]
  exact bind_eq_ok_iff.mpr ⟨_, compiled, rfl⟩

/-- A script that passes the gate and compiles is transformed. -/
theorem scriptOutcome_of_success (passes : locktimeMismatch? data env id = none)
    (compiled : T.referenceOutcome data env id = .ok (.success raw)) :
    T.scriptOutcome data env id = T.transformOutcome data env id raw := by
  rw [scriptOutcome, passes, compiled]
  rfl

/-- **A script that succeeds has passed the gate and compiled.** -/
theorem of_scriptOutcome_success (h : T.scriptOutcome data env id = .ok (.success success)) :
    ∃ raw, T.referenceOutcome data env id = .ok (.success raw) ∧
      T.transformOutcome data env id raw = .ok (.success success) := by
  unfold scriptOutcome at h
  split at h
  · cases h
  · obtain ⟨result, compiled, h⟩ := bind_eq_ok_iff.mp h
    cases result with
    | failure outcome => cases h
    | success raw => exact ⟨raw, compiled, h⟩

end Gated

/-! ## 6. Compilations yield these outcomes -/

open CompileM

theorem yields_reduceStage (T : Toolchain τ ρ σ) (env : Environment) (text : Text) (tree : τ)
    (resolved : ρ) :
    (T.reduceStage env text tree resolved).Yields
      ((T.reduce env.capabilities resolved).map (reductionOutcome tree resolved)) := by
  unfold reduceStage
  refine (returns_update _).andThen fun _ => ?_
  have chained : (T.reduce env.capabilities resolved).map (reductionOutcome tree resolved) =
      T.reduce env.capabilities resolved >>= fun r => .ok (reductionOutcome tree resolved r) := by
    cases T.reduce env.capabilities resolved <;> rfl
  rw [chained]
  refine (yields_ofExcept _).bind fun reduction => ?_
  cases reduction with
  | bytecode bytecode states => exact yields_pure _
  | errors first others states =>
    exact (returns_update _).andThen fun _ => yields_pure _

theorem yields_resolveStage (T : Toolchain τ ρ σ) (data : Data) (env : Environment)
    {answer : Text → CompileM Verdict} {known : Text → Except Escape Verdict}
    (h : ∀ id, (answer id).Yields (known id)) (text : Text) (tree : τ) :
    (T.resolveStage data env answer text tree).Yields
      ((T.resolve data env tree).settle known >>= T.resolvedOutcome env tree) := by
  unfold resolveStage
  refine (returns_update _).andThen fun _ => (returns_update _).andThen fun _ => ?_
  refine (Resolving.yields_run h _).bind fun resolved => ?_
  refine (returns_update _).andThen fun _ => ?_
  unfold resolvedOutcome
  cases T.collect resolved with
  | nil => exact T.yields_reduceStage env text tree resolved
  | cons first others => exact (returns_update _).andThen fun _ => yields_pure _

theorem yields_compileWith (T : Toolchain τ ρ σ) (data : Data) (env : Environment)
    {answer : Text → CompileM Verdict} {known : Text → Except Escape Verdict}
    (h : ∀ id, (answer id).Yields (known id)) (text : Text) :
    (T.compileWith data env answer text).Yields (T.stagesOutcome data env known text) := by
  unfold compileWith stagesOutcome
  refine (returns_update _).andThen fun _ => ?_
  refine (yields_ofExcept _).bind fun parsed => ?_
  cases parsed with
  | error failure => exact (returns_update _).andThen fun _ => yields_pure _
  | ok tree => exact T.yields_resolveStage data env h text tree

/-- **A script by its id ends the same way in all surroundings.** -/
theorem yields_compileReference (T : Toolchain τ ρ σ) (data : Data) (env : Environment)
    (id : Text) :
    (T.compileReference data env id).Yields (T.referenceOutcome data env id) := by
  -- The recursion goes down the scripts that are not in the ancestry.
  induction hp : env.pending using Nat.strongRecOn generalizing env id with
  | ind pending ih =>
    rw [compileReference]
    refine Yields.within ?_ _
    split
    · next refusal found =>
      rw [T.referenceOutcome_of_refused data found]
      unfold refuse
      refine (returns_update _).andThen fun _ => ?_
      cases refusal with
      | unknown id => exact yields_pure _
      | circular id ancestry => exact (returns_update _).andThen fun _ => yields_pure _
      | tooDeep id ancestry ceiling => exact yields_pure _
    · next text found =>
      rw [T.referenceOutcome_of_located data found]
      refine (returns_update _).andThen fun _ => (returns_update _).andThen fun _ => ?_
      refine T.yields_compileWith data _ (fun other => Yields.map ?_ Result.verdict) text
      exact ih _ (hp ▸ Environment.pending_descend_lt found) (env.descend id) other rfl

theorem yields_compileText (T : Toolchain τ ρ σ) (data : Data) (env : Environment) (text : Text) :
    (T.compileText data env text).Yields (T.textOutcome data env text) :=
  T.yields_compileWith data env
    (fun id => (T.yields_compileReference data env id).map Result.verdict) text

theorem yields_applyTransform (T : Toolchain τ ρ σ) (data : Data) (env : Environment) (id : Text)
    (raw : Success τ ρ σ) :
    (T.applyTransform data env id raw).Yields (T.transformOutcome data env id raw) := by
  unfold applyTransform transformOutcome
  by_cases locks : env.lockingType id = .p2sh
  · rw [if_pos locks, if_pos locks]
    exact (returns_update _).andThen fun _ =>
      (T.yields_compileReference _ _ _).map (transformed raw .p2shLocking)
  · rw [if_neg locks, if_neg locks]
    cases digestLockOf? env id with
    | none => exact yields_pure _
    | some lockingId =>
      refine (returns_update _).andThen fun _ => ?_
      refine (T.yields_compileReference data env lockingId).bind fun result => ?_
      cases result with
      | failure outcome => exact yields_pure _
      | success locking =>
        exact (T.yields_compileReference _ _ _).map (transformed raw .p2shUnlocking)

theorem yields_compileGated (T : Toolchain τ ρ σ) (data : Data) (env : Environment) (id : Text) :
    (T.compileGated data env id).Yields (T.scriptOutcome data env id) := by
  unfold compileGated scriptOutcome checkLocktime
  cases locktimeMismatch? data env id with
  | some mismatch =>
    exact (returns_update _).andThen fun _ => yields_pure _
  | none =>
    refine (T.yields_compileReference data env id).bind fun result => ?_
    cases result with
    | failure outcome => exact yields_pure _
    | success raw => exact T.yields_applyTransform data env id raw

/-- **A script with gate and transform ends the same way in all surroundings.**  It reads the clock
and may draw an id, but neither decides anything. -/
theorem yields_compile (T : Toolchain τ ρ σ) (data : Data) (env : Environment) (id : Text) :
    (T.compile data env id).Yields (T.scriptOutcome data env id) := by
  refine returns_compilationId.andThen fun compilationId => Yields.within ?_ _
  refine returns_readClock.andThen fun started => ?_
  have kept : (T.scriptOutcome data env id >>= fun result => .ok result) =
      T.scriptOutcome data env id := by
    cases T.scriptOutcome data env id <;> rfl
  rw [← kept]
  refine (T.yields_compileGated data env id).bind fun result => ?_
  refine returns_readClock.andThen fun finished => ?_
  refine Returns.andThen ?_ fun _ => yields_pure result
  exact (returns_update _).bind fun _ => returns_update _

end Toolchain

/-! ## 7. The three ways in -/

/-- A way into the compiler, with its argument. -/
inductive Request
  /-- A script by its id, with gate and transform. -/
  | script (id : Text)
  /-- A script by its id, as it is written. -/
  | reference (id : Text)
  /-- A text that has no id. -/
  | body (text : Text)
deriving DecidableEq, Repr, Inhabited

namespace Request

variable {τ ρ σ : Type}

/-- The compilation that a request asks for. -/
def perform (T : Toolchain τ ρ σ) (data : Data) (env : Environment) :
    Request → CompileM (Result τ ρ σ)
  | .script id => T.compile data env id
  | .reference id => T.compileReference data env id
  | .body text => T.compileText data env text

/-- What a request comes to. -/
def outcome (T : Toolchain τ ρ σ) (data : Data) (env : Environment) :
    Request → Except Escape (Result τ ρ σ)
  | .script id => T.scriptOutcome data env id
  | .reference id => T.referenceOutcome data env id
  | .body text => T.textOutcome data env text

/-- **Every request ends the same way in all surroundings.** -/
theorem yields_perform (T : Toolchain τ ρ σ) (data : Data) (env : Environment)
    (request : Request) : (request.perform T data env).Yields (request.outcome T data env) := by
  cases request with
  | script id => exact T.yields_compile data env id
  | reference id => exact T.yields_compileReference data env id
  | body text => exact T.yields_compileText data env text

end Request

/-! ## 8. Where results come from -/

namespace Toolchain

variable {τ ρ σ : Type}

/-- **How a text ends** when it ends with a result: it does not parse, or some of its names do not
resolve, or it is reduced. -/
inductive TextEnds (T : Toolchain τ ρ σ) (data : Data) (env : Environment) (text : Text) :
    Result τ ρ σ → Prop
  | unparsed {failure : ParseFailure} (parsed : T.parse text = .ok (.error failure)) :
    TextEnds T data env text (.failure { stage := .parse, first := failure.diagnostic })
  | unresolved {tree : τ} {resolved : ρ} {first : Diagnostic} {others : List Diagnostic}
    (parsed : T.parse text = .ok (.ok tree))
    (settled : (T.resolve data env tree).settle (T.verdictOutcome data env) = .ok resolved)
    (collected : T.collect resolved = first :: others) :
    TextEnds T data env text (.failure {
      stage := .resolve, first, others
      artifacts := { parse := some tree, resolve := some resolved } })
  | reduced {tree : τ} {resolved : ρ} {reduction : Reduction σ}
    (parsed : T.parse text = .ok (.ok tree))
    (settled : (T.resolve data env tree).settle (T.verdictOutcome data env) = .ok resolved)
    (collected : T.collect resolved = [])
    (reduces : T.reduce env.capabilities resolved = .ok reduction) :
    TextEnds T data env text (reductionOutcome tree resolved reduction)

section Sources

variable {T : Toolchain τ ρ σ} {data : Data} {env : Environment} {id text : Text}
  {result : Result τ ρ σ}

theorem textEnds_of_textOutcome (h : T.textOutcome data env text = .ok result) :
    T.TextEnds data env text result := by
  obtain ⟨parsed, hp, h⟩ := bind_eq_ok_iff.mp h
  cases parsed with
  | error failure =>
    cases h
    exact .unparsed hp
  | ok tree =>
    obtain ⟨resolved, settled, h⟩ := bind_eq_ok_iff.mp h
    unfold resolvedOutcome at h
    split at h
    · next collected =>
      obtain ⟨reduction, reduces, rfl⟩ := map_eq_ok_iff.mp h
      exact .reduced hp settled collected reduces
    · next collected =>
      cases h
      exact .unresolved hp settled collected

/-- **A property that results inherit**: refusals have it, the results of texts have it, and a
transform keeps it. -/
structure Inherited (T : Toolchain τ ρ σ) (P : Result τ ρ σ → Prop) : Prop where
  refused (message : Text) : P (.environmental message)
  text {data : Data} {env : Environment} {text : Text} {result : Result τ ρ σ}
    (ends : T.TextEnds data env text result) : P result
  transformed {raw : Success τ ρ σ} {transform : Transform} {result : Result τ ρ σ}
    (before : P (.success raw)) (wrapper : P result) : P (transformed raw transform result)

namespace Inherited

variable {P : Result τ ρ σ → Prop}

theorem reference (inherited : T.Inherited P)
    (h : T.referenceOutcome data env id = .ok result) : P result := by
  cases located : env.locate id with
  | error refusal =>
    rw [T.referenceOutcome_of_refused data located] at h
    cases h
    exact inherited.refused _
  | ok text =>
    rw [T.referenceOutcome_of_located data located] at h
    exact inherited.text (textEnds_of_textOutcome h)

theorem transform (inherited : T.Inherited P) {raw : Success τ ρ σ} (before : P (.success raw))
    (h : T.transformOutcome data env id raw = .ok result) : P result := by
  unfold transformOutcome at h
  split at h
  · obtain ⟨wrapper, compiled, rfl⟩ := map_eq_ok_iff.mp h
    exact inherited.transformed before (inherited.reference compiled)
  · split at h
    · cases h
      exact before
    · obtain ⟨locking, compiled, h⟩ := bind_eq_ok_iff.mp h
      cases locking with
      | failure outcome =>
        cases h
        exact inherited.reference compiled
      | success locking =>
        obtain ⟨completed, compiled, rfl⟩ := map_eq_ok_iff.mp h
        exact inherited.transformed before (inherited.reference compiled)

theorem script (inherited : T.Inherited P) (h : T.scriptOutcome data env id = .ok result) :
    P result := by
  unfold scriptOutcome at h
  split at h
  · cases h
    exact inherited.refused _
  · obtain ⟨raw, compiled, h⟩ := bind_eq_ok_iff.mp h
    have before := inherited.reference compiled
    cases raw with
    | failure outcome =>
      cases h
      exact before
    | success raw => exact inherited.transform before h

/-- **What results inherit, the result of every request has.** -/
theorem outcome (inherited : T.Inherited P) {request : Request}
    (h : request.outcome T data env = .ok result) : P result := by
  cases request with
  | script id => exact inherited.script h
  | reference id => exact inherited.reference h
  | body text => exact inherited.text (textEnds_of_textOutcome h)

end Inherited

end Sources

end Toolchain

end ScriptTemplate
