/-
# The shape of results

A result says how far a compilation came: which artifacts there are, where the errors are taken
from, and whose bytecode it is.  Results are made in several places and handed on from there, as
they are or with new bytecode, so the shape has to survive every such way.

* `Result.WellFormed` is the shape, stage by stage.  It holds of refusals and of the results of
  texts, and transforms keep it (`inherited_wellFormed`), for EVERY toolchain.
* A failure may come before any text is looked at.  `Operation.Stopped` lists the barriers that
  there are, in terms of the environment and the data, and a stopped operation fails with the
  message of its barrier (`Operation.Stopped.outcome_eq`).
* In the script language these are the failures without a place.  Every other parse failure points
  at a line and a column (`located_of_textOutcome`), since positions are counted from one.

A toolchain of another kind may report a parse failure at any position, the zero one included, so
the last point is not to be had for all toolchains.
-/
import Mathlib
import ScriptTemplate.Proofs.ParseFailures
import ScriptTemplate.Proofs.ScriptHash

namespace ScriptTemplate

/-! ## 1. The shape -/

section Shape

variable {τ ρ σ : Type}

/-- **What a failure of each stage carries.** -/
structure Failure.WellFormed (failure : Failure τ ρ σ) : Prop where
  erroneous : failure.errors ≠ []
  /-- A text that does not parse leaves one error and nothing else. -/
  parse : failure.stage = .parse → failure.errors.length = 1 ∧ failure.artifacts = {}
  resolve : failure.stage = .resolve →
    ∃ tree resolved, failure.artifacts = ⟨some tree, some resolved, none⟩
  /-- The errors are those of the reduction, which has no bytecode. -/
  reduce : failure.stage = .reduce →
    ∃ tree resolved reduction, failure.artifacts = ⟨some tree, some resolved, some reduction⟩ ∧
      reduction.errors? = some failure.errors ∧ reduction.bytecode? = none

/-- **What a success carries**: all artifacts, and the bytecode of its reduction unless it was
transformed. -/
structure Success.WellFormed (success : Success τ ρ σ) : Prop where
  complete : ∃ tree resolved reduction,
    success.artifacts = ⟨some tree, some resolved, some reduction⟩
  plain : success.transform = none →
    ∃ reduction, success.artifacts.reduce = some reduction ∧
      reduction.bytecode? = some success.bytecode

/-- The shape of a result. -/
def Result.WellFormed : Result τ ρ σ → Prop
  | .success outcome => outcome.WellFormed
  | .failure outcome => outcome.WellFormed

namespace Toolchain

variable {T : Toolchain τ ρ σ} {data : Data} {env : Environment} {id text : Text}
  {raw success : Success τ ρ σ} {result : Result τ ρ σ}

theorem wellFormed_environmental (message : Text) :
    (Result.environmental message : Result τ ρ σ).WellFormed where
  erroneous := List.cons_ne_nil _ _
  parse _ := ⟨rfl, rfl⟩
  resolve stage := nomatch stage
  reduce stage := nomatch stage

theorem TextEnds.wellFormed (ends : T.TextEnds data env text result) : result.WellFormed := by
  cases ends with
  | unparsed parsed =>
    refine ⟨List.cons_ne_nil _ _, fun _ => ⟨rfl, rfl⟩, ?_, ?_⟩
    · exact fun stage => nomatch stage
    · exact fun stage => nomatch stage
  | unresolved parsed settled collected =>
    refine ⟨List.cons_ne_nil _ _, ?_, fun _ => ⟨_, _, rfl⟩, ?_⟩
    · exact fun stage => nomatch stage
    · exact fun stage => nomatch stage
  | @reduced tree resolved reduction parsed settled collected reduces =>
    cases reduction with
    | bytecode value states => exact ⟨⟨_, _, _, rfl⟩, fun _ => ⟨_, rfl, rfl⟩⟩
    | errors first others states =>
      refine ⟨List.cons_ne_nil _ _, ?_, ?_, fun _ => ⟨_, _, _, rfl, rfl, rfl⟩⟩
      · exact fun stage => nomatch stage
      · exact fun stage => nomatch stage

/-- **Every way to make a result gives it its shape.** -/
theorem inherited_wellFormed (T : Toolchain τ ρ σ) : T.Inherited Result.WellFormed where
  refused := wellFormed_environmental
  text := TextEnds.wellFormed
  transformed {raw transform result} before wrapper := by
    cases result with
    | success outcome => exact ⟨before.complete, fun plain => nomatch plain⟩
    | failure outcome => exact wrapper

/-- The result of a text is not transformed. -/
theorem TextEnds.transform?_eq_none (ends : T.TextEnds data env text result) :
    result.transform? = none := by
  cases ends with
  | unparsed parsed => rfl
  | unresolved parsed settled collected => rfl
  | @reduced tree resolved reduction parsed settled collected reduces => cases reduction <;> rfl

/-- The result of a script without gate and transform is not transformed. -/
theorem transform?_of_referenceOutcome (h : T.referenceOutcome data env id = .ok result) :
    result.transform? = none := by
  cases located : env.locate id with
  | error refusal =>
    rw [T.referenceOutcome_of_refused data located] at h
    cases h
    rfl
  | ok text =>
    rw [T.referenceOutcome_of_located data located] at h
    exact (textEnds_of_textOutcome h).transform?_eq_none

theorem artifacts_of_transformed {transform : Transform}
    (h : transformed raw transform result = .success success) :
    success.artifacts = raw.artifacts := by
  cases result with
  | success outcome => cases h; rfl
  | failure outcome => cases h

/-- **A transform leaves the artifacts as they were.** -/
theorem artifacts_of_transformOutcome
    (h : T.transformOutcome data env id raw = .ok (.success success)) :
    success.artifacts = raw.artifacts := by
  unfold transformOutcome at h
  split at h
  · obtain ⟨wrapper, -, same⟩ := map_eq_ok_iff.mp h
    exact artifacts_of_transformed same
  · split at h
    · cases h
      rfl
    · obtain ⟨locking, -, h⟩ := bind_eq_ok_iff.mp h
      cases locking with
      | failure outcome => cases h
      | success locking =>
        obtain ⟨completed, -, same⟩ := map_eq_ok_iff.mp h
        exact artifacts_of_transformed same

end Toolchain

end Shape

/-! ## 2. All ways into the compiler -/

/-- A way into the compiler: a request, or one of the two transforms by itself. -/
inductive Operation
  | request (request : Request)
  /-- The check of the digest of a locking script. -/
  | digestLock (locking : Bytes)
  /-- An unlocking script with a push of the locking script. -/
  | digestUnlock (unlocking locking : Bytes)
deriving DecidableEq, Repr, Inhabited

namespace Operation

variable {τ ρ σ : Type}

/-- Does an operation.  The transforms have data of their own. -/
def perform (T : Toolchain τ ρ σ) (data : Data) (env : Environment) :
    Operation → CompileM (Result τ ρ σ)
  | .request asked => asked.perform T data env
  | .digestLock locking => T.compileDigestLock env locking
  | .digestUnlock unlocking locking => T.compileDigestUnlock env unlocking locking

/-- What an operation comes to. -/
def outcome (T : Toolchain τ ρ σ) (data : Data) (env : Environment) :
    Operation → Except Escape (Result τ ρ σ)
  | .request asked => asked.outcome T data env
  | .digestLock locking => T.lockOutcome env locking
  | .digestUnlock unlocking locking => T.unlockOutcome env unlocking locking

theorem yields_perform (T : Toolchain τ ρ σ) (data : Data) (env : Environment)
    (operation : Operation) :
    (operation.perform T data env).Yields (operation.outcome T data env) := by
  cases operation with
  | request asked => exact asked.yields_perform T data env
  | digestLock locking => exact T.yields_compileReference _ _ _
  | digestUnlock unlocking locking => exact T.yields_compileReference _ _ _

variable {T : Toolchain τ ρ σ} {data : Data} {env : Environment} {operation : Operation}
  {result : Result τ ρ σ}

theorem wellFormed_of_outcome (h : operation.outcome T data env = .ok result) :
    result.WellFormed := by
  cases operation with
  | request asked => exact T.inherited_wellFormed.outcome h
  | digestLock locking => exact T.inherited_wellFormed.reference h
  | digestUnlock unlocking locking => exact T.inherited_wellFormed.reference h

/-- **Only scripts with gate and transform are transformed**, and then the artifacts are those of
the script as it is written. -/
theorem of_outcome_transformed {success : Success τ ρ σ} {transform : Transform}
    (h : operation.outcome T data env = .ok (.success success))
    (marked : success.transform = some transform) :
    ∃ id raw, operation = .request (.script id) ∧
      T.referenceOutcome data env id = .ok (.success raw) ∧ raw.artifacts = success.artifacts := by
  have never (data : Data) (env : Environment) (id : Text) :
      T.referenceOutcome data env id ≠ .ok (.success success) := by
    intro compiled
    have plain := Toolchain.transform?_of_referenceOutcome compiled
    rw [Result.transform?, marked] at plain
    cases plain
  cases operation with
  | digestLock locking => exact absurd h (never _ _ _)
  | digestUnlock unlocking locking => exact absurd h (never _ _ _)
  | request asked =>
    cases asked with
    | reference id => exact absurd h (never _ _ _)
    | body text =>
      have plain := (Toolchain.textEnds_of_textOutcome h).transform?_eq_none
      rw [Result.transform?, marked] at plain
      cases plain
    | script id =>
      obtain ⟨raw, compiled, transformed⟩ := Toolchain.of_scriptOutcome_success h
      exact ⟨id, raw, rfl, compiled, (Toolchain.artifacts_of_transformOutcome transformed).symm⟩

end Operation

/-! ## 3. Barriers -/

/-- **Why an environment refuses a script**, in the order in which it looks for reasons. -/
inductive Environment.Refuses (env : Environment) (id : Text) : Refusal → Prop
  | unknown (missing : env.script? id = none) : Refuses env id (.unknown id)
  | circular {text : Text} (there : env.script? id = some text) (ancestor : id ∈ env.ancestry) :
    Refuses env id (.circular id env.ancestry)
  | tooDeep {text : Text} {ceiling : Int} (there : env.script? id = some text)
    (new : id ∉ env.ancestry) (given : env.ceiling = some ceiling)
    (full : ceiling ≤ env.ancestry.length) :
    Refuses env id (.tooDeep id env.ancestry ceiling)

theorem Environment.fullAt?_eq_some_iff {env : Environment} {ceiling : Int} :
    env.fullAt? = some ceiling ↔ env.ceiling = some ceiling ∧ ceiling ≤ env.ancestry.length := by
  unfold Environment.fullAt?
  cases env.ceiling with
  | none => simp
  | some given =>
    dsimp only
    split
    · next reached =>
      constructor
      · rintro ⟨⟩
        exact ⟨rfl, reached⟩
      · exact fun full => full.1
    · next below =>
      constructor
      · exact fun never => nomatch never
      · rintro ⟨⟨⟩, full⟩
        exact absurd full below

/-- **An environment refuses a script exactly for these reasons.** -/
theorem Environment.locate_eq_error_iff {env : Environment} {id : Text} {refusal : Refusal} :
    env.locate id = .error refusal ↔ env.Refuses id refusal := by
  constructor
  · intro refused
    unfold Environment.locate at refused
    split at refused
    · next missing =>
      cases refused
      exact .unknown missing
    · next text there =>
      split at refused
      · next ancestor =>
        cases refused
        exact .circular there ancestor
      · next new =>
        split at refused
        · next ceiling full =>
          cases refused
          obtain ⟨given, reached⟩ := Environment.fullAt?_eq_some_iff.mp full
          exact .tooDeep there new given reached
        · cases refused
  · rintro (missing | ⟨there, ancestor⟩ | ⟨there, new, given, full⟩)
    · simp [Environment.locate, missing]
    · simp [Environment.locate, there, ancestor]
    · simp [Environment.locate, Environment.fullAt?_eq_some_iff.mpr ⟨given, full⟩, there, new]

/-- What may stop an operation before a text is looked at. -/
inductive Barrier
  | refusal (refusal : Refusal)
  | locktime (mismatch : Toolchain.LocktimeMismatch)
deriving DecidableEq, Repr, Inhabited

/-- The message of a barrier. -/
def Barrier.message : Barrier → Text
  | .refusal reason => reason.message
  | .locktime mismatch => mismatch.message

namespace Operation

variable {τ ρ σ : Type}

/-- **An operation is stopped by a barrier.**  A script with gate and transform may be stopped by
its locktime, by its own refusal, or, after it has compiled, by the refusal of the script that it
unlocks. -/
inductive Stopped (T : Toolchain τ ρ σ) (data : Data) (env : Environment) :
    Operation → Barrier → Prop
  | reference {id : Text} {refusal : Refusal} (refuses : env.Refuses id refusal) :
    Stopped T data env (.request (.reference id)) (.refusal refusal)
  | gate {id : Text} {mismatch : Toolchain.LocktimeMismatch}
    (mismatched : Toolchain.locktimeMismatch? data env id = some mismatch) :
    Stopped T data env (.request (.script id)) (.locktime mismatch)
  | script {id : Text} {refusal : Refusal}
    (passes : Toolchain.locktimeMismatch? data env id = none) (refuses : env.Refuses id refusal) :
    Stopped T data env (.request (.script id)) (.refusal refusal)
  | unlocked {id lockingId : Text} {raw : Success τ ρ σ} {refusal : Refusal}
    (passes : Toolchain.locktimeMismatch? data env id = none)
    (compiled : T.referenceOutcome data env id = .ok (.success raw))
    (plain : env.lockingType id ≠ .p2sh)
    (pairs : Toolchain.digestLockOf? env id = some lockingId)
    (refuses : env.Refuses lockingId refusal) :
    Stopped T data env (.request (.script id)) (.refusal refusal)
  | digestLock {locking : Bytes} {refusal : Refusal}
    (refuses : (Toolchain.lockEnvironment env).Refuses Toolchain.digestLockId refusal) :
    Stopped T data env (.digestLock locking) (.refusal refusal)
  | digestUnlock {unlocking locking : Bytes} {refusal : Refusal}
    (refuses : (Toolchain.unlockEnvironment env).Refuses Toolchain.digestUnlockId refusal) :
    Stopped T data env (.digestUnlock unlocking locking) (.refusal refusal)

variable {T : Toolchain τ ρ σ} {data : Data} {env : Environment} {operation : Operation}
  {barrier : Barrier}

/-- **A stopped operation fails with the message of its barrier.** -/
theorem Stopped.outcome_eq (stopped : operation.Stopped T data env barrier) :
    operation.outcome T data env = .ok (.environmental barrier.message) := by
  have refused {data : Data} {env : Environment} {id : Text} {refusal : Refusal}
      (refuses : env.Refuses id refusal) :
      T.referenceOutcome data env id = .ok (.environmental refusal.message) :=
    T.referenceOutcome_of_refused data (Environment.locate_eq_error_iff.mpr refuses)
  cases stopped with
  | reference refuses => exact refused refuses
  | gate mismatched =>
    show Toolchain.scriptOutcome T data env _ = _
    rw [Toolchain.scriptOutcome, mismatched]
    rfl
  | script passes refuses => exact Toolchain.scriptOutcome_of_failure passes (refused refuses)
  | unlocked passes compiled plain pairs refuses =>
    show Toolchain.scriptOutcome T data env _ = _
    rw [Toolchain.scriptOutcome_of_success passes compiled,
      Toolchain.transformOutcome_unlock plain pairs, refused refuses]
    rfl
  | digestLock refuses => exact refused refuses
  | digestUnlock refuses => exact refused refuses

end Operation

/-! ## 4. Places of parse failures -/

namespace Script

/-- **A text that does not parse is refused at a place that can be named.** -/
theorem isCounted_of_parse {text : Text} {failure : ParseFailure}
    (refused : parse text = .error failure) : failure.position.IsCounted := by
  obtain ⟨before, -, -, -, -, -, -, -, -, place⟩ := exists_refusal refused
  rw [place]
  exact Position.isCounted_first.afterAll before

end Script

/-! ## 5. Failures of the script language -/

/-- A failure that points at a place which lines and columns can name. -/
def Failure.IsLocated {τ ρ σ : Type} (failure : Failure τ ρ σ) : Prop :=
  ∃ position : Position, position.IsCounted ∧ failure.first.range = .point position

theorem Failure.IsLocated.range_ne {τ ρ σ : Type} {failure : Failure τ ρ σ}
    (located : failure.IsLocated) : failure.first.range ≠ .empty := by
  obtain ⟨position, ⟨line, -⟩, range⟩ := located
  intro placeless
  have same : position.line = 0 := congrArg SourceRange.startLine (range.symm.trans placeless)
  omega

namespace Toolchain

variable {data : Data} {env : Environment} {id text : Text}

theorem failure_of_transformed {τ ρ σ : Type} {raw : Success τ ρ σ} {transform : Transform}
    {result : Result τ ρ σ} {failure : Failure τ ρ σ}
    (h : transformed raw transform result = .failure failure) : result = .failure failure := by
  cases result with
  | success outcome => cases h
  | failure outcome => exact h

/-- The failures of the standard toolchain. -/
abbrev ScriptFailure := Failure (List Script.Node) (List Script.Resolved) Machine.State

variable {raw : ScriptSuccess} {failure : ScriptFailure}

/-- **A text fails to parse at a place of its own.** -/
theorem located_of_textOutcome (h : standard.textOutcome data env text = .ok (.failure failure))
    (stage : failure.stage = .parse) : failure.IsLocated := by
  generalize same : Result.failure failure = result at h
  cases textEnds_of_textOutcome h with
  | @unparsed refused parsed =>
    cases same
    rw [parse_standard] at parsed
    exact ⟨refused.position, Script.isCounted_of_parse (Except.ok.inj parsed), rfl⟩
  | unresolved parsed settled collected =>
    cases same
    cases stage
  | @reduced tree resolved reduction parsed settled collected reduces =>
    cases reduction with
    | bytecode value states => cases same
    | errors first others states =>
      cases same
      cases stage

/-- **A script fails to parse where it stands, or it is refused.** -/
theorem refused_or_located (h : standard.referenceOutcome data env id = .ok (.failure failure))
    (stage : failure.stage = .parse) : (∃ refusal, env.Refuses id refusal) ∨ failure.IsLocated := by
  cases located : env.locate id with
  | error refusal => exact .inl ⟨refusal, Environment.locate_eq_error_iff.mp located⟩
  | ok text =>
    rw [standard.referenceOutcome_of_located data located] at h
    exact .inr (located_of_textOutcome h stage)

/-- Where a script has compiled, a derived environment hands out the script that it holds. -/
theorem not_refuses_derive {other : Text} {refusal : Refusal} {kinds : Dictionary VariableKind}
    {machine : Bool} (compiled : standard.referenceOutcome data env id = .ok (.success raw)) :
    ¬ (env.derive [(other, some text)] kinds machine).Refuses other refusal := by
  intro refuses
  obtain ⟨_, located⟩ := locate_of_success compiled
  have derived := locate_derive (room_of_locate located) other text kinds machine
  rw [Environment.locate_eq_error_iff.mpr refuses] at derived
  cases derived

/-- **A script with gate and transform fails to parse at a barrier or at a place.** -/
theorem stopped_or_located_of_scriptOutcome
    (h : standard.scriptOutcome data env id = .ok (.failure failure))
    (stage : failure.stage = .parse) :
    (∃ barrier, (Operation.request (.script id)).Stopped standard data env barrier) ∨
      failure.IsLocated := by
  cases gate : locktimeMismatch? data env id with
  | some mismatch => exact .inl ⟨_, .gate gate⟩
  | none =>
    rw [scriptOutcome, gate] at h
    obtain ⟨result, compiled, h⟩ := bind_eq_ok_iff.mp h
    cases result with
    | failure outcome =>
      cases h
      refine (refused_or_located compiled stage).imp_left ?_
      rintro ⟨refusal, refuses⟩
      exact ⟨_, .script gate refuses⟩
    | success raw =>
      -- After a success the wrappers are not refused, so only the unlocked script may be.
      by_cases locks : env.lockingType id = .p2sh
      · replace h := (transformOutcome_lock locks).symm.trans h
        obtain ⟨wrapper, wrapped, same⟩ := map_eq_ok_iff.mp h
        cases failure_of_transformed same
        refine .inr ((refused_or_located wrapped stage).resolve_left ?_)
        rintro ⟨refusal, refuses⟩
        exact not_refuses_derive compiled refuses
      · cases pairs : digestLockOf? env id with
        | none =>
          replace h : transformOutcome standard data env id raw = _ := h
          rw [transformOutcome, if_neg locks, pairs] at h
          cases h
        | some lockingId =>
          replace h := (transformOutcome_unlock locks pairs).symm.trans h
          obtain ⟨locking, unlocked, h⟩ := bind_eq_ok_iff.mp h
          cases locking with
          | failure outcome =>
            cases h
            refine (refused_or_located unlocked stage).imp_left ?_
            rintro ⟨refusal, refuses⟩
            exact ⟨_, .unlocked gate compiled locks pairs refuses⟩
          | success locking =>
            obtain ⟨wrapper, wrapped, same⟩ := map_eq_ok_iff.mp h
            cases failure_of_transformed same
            refine .inr ((refused_or_located wrapped stage).resolve_left ?_)
            rintro ⟨refusal, refuses⟩
            exact not_refuses_derive compiled refuses

/-- **Every operation fails to parse at a barrier or at a place.** -/
theorem stopped_or_located {operation : Operation}
    (h : operation.outcome standard data env = .ok (.failure failure))
    (stage : failure.stage = .parse) :
    (∃ barrier, operation.Stopped standard data env barrier) ∨ failure.IsLocated := by
  cases operation with
  | request asked =>
    cases asked with
    | script id => exact stopped_or_located_of_scriptOutcome h stage
    | reference id =>
      exact (refused_or_located h stage).imp_left fun ⟨_, refuses⟩ => ⟨_, .reference refuses⟩
    | body text => exact .inr (located_of_textOutcome h stage)
  | digestLock locking =>
    exact (refused_or_located h stage).imp_left fun ⟨_, refuses⟩ => ⟨_, .digestLock refuses⟩
  | digestUnlock unlocking locking =>
    exact (refused_or_located h stage).imp_left fun ⟨_, refuses⟩ => ⟨_, .digestUnlock refuses⟩

end Toolchain

/-! ## 6. Every returned result -/

namespace Operation

/-- **Every result that is returned has its shape.**  For all toolchains, the artifacts and the
errors are those of the stage that was reached; a transformed success carries the artifacts of the
script as it is written, whatever the ambient it is compiled in; and a stopped operation returns
the message of its barrier.  In the script language a parse failure is without a place exactly if
the operation was stopped, and otherwise points at a line and a column. -/
theorem results_wellFormed :
    (∀ (τ ρ σ : Type) (T : Toolchain τ ρ σ) (data : Data) (env : Environment)
        (operation : Operation) (ambient : Ambient),
      (∀ result, ((operation.perform T data env).run ambient).1 = .ok result →
        result.WellFormed ∧
        ∀ success transform, result = .success success → success.transform = some transform →
          ∃ id raw, operation = .request (.script id) ∧
            raw.transform = none ∧ raw.artifacts = success.artifacts ∧
            ∀ other, ((T.compileReference data env id).run other).1 = .ok (.success raw)) ∧
      ∀ barrier, operation.Stopped T data env barrier →
        ((operation.perform T data env).run ambient).1 =
          .ok (.environmental barrier.message)) ∧
    (∀ (data : Data) (env : Environment) (operation : Operation) (ambient : Ambient)
        (failure : Toolchain.ScriptFailure),
      ((operation.perform Toolchain.standard data env).run ambient).1 = .ok (.failure failure) →
      failure.stage = .parse →
        (failure.first.range = .empty ↔
          ∃ barrier, operation.Stopped Toolchain.standard data env barrier) ∧
        (failure.first.range ≠ .empty →
          ∃ position : Position, 1 ≤ position.line ∧ 1 ≤ position.column ∧
            failure.first.range = .point position)) := by
  refine ⟨fun τ ρ σ T data env operation ambient => ⟨fun result ran => ?_, ?_⟩, ?_⟩
  · have outcome := (operation.yields_perform T data env).eq_of_run ran
    refine ⟨wellFormed_of_outcome outcome, ?_⟩
    rintro success transform rfl marked
    obtain ⟨id, raw, same, compiled, artifacts⟩ := of_outcome_transformed outcome marked
    have plain : raw.transform = none := Toolchain.transform?_of_referenceOutcome compiled
    exact ⟨id, raw, same, plain, artifacts,
      fun other => (T.yields_compileReference data env id other).trans compiled⟩
  · intro barrier stopped
    exact (operation.yields_perform T data env ambient).trans stopped.outcome_eq
  · intro data env operation ambient failure ran stage
    have outcome := (operation.yields_perform Toolchain.standard data env).eq_of_run ran
    have either := Toolchain.stopped_or_located outcome stage
    have placeless_of_stopped :
        (∃ barrier, operation.Stopped Toolchain.standard data env barrier) →
          failure.first.range = .empty := by
      rintro ⟨barrier, stopped⟩
      cases stopped.outcome_eq.symm.trans outcome
      rfl
    refine ⟨⟨fun placeless => ?_, placeless_of_stopped⟩, fun placed => ?_⟩
    · exact either.resolve_right fun located => located.range_ne placeless
    · obtain ⟨position, ⟨line, column⟩, range⟩ :=
        either.resolve_left fun stopped => placed (placeless_of_stopped stopped)
      exact ⟨position, line, column, range⟩

/-- An unlocking script whose locking script is nowhere. -/
def halfPairedEnvironment : Environment where
  scripts := [("unlock", some "<0xab>")]
  lockingTypes := [("lock", .p2sh)]
  unlocks := [("unlock", some "lock")]

/-- The unlocking script compiles by itself, and is stopped by the script that it unlocks. -/
theorem stopped_halfPairedEnvironment :
    (Operation.request (.script "unlock")).Stopped Toolchain.standard {} halfPairedEnvironment
      (.refusal (.unknown "lock")) := by
  have compiled : ∃ raw, Toolchain.standard.referenceOutcome {} halfPairedEnvironment "unlock" =
      .ok (.success raw) ∧ raw.bytecode = [0x01, 0xab] :=
    Toolchain.map_verdict_eq_ok_iff.mp (by cbv)
  obtain ⟨raw, outcome, -⟩ := compiled
  exact .unlocked (by decide) outcome (by decide) (by decide) (.unknown (by decide))

/-- A script of type `p2sh` is transformed, and keeps its own artifacts. -/
theorem outcome_pairedEnvironment_lock :
    ∃ success : Toolchain.ScriptSuccess, (Operation.request (.script "lock")).outcome
      Toolchain.standard {} Toolchain.pairedEnvironment = .ok (.success success) ∧
        success.transform = some .p2shLocking := by
  obtain ⟨raw, compiled, bytecode⟩ := Toolchain.pairedEnvironment_lock
  have room : ∀ ceiling ∈ Toolchain.pairedEnvironment.ceiling, 1 ≤ ceiling := by decide
  have short : raw.bytecode.length ≤ 255 := by simp [bytecode]
  obtain ⟨wrapper, locks, -⟩ := Toolchain.lockOutcome_short room (by decide) short
  refine ⟨⟨wrapper.bytecode, raw.artifacts, some .p2shLocking⟩, ?_, rfl⟩
  show Toolchain.standard.scriptOutcome {} Toolchain.pairedEnvironment "lock" = _
  rw [Toolchain.scriptOutcome_of_success (by decide) compiled,
    Toolchain.transformOutcome_lock (by decide), locks]
  rfl

/-- A success that is transformed, a success superseded by a refusal, and a text that is refused at
its second line. -/
theorem results_wellFormed_paired :
    (∃ success raw : Toolchain.ScriptSuccess,
      ((Toolchain.standard.compile {} Toolchain.pairedEnvironment "lock").run default).1 =
        .ok (.success success) ∧ success.WellFormed ∧
      ((Toolchain.standard.compileReference {} Toolchain.pairedEnvironment "lock").run default).1 =
        .ok (.success raw) ∧ raw.artifacts = success.artifacts) ∧
    ((Toolchain.standard.compile {} halfPairedEnvironment "unlock").run default).1 =
      .ok (.environmental (Refusal.unknown "lock").message) ∧
    ∃ failure : Toolchain.ScriptFailure,
      ((Toolchain.standard.compileText {} {} "OP_1\n)").run default).1 = .ok (.failure failure) ∧
      ∃ position : Position, 1 ≤ position.line ∧ 1 ≤ position.column ∧
        failure.first.range = .point position := by
  obtain ⟨every, standard⟩ := results_wellFormed
  refine ⟨?_, ?_, ?_⟩
  · obtain ⟨success, outcome, marked⟩ := outcome_pairedEnvironment_lock
    have ran := (yields_perform Toolchain.standard {} Toolchain.pairedEnvironment
      (.request (.script "lock")) default).trans outcome
    obtain ⟨shape, origin⟩ := (every _ _ _ _ _ _ _ _).1 _ ran
    obtain ⟨id, raw, same, -, artifacts, compiled⟩ := origin success _ rfl marked
    cases same
    exact ⟨success, raw, ran, shape, compiled default, artifacts⟩
  · exact (every _ _ _ _ _ _ (.request (.script "unlock")) default).2 _
      stopped_halfPairedEnvironment
  · have refused : Script.parse "OP_1\n)" = .error ⟨Script.expectedWithin [], ⟨2, 1⟩⟩ := by cbv
    have outcome : (Operation.request (.body "OP_1\n)")).outcome Toolchain.standard {} {} = _ :=
      Toolchain.textOutcome_of_unparsed refused
    have ran := (yields_perform Toolchain.standard {} {} _ default).trans outcome
    exact ⟨_, ran, (standard _ _ _ _ _ ran rfl).2 (by decide)⟩

end Operation

end ScriptTemplate
