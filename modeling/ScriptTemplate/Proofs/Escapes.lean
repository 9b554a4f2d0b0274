/-
# When a compilation ends without a result

A compilation problem is a result: a text that does not parse, a name that does not resolve, an
evaluation that fails.  With the standard toolchain there are two ways to end without one, and
this file says exactly when they are taken.

* The machine is handed a code that misses a length (`Machine.MissesLength`): it runs up to an
  opcode whose length byte would stand behind the end of the code.  The script `$(0x4c)` is
  enough (`missing_length_escapes`).
* The push encoder is handed `Push.sizeLimit` bytes or more.

`TextDemands` says what compiling a text hands over: what its own brackets do once all of its
names are resolved, and what the scripts that it mentions do, however deep.  `Request.Demands`
extends this over the gate and the transforms.  Then `perform_returns_iff`: a request returns a
result exactly if every demand can be met, and every escape is raised by a demand.
-/
import Mathlib
import ScriptTemplate.Proofs.Gathering
import ScriptTemplate.Proofs.StandardStages

namespace ScriptTemplate

open Script Toolchain

/-! ## 1. Texts -/

/-- **What compiling a text hands over** to encoder and machine. -/
inductive TextDemands (data : Data) : Environment → Text → Demand → Prop
  /-- Its own brackets close when all names are resolved. -/
  | own {env : Environment} {text : Text} {tree : List Node} {pieces : List Resolved}
    {piece : Resolved} {demand : Demand} (parsed : Script.parse text = .ok tree)
    (resolved : (resolveAll data env tree).settle (standard.verdictOutcome data env) = .ok pieces)
    (collected : collectErrors pieces = []) (member : piece ∈ pieces)
    (demanded : piece.Demands env.capabilities demand) : TextDemands data env text demand
  /-- A script that it mentions is compiled one level further down. -/
  | mentioned {env : Environment} {text : Text} {tree : List Node} {name inner : Text}
    {demand : Demand} (parsed : Script.parse text = .ok tree) (member : name ∈ namesAll tree)
    (script : meaning data env name = .script) (located : env.locate name = .ok inner)
    (demanded : TextDemands data (env.descend name) inner demand) :
    TextDemands data env text demand

/-- What compiling a script by its id hands over. -/
def ReferenceDemands (data : Data) (env : Environment) (id : Text) (demand : Demand) : Prop :=
  ∃ text, env.locate id = .ok text ∧ TextDemands data (env.descend id) text demand

section Texts

variable {data : Data} {env : Environment} {text id : Text} {escape : Escape} {demand : Demand}

/-- An outcome that is no result is an escape. -/
theorem exists_error_of_ne_ok {α : Type} {outcome : Except Escape α}
    (h : ∀ result, outcome ≠ .ok result) : ∃ escape, outcome = .error escape := by
  cases outcome with
  | error escape => exact ⟨escape, rfl⟩
  | ok result => exact absurd rfl (h result)

/-- A script that escapes was handed out, and its text escapes. -/
theorem located_of_referenceOutcome_eq_error
    (h : standard.referenceOutcome data env id = .error escape) :
    ∃ text, env.locate id = .ok text ∧
      standard.textOutcome data (env.descend id) text = .error escape := by
  cases located : env.locate id with
  | error refusal =>
    rw [standard.referenceOutcome_of_refused data located] at h
    cases h
  | ok text =>
    rw [standard.referenceOutcome_of_located data located] at h
    exact ⟨text, rfl, h⟩

/-- **Every escape of a text is raised by one of its demands.** -/
theorem textOutcome_eq_error (h : standard.textOutcome data env text = .error escape) :
    ∃ demand, TextDemands data env text demand ∧ demand.Raises escape := by
  -- The induction is on the number of scripts that are not in the ancestry.
  induction hp : env.pending using Nat.strongRecOn generalizing env text with
  | ind pending ih =>
    cases parsed : Script.parse text with
    | error failure =>
      rw [textOutcome_of_unparsed parsed] at h
      cases h
    | ok tree =>
      rw [textOutcome_of_parsed parsed, bind_eq_error_iff] at h
      rcases h with early | ⟨pieces, resolved, late⟩
      · -- The answer to a name is the escape.
        obtain ⟨name, member, script, answer⟩ := settle_resolveAll_eq_error early
        obtain ⟨inner, located, below⟩ :=
          located_of_referenceOutcome_eq_error (map_eq_error_iff.mp answer)
        have fewer : (env.descend name).pending < pending :=
          hp ▸ Environment.pending_descend_lt located
        obtain ⟨demand, demanded, raises⟩ := ih _ fewer below rfl
        exact ⟨demand, .mentioned parsed member script located demanded, raises⟩
      · cases collected : collectErrors pieces with
        | cons first others =>
          rw [resolvedOutcome_of_errors collected] at late
          cases late
        | nil =>
          rw [resolvedOutcome_of_collected collected, map_eq_error_iff] at late
          obtain ⟨piece, member, demand, demanded, raises⟩ := gatherAll_eq_error late
          exact ⟨demand, .own parsed resolved collected member demanded, raises⟩

/-- **A demand that raises an escape leaves a text without a result.** -/
theorem textOutcome_ne_ok (demanded : TextDemands data env text demand)
    (raises : demand.Raises escape) :
    ∀ result, standard.textOutcome data env text ≠ .ok result := by
  induction demanded with
  | own parsed resolved collected member demanded =>
    intro result h
    rw [textOutcome_of_resolved parsed resolved collected, map_eq_ok_iff] at h
    obtain ⟨all, gathered, -⟩ := h
    exact gatherAll_escapes member demanded raises all gathered
  | @mentioned env text tree name inner demand parsed member script located demanded ih =>
    intro result h
    rw [textOutcome_of_parsed parsed, bind_eq_ok_iff] at h
    obtain ⟨pieces, resolved, -⟩ := h
    obtain ⟨other, below⟩ := exists_error_of_ne_ok (ih raises)
    have answer : standard.verdictOutcome data env name = .error other := by
      rw [verdictOutcome, map_eq_error_iff, standard.referenceOutcome_of_located data located]
      exact below
    exact not_escapesAt_of_resolveAll resolved ⟨name, member, script, answer⟩

theorem referenceOutcome_eq_error (h : standard.referenceOutcome data env id = .error escape) :
    ∃ demand, ReferenceDemands data env id demand ∧ demand.Raises escape := by
  obtain ⟨text, located, below⟩ := located_of_referenceOutcome_eq_error h
  obtain ⟨demand, demanded, raises⟩ := textOutcome_eq_error below
  exact ⟨demand, ⟨text, located, demanded⟩, raises⟩

theorem referenceOutcome_ne_ok (demanded : ReferenceDemands data env id demand)
    (raises : demand.Raises escape) (result : ScriptResult) :
    standard.referenceOutcome data env id ≠ .ok result := by
  obtain ⟨text, located, below⟩ := demanded
  rw [standard.referenceOutcome_of_located data located]
  exact textOutcome_ne_ok below raises result

end Texts

/-! ## 2. Requests -/

/-- **What a request hands over.**  A script behind the gate is compiled as it is written first;
then come the scripts that its transform needs, as far as those before them succeed. -/
inductive Request.Demands (data : Data) (env : Environment) : Request → Demand → Prop
  | body {text : Text} {demand : Demand} (demanded : TextDemands data env text demand) :
    Demands data env (.body text) demand
  | reference {id : Text} {demand : Demand} (demanded : ReferenceDemands data env id demand) :
    Demands data env (.reference id) demand
  /-- The script as it is written. -/
  | script {id : Text} {demand : Demand} (passes : locktimeMismatch? data env id = none)
    (demanded : ReferenceDemands data env id demand) : Demands data env (.script id) demand
  /-- The check of its digest. -/
  | check {id : Text} {demand : Demand} {raw : ScriptSuccess}
    (passes : locktimeMismatch? data env id = none)
    (compiled : standard.referenceOutcome data env id = .ok (.success raw))
    (locks : env.lockingType id = .p2sh)
    (demanded : ReferenceDemands (lockData raw.bytecode) (lockEnvironment env) digestLockId
      demand) : Demands data env (.script id) demand
  /-- The locking script that it unlocks. -/
  | locking {id lockingId : Text} {demand : Demand} {raw : ScriptSuccess}
    (passes : locktimeMismatch? data env id = none)
    (compiled : standard.referenceOutcome data env id = .ok (.success raw))
    (plain : env.lockingType id ≠ .p2sh) (pairs : digestLockOf? env id = some lockingId)
    (demanded : ReferenceDemands data env lockingId demand) : Demands data env (.script id) demand
  /-- The two put together. -/
  | completed {id lockingId : Text} {demand : Demand} {raw lock : ScriptSuccess}
    (passes : locktimeMismatch? data env id = none)
    (compiled : standard.referenceOutcome data env id = .ok (.success raw))
    (plain : env.lockingType id ≠ .p2sh) (pairs : digestLockOf? env id = some lockingId)
    (compiledLock : standard.referenceOutcome data env lockingId = .ok (.success lock))
    (demanded : ReferenceDemands (unlockData raw.bytecode lock.bytecode) (unlockEnvironment env)
      digestUnlockId demand) : Demands data env (.script id) demand

section Requests

variable {data : Data} {env : Environment} {id : Text} {request : Request} {escape : Escape}
  {demand : Demand}

/-- Every escape of a script behind the gate is raised by a demand of one of its compilations. -/
theorem transformOutcome_eq_error {raw : ScriptSuccess}
    (passes : locktimeMismatch? data env id = none)
    (compiled : standard.referenceOutcome data env id = .ok (.success raw))
    (h : standard.transformOutcome data env id raw = .error escape) :
    ∃ demand, Request.Demands data env (.script id) demand ∧ demand.Raises escape := by
  unfold transformOutcome at h
  split at h
  · next locks =>
    obtain ⟨demand, demanded, raises⟩ := referenceOutcome_eq_error (map_eq_error_iff.mp h)
    exact ⟨demand, .check passes compiled locks demanded, raises⟩
  · next plain =>
    split at h
    · cases h
    · next lockingId pairs =>
      rcases bind_eq_error_iff.mp h with early | ⟨result, compiledLock, late⟩
      · obtain ⟨demand, demanded, raises⟩ := referenceOutcome_eq_error early
        exact ⟨demand, .locking passes compiled plain pairs demanded, raises⟩
      · cases result with
        | failure outcome => cases late
        | success lock =>
          obtain ⟨demand, demanded, raises⟩ :=
            referenceOutcome_eq_error (map_eq_error_iff.mp late)
          exact ⟨demand, .completed passes compiled plain pairs compiledLock demanded, raises⟩

/-- **Every escape of a request is raised by one of its demands.** -/
theorem outcome_eq_error (h : request.outcome standard data env = .error escape) :
    ∃ demand, request.Demands data env demand ∧ demand.Raises escape := by
  cases request with
  | body text =>
    obtain ⟨demand, demanded, raises⟩ := textOutcome_eq_error h
    exact ⟨demand, .body demanded, raises⟩
  | reference id =>
    obtain ⟨demand, demanded, raises⟩ := referenceOutcome_eq_error h
    exact ⟨demand, .reference demanded, raises⟩
  | script id =>
    cases passes : locktimeMismatch? data env id with
    | some mismatch =>
      rw [Request.outcome, scriptOutcome, passes] at h
      cases h
    | none =>
      rw [Request.outcome, scriptOutcome, passes] at h
      rcases bind_eq_error_iff.mp h with early | ⟨result, compiled, late⟩
      · obtain ⟨demand, demanded, raises⟩ := referenceOutcome_eq_error early
        exact ⟨demand, .script passes demanded, raises⟩
      · cases result with
        | failure outcome => cases late
        | success raw => exact transformOutcome_eq_error passes compiled late

/-- **A demand that raises an escape leaves a request without a result.** -/
theorem outcome_ne_ok (demanded : request.Demands data env demand)
    (raises : demand.Raises escape) (result : ScriptResult) :
    request.outcome standard data env ≠ .ok result := by
  intro h
  cases demanded with
  | body demanded => exact textOutcome_ne_ok demanded raises result h
  | reference demanded => exact referenceOutcome_ne_ok demanded raises result h
  | script passes demanded =>
    rw [Request.outcome, scriptOutcome, passes] at h
    obtain ⟨first, compiled, -⟩ := bind_eq_ok_iff.mp h
    exact referenceOutcome_ne_ok demanded raises first compiled
  | check passes compiled locks demanded =>
    rw [Request.outcome, scriptOutcome_of_success passes compiled, transformOutcome_lock locks,
      map_eq_ok_iff] at h
    obtain ⟨wrapped, outcome, -⟩ := h
    exact referenceOutcome_ne_ok demanded raises wrapped outcome
  | locking passes compiled plain pairs demanded =>
    rw [Request.outcome, scriptOutcome_of_success passes compiled,
      transformOutcome_unlock plain pairs, bind_eq_ok_iff] at h
    obtain ⟨first, compiledLock, -⟩ := h
    exact referenceOutcome_ne_ok demanded raises first compiledLock
  | completed passes compiled plain pairs compiledLock demanded =>
    rw [Request.outcome, scriptOutcome_of_success passes compiled,
      transformOutcome_unlock plain pairs, bind_eq_ok_iff] at h
    obtain ⟨first, again, completed⟩ := h
    rw [compiledLock] at again
    cases again
    obtain ⟨assembled, outcome, -⟩ := map_eq_ok_iff.mp completed
    exact referenceOutcome_ne_ok demanded raises assembled outcome

end Requests

/-! ## 3. Requests that return -/

/-- **A request returns a result exactly if its demands can be met**: every push is below the
encoder's limit, and no code that is run misses a length.  Every escape is raised by a demand. -/
theorem perform_returns_iff (request : Request) (data : Data) (env : Environment)
    (ambient : Ambient) :
    ((∃ result, ((request.perform standard data env).run ambient).1 = .ok result) ↔
      (∀ bytes, request.Demands data env (.push bytes) → bytes.length < Push.sizeLimit) ∧
      (∀ code, request.Demands data env (.run code) → ¬ Machine.MissesLength code)) ∧
    (∀ escape, ((request.perform standard data env).run ambient).1 = .error escape →
      ∃ demand, request.Demands data env demand ∧ demand.Raises escape) := by
  rw [request.yields_perform standard data env ambient]
  refine ⟨⟨?_, ?_⟩, fun escape => outcome_eq_error⟩
  · rintro ⟨result, returned⟩
    constructor
    · intro bytes demanded
      refine Nat.not_le.mp fun long => ?_
      exact outcome_ne_ok demanded (.oversized long) result returned
    · intro code demanded misses
      exact outcome_ne_ok demanded (.truncated misses) result returned
  · rintro ⟨small, complete⟩
    cases returned : request.outcome standard data env with
    | ok result => exact ⟨result, rfl⟩
    | error escape =>
      obtain ⟨demand, demanded, raises⟩ := outcome_eq_error returned
      cases raises with
      | oversized long => exact absurd (small _ demanded) (Nat.not_lt.mpr long)
      | truncated misses => exact absurd misses (complete _ demanded)

/-- An environment with one script, an evaluation of the single byte `4c`. -/
def trailingEnvironment : Environment where
  scripts := [("a", some "$(0x4c)")]

/-- **An evaluation of `4c` alone ends every request without a result**, although the text parses
and has no name to resolve. -/
theorem missing_length_escapes :
    ((Request.script "a").perform standard {} trailingEnvironment).Yields
      (.error .truncatedPush) ∧
    ((Request.reference "a").perform standard {} trailingEnvironment).Yields
      (.error .truncatedPush) ∧
    ((Request.body "$(0x4c)").perform standard {} trailingEnvironment).Yields
      (.error .truncatedPush) := by
  have script : standard.scriptOutcome {} trailingEnvironment "a" = .error .truncatedPush := by cbv
  have reference : standard.referenceOutcome {} trailingEnvironment "a" =
      .error .truncatedPush := by cbv
  have body : standard.textOutcome {} trailingEnvironment "$(0x4c)" = .error .truncatedPush := by
    cbv
  exact ⟨script ▸ standard.yields_compile _ _ _, reference ▸ standard.yields_compileReference _ _ _,
    body ▸ standard.yields_compileText _ _ _⟩

/-- The demand behind it: the machine is handed a code that misses a length, so that no result is
returned. -/
theorem missing_length_demanded :
    (¬ ∃ result, (((Request.script "a").perform standard {} trailingEnvironment).run default).1 =
      .ok result) ∧
    ∃ code, (Request.script "a").Demands {} trailingEnvironment (.run code) ∧
      Machine.MissesLength code := by
  have escaped : (((Request.script "a").perform standard {} trailingEnvironment).run default).1 =
      .error .truncatedPush := by
    rw [Request.yields_perform standard {} trailingEnvironment (.script "a") default]
    cbv
  obtain ⟨demand, demanded, raises⟩ :=
    (perform_returns_iff (.script "a") {} trailingEnvironment default).2 _ escaped
  cases raises with
  | truncated misses =>
    refine ⟨fun returned => ?_, _, demanded, misses⟩
    exact ((perform_returns_iff _ _ _ _).1.mp returned).2 _ demanded misses

end ScriptTemplate
