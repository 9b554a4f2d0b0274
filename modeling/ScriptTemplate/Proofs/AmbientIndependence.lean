/-
# Surroundings decide nothing

Every compilation reads and changes what surrounds it: the trace, the metrics, the log, the clock,
the supply of ids.  A script that is referred to twice is compiled twice, and the second time in
surroundings that the first time has changed.  None of this shows in a result.

* **Two runs agree** wherever they are started, so a compilation may be repeated after any others
  (`Compilation.leave` runs these, and does not care how they end).
* **One name has one value** inside a text.  A resolved tree is what the resolver settles to under
  a single table of verdicts (`Toolchain.SettledBy`).  In the script language this means that the
  tree is filled in by a function of names: the piece in the place of a name is the name's value,
  moved to that place (`exists_filledAll_of_settledBy`).  A prepared text sums up one verdict for
  each of its references, as often as it has the reference.

The first part rests on `Request.yields_perform`.  What the surroundings are afterwards is not
settled here.
-/
import Mathlib
import ScriptTemplate.Proofs.StandardStages
import ScriptTemplate.Toolchain.Prepared

namespace ScriptTemplate

/-! ## 1. Compilations in a row -/

/-- A compilation that may be asked for, with a toolchain of any kind. -/
structure Compilation where
  {τ ρ σ : Type}
  toolchain : Toolchain τ ρ σ
  data : Data
  environment : Environment
  request : Request

namespace Compilation

/-- Does a compilation. -/
def perform (c : Compilation) : CompileM (Result c.τ c.ρ c.σ) :=
  c.request.perform c.toolchain c.data c.environment

/-- What compilations leave of the surroundings, one after the other.  One that escapes leaves
behind what it has done until then. -/
def leave (ambient : Ambient) (compilations : List Compilation) : Ambient :=
  compilations.foldl (fun ambient c => (c.perform.run ambient).2) ambient

end Compilation

/-! ## 2. One value for a name -/

namespace Script

/-- A resolved piece at another place. -/
def Resolved.movedTo (range : SourceRange) : Resolved → Resolved
  | .bytecode value _ => .bytecode value range
  | .group bracket items _ => .group bracket items range
  | .error message _ => .error message range

mutual

/-- A piece whose names are replaced by their values, each where the name stands. -/
def Node.filled (value : Text → Resolved) : Node → Resolved
  | .identifier name range => (value name).movedTo range
  | .hex bytes range => .bytecode bytes range
  | .group bracket items range => .group bracket (filledAll value items) range

/-- A row of pieces whose names are replaced by their values. -/
def filledAll (value : Text → Resolved) : List Node → List Resolved
  | [] => []
  | node :: rest => node.filled value :: filledAll value rest

end

section Filling

variable {data : Data} {env : Environment} {answer : Text → Except Escape Verdict}

/-- **What a name resolves to depends on its place by the place alone.** -/
theorem settledName_eq_movedTo (name : Text) (range : SourceRange) :
    settledName data env answer name range =
      (settledName data env answer name .empty).map (Resolved.movedTo range) := by
  unfold settledName
  cases meaning data env name with
  | script =>
    cases answer name with
    | error escape => rfl
    | ok verdict => cases verdict <;> rfl
  | _ => rfl

/-- The value of a name, if its answer does not escape. -/
def nameValue (data : Data) (env : Environment) (answer : Text → Except Escape Verdict)
    (name : Text) : Resolved :=
  (settledName data env answer name .empty).toOption.getD default

theorem eq_movedTo_of_settledName {name : Text} {range : SourceRange} {piece : Resolved}
    (settled : settledName data env answer name range = .ok piece) :
    piece = (nameValue data env answer name).movedTo range := by
  rw [settledName_eq_movedTo, map_eq_ok_iff] at settled
  obtain ⟨value, found, rfl⟩ := settled
  rw [nameValue, found]
  rfl

mutual

theorem eq_filled_of_settle :
    ∀ {node : Node} {piece : Resolved}, (node.resolve data env).settle answer = .ok piece →
      piece = node.filled (nameValue data env answer)
  | .identifier name range, piece, settled => by
    rw [settle_resolve_identifier] at settled
    rw [Node.filled]
    exact eq_movedTo_of_settledName settled
  | .hex bytes range, piece, settled => by
    rw [settle_resolve_hex] at settled
    rw [Node.filled]
    exact (Except.ok.inj settled).symm
  | .group bracket items range, piece, settled => by
    obtain ⟨pieces, resolved, rfl⟩ := exists_of_settle_resolve_group settled
    rw [Node.filled, ← eq_filledAll_of_settle resolved]

/-- **A row resolves to itself, filled in with the values of its names.** -/
theorem eq_filledAll_of_settle :
    ∀ {nodes : List Node} {pieces : List Resolved},
      (resolveAll data env nodes).settle answer = .ok pieces →
        pieces = filledAll (nameValue data env answer) nodes
  | [], pieces, settled => by
    rw [settle_resolveAll_nil] at settled
    rw [filledAll]
    exact (Except.ok.inj settled).symm
  | node :: rest, pieces, settled => by
    obtain ⟨first, others, resolvedFirst, resolvedOthers, rfl⟩ :=
      exists_of_settle_resolveAll_cons settled
    rw [filledAll, ← eq_filled_of_settle resolvedFirst, ← eq_filledAll_of_settle resolvedOthers]

end

end Filling

end Script

/-! ## 3. One verdict for a reference -/

/-- The sum of the references of a prepared text, the verdicts being known. -/
def ReferenceSum.ofVerdicts (verdict : Text → Verdict) (references : List Text) : ReferenceSum :=
  references.foldl (fun sum id => sum.add (verdict id)) {}

/-- A verdict from a table of answers, where the answer does not escape. -/
def verdictOf (answer : Text → Except Escape Verdict) (id : Text) : Verdict :=
  (answer id).toOption.getD (.ok [])

theorem settle_ask {answer : Text → Except Escape Verdict} {references : List Text}
    {sum total : ReferenceSum}
    (settled : (Preparation.ask sum references).settle answer = .ok total) :
    total = references.foldl (fun sum id => sum.add (verdictOf answer id)) sum := by
  induction references generalizing sum with
  | nil => exact (Except.ok.inj settled).symm
  | cons id rest ih =>
    rw [Preparation.ask, Resolving.settle] at settled
    cases answered : answer id with
    | error escape =>
      rw [answered] at settled
      cases settled
    | ok verdict =>
      rw [answered] at settled
      have same : verdictOf answer id = verdict := by rw [verdictOf, answered]; rfl
      rw [List.foldl_cons, same]
      exact ih settled

/-- **A prepared tree that is resolved with one value for each name**: a script is filled in, and a
prepared text has the sum of one verdict for each reference. -/
def PreparedTree.FilledTo : PreparedTree → PreparedResolved → Prop
  | .script nodes, .script pieces => ∃ value, pieces = Script.filledAll value nodes
  | .prepared text plan, .prepared text' plan' sum =>
    text' = text ∧ plan' = plan ∧ ∃ verdict, sum = .ofVerdicts verdict plan.references
  | _, _ => False

namespace Toolchain

variable {τ ρ σ : Type}

/-- **A resolved tree is settled by a table**: there is one verdict for each script, and the
resolver gets it as often as it asks. -/
def SettledBy (T : Toolchain τ ρ σ) (tree : τ) (resolved : ρ) : Prop :=
  ∃ data env answer, (T.resolve data env tree).settle answer = .ok resolved

/-- What the artifacts of a result have in common with their tree. -/
def ResolvedOnce (T : Toolchain τ ρ σ) (result : Result τ ρ σ) : Prop :=
  ∀ resolved, result.artifacts.resolve = some resolved →
    ∃ tree, result.artifacts.parse = some tree ∧ T.SettledBy tree resolved

/-- **Every resolved tree of a result is settled by a table.** -/
theorem inherited_resolvedOnce (T : Toolchain τ ρ σ) : T.Inherited T.ResolvedOnce where
  refused message := fun _ found => nomatch found
  text ends := by
    intro resolved found
    cases ends with
    | unparsed parsed => cases found
    | unresolved parsed settled collected =>
      cases found
      exact ⟨_, rfl, _, _, _, settled⟩
    | @reduced _ _ reduction parsed settled collected reduces =>
      cases reduction with
      | bytecode value states => cases found; exact ⟨_, rfl, _, _, _, settled⟩
      | errors first others states => cases found; exact ⟨_, rfl, _, _, _, settled⟩
  transformed {raw transform result} before wrapper := by
    cases result with
    | success outcome => exact before
    | failure outcome => exact wrapper

theorem exists_filledAll_of_settledBy {tree : List Script.Node} {pieces : List Script.Resolved}
    (settled : standard.SettledBy tree pieces) : ∃ value, pieces = Script.filledAll value tree := by
  obtain ⟨data, env, answer, settled⟩ := settled
  exact ⟨Script.nameValue data env answer, Script.eq_filledAll_of_settle settled⟩

theorem filledTo_of_settledBy {plans : Plans} {tree : PreparedTree} {resolved : PreparedResolved}
    (settled : (prepared plans).SettledBy tree resolved) : tree.FilledTo resolved := by
  obtain ⟨data, env, answer, settled⟩ := settled
  cases tree with
  | script nodes =>
    obtain ⟨pieces, inner, same⟩ := bind_eq_ok_iff.mp
      ((Resolving.settle_bind answer _ _).symm.trans settled)
    cases same
    exact exists_filledAll_of_settledBy ⟨data, env, answer, inner⟩
  | prepared text plan =>
    by_cases explodes : plan.explodesAt = some .resolve
    · simp only [prepared, explodes, if_true] at settled
      cases settled
    · simp only [prepared, explodes, if_false, Resolving.settle_bind] at settled
      obtain ⟨sum, asked, same⟩ := bind_eq_ok_iff.mp settled
      cases same
      exact ⟨rfl, rfl, verdictOf answer, settle_ask asked⟩

end Toolchain

/-! ## 4. Two runs -/

/-- **The outcome of a compilation does not depend on its surroundings.**  It is the same from any
two surroundings, results with their artifacts and escapes alike; so it is the same again after any
other compilations, however these end.  In its resolved tree every reference has one verdict.  In
the script language every name has one value, whichever of its places is looked at, and so it has
with a prepared toolchain. -/
theorem Request.perform_unaffected {τ ρ σ : Type} (T : Toolchain τ ρ σ) (data : Data)
    (env : Environment) (request : Request) (here : Ambient) :
    (∀ there, ((request.perform T data env).run there).1 =
      ((request.perform T data env).run here).1) ∧
    (∀ others : List Compilation,
      ((request.perform T data env).run
          (Compilation.leave ((request.perform T data env).run here).2 others)).1 =
        ((request.perform T data env).run here).1) ∧
    (∀ result resolved, ((request.perform T data env).run here).1 = .ok result →
      result.artifacts.resolve = some resolved →
        ∃ tree, result.artifacts.parse = some tree ∧ T.SettledBy tree resolved) ∧
    (∀ tree pieces, Toolchain.standard.SettledBy tree pieces →
      ∃ value, pieces = Script.filledAll value tree) ∧
    ∀ plans tree resolved, (Toolchain.prepared plans).SettledBy tree resolved →
      tree.FilledTo resolved := by
  have yields := request.yields_perform T data env
  have same (one other : Ambient) : ((request.perform T data env).run one).1 =
      ((request.perform T data env).run other).1 := (yields one).trans (yields other).symm
  refine ⟨fun there => same there here, fun others => same _ here, ?_,
    fun _ _ => Toolchain.exists_filledAll_of_settledBy,
    fun _ _ _ => Toolchain.filledTo_of_settledBy⟩
  intro result resolved returned found
  exact T.inherited_resolvedOnce.outcome (yields.eq_of_run returned) resolved found

/-- A script that a text may refer to more than once. -/
def sharedEnvironment : Environment where
  scripts := [("b", some "0xab")]

/-- The tree of a text that names the script twice. -/
def sharedTree : List Script.Node := [
  .identifier "b" ⟨1, 1, 1, 2⟩,
  .group .push [.identifier "b" ⟨1, 4, 1, 5⟩] ⟨1, 3, 1, 6⟩]

/-- The same with both names resolved. -/
def sharedPieces : List Script.Resolved := [
  .bytecode [0xab] ⟨1, 1, 1, 2⟩,
  .group .push [.bytecode [0xab] ⟨1, 4, 1, 5⟩] ⟨1, 3, 1, 6⟩]

/-- A compilation that escapes midway. -/
def escapingCompilation : Compilation where
  toolchain := .standard
  data := {}
  environment := { scripts := [("a", some "$(0x4c)")] }
  request := .script "a"

/-- A text that names a script twice has one value for both places, and the same result again after
a compilation that escapes. -/
theorem Request.perform_unaffected_shared :
    ∃ result value,
      (((Request.body "b <b>").perform .standard {} sharedEnvironment).run default).1 =
        .ok result ∧
      (((Request.body "b <b>").perform .standard {} sharedEnvironment).run
        (Compilation.leave
          (((Request.body "b <b>").perform .standard {} sharedEnvironment).run default).2
          [escapingCompilation])).1 = .ok result ∧
      result.artifacts.resolve = some sharedPieces ∧
      sharedPieces = Script.filledAll value sharedTree := by
  obtain ⟨-, again, once, filled, -⟩ :=
    perform_unaffected .standard {} sharedEnvironment (.body "b <b>") default
  have outcome : Toolchain.standard.textOutcome {} sharedEnvironment "b <b>" =
      .ok (.success {
        bytecode := [0xab, 0x01, 0xab]
        artifacts := ⟨some sharedTree, some sharedPieces,
          some (.bytecode [0xab, 0x01, 0xab] (some []))⟩ }) := by cbv
  have returned :=
    (Toolchain.standard.yields_compileText {} sharedEnvironment "b <b>" default).trans outcome
  obtain ⟨tree, parsed, settled⟩ := once _ sharedPieces returned rfl
  obtain rfl := Option.some.inj parsed
  obtain ⟨value, same⟩ := filled sharedTree sharedPieces settled
  exact ⟨_, value, returned, (again _).trans returned, rfl, same⟩

end ScriptTemplate
