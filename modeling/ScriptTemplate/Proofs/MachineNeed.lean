/-
# What a machine is needed for

An environment may lack the machine, or the constructor of its states.  Then evaluations cannot run,
and a script that holds one does not compile.  Nothing else changes.

`NeedsMachine` says that a script holds an evaluation, at any depth of its text, or leads to a
script that does.

* A script that does not need a machine comes to the same with any capabilities, its failures and
  escapes included (`referenceOutcome_equipped`).
* A script that compiles without one does not need it (`not_needsMachine_of_success`): an evaluation
  leaves an error in the text it stands in, and the error of a reference stops the text around it.

A text that does not parse holds no evaluation here.  It is the same with and without a machine.
-/
import Mathlib
import ScriptTemplate.Proofs.AmbientIndependence
import ScriptTemplate.Proofs.AncestryIndependence
import ScriptTemplate.Proofs.EvaluationAccounts

namespace ScriptTemplate

/-- The environment with other evaluation capabilities. -/
def Environment.equipped (env : Environment) (capabilities : Capabilities) : Environment :=
  { env with capabilities }

namespace Script

/-! ## 1. Trees with evaluations -/

mutual

/-- Whether a piece is an evaluation or holds one. -/
def Node.evaluates : Node → Bool
  | .identifier .. => false
  | .hex .. => false
  | .group .push items _ => evaluatesAny items
  | .group .evaluation _ _ => true

/-- Whether there is an evaluation in a row of pieces, at any depth. -/
def evaluatesAny : List Node → Bool
  | [] => false
  | node :: rest => node.evaluates || evaluatesAny rest

end

/-- **A script needs a machine**: an evaluation stands in its text, or in the text of a script that
it leads to. -/
def NeedsMachine (env : Environment) (id : Text) : Prop :=
  ∃ script text tree, Reaches env id script ∧ env.script? script = some text ∧
    parse text = .ok tree ∧ evaluatesAny tree

/-- What a script refers to needs no machine that the script itself does not need. -/
theorem NeedsMachine.of_refers {env : Environment} {id next : Text} (refers : Refers env id next)
    (needs : NeedsMachine env next) : NeedsMachine env id := by
  obtain ⟨script, text, tree, reached, found⟩ := needs
  exact ⟨script, text, tree, .head refers reached, found⟩

section Filling

variable {value : Text → Resolved}

theorem evaluations_movedTo {piece : Resolved} (plain : piece.evaluations = [])
    (range : SourceRange) : (piece.movedTo range).evaluations = [] := by
  cases piece with
  | bytecode bytes place => simp [Resolved.movedTo, Resolved.evaluations]
  | error message place => simp [Resolved.movedTo, Resolved.evaluations]
  | group bracket items place =>
    cases bracket with
    | push => simpa [Resolved.movedTo, Resolved.evaluations] using plain
    | evaluation => simp [Resolved.evaluations] at plain

mutual

theorem evaluations_filled (plain : ∀ name, (value name).evaluations = []) :
    ∀ node : Node, (node.filled value).evaluations = [] ↔ node.evaluates = false
  | .identifier name range => by
    simp [Node.filled, Node.evaluates, evaluations_movedTo (plain name)]
  | .hex bytes range => by simp [Node.filled, Node.evaluates, Resolved.evaluations]
  | .group .push items range => by
    rw [Node.filled, Node.evaluates, Resolved.evaluations]
    exact evaluationsAll_filledAll plain items
  | .group .evaluation items range => by
    simp [Node.filled, Node.evaluates, Resolved.evaluations]

/-- **Filling in names adds no evaluations and takes none away.** -/
theorem evaluationsAll_filledAll (plain : ∀ name, (value name).evaluations = []) :
    ∀ nodes : List Node, evaluationsAll (filledAll value nodes) = [] ↔ evaluatesAny nodes = false
  | [] => by simp [filledAll, evaluationsAll, evaluatesAny]
  | node :: rest => by
    rw [filledAll, evaluationsAll, evaluatesAny, List.append_eq_nil_iff, Bool.or_eq_false_iff,
      evaluations_filled plain node, evaluationsAll_filledAll plain rest]

end

end Filling

/-- A name stands for no evaluation. -/
theorem evaluations_nameValue (data : Data) (env : Environment)
    (answer : Text → Except Escape Verdict) (name : Text) :
    (nameValue data env answer name).evaluations = [] := by
  unfold nameValue settledName
  cases meaning data env name with
  | script =>
    cases answer name with
    | error escape => rfl
    | ok verdict => cases verdict <;> rfl
  | _ => rfl

/-- **A tree has the evaluations that it had before its names were resolved.** -/
theorem evaluationsAll_eq_nil_iff {data : Data} {env : Environment}
    {answer : Text → Except Escape Verdict} {nodes : List Node} {pieces : List Resolved}
    (settled : (resolveAll data env nodes).settle answer = .ok pieces) :
    evaluationsAll pieces = [] ↔ evaluatesAny nodes = false := by
  rw [eq_filledAll_of_settle settled]
  exact evaluationsAll_filledAll (evaluations_nameValue data env answer) nodes

/-! ## 2. Rows without evaluations -/

section Gathering

variable {capabilities other : Capabilities}

mutual

theorem gather_congr_of_evaluations :
    ∀ {piece : Resolved}, piece.evaluations = [] →
      piece.gather capabilities = piece.gather other
  | .bytecode value range, _ => by rw [gather_bytecode, gather_bytecode]
  | .error message range, _ => by rw [Resolved.gather, Resolved.gather]
  | .group .push items range, absent => by
    rw [Resolved.evaluations] at absent
    rw [gather_group, gather_group, gatherAll_congr_of_evaluations absent]
    rfl
  | .group .evaluation items range, absent => by simp [Resolved.evaluations] at absent

/-- **A row without evaluations gathers the same with any capabilities.** -/
theorem gatherAll_congr_of_evaluations :
    ∀ {pieces : List Resolved}, evaluationsAll pieces = [] →
      gatherAll capabilities pieces = gatherAll other pieces
  | [], _ => by rw [gatherAll_nil, gatherAll_nil]
  | piece :: rest, absent => by
    rw [evaluationsAll, List.append_eq_nil_iff] at absent
    rw [gatherAll_cons, gatherAll_cons, gather_congr_of_evaluations absent.1,
      gatherAll_congr_of_evaluations absent.2]

end

end Gathering

end Script

namespace Toolchain

open Script

variable {data : Data} {env : Environment} {id text : Text} {success : ScriptSuccess}

/-! ## 3. Scripts that need no machine -/

/-- A text without evaluations comes to the same with any capabilities, if its references do. -/
theorem textOutcome_equipped {tree : List Node} {capabilities : Capabilities}
    (parsed : Script.parse text = .ok tree) (none : evaluatesAny tree = false)
    (verdicts : ∀ name ∈ namesAll tree, IsReference env name →
      standard.verdictOutcome data (env.equipped capabilities) name =
        standard.verdictOutcome data env name) :
    standard.textOutcome data (env.equipped capabilities) text =
      standard.textOutcome data env text := by
  have resolved : (resolveAll data (env.equipped capabilities) tree).settle
      (standard.verdictOutcome data (env.equipped capabilities)) =
        (resolveAll data env tree).settle (standard.verdictOutcome data env) :=
    settle_verdictOutcome_congr (fun _ _ => rfl) verdicts
  rw [textOutcome_of_parsed parsed, textOutcome_of_parsed parsed, resolved]
  cases settled : (resolveAll data env tree).settle (standard.verdictOutcome data env) with
  | error escape => rfl
  | ok pieces =>
    have gathered : gatherAll capabilities pieces = gatherAll env.capabilities pieces :=
      gatherAll_congr_of_evaluations ((evaluationsAll_eq_nil_iff settled).mpr none)
    show standard.resolvedOutcome (env.equipped capabilities) tree pieces =
      standard.resolvedOutcome env tree pieces
    cases collected : collectErrors pieces with
    | nil =>
      rw [resolvedOutcome_of_collected collected, resolvedOutcome_of_collected collected]
      exact congrArg _ gathered
    | cons first others =>
      rw [resolvedOutcome_of_errors collected, resolvedOutcome_of_errors collected]

/-- **A script that needs no machine comes to the same with any capabilities.** -/
theorem referenceOutcome_equipped (spared : ¬ NeedsMachine env id) (capabilities : Capabilities) :
    standard.referenceOutcome data (env.equipped capabilities) id =
      standard.referenceOutcome data env id := by
  induction hp : env.pending using Nat.strongRecOn generalizing env id with
  | ind pending ih =>
    have same : (env.equipped capabilities).locate id = env.locate id := rfl
    cases located : env.locate id with
    | error refusal =>
      rw [standard.referenceOutcome_of_refused data located,
        standard.referenceOutcome_of_refused data (same.trans located)]
    | ok text =>
      rw [standard.referenceOutcome_of_located data located,
        standard.referenceOutcome_of_located data (same.trans located)]
      cases parsed : Script.parse text with
      | error failure => rw [textOutcome_of_unparsed parsed, textOutcome_of_unparsed parsed]
      | ok tree =>
        have there := (Environment.of_locate located).1
        have none : evaluatesAny tree = false := by
          by_contra some
          exact spared ⟨id, text, tree, .refl, there, parsed, by simpa using some⟩
        have inside : (env.equipped capabilities).descend id =
            (env.descend id).equipped capabilities := rfl
        rw [inside]
        refine textOutcome_equipped parsed none fun name member reference => ?_
        have refers : Refers env id name := ⟨text, tree, there, parsed, member, reference⟩
        have sparedBelow : ¬ NeedsMachine (env.descend id) name :=
          fun needs => spared (.of_refers refers needs)
        have below := ih _ (hp ▸ Environment.pending_descend_lt located) sparedBelow rfl
        rw [verdictOutcome, verdictOutcome, below]

/-! ## 4. Scripts that compile without a machine -/

/-- A text that compiles without a machine holds no evaluation. -/
theorem not_evaluatesAny_of_success {tree : List Node}
    (unable : ¬ env.capabilities.canEvaluate)
    (h : standard.textOutcome data env text = .ok (.success success))
    (parsed : Script.parse text = .ok tree) : evaluatesAny tree = false := by
  obtain ⟨tree', pieces, gathered, parsed', settled, collected, reduced, none, -⟩ :=
    of_textOutcome_success h
  obtain rfl : tree = tree' := Except.ok.inj (parsed.symm.trans parsed')
  have refuses := (kept_refuses unable).gatherAll (isCleanAll_iff.mpr collected) reduced
  rw [refuses.errors, List.map_eq_nil_iff] at none
  exact (evaluationsAll_eq_nil_iff settled).mp none

/-- **A script that compiles without a machine does not need one.** -/
theorem not_needsMachine_of_success (unable : ¬ env.capabilities.canEvaluate)
    (h : standard.referenceOutcome data env id = .ok (.success success)) :
    ¬ NeedsMachine env id := by
  induction hp : env.pending using Nat.strongRecOn generalizing env id success with
  | ind pending ih =>
    rintro ⟨script, text, tree, reached, there, parsed, evaluates⟩
    obtain ⟨found, located, compiled⟩ := of_referenceOutcome_success h
    have unable : ¬ (env.descend id).capabilities.canEvaluate := unable
    rcases reached.cases_head with rfl | ⟨next, refers, reached⟩
    · obtain rfl : text = found :=
        Option.some.inj (there.symm.trans (Environment.of_locate located).1)
      rw [not_evaluatesAny_of_success unable compiled parsed] at evaluates
      cases evaluates
    · -- The evaluation stands further on, and the script referred to compiles one level down.
      obtain ⟨inner, below⟩ := success_of_refers h refers
      exact ih _ (hp ▸ Environment.pending_descend_lt located) unable below rfl
        ⟨script, text, tree, reached, there, parsed, evaluates⟩

/-! ## 5. With and without -/

/-- **A machine is needed exactly for evaluations.**  With the machine or the state constructor left
out, a script compiles exactly if it compiles with both of them and no evaluation stands in its text
or in that of a script that it leads to; and then it compiles to the same, artifacts included. -/
theorem compileReference_without_machine (data : Data) (env : Environment) (id : Text)
    (lacking : Capabilities) (unable : ¬ lacking.canEvaluate) (success : ScriptSuccess)
    (here there : Ambient) :
    ((standard.compileReference data (env.equipped lacking) id).run here).1 =
        .ok (.success success) ↔
      ((standard.compileReference data (env.equipped ⟨true, true⟩) id).run there).1 =
          .ok (.success success) ∧
        ¬ NeedsMachine env id := by
  rw [standard.yields_compileReference data (env.equipped lacking) id here,
    standard.yields_compileReference data (env.equipped ⟨true, true⟩) id there]
  constructor
  · intro h
    have spared : ¬ NeedsMachine (env.equipped lacking) id := not_needsMachine_of_success unable h
    exact ⟨(referenceOutcome_equipped spared ⟨true, true⟩).trans h, spared⟩
  · rintro ⟨h, spared⟩
    have equipped : ¬ NeedsMachine (env.equipped ⟨true, true⟩) id := spared
    exact (referenceOutcome_equipped equipped lacking).trans h

/-- A script that pushes another one, and one that leads to an evaluation inside a push. -/
def partlyEvaluating : Environment where
  scripts := [("plain", some "<data> OP_1"), ("data", some "0xabcd"), ("hidden", some "deep"),
    ("deep", some "<0x00 $(<data>)>")]

/-- The evaluation two references away stops its script, and only without a machine; the script
beside it compiles to the same either way. -/
theorem compileReference_without_machine_partly :
    (∃ success : ScriptSuccess, success.bytecode = [0x02, 0xab, 0xcd, 0x51] ∧
      ((standard.compileReference {} (partlyEvaluating.equipped ⟨false, true⟩) "plain").run
        default).1 = .ok (.success success) ∧
      ((standard.compileReference {} (partlyEvaluating.equipped ⟨true, true⟩) "plain").run
        default).1 = .ok (.success success)) ∧
    (∃ success : ScriptSuccess, success.bytecode = [0x03, 0x00, 0xab, 0xcd] ∧
      ((standard.compileReference {} (partlyEvaluating.equipped ⟨true, true⟩) "hidden").run
        default).1 = .ok (.success success)) ∧
    ∀ success : ScriptSuccess,
      ((standard.compileReference {} (partlyEvaluating.equipped ⟨true, false⟩) "hidden").run
        default).1 ≠ .ok (.success success) := by
  refine ⟨?_, ?_, ?_⟩
  · obtain ⟨success, outcome, bytecode⟩ := map_verdict_eq_ok_iff.mp
      (show standard.verdictOutcome {} (partlyEvaluating.equipped ⟨false, true⟩) "plain" =
        .ok (.ok [0x02, 0xab, 0xcd, 0x51]) by cbv)
    have bare := (standard.yields_compileReference {} (partlyEvaluating.equipped ⟨false, true⟩)
      "plain" default).trans outcome
    have both := (compileReference_without_machine {} partlyEvaluating "plain" ⟨false, true⟩
      (by decide) success default default).mp bare
    exact ⟨success, bytecode, bare, both.1⟩
  · obtain ⟨success, outcome, bytecode⟩ := map_verdict_eq_ok_iff.mp
      (show standard.verdictOutcome {} (partlyEvaluating.equipped ⟨true, true⟩) "hidden" =
        .ok (.ok [0x03, 0x00, 0xab, 0xcd]) by cbv)
    exact ⟨success, bytecode, (standard.yields_compileReference {}
      (partlyEvaluating.equipped ⟨true, true⟩) "hidden" default).trans outcome⟩
  · intro success bare
    have refers : Refers partlyEvaluating "hidden" "deep" :=
      ⟨"deep", [.identifier "deep" ⟨1, 1, 1, 5⟩], by cbv, by cbv, by decide, by decide,
        by simp [partlyEvaluating], by decide⟩
    obtain ⟨tree, parsed, evaluates⟩ : ∃ tree, Script.parse "<0x00 $(<data>)>" = .ok tree ∧
        evaluatesAny tree := ⟨_, by cbv, by cbv⟩
    have both := (compileReference_without_machine {} partlyEvaluating "hidden" ⟨true, false⟩
      (by decide) success default default).mp bare
    exact both.2 ⟨"deep", _, tree, .single refers, by cbv, parsed, evaluates⟩

end Toolchain

end ScriptTemplate
