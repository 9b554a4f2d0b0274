/-
# What a reduction tells of evaluations

Reducing runs every evaluation of a resolved script, also those inside pushes and inside other
evaluations.  It does not stop where one fails: such an evaluation puts out nothing, and the code
around it is run all the same, shorter by what is missing.  So a reduction keeps an account of each
evaluation, and this file says that none is left out and none is doubled.

* `evaluationsAll` lists the evaluations of a tree, in the order in which their brackets close.
* `PutsOut` gives a row of pieces its bytes by rules, and `Ran` gives an evaluation the state that
  its run ends in.  Neither mentions what reducing gathers.
* `reduce_accounts_for_evaluations`: the states of a reduction are those of the evaluations, one
  for each and in this order; the errors are those of the evaluations that failed.  Where nothing
  can be run there are no states, and an error for each evaluation.

The accounts are kept by induction over what is gathered (`Kept`).  Trees with an error in the place
of a name are left out, since nothing ever reduces them.
-/
import Mathlib
import ScriptTemplate.Proofs.Gathering

/-! ## 1. Final states -/

namespace ScriptTemplate.Machine.State

/-- Whether an evaluation that ends in this state has failed: the machine stopped early, or it left
nothing on the stack. -/
def failed (state : State) : Bool := state.fault.isSome || state.stack.isEmpty

/-- What an evaluation that ends in this state puts out: the top item, unless it has failed. -/
def result (state : State) : Bytes := if state.failed then [] else state.stack.headD []

/-- Why an evaluation that ends in this state has failed. -/
def complaint (state : State) : Text :=
  match state.fault with
  | some fault => "Failed to reduce evaluation: " ++ fault.message
  | none => Script.nothingLeftMessage

end ScriptTemplate.Machine.State

namespace ScriptTemplate.Script

/-- **A final state comes to its result, unless it has failed.** -/
theorem evaluated_eq (state : Machine.State) :
    evaluated state = if state.failed then .error state.complaint else .ok state.result := by
  obtain ⟨stack, read, fault⟩ := state
  cases fault with
  | some fault => rfl
  | none => cases stack <;> rfl

/-! ## 2. Evaluations -/

/-- An evaluation of a resolved tree: what stands between its brackets, and where it stands. -/
structure Evaluation where
  items : List Resolved
  range : SourceRange
deriving DecidableEq, Repr, Inhabited

mutual

/-- The evaluations in a piece, in the order in which their brackets close: those inside come before
the one around them. -/
def Resolved.evaluations : Resolved → List Evaluation
  | .bytecode .. => []
  | .error .. => []
  | .group .push items _ => evaluationsAll items
  | .group .evaluation items range => evaluationsAll items ++ [⟨items, range⟩]

/-- The evaluations in a row of pieces, in the order in which their brackets close. -/
def evaluationsAll : List Resolved → List Evaluation
  | [] => []
  | piece :: rest => piece.evaluations ++ evaluationsAll rest

end

mutual

/-- Whether no name of a piece has left an error. -/
def Resolved.isClean : Resolved → Bool
  | .bytecode .. => true
  | .error .. => false
  | .group _ items _ => isCleanAll items

/-- Whether no name of a row of pieces has left an error. -/
def isCleanAll : List Resolved → Bool
  | [] => true
  | piece :: rest => piece.isClean && isCleanAll rest

end

mutual

theorem isClean_iff : ∀ {piece : Resolved}, piece.isClean ↔ piece.errors = []
  | .bytecode value range => by simp [Resolved.isClean, Resolved.errors]
  | .error message range => by simp [Resolved.isClean, Resolved.errors]
  | .group bracket items range => by
    rw [Resolved.isClean, Resolved.errors]
    exact isCleanAll_iff

/-- **A row is clean exactly if no error is collected from it.** -/
theorem isCleanAll_iff : ∀ {pieces : List Resolved}, isCleanAll pieces ↔ collectErrors pieces = []
  | [] => by simp [isCleanAll, collectErrors]
  | piece :: rest => by
    rw [isCleanAll, collectErrors, Bool.and_eq_true, List.append_eq_nil_iff, isClean_iff,
      isCleanAll_iff]

end

/-- **What a row of pieces puts out**, where evaluations can run.  An evaluation puts out the result
of its final state, which is nothing if it failed. -/
inductive PutsOut : List Resolved → Bytes → Prop
  | nil : PutsOut [] []
  | bytecode {value more : Bytes} {range : SourceRange} {pieces : List Resolved}
    (rest : PutsOut pieces more) : PutsOut (.bytecode value range :: pieces) (value ++ more)
  | push {items pieces : List Resolved} {range : SourceRange} {inner more : Bytes}
    (inside : PutsOut items inner) (small : inner.length < Push.sizeLimit)
    (rest : PutsOut pieces more) :
    PutsOut (.group .push items range :: pieces) (Push.encode inner ++ more)
  | evaluation {items pieces : List Resolved} {range : SourceRange} {code more : Bytes}
    {state : Machine.State} (inside : PutsOut items code) (ran : Machine.run [] code = some state)
    (rest : PutsOut pieces more) :
    PutsOut (.group .evaluation items range :: pieces) (state.result ++ more)

/-- **The state that an evaluation ends in**: the machine is run, on an empty stack, with what
stands between the brackets. -/
def Ran (evaluation : Evaluation) (state : Machine.State) : Prop :=
  ∃ code, PutsOut evaluation.items code ∧ Machine.run [] code = some state

/-- The errors of evaluations that ended in the given states: one for each that failed, where it
stands. -/
def complaints (evaluations : List Evaluation) (states : List Machine.State) : List Diagnostic :=
  ((evaluations.zip states).filter fun run => run.2.failed).map fun run =>
    ⟨run.2.complaint, run.1.range⟩

/-- The error of an evaluation that cannot be run. -/
def unableToRun (evaluation : Evaluation) : Diagnostic := ⟨noMachineMessage, evaluation.range⟩

section Lists

variable {evaluations more : List Evaluation} {states others : List Machine.State}

theorem complaints_append (h : evaluations.length = states.length) :
    complaints (evaluations ++ more) (states ++ others) =
      complaints evaluations states ++ complaints more others := by
  unfold complaints
  rw [List.zip_append h, List.filter_append, List.map_append]

theorem complaints_singleton (evaluation : Evaluation) (state : Machine.State) :
    complaints [evaluation] [state] =
      if state.failed then [⟨state.complaint, evaluation.range⟩] else [] := by
  cases failed : state.failed <;> simp [complaints, failed]

/-- There is no complaint exactly if no evaluation failed. -/
theorem complaints_eq_nil_iff (h : evaluations.length = states.length) :
    complaints evaluations states = [] ↔ ∀ state ∈ states, state.failed = false := by
  have seconds : (evaluations.zip states).map Prod.snd = states :=
    List.map_snd_zip (Nat.le_of_eq h.symm)
  unfold complaints
  rw [List.map_eq_nil_iff, List.filter_eq_nil_iff]
  constructor
  · intro none state member
    rw [← seconds] at member
    obtain ⟨run, among, rfl⟩ := List.mem_map.mp member
    simpa using none run among
  · intro none run among
    have member : run.2 ∈ states := seconds ▸ List.mem_map_of_mem among
    simp [none run.2 member]

end Lists

/-! ## 3. What gathering keeps -/

/-- **A relation that gathering keeps**: it holds of bytecode, of rows whose first piece and whose
others have it, and of a group once the bracket around its items is closed. -/
structure Kept (capabilities : Capabilities) (Related : List Resolved → Gathered → Prop) :
    Prop where
  nil : Related [] {}
  bytecode (value : Bytes) (range : SourceRange) :
    Related [.bytecode value range] { output := value }
  cons {piece : Resolved} {rest : List Resolved} {first others : Gathered}
    (front : Related [piece] first) (back : Related rest others) :
    Related (piece :: rest) (first ++ others)
  group {bracket : Bracket} {items : List Resolved} {range : SourceRange} {inner closed : Gathered}
    (inside : Related items inner)
    (closing : closeGroup capabilities bracket range inner = .ok closed) :
    Related [.group bracket items range] closed

namespace Kept

variable {capabilities : Capabilities} {Related : List Resolved → Gathered → Prop}

mutual

theorem gather (kept : Kept capabilities Related) :
    ∀ {piece : Resolved} {gathered : Gathered}, piece.isClean →
      piece.gather capabilities = .ok gathered → Related [piece] gathered
  | .bytecode value range, gathered, _, h => by
    rw [gather_bytecode] at h
    cases h
    exact kept.bytecode value range
  | .error message range, gathered, clean, _ => by simp [Resolved.isClean] at clean
  | .group bracket items range, gathered, clean, h => by
    rw [Resolved.isClean] at clean
    rw [gather_group, bind_eq_ok_iff] at h
    obtain ⟨inner, inside, closing⟩ := h
    exact kept.group (kept.gatherAll clean inside) closing

/-- **What gathering keeps holds of every row and what it gathers.** -/
theorem gatherAll (kept : Kept capabilities Related) :
    ∀ {pieces : List Resolved} {gathered : Gathered}, isCleanAll pieces →
      Script.gatherAll capabilities pieces = .ok gathered → Related pieces gathered
  | [], gathered, _, h => by
    rw [gatherAll_nil] at h
    cases h
    exact kept.nil
  | piece :: rest, gathered, clean, h => by
    rw [isCleanAll, Bool.and_eq_true] at clean
    obtain ⟨first, others, hf, ho, rfl⟩ := exists_of_gatherAll_cons h
    exact kept.cons (kept.gather clean.1 hf) (kept.gatherAll clean.2 ho)

end

end Kept

/-! ## 4. Accounts where evaluations run -/

/-- **The account of a row**: it puts out the output, and its evaluations account for the states and
the errors. -/
structure Accounts (pieces : List Resolved) (gathered : Gathered) : Prop where
  output : PutsOut pieces gathered.output
  states : List.Forall₂ Ran (evaluationsAll pieces) gathered.states
  errors : gathered.errors = complaints (evaluationsAll pieces) gathered.states

@[simp] theorem evaluationsAll_singleton (piece : Resolved) :
    evaluationsAll [piece] = piece.evaluations := by
  simp [evaluationsAll]

/-- Rows after each other put out their bytes after each other. -/
theorem PutsOut.append {pieces rest : List Resolved} {bytes more : Bytes}
    (front : PutsOut pieces bytes) (back : PutsOut rest more) :
    PutsOut (pieces ++ rest) (bytes ++ more) := by
  induction front with
  | nil => exact back
  | bytecode _ ih => rw [List.append_assoc]; exact .bytecode ih
  | push inside small _ _ ih => rw [List.append_assoc]; exact .push inside small ih
  | evaluation inside ran _ _ ih => rw [List.append_assoc]; exact .evaluation inside ran ih

namespace Accounts

theorem cons {piece : Resolved} {rest : List Resolved} {first others : Gathered}
    (front : Accounts [piece] first) (back : Accounts rest others) :
    Accounts (piece :: rest) (first ++ others) := by
  have states := front.states
  have errors := front.errors
  rw [evaluationsAll_singleton] at states errors
  refine ⟨front.output.append back.output, ?_, ?_⟩
  · rw [evaluationsAll, Gathered.states_append]
    exact List.rel_append states back.states
  · rw [evaluationsAll, Gathered.errors_append, Gathered.states_append,
      complaints_append states.length_eq, errors, back.errors]

/-- Closing a push adds nothing to the account. -/
theorem push {items : List Resolved} {inner : Gathered} (inside : Accounts items inner)
    (small : inner.output.length < Push.sizeLimit) (range : SourceRange) :
    Accounts [.group .push items range] { inner with output := Push.encode inner.output } := by
  have output : PutsOut [.group .push items range] (Push.encode inner.output ++ []) :=
    .push inside.output small .nil
  rw [List.append_nil] at output
  refine ⟨output, ?_, ?_⟩
  · rw [evaluationsAll_singleton, Resolved.evaluations]
    exact inside.states
  · rw [evaluationsAll_singleton, Resolved.evaluations]
    exact inside.errors

/-- **Closing an evaluation adds its state, and its error if it failed.** -/
theorem evaluation {items : List Resolved} {inner : Gathered} (inside : Accounts items inner)
    {state : Machine.State} (ran : Machine.run [] inner.output = some state)
    (range : SourceRange) :
    Accounts [.group .evaluation items range]
      ⟨state.result, inner.errors ++ complaints [⟨items, range⟩] [state],
        inner.states ++ [state]⟩ := by
  have output : PutsOut [.group .evaluation items range] (state.result ++ []) :=
    .evaluation inside.output ran .nil
  rw [List.append_nil] at output
  have own : List.Forall₂ Ran [⟨items, range⟩] [state] :=
    .cons ⟨inner.output, inside.output, ran⟩ .nil
  refine ⟨output, ?_, ?_⟩
  · rw [evaluationsAll_singleton, Resolved.evaluations]
    exact List.rel_append inside.states own
  · rw [evaluationsAll_singleton, Resolved.evaluations,
      complaints_append inside.states.length_eq, inside.errors]

end Accounts

/-- What closing an evaluation gathers, where it can run. -/
theorem closeEvaluation_of_able {capabilities : Capabilities} (able : capabilities.canEvaluate)
    {range : SourceRange} {inner closed : Gathered}
    (closing : closeEvaluation capabilities range inner = .ok closed) (items : List Resolved) :
    ∃ state, Machine.run [] inner.output = some state ∧
      closed = ⟨state.result, inner.errors ++ complaints [⟨items, range⟩] [state],
        inner.states ++ [state]⟩ := by
  rw [closeEvaluation, if_pos able] at closing
  cases ran : Machine.run [] inner.output with
  | none =>
    rw [ran] at closing
    cases closing
  | some state =>
    refine ⟨state, rfl, ?_⟩
    simp only [ran, evaluated_eq] at closing
    rw [complaints_singleton]
    cases failed : state.failed with
    | true =>
      have nothing : state.result = [] := by simp [Machine.State.result, failed]
      simp only [failed, if_true] at closing ⊢
      rw [nothing]
      exact (Except.ok.inj closing).symm
    | false =>
      simp only [failed, Bool.false_eq_true, if_false, List.append_nil] at closing ⊢
      exact (Except.ok.inj closing).symm

/-- **Gathering keeps accounts.** -/
theorem kept_accounts {capabilities : Capabilities} (able : capabilities.canEvaluate) :
    Kept capabilities Accounts where
  nil := ⟨.nil, by simp [evaluationsAll], by simp [evaluationsAll, complaints]⟩
  bytecode value range := by
    have output : PutsOut [.bytecode value range] (value ++ []) := .bytecode .nil
    rw [List.append_nil] at output
    exact ⟨output, by simp [Resolved.evaluations], by simp [Resolved.evaluations, complaints]⟩
  cons := .cons
  group {bracket items range inner closed} inside closing := by
    cases bracket with
    | push =>
      simp only [closeGroup, closePush] at closing
      split at closing
      · next small =>
        cases closing
        exact inside.push small range
      · cases closing
    | evaluation =>
      obtain ⟨state, ran, rfl⟩ := closeEvaluation_of_able able closing items
      exact inside.evaluation ran range

/-! ## 5. Accounts where nothing runs -/

/-- The account of a row whose evaluations cannot be run: no state, and an error for each. -/
structure Refuses (pieces : List Resolved) (gathered : Gathered) : Prop where
  states : gathered.states = []
  errors : gathered.errors = (evaluationsAll pieces).map unableToRun

/-- **Without a machine, gathering keeps an error for each evaluation.** -/
theorem kept_refuses {capabilities : Capabilities} (unable : ¬ capabilities.canEvaluate) :
    Kept capabilities Refuses where
  nil := ⟨rfl, by simp [evaluationsAll]⟩
  bytecode value range := ⟨rfl, by simp [Resolved.evaluations]⟩
  cons {piece rest first others} front back := by
    refine ⟨?_, ?_⟩
    · rw [Gathered.states_append, front.states, back.states, List.append_nil]
    · rw [Gathered.errors_append, front.errors, back.errors, evaluationsAll_singleton,
        evaluationsAll, List.map_append]
  group {bracket items range inner closed} inside closing := by
    cases bracket with
    | push =>
      simp only [closeGroup, closePush] at closing
      split at closing
      · cases closing
        refine ⟨inside.states, ?_⟩
        rw [evaluationsAll_singleton, Resolved.evaluations]
        exact inside.errors
      · cases closing
    | evaluation =>
      rw [closeGroup, closeEvaluation, if_neg unable] at closing
      cases closing
      refine ⟨inside.states, ?_⟩
      rw [evaluationsAll_singleton, Resolved.evaluations, List.map_append, ← inside.errors]
      rfl

/-! ## 6. Reductions -/

namespace Gathered

variable (gathered : Gathered)

theorem states_reduction : gathered.reduction.states = some gathered.states := by
  unfold reduction
  split <;> rfl

theorem errors?_reduction : gathered.reduction.errors?.getD [] = gathered.errors := by
  unfold reduction
  split
  · next none => simp [Reduction.errors?, none]
  · next found => simp [Reduction.errors?, found]

theorem bytecode?_reduction :
    gathered.reduction.bytecode? = if gathered.errors = [] then some gathered.output else none := by
  unfold reduction
  split
  · next none => simp [Reduction.bytecode?, none]
  · next found => simp [Reduction.bytecode?, found]

end Gathered

/-- **A reduction accounts for every evaluation.**  It keeps one final state for each evaluation of
the tree, at any depth and in the order in which the brackets close; its errors are those of the
evaluations that failed, each where it stands and in the same order; and it carries bytecode exactly
if none failed, which is then what the tree puts out.  Where evaluations cannot run, there are no
states and one error for each evaluation. -/
theorem reduce_accounts_for_evaluations (capabilities : Capabilities) (pieces : List Resolved)
    (clean : isCleanAll pieces) (reduction : Reduction Machine.State)
    (reduced : reduce capabilities pieces = .ok reduction) :
    (capabilities.canEvaluate → ∃ states, reduction.states = some states ∧
      List.Forall₂ Ran (evaluationsAll pieces) states ∧
      reduction.errors?.getD [] = complaints (evaluationsAll pieces) states ∧
      (reduction.bytecode?.isSome ↔ ∀ state ∈ states, state.failed = false) ∧
      ∀ bytes ∈ reduction.bytecode?, PutsOut pieces bytes) ∧
    (¬ capabilities.canEvaluate → reduction.states = some [] ∧
      reduction.errors?.getD [] = (evaluationsAll pieces).map unableToRun ∧
      (reduction.bytecode?.isSome ↔ evaluationsAll pieces = [])) := by
  obtain ⟨gathered, h, rfl⟩ := map_eq_ok_iff.mp reduced
  rw [gathered.states_reduction, gathered.errors?_reduction, gathered.bytecode?_reduction]
  constructor
  · intro able
    have accounts := (kept_accounts able).gatherAll clean h
    refine ⟨gathered.states, rfl, accounts.states, accounts.errors, ?_, ?_⟩
    · rw [← complaints_eq_nil_iff accounts.states.length_eq, ← accounts.errors]
      split <;> simp_all
    · intro bytes given
      split at given
      · cases given
        exact accounts.output
      · cases given
  · intro unable
    have refuses := (kept_refuses unable).gatherAll clean h
    refine ⟨congrArg some refuses.states, refuses.errors, ?_⟩
    have none : gathered.errors = [] ↔ evaluationsAll pieces = [] := by
      rw [refuses.errors, List.map_eq_nil_iff]
    rw [← none]
    split <;> simp_all

/-- The tree of `$(<$(0x87)>) <$(0x0075)>`: an evaluation inside a push inside an evaluation, and
one inside a push. -/
def nestedEvaluations : List Resolved := [
  .group .evaluation [
    .group .push [.group .evaluation [.bytecode [0x87] ⟨1, 6, 1, 10⟩] ⟨1, 4, 1, 11⟩]
      ⟨1, 3, 1, 12⟩] ⟨1, 1, 1, 13⟩,
  .group .push [.group .evaluation [.bytecode [0x00, 0x75] ⟨1, 17, 1, 23⟩] ⟨1, 15, 1, 24⟩]
    ⟨1, 14, 1, 25⟩]

/-- The innermost evaluation finds the stack empty and the last one leaves it empty; the one around
the first is run on what is left of its code, and succeeds.  Without a machine all three fail. -/
theorem reduce_accounts_for_evaluations_nested :
    isCleanAll nestedEvaluations ∧
    (∃ reduction states, reduce {} nestedEvaluations = .ok reduction ∧
      reduction.states = some states ∧
      List.Forall₂ Ran (evaluationsAll nestedEvaluations) states ∧
      states.map (·.failed) = [true, false, true] ∧
      (reduction.errors?.getD []).map (·.range) = [⟨1, 4, 1, 11⟩, ⟨1, 15, 1, 24⟩]) ∧
    ∃ reduction, reduce ⟨false, true⟩ nestedEvaluations = .ok reduction ∧
      reduction.states = some [] ∧
      (reduction.errors?.getD []).map (·.range) =
        [⟨1, 4, 1, 11⟩, ⟨1, 1, 1, 13⟩, ⟨1, 15, 1, 24⟩] := by
  have clean : isCleanAll nestedEvaluations := by decide
  refine ⟨clean, ?_, ?_⟩
  · obtain ⟨reduction, reduced, kept⟩ : ∃ reduction,
        reduce {} nestedEvaluations = .ok reduction ∧ reduction.states =
          some [⟨[], 1, some .emptyStack⟩, ⟨[[]], 1, none⟩, ⟨[], 2, none⟩] :=
      ⟨_, by cbv, by cbv⟩
    obtain ⟨states, found, ran, errors, -⟩ :=
      (reduce_accounts_for_evaluations {} nestedEvaluations clean reduction reduced).1 rfl
    obtain rfl := Option.some.inj (kept.symm.trans found)
    exact ⟨reduction, _, reduced, kept, ran, by decide, by rw [errors]; decide⟩
  · obtain ⟨reduction, reduced⟩ : ∃ reduction,
        reduce ⟨false, true⟩ nestedEvaluations = .ok reduction := ⟨_, by cbv⟩
    obtain ⟨states, errors, -⟩ :=
      (reduce_accounts_for_evaluations _ nestedEvaluations clean reduction reduced).2 (by decide)
    exact ⟨reduction, reduced, states, by rw [errors]; decide⟩

end ScriptTemplate.Script
