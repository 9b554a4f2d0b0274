/-
# The errors of names

A name that does not resolve leaves an error where it stands, and resolving goes on.  So the errors
of a text are a matter of its single names: which of them fail, and where these stand.

* `Unresolved` lists the three ways in which a name fails, with the message of each.
* The errors of a resolved tree are those of its names, in the order of the tree
  (`collectErrors_filledAll`); this is the order of the text (`order_of_parse`).
* `Mirrors` says what the reducer is handed when no name fails: the tree of the text, with bytes in
  the place of every name.

`compileText_reports_unresolved` puts this together for a text that parses, with all stage calls
that are made (`StageCalls`).  It takes it as given that the compilation returns; when it does not
is a matter of `Escapes`.
-/
import Mathlib
import ScriptTemplate.Proofs.AmbientIndependence
import ScriptTemplate.Proofs.EvaluationAccounts
import ScriptTemplate.Proofs.ResultShape
import ScriptTemplate.Proofs.StageCalls
import ScriptTemplate.Proofs.TokenOrder
import ScriptTemplate.Proofs.TreeValues

namespace ScriptTemplate

/-- The errors of names that a result reports: those of a failure at the resolve stage. -/
def Result.nameErrors {τ ρ σ : Type} : Result τ ρ σ → List Diagnostic
  | .success _ => []
  | .failure outcome => if outcome.stage = .resolve then outcome.errors else []

namespace Script

/-! ## 1. Names that stand for nothing -/

section Meanings

variable {data : Data} {env : Environment} {name : Text}

/-- A variable that holds bytecode, and has no value. -/
theorem meaning_eq_missingValue_iff {kind : VariableKind} :
    meaning data env name = .missingValue kind ↔
      opcode? name = none ∧ env.variableKinds.lookup name = some kind ∧ holdsBytecode kind ∧
        data.bytecode.lookup name = none := by
  unfold meaning
  cases opcode? name with
  | some value => simp
  | none =>
    cases held : (env.variableKinds.lookup name).filter holdsBytecode with
    | some found =>
      obtain ⟨declared, holds⟩ := Option.filter_eq_some_iff.mp held
      cases data.bytecode.lookup name with
      | some value => simp
      | none =>
        simp only [Meaning.missingValue.injEq, declared, Option.some.injEq, true_and, and_true]
        constructor
        · rintro rfl
          exact ⟨rfl, holds⟩
        · exact fun same => same.1
    | none =>
      have plain := Option.filter_eq_none_iff.mp held
      constructor
      · intro found
        cases there : env.hasScript name <;> simp [there] at found
      · rintro ⟨-, declared, holds, -⟩
        exact absurd holds (plain kind declared)

/-- A name that is no opcode, no variable that holds bytecode and no script. -/
theorem meaning_eq_unknown_iff :
    meaning data env name = .unknown ↔
      opcode? name = none ∧ (∀ kind ∈ env.variableKinds.lookup name, ¬ holdsBytecode kind) ∧
        ¬ env.hasScript name := by
  unfold meaning
  cases opcode? name with
  | some value => simp
  | none =>
    cases held : (env.variableKinds.lookup name).filter holdsBytecode with
    | some kind =>
      obtain ⟨found, holds⟩ := Option.filter_eq_some_iff.mp held
      cases data.bytecode.lookup name <;> simp [found, holds]
    | none =>
      have plain : ∀ kind ∈ env.variableKinds.lookup name, ¬ holdsBytecode kind :=
        fun kind found => by simpa using Option.filter_eq_none_iff.mp held kind found
      by_cases there : env.hasScript name
      · simp [there]
      · simpa [there] using plain

end Meanings

/-! ## 2. Errors in filled trees -/

section Filling

variable {value : Text → Resolved}

mutual

theorem errors_filled : ∀ node : Node,
    (node.filled value).errors =
      node.occurrences.flatMap fun occurrence =>
        ((value occurrence.name).movedTo occurrence.range).errors
  | .identifier name range => by simp [Node.filled, Node.occurrences]
  | .hex bytes range => by simp [Node.filled, Node.occurrences, Resolved.errors]
  | .group bracket items range => by
    rw [Node.filled, Node.occurrences, Resolved.errors]
    exact collectErrors_filledAll items

/-- **The errors of a tree are those of its names**, each where it stands. -/
theorem collectErrors_filledAll : ∀ nodes : List Node,
    collectErrors (filledAll value nodes) =
      (occurrencesAll nodes).flatMap fun occurrence =>
        ((value occurrence.name).movedTo occurrence.range).errors
  | [] => by simp [filledAll, collectErrors, occurrencesAll]
  | node :: rest => by
    rw [filledAll, collectErrors, occurrencesAll, List.flatMap_append, errors_filled node,
      collectErrors_filledAll rest]

end

/-- The message of a name's error is the same wherever the name stands. -/
theorem messages_movedTo (piece : Resolved) (range : SourceRange) :
    (piece.movedTo range).errors.map (·.message) = piece.errors.map (·.message) := by
  cases piece <;> simp [Resolved.movedTo, Resolved.errors]

/-- The messages of a tree are those of its names. -/
theorem messages_filledAll (nodes : List Node) :
    (collectErrors (filledAll value nodes)).map (·.message) =
      (namesAll nodes).flatMap fun name => (value name).errors.map (·.message) := by
  rw [collectErrors_filledAll, List.map_flatMap, ← map_name_occurrencesAll, List.flatMap_map]
  simp only [messages_movedTo]

end Filling

end Script

namespace Toolchain

open Script

variable {data : Data} {env : Environment} {name text : Text} {tree : List Node}
  {pieces : List Resolved}

/-! ## 3. Names that fail -/

/-- **A name does not resolve**, and the message that says why: it is a variable without a value, or
a script that does not compile, or nothing at all. -/
inductive Unresolved (data : Data) (env : Environment) (name : Text) : Text → Prop
  | missing {kind : VariableKind} (free : opcode? name = none)
    (declared : env.variableKinds.lookup name = some kind) (holds : holdsBytecode kind)
    (absent : data.bytecode.lookup name = none) :
    Unresolved data env name (missingValueMessage name kind)
  | script {failure : ScriptFailure} (reference : IsReference env name)
    (fails : (standard.compileReference data env name).Yields (.ok (.failure failure))) :
    Unresolved data env name (failedScriptMessage name failure.errors)
  | unknown (free : opcode? name = none)
    (undeclared : ∀ kind ∈ env.variableKinds.lookup name, ¬ holdsBytecode kind)
    (absent : ¬ env.hasScript name) :
    Unresolved data env name (unknownNameMessage name)

/-- A name fails. -/
def Fails (data : Data) (env : Environment) (name : Text) : Prop :=
  ∃ message, Unresolved data env name message

/-- A name that does not resolve leaves its message where it stands. -/
theorem settledName_of_unresolved {message : Text} (h : Unresolved data env name message)
    (range : SourceRange) :
    settledName data env (standard.verdictOutcome data env) name range =
      .ok (.error message range) := by
  unfold settledName
  cases h with
  | missing free declared holds absent =>
    rw [meaning_eq_missingValue_iff.mpr ⟨free, declared, holds, absent⟩]
  | script reference fails =>
    have outcome := (standard.yields_compileReference data env name default).symm.trans
      (fails default)
    rw [meaning_eq_script_iff.mpr reference, verdictOutcome, outcome]
    rfl
  | unknown free undeclared absent =>
    rw [meaning_eq_unknown_iff.mpr ⟨free, undeclared, absent⟩]

/-- A name that stands for something does not fail. -/
theorem Stands.not_fails {bytes : Bytes} (stands : Stands data env name bytes) :
    ¬ Fails data env name := by
  rintro ⟨message, unresolved⟩
  have same := (settledName_of_unresolved unresolved .empty).symm.trans (stands_iff.mp stands)
  cases same

/-- **A name resolves to what it stands for, or leaves an error and fails.** -/
theorem stands_or_unresolved {range : SourceRange} {piece : Resolved}
    (settled : settledName data env (standard.verdictOutcome data env) name range = .ok piece) :
    (∃ bytes, piece = .bytecode bytes range ∧ Stands data env name bytes) ∨
      ∃ message, piece = .error message range ∧ Unresolved data env name message := by
  cases clean : piece.errors with
  | nil =>
    obtain ⟨bytes, rfl⟩ := eq_bytecode_of_settledName settled clean
    exact .inl ⟨bytes, rfl, stands_iff.mpr settled⟩
  | cons first others =>
    right
    unfold settledName at settled
    split at settled
    · cases settled; simp [Resolved.errors] at clean
    · cases settled; simp [Resolved.errors] at clean
    · next kind found =>
      cases settled
      obtain ⟨free, declared, holds, absent⟩ := meaning_eq_missingValue_iff.mp found
      exact ⟨_, rfl, .missing free declared holds absent⟩
    · next found =>
      obtain ⟨verdict, answered, rfl⟩ := map_eq_ok_iff.mp settled
      obtain ⟨result, outcome, rfl⟩ := map_eq_ok_iff.mp answered
      cases result with
      | success success => simp [Result.verdict, ofVerdict, Resolved.errors] at clean
      | failure failure =>
        have fails := standard.yields_compileReference data env name
        rw [outcome] at fails
        exact ⟨_, rfl, .script (meaning_eq_script_iff.mp found) fails⟩
    · next found =>
      cases settled
      obtain ⟨free, undeclared, absent⟩ := meaning_eq_unknown_iff.mp found
      exact ⟨_, rfl, .unknown free undeclared absent⟩

/-- **Whether a name fails can be computed**: resolving it leaves an error. -/
theorem fails_iff :
    Fails data env name ↔
      (settledName data env (standard.verdictOutcome data env) name .empty).toOption.any
        fun piece => !piece.isClean := by
  cases settled : settledName data env (standard.verdictOutcome data env) name .empty with
  | error escape =>
    have answered : ¬ Fails data env name := by
      rintro ⟨message, unresolved⟩
      rw [settledName_of_unresolved unresolved] at settled
      cases settled
    simpa [Except.toOption] using answered
  | ok piece =>
    rcases stands_or_unresolved settled with ⟨bytes, rfl, stands⟩ | ⟨message, rfl, unresolved⟩
    · simpa [Except.toOption, Resolved.isClean] using stands.not_fails
    · simpa [Except.toOption, Resolved.isClean] using ⟨message, unresolved⟩

instance : Decidable (Fails data env name) := decidable_of_iff _ fails_iff.symm

/-! ## 4. The errors of a tree -/

/-- An error reports a name that fails: it stands where the name does, and says why. -/
def ReportedBy (data : Data) (env : Environment) (occurrence : Occurrence) (error : Diagnostic) :
    Prop :=
  error.range = occurrence.range ∧ Unresolved data env occurrence.name error.message

/-- Errors that report names one by one come in the order of the names. -/
theorem order_of_reportedBy {occurrences : List Occurrence} {errors : List Diagnostic}
    (reported : List.Forall₂ (ReportedBy data env) occurrences errors)
    (ordered : occurrences.Pairwise fun a b => a.range.start.Precedes b.range.start) :
    errors.Pairwise fun a b => a.range.start.Precedes b.range.start := by
  have starts : errors.map (·.range.start) = occurrences.map (·.range.start) := by
    clear ordered
    induction reported with
    | nil => rfl
    | cons reports _ ih => rw [List.map_cons, List.map_cons, reports.1, ih]
  have sorted : (occurrences.map (·.range.start)).Pairwise Position.Precedes :=
    List.pairwise_map.mpr ordered
  rw [← starts] at sorted
  exact List.pairwise_map.mp sorted

/-- In a tree that is resolved, every name has its value. -/
theorem exists_settledName
    (settled : (resolveAll data env tree).settle (standard.verdictOutcome data env) = .ok pieces)
    (member : name ∈ namesAll tree) (range : SourceRange) :
    ∃ piece, settledName data env (standard.verdictOutcome data env) name range = .ok piece := by
  cases found : settledName data env (standard.verdictOutcome data env) name range with
  | ok piece => exact ⟨piece, rfl⟩
  | error escape =>
    exact absurd ⟨name, member, settledName_eq_error_iff.mp found⟩
      (not_escapesAt_of_resolveAll settled)

/-- **The errors of a resolved tree report the names that fail**, one for each and in order. -/
theorem reportedBy_collectErrors
    (settled : (resolveAll data env tree).settle (standard.verdictOutcome data env) = .ok pieces) :
    List.Forall₂ (ReportedBy data env)
      ((occurrencesAll tree).filter fun occurrence => Fails data env occurrence.name)
      (collectErrors pieces) := by
  rw [eq_filledAll_of_settle settled, collectErrors_filledAll]
  -- All names of the tree have values; with that the occurrences can be taken one by one.
  have values : ∀ occurrence ∈ occurrencesAll tree, ∃ piece,
      settledName data env (standard.verdictOutcome data env) occurrence.name occurrence.range =
        .ok piece := by
    intro occurrence member
    refine exists_settledName settled ?_ _
    rw [← map_name_occurrencesAll]
    exact List.mem_map_of_mem member
  generalize occurrencesAll tree = occurrences at values
  induction occurrences with
  | nil => exact .nil
  | cons occurrence rest ih =>
    obtain ⟨piece, found⟩ := values occurrence List.mem_cons_self
    have others := ih fun other member => values other (List.mem_cons_of_mem _ member)
    rw [List.flatMap_cons, ← eq_movedTo_of_settledName found]
    rcases stands_or_unresolved found with ⟨bytes, rfl, stands⟩ | ⟨message, rfl, unresolved⟩
    · rw [List.filter_cons_of_neg (by simpa using stands.not_fails)]
      simpa [Resolved.errors] using others
    · rw [List.filter_cons_of_pos (by simpa using ⟨message, unresolved⟩)]
      exact .cons ⟨rfl, unresolved⟩ others

/-! ## 5. Trees without errors -/

/-- **A resolved tree mirrors the tree of a text**: bytes stand in the place of names and of hex
literals, and groups in the place of groups, each where it stood.  The bytes of a name are those
that it stands for. -/
inductive Mirrors (data : Data) (env : Environment) : List Node → List Resolved → Prop
  | nil : Mirrors data env [] []
  | name {name : Text} {range : SourceRange} {nodes : List Node} {pieces : List Resolved}
    {bytes : Bytes} (stands : Stands data env name bytes) (rest : Mirrors data env nodes pieces) :
    Mirrors data env (.identifier name range :: nodes) (.bytecode bytes range :: pieces)
  | hex {value : Bytes} {range : SourceRange} {nodes : List Node} {pieces : List Resolved}
    (rest : Mirrors data env nodes pieces) :
    Mirrors data env (.hex value range :: nodes) (.bytecode value range :: pieces)
  | group {bracket : Bracket} {items nodes : List Node} {inner pieces : List Resolved}
    {range : SourceRange} (inside : Mirrors data env items inner)
    (rest : Mirrors data env nodes pieces) :
    Mirrors data env (.group bracket items range :: nodes) (.group bracket inner range :: pieces)

/-- **A tree whose names all resolve is mirrored.** -/
theorem mirrors_of_settle :
    ∀ {nodes : List Node} {pieces : List Resolved},
      (resolveAll data env nodes).settle (standard.verdictOutcome data env) = .ok pieces →
        isCleanAll pieces → Mirrors data env nodes pieces
  | [], pieces, settled, _ => by
    rw [settle_resolveAll_nil] at settled
    cases settled
    exact .nil
  | node :: rest, pieces, settled, clean => by
    obtain ⟨first, others, hf, ho, rfl⟩ := exists_of_settle_resolveAll_cons settled
    rw [isCleanAll, Bool.and_eq_true] at clean
    have next := mirrors_of_settle ho clean.2
    cases node with
    | identifier name range =>
      rw [settle_resolve_identifier] at hf
      obtain ⟨bytes, rfl⟩ := eq_bytecode_of_settledName hf (isClean_iff.mp clean.1)
      exact .name (stands_iff.mpr hf) next
    | hex value range =>
      rw [settle_resolve_hex] at hf
      cases hf
      exact .hex next
    | group bracket items range =>
      obtain ⟨inner, hi, rfl⟩ := exists_of_settle_resolve_group hf
      have inside := clean.1
      rw [Resolved.isClean] at inside
      exact .group (mirrors_of_settle hi inside) next

/-! ## 6. Texts that parse -/

/-- **What a text that parses comes to**, told by the errors of its names: with errors it fails at
the resolve stage and is not reduced, and without it is reduced. -/
theorem exists_settle_of_textOutcome {result : ScriptResult} (parsed : Script.parse text = .ok tree)
    (h : standard.textOutcome data env text = .ok result) :
    ∃ pieces,
      (resolveAll data env tree).settle (standard.verdictOutcome data env) = .ok pieces ∧
      result.nameErrors = collectErrors pieces ∧
      if collectErrors pieces = [] then
        ∃ reduction, standard.reduce env.capabilities pieces = .ok reduction ∧
          result.artifacts = ⟨some tree, some pieces, some reduction⟩
      else result.artifacts = ⟨some tree, some pieces, none⟩ := by
  cases textEnds_of_textOutcome h with
  | unparsed refused =>
    rw [parse_standard, parsed] at refused
    cases refused
  | @unresolved found pieces first others accepted settled collected =>
    rw [parse_standard, parsed] at accepted
    cases accepted
    rw [collect_standard] at collected
    refine ⟨pieces, settled, ?_, ?_⟩
    · rw [collected]
      rfl
    · rw [collected, if_neg (List.cons_ne_nil first others)]
      rfl
  | @reduced found pieces reduction accepted settled collected reduces =>
    rw [parse_standard, parsed] at accepted
    cases accepted
    rw [collect_standard] at collected
    refine ⟨pieces, settled, ?_, ?_⟩
    · rw [collected]
      cases reduction <;> rfl
    · rw [if_pos collected]
      refine ⟨reduction, reduces, ?_⟩
      cases reduction <;> rfl

/-- **The errors of names are complete, in order, and where they belong.**  A text that parses, and
whose compilation returns, reports one error for each name that fails, at any depth of the text;
each stands where the name does, and their places follow one another.

The text is reduced exactly if there is none.  This is said of all stage calls that are made: those
for the text itself are spelled out, with the calls of the scripts among its names in their place;
and wherever the row is cut, in a script at any depth, the reducer is called next on a text exactly
if the errors of this text have just been collected and there are none.  What is reduced mirrors the
tree of the text and holds no error. -/
theorem compileText_reports_unresolved (data : Data) (env : Environment) (text : Text)
    (tree : List Node) (parsed : Script.parse text = .ok tree) (ambient : Ambient)
    (result : ScriptResult)
    (returned : ((standard.compileText data env text).run ambient).1 = .ok result) :
    List.Forall₂ (ReportedBy data env)
      ((occurrencesAll tree).filter fun occurrence => Fails data env occurrence.name)
      result.nameErrors ∧
    (result.nameErrors.Pairwise fun a b => a.range.start.Precedes b.range.start) ∧
    (∃ calls : List StageCall, ((standard.compileText data env text).run ambient).2.journal =
        ambient.journal ++ calls ∧
      calls = .parse text ambient.trace :: .createResolver env.ancestry :: .resolve text ::
        ((references data env (namesAll tree)).flatMap (fun name =>
          (standard.compileReference data env name).calls ambient) ++
        .collect text result.nameErrors.length ::
          if result.nameErrors = [] then [.reduce text env.capabilities] else []) ∧
      ∀ (earlier later : List StageCall) (other : Text), calls = earlier ++ later →
        ((∃ capabilities, later.head? = some (.reduce other capabilities)) ↔
          earlier.getLast? = some (.collect other 0))) ∧
    if result.nameErrors = [] then
      ∃ pieces reduction, Mirrors data env tree pieces ∧ isCleanAll pieces ∧
        standard.reduce env.capabilities pieces = .ok reduction ∧
        result.artifacts = ⟨some tree, some pieces, some reduction⟩
    else result.artifacts.reduce = none := by
  rw [standard.yields_compileText data env text ambient] at returned
  obtain ⟨pieces, settled, errors, artifacts⟩ := exists_settle_of_textOutcome parsed returned
  rw [errors]
  have reported := reportedBy_collectErrors settled
  refine ⟨reported, ?_, ⟨(standard.compileText data env text).calls ambient, ?_,
    calls_compileText parsed settled ambient, fun _ _ _ => standard.reduced_iff_collected⟩, ?_⟩
  · exact order_of_reportedBy reported ((order_of_parse parsed).filter _)
  · exact (standard.does_compileText data env text).journal_eq ambient
  · by_cases none : collectErrors pieces = []
    · rw [if_pos none] at artifacts ⊢
      obtain ⟨reduction, reduces, kept⟩ := artifacts
      have clean := isCleanAll_iff.mpr none
      exact ⟨pieces, reduction, mirrors_of_settle settled clean, clean, reduces, kept⟩
    · rw [if_neg none] at artifacts ⊢
      rw [artifacts]

/-- A variable without a value, a script that does not compile, and one that does. -/
def faultyNames : Environment where
  scripts := [("c", some "d"), ("ok", some "0x51")]
  variableKinds := [("b", .addressData)]

/-- The calls for the script that compiles: it is reduced. -/
def calledOk : List StageCall :=
  [.parse "0x51" { scriptId := .str "ok" }, .createResolver ["ok"], .resolve "0x51",
    .collect "0x51" 0, .reduce "0x51" {}]

/-- The calls for the script that does not: its own name fails, and it is not reduced. -/
def calledFaulty : List StageCall :=
  [.parse "d" { scriptId := .str "c" }, .createResolver ["c"], .resolve "d", .collect "d" 1]

/-- Three names fail in three ways, over two lines and at two depths, and the text is not reduced,
though a script that it mentions is; a text without such names is reduced. -/
theorem compileText_reports_unresolved_nested :
    (∃ result, ((standard.compileText {} faultyNames "<a ok\n$(b OP_1)> c").run default).1 =
        .ok result ∧
      result.nameErrors.map (·.range) = [⟨1, 2, 1, 3⟩, ⟨2, 3, 2, 4⟩, ⟨2, 12, 2, 13⟩] ∧
      (result.nameErrors.Pairwise fun a b => a.range.start.Precedes b.range.start) ∧
      result.artifacts.reduce = none ∧
      ((standard.compileText {} faultyNames "<a ok\n$(b OP_1)> c").run default).2.journal =
        .parse "<a ok\n$(b OP_1)> c" {} :: .createResolver [] :: .resolve "<a ok\n$(b OP_1)> c" ::
          (calledOk ++ calledFaulty ++ [.collect "<a ok\n$(b OP_1)> c" 3])) ∧
    ∃ result, ((standard.compileText {} faultyNames "<ok>").run default).1 = .ok result ∧
      ((standard.compileText {} faultyNames "<ok>").run default).2.journal =
        .parse "<ok>" {} :: .createResolver [] :: .resolve "<ok>" ::
          (calledOk ++ [.collect "<ok>" 0, .reduce "<ok>" {}]) := by
  have ok : (standard.compileReference {} faultyNames "ok").calls default = calledOk := by
    rw [(standard.does_compileReference {} faultyNames "ok").calls_eq]
    show Event.calls {} _ = _
    cbv
  have faulty : (standard.compileReference {} faultyNames "c").calls default = calledFaulty := by
    rw [(standard.does_compileReference {} faultyNames "c").calls_eq]
    show Event.calls {} _ = _
    cbv
  constructor
  · obtain ⟨tree, parsed, asked⟩ : ∃ tree, Script.parse "<a ok\n$(b OP_1)> c" = .ok tree ∧
        references {} faultyNames (namesAll tree) = (["ok", "c"] : List Text) := ⟨_, by cbv, by cbv⟩
    obtain ⟨result, outcome, places⟩ : ∃ result,
        standard.textOutcome {} faultyNames "<a ok\n$(b OP_1)> c" = .ok result ∧
          result.nameErrors.map (·.range) = [⟨1, 2, 1, 3⟩, ⟨2, 3, 2, 4⟩, ⟨2, 12, 2, 13⟩] :=
      ⟨_, by cbv, by cbv⟩
    have returned := (standard.yields_compileText {} faultyNames "<a ok\n$(b OP_1)> c"
      default).trans outcome
    obtain ⟨-, ordered, ⟨calls, journal, spelled, -⟩, unreduced⟩ :=
      compileText_reports_unresolved {} faultyNames _ tree parsed default result returned
    have three : result.nameErrors.length = 3 := by
      rw [← List.length_map (·.range), places]
      rfl
    have some : result.nameErrors ≠ [] := fun none => by simp [none] at three
    rw [if_neg some] at unreduced spelled
    rw [asked, three] at spelled
    refine ⟨result, returned, places, ordered, unreduced, ?_⟩
    rw [journal, spelled, List.flatMap_cons, List.flatMap_singleton, ok, faulty]
    rfl
  · obtain ⟨tree, parsed, asked⟩ : ∃ tree, Script.parse "<ok>" = .ok tree ∧
        references {} faultyNames (namesAll tree) = (["ok"] : List Text) := ⟨_, by cbv, by cbv⟩
    obtain ⟨result, outcome, none⟩ : ∃ result,
        standard.textOutcome {} faultyNames "<ok>" = .ok result ∧ result.nameErrors = [] :=
      ⟨_, by cbv, by cbv⟩
    have returned := (standard.yields_compileText {} faultyNames "<ok>" default).trans outcome
    obtain ⟨-, -, ⟨calls, journal, spelled, -⟩, -⟩ :=
      compileText_reports_unresolved {} faultyNames _ tree parsed default result returned
    rw [none, if_pos rfl, asked] at spelled
    refine ⟨result, returned, ?_⟩
    rw [journal, spelled, List.flatMap_singleton, ok]
    rfl

end Toolchain

end ScriptTemplate
