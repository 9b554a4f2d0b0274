/-
# The stages of the script language, as equations

The standard toolchain resolves a tree from left to right and asks for a script at each name that
stands for one.  With the answers known, resolving a row is resolving its pieces one after the
other (`settle_resolveAll_cons`), and the only questions are the script names that the tree
mentions: resolving escapes exactly if one of their answers does (`settle_resolveAll_eq_error`,
`not_escapesAt_of_resolveAll`).

`textOutcome_of_parsed` puts the stages together for a text that parses.
-/
import ScriptTemplate.Proofs.PureOutcome
import ScriptTemplate.Toolchain.Standard

namespace ScriptTemplate.Script

variable {data : Data} {env : Environment} {answer : Text → Except Escape Verdict}

/-! ## 1. Resolving with known answers -/

/-- What a name resolves to, the answer to a script's name being known. -/
def settledName (data : Data) (env : Environment) (answer : Text → Except Escape Verdict)
    (name : Text) (range : SourceRange) : Except Escape Resolved :=
  match meaning data env name with
  | .opcode value => .ok (.bytecode [value] range)
  | .value value => .ok (.bytecode value range)
  | .missingValue kind => .ok (.error (missingValueMessage name kind) range)
  | .script => (answer name).map (ofVerdict name range)
  | .unknown => .ok (.error (unknownNameMessage name) range)

theorem settle_resolve_identifier (name : Text) (range : SourceRange) :
    ((Node.identifier name range).resolve data env).settle answer =
      settledName data env answer name range := by
  rw [Node.resolve, resolveName, settledName]
  cases meaning data env name with
  | script =>
    simp only [Resolving.settle]
    cases answer name <;> rfl
  | _ => rfl

@[simp] theorem settle_resolve_hex (value : Bytes) (range : SourceRange) :
    ((Node.hex value range).resolve data env).settle answer = .ok (.bytecode value range) := by
  rw [Node.resolve]
  rfl

theorem settle_resolve_group (bracket : Bracket) (items : List Node) (range : SourceRange) :
    ((Node.group bracket items range).resolve data env).settle answer =
      (resolveAll data env items).settle answer >>= fun pieces =>
        .ok (.group bracket pieces range) := by
  rw [Node.resolve, Resolving.settle_bind]
  rfl

@[simp] theorem settle_resolveAll_nil : (resolveAll data env []).settle answer = .ok [] := by
  rw [resolveAll]
  rfl

theorem settle_resolveAll_cons (node : Node) (rest : List Node) :
    (resolveAll data env (node :: rest)).settle answer =
      (node.resolve data env).settle answer >>= fun first =>
        (resolveAll data env rest).settle answer >>= fun others => .ok (first :: others) := by
  rw [resolveAll, Resolving.settle_bind]
  congr 1
  funext first
  rw [Resolving.settle_bind]
  rfl

/-- A row resolves to what its first piece and the others resolve to. -/
theorem settle_resolveAll_cons_of_ok {node : Node} {rest : List Node} {first : Resolved}
    {others : List Resolved} (hf : (node.resolve data env).settle answer = .ok first)
    (ho : (resolveAll data env rest).settle answer = .ok others) :
    (resolveAll data env (node :: rest)).settle answer = .ok (first :: others) := by
  rw [settle_resolveAll_cons, bind_eq_ok_iff]
  exact ⟨first, hf, bind_eq_ok_iff.mpr ⟨others, ho, rfl⟩⟩

/-- A group resolves to the group of what its items resolve to. -/
theorem settle_resolve_group_of_ok {items : List Node} {pieces : List Resolved}
    (h : (resolveAll data env items).settle answer = .ok pieces) (bracket : Bracket)
    (range : SourceRange) :
    ((Node.group bracket items range).resolve data env).settle answer =
      .ok (.group bracket pieces range) := by
  rw [settle_resolve_group, bind_eq_ok_iff]
  exact ⟨pieces, h, rfl⟩

/-- **Where a row resolves, its first piece and the others do.** -/
theorem exists_of_settle_resolveAll_cons {node : Node} {rest : List Node} {pieces : List Resolved}
    (h : (resolveAll data env (node :: rest)).settle answer = .ok pieces) :
    ∃ first others, (node.resolve data env).settle answer = .ok first ∧
      (resolveAll data env rest).settle answer = .ok others ∧ pieces = first :: others := by
  rw [settle_resolveAll_cons, bind_eq_ok_iff] at h
  obtain ⟨first, hf, h⟩ := h
  obtain ⟨others, ho, same⟩ := bind_eq_ok_iff.mp h
  exact ⟨first, others, hf, ho, (Except.ok.inj same).symm⟩

/-- **Where a group resolves, its items do.** -/
theorem exists_of_settle_resolve_group {bracket : Bracket} {items : List Node}
    {range : SourceRange} {piece : Resolved}
    (h : ((Node.group bracket items range).resolve data env).settle answer = .ok piece) :
    ∃ pieces, (resolveAll data env items).settle answer = .ok pieces ∧
      piece = .group bracket pieces range := by
  rw [settle_resolve_group, bind_eq_ok_iff] at h
  obtain ⟨pieces, resolved, same⟩ := h
  exact ⟨pieces, resolved, (Except.ok.inj same).symm⟩

/-! ## 2. The names in a tree -/

mutual

/-- The names that a piece mentions, from left to right. -/
def Node.names : Node → List Text
  | .identifier name _ => [name]
  | .hex .. => []
  | .group _ items _ => namesAll items

/-- The names that a row of pieces mentions, from left to right. -/
def namesAll : List Node → List Text
  | [] => []
  | node :: rest => node.names ++ namesAll rest

end

theorem settledName_eq_error_iff {name : Text} {range : SourceRange} {escape : Escape} :
    settledName data env answer name range = .error escape ↔
      meaning data env name = .script ∧ answer name = .error escape := by
  unfold settledName
  cases h : meaning data env name with
  | script => simp [map_eq_error_iff]
  | _ => simp

/-- Some name that `names` lists stands for a script whose answer is the escape. -/
def EscapesAt (data : Data) (env : Environment) (answer : Text → Except Escape Verdict)
    (escape : Escape) (names : List Text) : Prop :=
  ∃ name ∈ names, meaning data env name = .script ∧ answer name = .error escape

theorem EscapesAt.append_iff {escape : Escape} {names more : List Text} :
    EscapesAt data env answer escape (names ++ more) ↔
      EscapesAt data env answer escape names ∨ EscapesAt data env answer escape more := by
  simp only [EscapesAt, List.mem_append, or_and_right, exists_or]

mutual

/-- Every escape of a piece comes from the answer to one of its names. -/
theorem settle_resolve_eq_error {escape : Escape} :
    ∀ {node : Node}, (node.resolve data env).settle answer = .error escape →
      EscapesAt data env answer escape node.names
  | .identifier name range, h => by
    rw [settle_resolve_identifier, settledName_eq_error_iff] at h
    exact ⟨name, by simp [Node.names], h⟩
  | .hex value range, h => by rw [settle_resolve_hex] at h; cases h
  | .group bracket items range, h => by
    rw [settle_resolve_group, bind_eq_error_iff] at h
    rcases h with early | ⟨_, -, never⟩
    · rw [Node.names]
      exact settle_resolveAll_eq_error early
    · cases never

/-- Every escape of a row comes from the answer to one of its names. -/
theorem settle_resolveAll_eq_error {escape : Escape} :
    ∀ {nodes : List Node}, (resolveAll data env nodes).settle answer = .error escape →
      EscapesAt data env answer escape (namesAll nodes)
  | [], h => by rw [settle_resolveAll_nil] at h; cases h
  | node :: rest, h => by
    rw [settle_resolveAll_cons, bind_eq_error_iff] at h
    rw [namesAll, EscapesAt.append_iff]
    rcases h with early | ⟨first, -, late⟩
    · exact .inl (settle_resolve_eq_error early)
    · rw [bind_eq_error_iff] at late
      rcases late with late | ⟨_, -, never⟩
      · exact .inr (settle_resolveAll_eq_error late)
      · cases never

end

mutual

/-- A piece that resolves has no escape among its answers. -/
theorem not_escapesAt_of_resolve {escape : Escape} :
    ∀ {node : Node} {piece : Resolved}, (node.resolve data env).settle answer = .ok piece →
      ¬ EscapesAt data env answer escape node.names
  | .identifier name range, piece, h => by
    rintro ⟨other, member, escapes⟩
    rw [Node.names, List.mem_singleton] at member
    subst member
    rw [settle_resolve_identifier, settledName_eq_error_iff.mpr escapes] at h
    cases h
  | .hex value range, piece, h => by simp [EscapesAt, Node.names]
  | .group bracket items range, piece, h => by
    obtain ⟨pieces, resolved, -⟩ := exists_of_settle_resolve_group h
    rw [Node.names]
    exact not_escapesAt_of_resolveAll resolved

/-- A row that resolves has no escape among its answers. -/
theorem not_escapesAt_of_resolveAll {escape : Escape} :
    ∀ {nodes : List Node} {pieces : List Resolved},
      (resolveAll data env nodes).settle answer = .ok pieces →
      ¬ EscapesAt data env answer escape (namesAll nodes)
  | [], pieces, h => by simp [EscapesAt, namesAll]
  | node :: rest, pieces, h => by
    obtain ⟨first, others, hf, ho, -⟩ := exists_of_settle_resolveAll_cons h
    rw [namesAll, EscapesAt.append_iff]
    rintro (early | late)
    · exact not_escapesAt_of_resolve hf early
    · exact not_escapesAt_of_resolveAll ho late

end

end ScriptTemplate.Script

namespace ScriptTemplate.Toolchain

variable {data : Data} {env : Environment} {text : Text} {tree : List Script.Node}
  {pieces : List Script.Resolved}

/-! ## 3. The stages of a text -/

/-- The results of the standard toolchain. -/
abbrev ScriptResult := Result (List Script.Node) (List Script.Resolved) Machine.State

/-- The successes of the standard toolchain. -/
abbrev ScriptSuccess := Success (List Script.Node) (List Script.Resolved) Machine.State

/-- **A compilation has bytecode for a verdict exactly if it succeeds with it.** -/
theorem map_verdict_eq_ok_iff {outcome : Except Escape ScriptResult} {bytes : Bytes} :
    outcome.map Result.verdict = .ok (.ok bytes) ↔
      ∃ success, outcome = .ok (.success success) ∧ success.bytecode = bytes := by
  rw [map_eq_ok_iff]
  constructor
  · rintro ⟨result, rfl, verdict⟩
    cases result with
    | failure failure => cases verdict
    | success success => exact ⟨success, rfl, Except.ok.inj verdict⟩
  · rintro ⟨success, rfl, rfl⟩
    exact ⟨_, rfl, rfl⟩

theorem parse_standard (text : Text) : standard.parse text = .ok (Script.parse text) := rfl

theorem collect_standard (pieces : List Script.Resolved) :
    standard.collect pieces = Script.collectErrors pieces := rfl

theorem reduce_standard (capabilities : Capabilities) (pieces : List Script.Resolved) :
    standard.reduce capabilities pieces =
      (Script.gatherAll capabilities pieces).map Script.Gathered.reduction := rfl

/-- A text that does not parse. -/
theorem textOutcome_of_unparsed {failure : ParseFailure} (h : Script.parse text = .error failure) :
    standard.textOutcome data env text =
      .ok (.failure { stage := .parse, first := failure.diagnostic }) := by
  unfold textOutcome stagesOutcome
  rw [parse_standard, h]
  rfl

/-- A text that parses is resolved, and goes on from there. -/
theorem textOutcome_of_parsed (h : Script.parse text = .ok tree) :
    standard.textOutcome data env text =
      ((Script.resolveAll data env tree).settle (standard.verdictOutcome data env) >>=
        standard.resolvedOutcome env tree) := by
  unfold textOutcome stagesOutcome
  rw [parse_standard, h]
  rfl

/-- A tree without errors comes to its reduction. -/
theorem resolvedOutcome_of_collected (h : Script.collectErrors pieces = []) :
    standard.resolvedOutcome env tree pieces =
      (Script.gatherAll env.capabilities pieces).map fun gathered =>
        reductionOutcome tree pieces gathered.reduction := by
  unfold resolvedOutcome
  rw [collect_standard, h]
  simp only [reduce_standard]
  cases Script.gatherAll env.capabilities pieces <;> rfl

/-- **A text whose names all resolve comes to its reduction.** -/
theorem textOutcome_of_resolved (parsed : Script.parse text = .ok tree)
    (resolved : (Script.resolveAll data env tree).settle (standard.verdictOutcome data env) =
      .ok pieces)
    (collected : Script.collectErrors pieces = []) :
    standard.textOutcome data env text =
      (Script.gatherAll env.capabilities pieces).map fun gathered =>
        reductionOutcome tree pieces gathered.reduction := by
  rw [textOutcome_of_parsed parsed, resolved]
  exact resolvedOutcome_of_collected collected

/-- A tree with errors is not reduced. -/
theorem resolvedOutcome_of_errors {first : Diagnostic} {others : List Diagnostic}
    (h : Script.collectErrors pieces = first :: others) :
    standard.resolvedOutcome env tree pieces =
      .ok (.failure {
        stage := .resolve, first, others
        artifacts := { parse := some tree, resolve := some pieces } }) := by
  unfold resolvedOutcome
  rw [collect_standard, h]

end ScriptTemplate.Toolchain
