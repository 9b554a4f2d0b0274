/-
# Circular references are found, and only they

A compilation refuses a script that is among its own ancestors.  That looks at one path at a time,
while a cycle is a matter of the whole graph of references.  With no ancestry at the start and no
ceiling the two agree, for every compilation that returns a result:

* **What is counted is a cycle** (`leadsToCycle_of_meetsCycle`): the ancestors of a script lead to
  it, so a script that is its own ancestor lies on a cycle.  Two ways to one script count for
  nothing.
* **A cycle is counted** (`countsCycle_of_leadsToCycle`).  A script that leads to a cycle refers to
  a script that leads to one, and a compilation that returns has followed all references.  It cannot
  go on for ever, so some script on the way is refused.
* **The error names the path** (`failsWith_of_chain`).  The error of the refusal lists the scripts
  from the outermost to the one that closes the cycle; each level above puts the errors below it
  into an error of its own, and the text of the refusal stays a part of it.
-/
import Mathlib
import ScriptTemplate.Proofs.AncestryIndependence

namespace ScriptTemplate

open Script

/-! ## 1. Scripts that lead to a cycle -/

/-- A script leads to a script that leads back to itself. -/
def LeadsToCycle (env : Environment) (id : Text) : Prop :=
  ∃ name, Reaches env id name ∧ Relation.TransGen (Refers env) name name

/-- **A script that leads to a cycle refers to one that does.** -/
theorem LeadsToCycle.exists_refers {env : Environment} {id : Text} (leads : LeadsToCycle env id) :
    ∃ next, Refers env id next ∧ LeadsToCycle env next := by
  obtain ⟨name, reached, cycle⟩ := leads
  rcases reached.cases_head with rfl | ⟨next, refers, reached⟩
  · -- The script lies on the cycle itself: go on along it.
    obtain ⟨next, refers, back⟩ := Relation.TransGen.head'_iff.mp cycle
    exact ⟨next, refers, id, back, cycle⟩
  · exact ⟨next, refers, name, reached, cycle⟩

namespace Toolchain

section Refused

variable {data : Data} {env : Environment} {id : Text}

theorem locate_eq_circular_iff {other : Text} {ancestry : List Text} :
    env.locate id = .error (.circular other ancestry) ↔
      (∃ text, env.script? id = some text) ∧ id ∈ env.ancestry ∧ other = id ∧
        ancestry = env.ancestry := by
  unfold Environment.locate
  cases there : env.script? id with
  | none => simp
  | some text =>
    by_cases ancestor : id ∈ env.ancestry
    · simp [ancestor, eq_comm]
    · cases env.fullAt? <;> simp [ancestor]

/-- **What is counted is a cycle.** -/
theorem leadsToCycle_of_meetsCycle (outermost : env.ancestry = [])
    (meets : standard.MeetsCycle data (env, id)) : LeadsToCycle env id := by
  obtain ⟨inside, script, other, ancestry, visited, refused⟩ := meets
  obtain ⟨-, ancestor, -, -⟩ := locate_eq_circular_iff.mp refused
  obtain ⟨-, -, ancestors⟩ := reaches_of_visits visited
  rcases ancestors script ancestor with before | ⟨reached, back⟩
  · rw [outermost] at before
    cases before
  · exact ⟨script, reached, back⟩

end Refused

end Toolchain

/-! ## 2. A cycle is counted -/

namespace CompileM

variable {α β : Type}

/-- No circular reference is taken off the count. -/
def CountsUp (before after : Ambient) : Prop :=
  before.metrics.circularDependencies ≤ after.metrics.circularDependencies

/-- **A step counts a circular reference** whenever it returns. -/
def CountsCycle (step : CompileM α) : Prop :=
  ∀ ambient value, (step.run ambient).1 = .ok value →
    ambient.metrics.circularDependencies <
      (step.run ambient).2.metrics.circularDependencies

theorem CountsCycle.bind {step : CompileM α} {next : α → CompileM β} (first : step.CountsCycle)
    (second : ∀ value, (next value).Ensures CountsUp) : (step >>= next).CountsCycle := by
  intro ambient value returned
  rw [run_bind] at returned ⊢
  rcases hs : step.run ambient with ⟨_ | between, after⟩
  · rw [hs] at returned
    cases returned
  · have counted := first ambient between (by rw [hs])
    rw [hs] at counted
    exact counted.trans_le (second between after)

theorem CountsCycle.bind_right {step : CompileM α} {next : α → CompileM β}
    (first : step.Ensures CountsUp) (second : ∀ value, (next value).CountsCycle) :
    (step >>= next).CountsCycle := by
  intro ambient value returned
  have kept := first ambient
  rw [run_bind] at returned ⊢
  rcases hs : step.run ambient with ⟨_ | between, after⟩
  · rw [hs] at returned
    cases returned
  · rw [hs] at kept returned
    exact kept.trans_lt (second between after value returned)

theorem CountsCycle.within {step : CompileM α} (inside : step.CountsCycle) (change : TraceChange) :
    (CompileM.within change step).CountsCycle :=
  fun _ value returned => inside _ value returned

end CompileM

namespace Toolchain

open CompileM

theorem upheld_countsUp {τ ρ σ : Type} (T : Toolchain τ ρ σ) (data : Data) (start : Call) :
    T.Upheld data start CountsUp where
  refl _ := le_rfl
  trans _ _ _ := le_trans
  retraced _ _ h := h
  logged _ _ := le_rfl
  measured _ _ := le_rfl
  noted _ _ _ := le_rfl
  created _ _ _ _ _ _ := le_rfl
  counted _ _ _ _ _ _ _ := Nat.le_succ _

section Counting

variable {data : Data} {env : Environment} {id name text : Text}
  {answer : Text → CompileM Verdict}

mutual

/-- Resolving a piece counts a cycle if the answer to one of its references does. -/
theorem countsCycle_resolve (up : ∀ other, (answer other).Ensures CountsUp)
    (reference : IsReference env name) (counts : (answer name).CountsCycle) :
    ∀ {node : Node}, name ∈ node.names → ((node.resolve data env).run answer).CountsCycle
  | .identifier other range, member => by
    rw [Node.names, List.mem_singleton] at member
    subst member
    rw [Node.resolve, resolveName, meaning_eq_script_iff.mpr reference]
    exact counts.bind fun _ _ => le_rfl
  | .hex value range, member => by simp [Node.names] at member
  | .group bracket items range, member => by
    rw [Node.names] at member
    rw [Node.resolve]
    refine (Resolving.run_bind answer _ _).symm ▸ ?_
    exact (countsCycle_resolveAll up reference counts member).bind fun _ _ => le_rfl

/-- Resolving a row counts a cycle if the answer to one of its references does. -/
theorem countsCycle_resolveAll (up : ∀ other, (answer other).Ensures CountsUp)
    (reference : IsReference env name) (counts : (answer name).CountsCycle) :
    ∀ {nodes : List Node}, name ∈ namesAll nodes →
      ((resolveAll data env nodes).run answer).CountsCycle
  | [], member => by simp [namesAll] at member
  | node :: rest, member => by
    have upheld := standard.upheld_countsUp data (env, name)
    have anyRun {α : Type} (r : Resolving α) : (r.run answer).Ensures CountsUp :=
      upheld.run fun other _ => up other
    rw [namesAll, List.mem_append] at member
    rw [resolveAll]
    refine (Resolving.run_bind answer _ _).symm ▸ ?_
    rcases member with here | later
    · exact (countsCycle_resolve up reference counts here).bind fun _ => anyRun _
    · refine CountsCycle.bind_right (anyRun _) fun first => ?_
      refine (Resolving.run_bind answer _ _).symm ▸ ?_
      exact (countsCycle_resolveAll up reference counts later).bind fun _ => anyRun _

end

/-- The stages of a text count a cycle if the answer to one of its references does. -/
theorem countsCycle_compileWith (up : ∀ other, (answer other).Ensures CountsUp)
    {tree : List Node} (parsed : Script.parse text = .ok tree) (member : name ∈ namesAll tree)
    (reference : IsReference env name) (counts : (answer name).CountsCycle) :
    (standard.compileWith data env answer text).CountsCycle := by
  have upheld := standard.upheld_countsUp data (env, name)
  unfold Toolchain.compileWith
  rw [parse_standard, parsed]
  refine .bind_right (fun _ => le_rfl) fun _ => ?_
  show (standard.resolveStage data env answer text tree).CountsCycle
  unfold resolveStage
  refine .bind_right (fun _ => le_rfl) fun _ => .bind_right (fun _ => le_rfl) fun _ => ?_
  refine (countsCycle_resolveAll up reference counts member).bind fun resolved => ?_
  refine upheld.bind (fun _ => le_rfl) fun _ => ?_
  cases standard.collect resolved with
  | nil => exact upheld.reduceStage env text tree resolved
  | cons first others => exact upheld.bind (upheld.log _ _ _) fun _ => upheld.pure _

/-- **A script that leads to a cycle counts one**, if there is no ceiling to stop it before. -/
theorem countsCycle_of_leadsToCycle (unbounded : env.ceiling = none)
    (leads : LeadsToCycle env id) : (standard.compileReference data env id).CountsCycle := by
  induction hp : env.pending using Nat.strongRecOn generalizing env id with
  | ind pending ih =>
    have upheld := standard.upheld_countsUp data (env, id)
    obtain ⟨next, refers, leads⟩ := leads.exists_refers
    obtain ⟨text, tree, there, parsed, member, reference⟩ := refers
    rw [compileReference_eq_level, compileLevel]
    refine CountsCycle.within ?_ _
    by_cases ancestor : id ∈ env.ancestry
    · -- The script is its own ancestor: the refusal is counted.
      have refused : env.locate id = .error (.circular id env.ancestry) :=
        locate_eq_circular_iff.mpr ⟨⟨text, there⟩, ancestor, rfl, rfl⟩
      rw [refused]
      refine .bind_right (upheld.log _ _ _) fun _ => ?_
      have counted : (CompileM.measure (·.countCycle)).CountsCycle :=
        fun _ _ _ => Nat.lt_succ_self _
      exact counted.bind fun _ _ => le_rfl
    · have notFull : env.fullAt? = none := fullAt?_eq_none_iff.mpr (by simp [unbounded])
      have located : env.locate id = .ok text :=
        locate_eq_ok_iff.mpr ⟨there, ancestor, notFull⟩
      rw [located]
      refine .bind_right (upheld.log _ _ _) fun _ => .bind_right (fun _ => le_rfl) fun _ => ?_
      have up (other : Text) :
          (standard.compileReference data (env.descend id) other).Ensures CountsUp :=
        ensures_compileReference (standard.upheld_countsUp data (env.descend id, other)) .refl
      refine countsCycle_compileWith (fun other => ?_) parsed member reference ?_
      · exact upheld.bind (up other) fun _ => upheld.pure _
      · have inside : (env.descend id).ceiling = none ∧ LeadsToCycle (env.descend id) next :=
          ⟨unbounded, leads⟩
        have below := ih _ (hp ▸ Environment.pending_descend_lt located) inside.1 inside.2 rfl
        exact below.bind fun _ => upheld.pure _

end Counting

/-! ## 3. The error names the path -/

end Toolchain

/-- One of the errors has a text in its message. -/
def Reports (message : Text) (errors : List Diagnostic) : Prop :=
  ∃ error ∈ errors, message <:+: error.message

/-- A part of a joined text is found in it. -/
theorem infix_join {separator part : Text} {parts : List Text} (member : part ∈ parts) :
    part <:+: Text.join separator parts := by
  unfold Text.join
  induction parts with
  | nil => cases member
  | cons first rest ih =>
    cases rest with
    | nil =>
      obtain rfl := List.mem_singleton.mp member
      rw [List.intercalate_singleton]
    | cons second others =>
      rw [List.intercalate_cons_cons]
      rcases List.mem_cons.mp member with rfl | later
      · exact ⟨[], separator ++ separator.intercalate (second :: others), by simp⟩
      · obtain ⟨before, after, same⟩ := ih later
        exact ⟨first ++ separator ++ before, after, by simp [← same]⟩

/-- What the errors of a script report, the error of a reference to it reports. -/
theorem Reports.infix_failedScriptMessage {message name : Text} {errors : List Diagnostic}
    (reports : Reports message errors) : message <:+: failedScriptMessage name errors := by
  obtain ⟨error, member, found⟩ := reports
  have joined : error.message <:+: Text.join "; " (errors.map (·.message)) :=
    infix_join (List.mem_map_of_mem member)
  unfold failedScriptMessage
  exact (found.trans joined).trans (List.suffix_append _ _).isInfix

namespace Script

variable {data : Data} {env : Environment} {answer : Text → Except Escape Verdict}
  {name message : Text} {errors : List Diagnostic}

mutual

theorem reports_errors (reference : IsReference env name)
    (failed : answer name = .ok (.error errors)) (reports : Reports message errors) :
    ∀ {node : Node} {piece : Resolved}, (node.resolve data env).settle answer = .ok piece →
      name ∈ node.names → Reports message piece.errors
  | .identifier other range, piece, settled, member => by
    rw [Node.names, List.mem_singleton] at member
    subst member
    rw [settle_resolve_identifier, settledName, meaning_eq_script_iff.mpr reference, failed]
      at settled
    cases settled
    rw [ofVerdict, Resolved.errors]
    exact ⟨_, List.mem_singleton_self _, reports.infix_failedScriptMessage⟩
  | .hex value range, piece, settled, member => by simp [Node.names] at member
  | .group bracket items range, piece, settled, member => by
    obtain ⟨pieces, resolved, rfl⟩ := exists_of_settle_resolve_group settled
    rw [Node.names] at member
    rw [Resolved.errors]
    exact reports_collectErrors reference failed reports resolved member

/-- **What the errors of a reference report, the errors of the row report.** -/
theorem reports_collectErrors (reference : IsReference env name)
    (failed : answer name = .ok (.error errors)) (reports : Reports message errors) :
    ∀ {nodes : List Node} {pieces : List Resolved},
      (resolveAll data env nodes).settle answer = .ok pieces → name ∈ namesAll nodes →
        Reports message (collectErrors pieces)
  | [], pieces, settled, member => by simp [namesAll] at member
  | node :: rest, pieces, settled, member => by
    obtain ⟨first, others, hf, ho, rfl⟩ := exists_of_settle_resolveAll_cons settled
    rw [namesAll, List.mem_append] at member
    rw [collectErrors]
    rcases member with here | later
    · obtain ⟨error, found, part⟩ := reports_errors reference failed reports hf here
      exact ⟨error, List.mem_append_left _ found, part⟩
    · obtain ⟨error, found, part⟩ := reports_collectErrors reference failed reports ho later
      exact ⟨error, List.mem_append_right _ found, part⟩

end

end Script

namespace Toolchain

section Reporting

variable {data : Data} {env : Environment} {id name text message : Text} {result : ScriptResult}

/-- A result fails with errors that report a message. -/
def FailsWith (message : Text) (result : ScriptResult) : Prop :=
  ∃ failure, result = .failure failure ∧ Reports message failure.errors

/-- **A script that refers to a script that fails with a message fails with it too.** -/
theorem failsWith_of_refers (located : env.locate id = .ok text) (refers : Refers env id name)
    (below : ∀ inner, standard.referenceOutcome data (env.descend id) name = .ok inner →
      FailsWith message inner)
    (h : standard.referenceOutcome data env id = .ok result) : FailsWith message result := by
  obtain ⟨text', tree, there, parsed, member, reference⟩ := refers
  obtain rfl : text = text' :=
    Option.some.inj ((Environment.of_locate located).1.symm.trans there)
  rw [standard.referenceOutcome_of_located data located, textOutcome_of_parsed parsed,
    bind_eq_ok_iff] at h
  obtain ⟨pieces, settled, h⟩ := h
  -- The name was answered, since resolving came to an end.
  cases inner : standard.referenceOutcome data (env.descend id) name with
  | error escape =>
    have answer : standard.verdictOutcome data (env.descend id) name = .error escape := by
      rw [verdictOutcome, inner]
      rfl
    exact absurd ⟨name, member, meaning_eq_script_iff.mpr reference, answer⟩
      (not_escapesAt_of_resolveAll settled)
  | ok inner' =>
    obtain ⟨failure, rfl, reports⟩ := below inner' inner
    have answer : standard.verdictOutcome data (env.descend id) name =
        .ok (.error failure.errors) := by
      rw [verdictOutcome, inner]
      rfl
    have inside : IsReference (env.descend id) name := reference
    have reported := reports_collectErrors inside answer reports settled member
    cases collected : collectErrors pieces with
    | nil =>
      rw [collected] at reported
      obtain ⟨_, never, -⟩ := reported
      cases never
    | cons first others =>
      rw [resolvedOutcome_of_errors collected] at h
      cases h
      rw [collected] at reported
      exact ⟨_, rfl, reported⟩

/-- **The error at the end of a path of references comes out at its start**: the path is new, and
its last script refers to an ancestor of its own. -/
theorem failsWith_of_chain {chain : List Text} {last target : Text}
    (unbounded : env.ceiling = none) (linked : IsReferenceChain env id chain)
    (different : (env.ancestry ++ chain).Nodup) (ends : chain.getLast? = some last)
    (refers : Refers env last target) (known : ∃ text, env.script? target = some text)
    (back : target ∈ env.ancestry ++ chain)
    (h : standard.referenceOutcome data env id = .ok result) :
    FailsWith (Refusal.circular target (env.ancestry ++ chain)).message result := by
  induction chain generalizing env id result with
  | nil => cases linked.1
  | cons first rest ih =>
    obtain rfl : first = id := Option.some.inj linked.1
    have new : first ∉ env.ancestry := by
      intro member
      exact (List.nodup_append.mp different).2.2 first member first List.mem_cons_self rfl
    have notFull : env.fullAt? = none := fullAt?_eq_none_iff.mpr (by simp [unbounded])
    have same : (env.descend first).ancestry ++ rest = env.ancestry ++ first :: rest := by
      simp [Environment.descend]
    rcases linked.cases with alone | ⟨next, others, split, link, linked⟩
    · -- The path ends here: the refusal itself.
      obtain rfl : rest = [] := (List.cons.inj alone).2
      obtain rfl : first = last := Option.some.inj ends
      obtain ⟨text, there⟩ := refers.exists_text
      have located := locate_eq_ok_iff.mpr ⟨there, new, notFull⟩
      refine failsWith_of_refers located refers (fun inner outcome => ?_) h
      have refused : (env.descend first).locate target =
          .error (.circular target (env.ancestry ++ [first])) :=
        locate_eq_circular_iff.mpr ⟨known, back, rfl, rfl⟩
      rw [standard.referenceOutcome_of_refused data refused] at outcome
      cases outcome
      exact ⟨_, rfl, _, List.mem_cons_self, List.infix_rfl⟩
    · obtain rfl : rest = others := (List.cons.inj split).2
      obtain ⟨text, there⟩ := link.exists_text
      have located := locate_eq_ok_iff.mpr ⟨there, new, notFull⟩
      refine failsWith_of_refers located link (fun inner outcome => ?_) h
      have inside : IsReferenceChain (env.descend first) next rest := linked
      have ends' : rest.getLast? = some last := by
        cases rest with
        | nil => cases linked.1
        | cons second others => rwa [List.getLast?_cons_cons] at ends
      rw [← same]
      exact ih unbounded inside (same ▸ different) ends' refers known (same ▸ back) outcome

end Reporting

/-- **Circular references are found exactly, and the error traces the path.**  The count rises if
and only if a cycle is reached from the script; and wherever a path of different scripts ends with
a script that refers back into it, the compilation fails with an error that lists this path. -/
theorem cycles_found_exactly (data : Data) (env : Environment) (id : Text)
    (outermost : env.ancestry = []) (unbounded : env.ceiling = none) (ambient : Ambient)
    (result : ScriptResult)
    (returned : ((standard.compileReference data env id).run ambient).1 = .ok result) :
    (ambient.metrics.circularDependencies <
        ((standard.compileReference data env id).run ambient).2.metrics.circularDependencies ↔
      ∃ name, Reaches env id name ∧ Relation.TransGen (Refers env) name name) ∧
    ∀ (path : List Text) (last target : Text), path.head? = some id → path.Nodup →
      path.IsChain (Refers env) → path.getLast? = some last → Refers env last target →
      target ∈ path →
      ∃ failure, result = .failure failure ∧ ∃ error ∈ failure.errors,
        ("A circular dependency was encountered: script \"" ++ target
          ++ "\" relies on itself to be generated. (Source scripts: " ++ Text.join " → " path
          ++ ")" : Text) <:+: error.message := by
  constructor
  · constructor
    · intro increased
      have leaves := standard.leaves_compileReference data env id ambient
      exact leadsToCycle_of_meetsCycle outermost (leaves.cyclic_of_lt increased)
    · exact fun leads => countsCycle_of_leadsToCycle unbounded leads ambient result returned
  · intro path last target starts different linked ends refers back
    have outcome := (standard.yields_compileReference data env id).eq_of_run returned
    have chain : IsReferenceChain env id path := ⟨starts, linked⟩
    have known := chain.exists_text ends refers back
    have whole : env.ancestry ++ path = path := by rw [outermost, List.nil_append]
    have fails := failsWith_of_chain unbounded chain (whole.symm ▸ different) ends refers known
      (whole.symm ▸ back) outcome
    rw [whole] at fails
    exact fails

theorem mutualEnvironment_refers :
    Refers mutualEnvironment "a" "b" ∧ Refers mutualEnvironment "b" "a" := by
  have plain (name : Text) (there : mutualEnvironment.hasScript name)
      (other : opcode? name = none) : IsReference mutualEnvironment name :=
    ⟨other, by simp [mutualEnvironment], there⟩
  constructor
  · exact ⟨"b", [.identifier "b" ⟨1, 1, 1, 2⟩], by cbv, by cbv, by simp [namesAll, Node.names],
      plain _ (by cbv) (by cbv)⟩
  · exact ⟨"<a>", [.group .push [.identifier "a" ⟨1, 2, 1, 3⟩] ⟨1, 1, 1, 4⟩], by cbv, by cbv,
      by simp [namesAll, Node.names], plain _ (by cbv) (by cbv)⟩

/-- Of two scripts that refer to each other the first fails, one circular reference is counted, and
the error lists both. -/
theorem cycles_found_mutual :
    (default : Ambient).metrics.circularDependencies <
        ((standard.compileReference {} mutualEnvironment "a").run
          default).2.metrics.circularDependencies ∧
      ∃ failure, (standard.compileReference {} mutualEnvironment "a").Yields
          (.ok (.failure failure)) ∧
        ∃ error ∈ failure.errors,
          ("A circular dependency was encountered: script \"a\" relies on itself to be generated. "
            ++ "(Source scripts: a → b)" : Text) <:+: error.message := by
  obtain ⟨there, back⟩ := mutualEnvironment_refers
  have yields := standard.yields_compileReference {} mutualEnvironment "a"
  obtain ⟨result, outcome⟩ : ∃ result,
      standard.referenceOutcome {} mutualEnvironment "a" = .ok result := by
    cases h : standard.referenceOutcome {} mutualEnvironment "a" with
    | ok result => exact ⟨result, rfl⟩
    | error escape =>
      have fine : (standard.referenceOutcome {} mutualEnvironment "a").toBool = true := by cbv
      rw [h] at fine
      cases fine
  rw [outcome] at yields
  obtain ⟨counted, traced⟩ :=
    cycles_found_exactly {} mutualEnvironment "a" rfl rfl default result (yields default)
  refine ⟨counted.mpr ⟨"a", .refl, .tail (.single there) back⟩, ?_⟩
  obtain ⟨failure, rfl, error, member, found⟩ :=
    traced ["a", "b"] "b" "a" rfl (by decide) (.cons_cons there (.singleton _)) rfl back (by decide)
  have listed : ("A circular dependency was encountered: script \"" ++ "a"
      ++ "\" relies on itself to be generated. (Source scripts: " ++ Text.join " → " ["a", "b"]
      ++ ")" : Text) =
      "A circular dependency was encountered: script \"a\" relies on itself to be generated. "
        ++ "(Source scripts: a → b)" := by cbv
  rw [listed] at found
  exact ⟨failure, yields, error, member, found⟩

end Toolchain

end ScriptTemplate
