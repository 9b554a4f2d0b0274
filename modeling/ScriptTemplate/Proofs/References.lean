/-
# Which scripts a script refers to

In the script language a text refers to a script by naming it, unless the name is taken by an
opcode or by a variable that holds bytecode.  This makes the scripts of an environment a graph,
`Refers`, which is a matter of texts and names: neither the ancestry, nor the ceiling, nor the
compilation data have a part in it.

The graph is the one that compilation follows.

* The resolver of a tree asks for the references among its names and for nothing else
  (`mem_names_of_asks`), so every call that a start leads to runs along the graph
  (`reaches_of_visits`).
* What resolving comes to is decided by what the single names come to
  (`settle_resolveAll_congr`), and a text that compiles has answers for all of its references
  (`answer_of_success`).
-/
import Mathlib
import ScriptTemplate.Proofs.Descent
import ScriptTemplate.Proofs.StandardStages

namespace ScriptTemplate.Script

/-! ## 1. The graph -/

/-- A name that stands for a script: it is no opcode and no variable that holds bytecode, and there
is a script of this name. -/
def IsReference (env : Environment) (name : Text) : Prop :=
  opcode? name = none ∧ (∀ kind ∈ env.variableKinds.lookup name, ¬ holdsBytecode kind) ∧
    env.hasScript name

/-- **A script refers to another**: its text parses and mentions a name that stands for it. -/
def Refers (env : Environment) (id name : Text) : Prop :=
  ∃ text tree, env.script? id = some text ∧ parse text = .ok tree ∧ name ∈ namesAll tree ∧
    IsReference env name

/-- A script leads to another through any number of references. -/
def Reaches (env : Environment) : Text → Text → Prop := Relation.ReflTransGen (Refers env)

/-- A chain of references that starts at a script. -/
def IsReferenceChain (env : Environment) (id : Text) (chain : List Text) : Prop :=
  chain.head? = some id ∧ chain.IsChain (Refers env)

/-- A script that refers to another has a text. -/
theorem Refers.exists_text {env : Environment} {id name : Text} (refers : Refers env id name) :
    ∃ text, env.script? id = some text := by
  obtain ⟨text, -, there, -⟩ := refers
  exact ⟨text, there⟩

theorem meaning_eq_script_iff {data : Data} {env : Environment} {name : Text} :
    meaning data env name = .script ↔ IsReference env name := by
  unfold meaning IsReference
  cases opcode? name with
  | some value => simp
  | none =>
    cases held : (env.variableKinds.lookup name).filter holdsBytecode with
    | some kind =>
      obtain ⟨found, holds⟩ := Option.filter_eq_some_iff.mp held
      cases data.bytecode.lookup name <;> simp [found, holds]
    | none =>
      have plain : ∀ kind ∈ env.variableKinds.lookup name, ¬ holdsBytecode kind :=
        fun kind found => by simpa using Option.filter_eq_none_iff.mp held kind found
      by_cases there : env.hasScript name
      · simpa [there] using plain
      · simp [there]

theorem refers_descend {env : Environment} (inside : Text) :
    Refers (env.descend inside) = Refers env := rfl

theorem IsReferenceChain.single (env : Environment) (id : Text) : IsReferenceChain env id [id] :=
  ⟨rfl, .singleton id⟩

/-- A chain goes on in front with a script that refers to its first one. -/
theorem IsReferenceChain.cons {env : Environment} {id next : Text} {chain : List Text}
    (refers : Refers env id next) (rest : IsReferenceChain env next chain) :
    IsReferenceChain env id (id :: chain) := by
  refine ⟨rfl, rest.2.cons fun other first => ?_⟩
  obtain rfl : next = other := Option.some.inj (rest.1.symm.trans first)
  exact refers

/-- A chain is its first script alone, or goes on with a chain of a script that this one refers
to. -/
theorem IsReferenceChain.cases {env : Environment} {id : Text} {chain : List Text}
    (h : IsReferenceChain env id chain) :
    chain = [id] ∨ ∃ next rest, chain = id :: rest ∧ Refers env id next ∧
      IsReferenceChain env next rest := by
  obtain ⟨starts, linked⟩ := h
  cases chain with
  | nil => cases starts
  | cons first rest =>
    obtain rfl : first = id := Option.some.inj starts
    cases rest with
    | nil => exact .inl rfl
    | cons next rest =>
      obtain ⟨refers, linked⟩ := List.isChain_cons_cons.mp linked
      exact .inr ⟨next, next :: rest, rfl, refers, rfl, linked⟩

/-- The scripts on a chain have a text, if the last of them refers to some script. -/
theorem IsReferenceChain.exists_text {env : Environment} {id last name script : Text}
    {chain : List Text} (h : IsReferenceChain env id chain) (ends : chain.getLast? = some last)
    (refers : Refers env last name) (member : script ∈ chain) :
    ∃ text, env.script? script = some text := by
  induction chain generalizing id with
  | nil => cases member
  | cons first rest ih =>
    rcases h.cases with alone | ⟨next, others, split, link, linked⟩
    · rw [alone] at ends member
      obtain rfl := Option.some.inj ends
      obtain rfl := List.mem_singleton.mp member
      exact refers.exists_text
    · obtain ⟨rfl, rfl⟩ := List.cons.inj split
      rcases List.mem_cons.mp member with rfl | later
      · exact link.exists_text
      · refine ih linked ?_ later
        cases rest with
        | nil => cases later
        | cons second others => rwa [List.getLast?_cons_cons] at ends

/-! ## 2. The questions of a resolver -/

section Questions

variable {data : Data} {env : Environment} {name : Text}

/-- Work in two parts asks in one of its parts. -/
theorem asks_of_bind {α β : Type} {r : Resolving α} {next : α → Resolving β}
    (asks : (r.bind next).Asks name) : r.Asks name ∨ ∃ value, (next value).Asks name := by
  induction r with
  | done value => exact .inr ⟨value, asks⟩
  | fail escape => cases asks
  | reference other ask ih =>
    cases asks with
    | now => exact .inl .now
    | later verdict asks =>
      rcases ih verdict asks with early | late
      · exact .inl (.later verdict early)
      · exact .inr late

theorem not_asks_done {α : Type} {value : α} : ¬ (Resolving.done value).Asks name :=
  fun asks => nomatch asks

mutual

/-- A piece asks for the references among its names. -/
theorem mem_names_of_asks :
    ∀ {node : Node}, (node.resolve data env).Asks name →
      name ∈ node.names ∧ IsReference env name
  | .identifier other range, asks => by
    rw [Node.resolve, resolveName] at asks
    split at asks
    · exact absurd asks not_asks_done
    · exact absurd asks not_asks_done
    · exact absurd asks not_asks_done
    · next script =>
      cases asks with
      | now => exact ⟨by simp [Node.names], meaning_eq_script_iff.mp script⟩
      | later verdict asks => exact absurd asks not_asks_done
    · exact absurd asks not_asks_done
  | .hex value range, asks => by
    rw [Node.resolve] at asks
    exact absurd asks not_asks_done
  | .group bracket items range, asks => by
    rw [Node.resolve] at asks
    rcases asks_of_bind asks with inner | ⟨_, never⟩
    · rw [Node.names]
      exact mem_namesAll_of_asks inner
    · exact absurd never not_asks_done

/-- A row of pieces asks for the references among its names. -/
theorem mem_namesAll_of_asks :
    ∀ {nodes : List Node}, (resolveAll data env nodes).Asks name →
      name ∈ namesAll nodes ∧ IsReference env name
  | [], asks => by
    rw [resolveAll] at asks
    exact absurd asks not_asks_done
  | node :: rest, asks => by
    rw [resolveAll] at asks
    rw [namesAll, List.mem_append]
    rcases asks_of_bind asks with early | ⟨_, late⟩
    · obtain ⟨member, reference⟩ := mem_names_of_asks early
      exact ⟨.inl member, reference⟩
    · rcases asks_of_bind late with late | ⟨_, never⟩
      · obtain ⟨member, reference⟩ := mem_namesAll_of_asks late
        exact ⟨.inr member, reference⟩
      · exact absurd never not_asks_done

end

end Questions

end ScriptTemplate.Script

namespace ScriptTemplate.Toolchain

open Script

section Calls

variable {data : Data} {env inside : Environment} {id name : Text}

/-- **A step down follows a reference.** -/
theorem refers_of_calls (call : standard.Calls data (env, id) (inside, name)) :
    inside = env.descend id ∧ Refers env id name := by
  obtain ⟨located, tree, parsed, asks⟩ := call
  obtain ⟨there, -, -⟩ := Environment.of_locate located
  obtain ⟨member, reference⟩ := mem_namesAll_of_asks asks
  exact ⟨rfl, _, tree, there, Except.ok.inj parsed, member, reference⟩

/-- **The calls that a start leads to run along the graph.**  Every ancestor that was not there at
the start is reached from it, and leads on to the script at hand. -/
theorem reaches_of_visits {call : Call} (visited : standard.Visits data (env, id) call) :
    Refers call.1 = Refers env ∧ Reaches env id call.2 ∧
      ∀ ancestor ∈ call.1.ancestry, ancestor ∈ env.ancestry ∨
        Reaches env id ancestor ∧ Relation.TransGen (Refers env) ancestor call.2 := by
  induction visited with
  | refl => exact ⟨rfl, .refl, fun _ member => .inl member⟩
  | @tail above below _ call ih =>
    obtain ⟨same, reached, ancestors⟩ := ih
    obtain ⟨inner, script⟩ := above
    obtain ⟨deeper, next⟩ := below
    obtain ⟨rfl, refers⟩ := refers_of_calls call
    dsimp only at same reached ancestors ⊢
    rw [same] at refers
    refine ⟨(refers_descend script).trans same, reached.tail refers, ?_⟩
    intro ancestor member
    rcases List.mem_append.mp member with earlier | last
    · rcases ancestors ancestor earlier with before | ⟨down, on⟩
      · exact .inl before
      · exact .inr ⟨down, on.tail refers⟩
    · obtain rfl := List.mem_singleton.mp last
      exact .inr ⟨reached, .single refers⟩

end Calls

end ScriptTemplate.Toolchain

/-! ## 3. Resolving, name by name -/

namespace ScriptTemplate.Script

section Congruence

variable {data other : Data} {env env' : Environment}
  {answer answer' : Text → Except Escape Verdict}

mutual

theorem settle_resolve_congr :
    ∀ {node : Node}, (∀ name ∈ node.names, ∀ range,
        settledName data env answer name range = settledName other env' answer' name range) →
      (node.resolve data env).settle answer = (node.resolve other env').settle answer'
  | .identifier name range, same => by
    rw [settle_resolve_identifier, settle_resolve_identifier]
    exact same name (by simp [Node.names]) range
  | .hex value range, same => by rw [settle_resolve_hex, settle_resolve_hex]
  | .group bracket items range, same => by
    rw [Node.names] at same
    rw [settle_resolve_group, settle_resolve_group, settle_resolveAll_congr same]

/-- **What a row resolves to is decided by what its names resolve to.** -/
theorem settle_resolveAll_congr :
    ∀ {nodes : List Node}, (∀ name ∈ namesAll nodes, ∀ range,
        settledName data env answer name range = settledName other env' answer' name range) →
      (resolveAll data env nodes).settle answer = (resolveAll other env' nodes).settle answer'
  | [], same => by rw [settle_resolveAll_nil, settle_resolveAll_nil]
  | node :: rest, same => by
    rw [namesAll] at same
    rw [settle_resolveAll_cons, settle_resolveAll_cons,
      settle_resolve_congr fun name member => same name (List.mem_append_left _ member),
      settle_resolveAll_congr fun name member => same name (List.mem_append_right _ member)]

end

end Congruence

section Collected

variable {data : Data} {env : Environment} {answer : Text → Except Escape Verdict}

/-- A reference that leaves no error was answered with bytecode. -/
theorem answer_of_settledName {name : Text} {range : SourceRange} {piece : Resolved}
    (reference : IsReference env name)
    (settled : settledName data env answer name range = .ok piece) (clean : piece.errors = []) :
    ∃ bytes, answer name = .ok (.ok bytes) := by
  rw [settledName, meaning_eq_script_iff.mpr reference] at settled
  obtain ⟨verdict, answered, rfl⟩ := map_eq_ok_iff.mp settled
  cases verdict with
  | ok bytes => exact ⟨bytes, answered⟩
  | error errors => simp [ofVerdict, Resolved.errors] at clean

mutual

theorem answer_of_errors_nil :
    ∀ {node : Node} {piece : Resolved}, (node.resolve data env).settle answer = .ok piece →
      piece.errors = [] → ∀ name ∈ node.names, IsReference env name →
        ∃ bytes, answer name = .ok (.ok bytes)
  | .identifier other range, piece, settled, clean, name, member, reference => by
    rw [Node.names, List.mem_singleton] at member
    subst member
    rw [settle_resolve_identifier] at settled
    exact answer_of_settledName reference settled clean
  | .hex value range, piece, settled, clean, name, member, reference => by
    simp [Node.names] at member
  | .group bracket items range, piece, settled, clean, name, member, reference => by
    obtain ⟨pieces, resolved, rfl⟩ := exists_of_settle_resolve_group settled
    rw [Resolved.errors] at clean
    rw [Node.names] at member
    exact answer_of_collectErrors_nil resolved clean name member reference

/-- **A row without errors has answers for all of its references.** -/
theorem answer_of_collectErrors_nil :
    ∀ {nodes : List Node} {pieces : List Resolved},
      (resolveAll data env nodes).settle answer = .ok pieces → collectErrors pieces = [] →
        ∀ name ∈ namesAll nodes, IsReference env name → ∃ bytes, answer name = .ok (.ok bytes)
  | [], pieces, settled, clean, name, member, reference => by simp [namesAll] at member
  | node :: rest, pieces, settled, clean, name, member, reference => by
    obtain ⟨first, others, hf, ho, rfl⟩ := exists_of_settle_resolveAll_cons settled
    rw [collectErrors, List.append_eq_nil_iff] at clean
    rw [namesAll, List.mem_append] at member
    rcases member with member | member
    · exact answer_of_errors_nil hf clean.1 name member reference
    · exact answer_of_collectErrors_nil ho clean.2 name member reference

end

end Collected

end ScriptTemplate.Script

namespace ScriptTemplate.Toolchain

open Script

variable {data : Data} {env : Environment} {id text : Text} {success : ScriptSuccess}

/-! ## 4. Texts that compile -/

/-- **A text that compiles** parses, resolves without errors, and reduces without errors. -/
theorem of_textOutcome_success
    (h : standard.textOutcome data env text = .ok (.success success)) :
    ∃ tree pieces gathered, Script.parse text = .ok tree ∧
      (resolveAll data env tree).settle (standard.verdictOutcome data env) = .ok pieces ∧
      collectErrors pieces = [] ∧ gatherAll env.capabilities pieces = .ok gathered ∧
      gathered.errors = [] ∧ gathered.output = success.bytecode := by
  cases parsed : Script.parse text with
  | error failure =>
    rw [textOutcome_of_unparsed parsed] at h
    cases h
  | ok tree =>
    rw [textOutcome_of_parsed parsed, bind_eq_ok_iff] at h
    obtain ⟨pieces, settled, h⟩ := h
    cases collected : collectErrors pieces with
    | cons first others =>
      rw [resolvedOutcome_of_errors collected] at h
      cases h
    | nil =>
      rw [resolvedOutcome_of_collected collected, map_eq_ok_iff] at h
      obtain ⟨⟨output, errors, states⟩, gathered, reduced⟩ := h
      cases errors with
      | cons first others => cases reduced
      | nil =>
        cases reduced
        exact ⟨tree, pieces, _, rfl, settled, collected, gathered, rfl, rfl⟩

/-- A script that compiles was handed out, and its text compiles inside it. -/
theorem of_referenceOutcome_success
    (h : standard.referenceOutcome data env id = .ok (.success success)) :
    ∃ text, env.locate id = .ok text ∧
      standard.textOutcome data (env.descend id) text = .ok (.success success) := by
  cases located : env.locate id with
  | error refusal =>
    rw [standard.referenceOutcome_of_refused data located] at h
    cases h
  | ok text =>
    rw [standard.referenceOutcome_of_located data located] at h
    exact ⟨text, rfl, h⟩

/-- **Every reference of a text that compiles compiles too**, in the same environment. -/
theorem answer_of_success {tree : List Node}
    (h : standard.textOutcome data env text = .ok (.success success))
    (parsed : Script.parse text = .ok tree) {name : Text} (member : name ∈ namesAll tree)
    (reference : IsReference env name) :
    ∃ inner, standard.referenceOutcome data env name = .ok (.success inner) := by
  obtain ⟨tree', pieces, gathered, parsed', settled, collected, -⟩ := of_textOutcome_success h
  obtain rfl : tree = tree' := Except.ok.inj (parsed.symm.trans parsed')
  obtain ⟨bytes, answered⟩ := answer_of_collectErrors_nil settled collected name member reference
  obtain ⟨inner, outcome, -⟩ := map_verdict_eq_ok_iff.mp answered
  exact ⟨inner, outcome⟩

/-- Every script that a script refers to compiles inside it. -/
theorem success_of_refers {name : Text}
    (h : standard.referenceOutcome data env id = .ok (.success success))
    (refers : Refers env id name) :
    ∃ inner, standard.referenceOutcome data (env.descend id) name = .ok (.success inner) := by
  obtain ⟨text, located, compiled⟩ := of_referenceOutcome_success h
  obtain ⟨there, -, -⟩ := Environment.of_locate located
  obtain ⟨text', tree, there', parsed, member, reference⟩ := refers
  obtain rfl : text = text' := Option.some.inj (there.symm.trans there')
  exact answer_of_success compiled parsed member reference

end ScriptTemplate.Toolchain
