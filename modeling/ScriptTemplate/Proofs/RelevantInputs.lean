/-
# What a script can see

A compilation is handed all of its environment and all of its data.  Of these a script sees little:
the names in its own text and in the texts that it leads to, and of each name the script under it,
the kind of variable it is, and its value.  Which names these are is only found out on the way, and
each of them may be looked for under all three heads before it is known what it stands for.

`Agrees` says that two pairs of data and environment agree as far as a script can see, and
`referenceOutcome_eq_of_agrees` that the script then comes to the same, messages and escapes
included.
The names are those that the FIRST environment leads to; the second leads to the same ones, but
nothing has to be assumed about that.

Ancestry, ceiling and capabilities are not names, and the two have to agree on them outright.
-/
import Mathlib
import ScriptTemplate.Proofs.AncestryIndependence

namespace ScriptTemplate.Script

/-! ## 1. Agreement -/

/-- **A name is mentioned below a script**: it stands in the text of the script, or of one that the
script leads to. -/
def Mentioned (env : Environment) (id name : Text) : Prop :=
  ∃ script text tree, Reaches env id script ∧ env.script? script = some text ∧
    parse text = .ok tree ∧ name ∈ namesAll tree

/-- What is mentioned below a script that another refers to is mentioned below that other one. -/
theorem Mentioned.of_refers {env : Environment} {id next name : Text} (refers : Refers env id next)
    (mentioned : Mentioned env next name) : Mentioned env id name := by
  obtain ⟨script, text, tree, reached, found⟩ := mentioned
  exact ⟨script, text, tree, .head refers reached, found⟩

/-- Two pairs of data and environment agree on a name under all heads. -/
structure SameName (data data' : Data) (env env' : Environment) (name : Text) : Prop where
  /-- A script of this name is there in both or in neither, and has the same text or none. -/
  entry : env'.scripts.lookup name = env.scripts.lookup name
  kind : env'.variableKinds.lookup name = env.variableKinds.lookup name
  value : data'.bytecode.lookup name = data.bytecode.lookup name

/-- **Two pairs of data and environment agree as far as a script can see.** -/
structure Agrees (data data' : Data) (env env' : Environment) (id : Text) : Prop where
  capabilities : env'.capabilities = env.capabilities
  ancestry : env'.ancestry = env.ancestry
  ceiling : env'.ceiling = env.ceiling
  text : env'.script? id = env.script? id
  names : ∀ name, Mentioned env id name → SameName data data' env env' name

section Agreement

variable {data data' : Data} {env env' : Environment} {id name text : Text}

theorem SameName.script? (same : SameName data data' env env' name) :
    env'.script? name = env.script? name := by
  rw [Environment.script?, Environment.script?, same.entry]

/-- A name on which the two agree means the same. -/
theorem SameName.meaning_eq (same : SameName data data' env env' name) :
    meaning data' env' name = meaning data env name := by
  unfold meaning Environment.hasScript
  rw [same.kind, same.value, same.entry]

/-- The script is handed out in both, or refused for the same reason. -/
theorem Agrees.locate_eq (agrees : Agrees data data' env env' id) :
    env'.locate id = env.locate id := by
  have full : env'.fullAt? = env.fullAt? := by
    unfold Environment.fullAt?
    rw [agrees.ceiling, agrees.ancestry]
  unfold Environment.locate
  rw [agrees.text, agrees.ancestry, full]

/-- Inside a script the two agree as far as any script can see that it refers to. -/
theorem Agrees.descend (agrees : Agrees data data' env env' id) (refers : Refers env id name)
    (same : SameName data data' env env' name) :
    Agrees data data' (env.descend id) (env'.descend id) name where
  capabilities := agrees.capabilities
  ancestry := by rw [Environment.descend, Environment.descend, agrees.ancestry]
  ceiling := agrees.ceiling
  text := same.script?
  names other mentioned :=
    have above : Mentioned env id other := .of_refers refers mentioned
    ⟨(agrees.names other above).entry, (agrees.names other above).kind,
      (agrees.names other above).value⟩

end Agreement

end ScriptTemplate.Script

namespace ScriptTemplate.Toolchain

open Script

/-! ## 2. The same outcome -/

section Outcomes

variable {data data' : Data} {env env' : Environment} {id name : Text}

/-- **A script comes to the same wherever what it can see is the same.** -/
theorem referenceOutcome_eq_of_agrees (agrees : Agrees data data' env env' id) :
    standard.referenceOutcome data' env' id = standard.referenceOutcome data env id := by
  induction hp : env.pending using Nat.strongRecOn generalizing env env' id with
  | ind pending ih =>
    cases located : env.locate id with
    | error refusal =>
      rw [standard.referenceOutcome_of_refused data located,
        standard.referenceOutcome_of_refused data' (agrees.locate_eq.trans located)]
    | ok text =>
      rw [standard.referenceOutcome_of_located data located,
        standard.referenceOutcome_of_located data' (agrees.locate_eq.trans located)]
      cases parsed : Script.parse text with
      | error failure => rw [textOutcome_of_unparsed parsed, textOutcome_of_unparsed parsed]
      | ok tree =>
        have there := (Environment.of_locate located).1
        have same (name : Text) (member : name ∈ namesAll tree) :
            SameName data data' env env' name :=
          agrees.names name ⟨id, text, tree, .refl, there, parsed, member⟩
        have capabilities : (env'.descend id).capabilities = (env.descend id).capabilities :=
          agrees.capabilities
        refine textOutcome_congr parsed capabilities ?_ ?_
        · exact fun name member => (same name member).meaning_eq
        · intro name member reference
          -- The reference is compiled one level further down, where the two still agree.
          have refers : Refers env id name := ⟨text, tree, there, parsed, member, reference⟩
          have below := ih _ (hp ▸ Environment.pending_descend_lt located)
            (agrees.descend refers (same name member)) rfl
          rw [verdictOutcome, verdictOutcome, below]

/-- Classifications, and data other than values, are not seen. -/
theorem agrees_reclassified (data : Data) (env : Environment) (id : Text)
    (lockingTypes : Dictionary LockingType) (unlocks : Dictionary (Option Text))
    (timeLocks : Dictionary TimeLock) (operation : Option OperationData)
    (blockHeight blockTime : Option Int) :
    Agrees data { data with operation, blockHeight, blockTime } env
      { env with lockingTypes, unlocks, timeLocks } id :=
  ⟨rfl, rfl, rfl, rfl, fun _ _ => ⟨rfl, rfl, rfl⟩⟩

/-- What is put under a name that is not mentioned is not seen. -/
theorem agrees_insert (other : name ≠ id) (unmentioned : ¬ Mentioned env id name)
    (entry : Option Text) (kind : VariableKind) (value : Bytes) :
    Agrees data { data with bytecode := data.bytecode.insert name value } env
      { env with
        scripts := env.scripts.insert name entry
        variableKinds := env.variableKinds.insert name kind } id := by
  refine ⟨rfl, rfl, rfl, ?_, fun mention mentioned => ?_⟩
  · rw [Environment.script?, Environment.script?, Dictionary.lookup_insert, if_neg other.symm]
  · have apart : mention ≠ name := fun same => unmentioned (same ▸ mentioned)
    constructor
    · exact (Dictionary.lookup_insert ..).trans (if_neg apart)
    · exact (Dictionary.lookup_insert ..).trans (if_neg apart)
    · exact (Dictionary.lookup_insert ..).trans (if_neg apart)

end Outcomes

/-- **A compilation without transforms depends on what the script can reach, and on nothing else.**
Two compilations come to the same result, artifacts, messages and ranges included, or to the same
escape, if they agree on the script's text and on every name that is mentioned below it.  So neither
classifications nor locktime and block can change anything, nor can what stands under names that are
not mentioned. -/
theorem compileReference_sees_reachable (data : Data) (env : Environment) (id : Text)
    (here there : Ambient) :
    (∀ data' env', Agrees data data' env env' id →
      ((standard.compileReference data' env' id).run there).1 =
        ((standard.compileReference data env id).run here).1) ∧
    (∀ lockingTypes unlocks timeLocks operation blockHeight blockTime,
      ((standard.compileReference { data with operation, blockHeight, blockTime }
          { env with lockingTypes, unlocks, timeLocks } id).run there).1 =
        ((standard.compileReference data env id).run here).1) ∧
    ∀ name, name ≠ id → ¬ Mentioned env id name → ∀ entry kind value,
      ((standard.compileReference { data with bytecode := data.bytecode.insert name value }
          { env with
            scripts := env.scripts.insert name entry
            variableKinds := env.variableKinds.insert name kind } id).run there).1 =
        ((standard.compileReference data env id).run here).1 := by
  have same (data' : Data) (env' : Environment) (agrees : Agrees data data' env env' id) :
      ((standard.compileReference data' env' id).run there).1 =
        ((standard.compileReference data env id).run here).1 := by
    rw [standard.yields_compileReference data' env' id there,
      standard.yields_compileReference data env id here, referenceOutcome_eq_of_agrees agrees]
  refine ⟨same, ?_, ?_⟩
  · intro lockingTypes unlocks timeLocks operation blockHeight blockTime
    exact same _ _ (agrees_reclassified ..)
  · intro name other unmentioned entry kind value
    exact same _ _ (agrees_insert other unmentioned entry kind value)

/-- A script that pushes another one, and a script and a variable that it does not mention. -/
def neighbouredEnvironment : Environment where
  scripts := [("a", some "<b>"), ("b", some "0xab"), ("c", some "a")]
  variableKinds := [("v", .addressData)]

/-- The same two scripts among other ones, classified and in another order. -/
def movedEnvironment : Environment where
  scripts := [("d", some "c"), ("b", some "0xab"), ("a", some "<b>")]
  variableKinds := [("d", .walletData)]
  lockingTypes := [("a", .p2sh)]
  timeLocks := [("a", .timestamp)]

/-- Data that only a transaction would look at, and a value that no text mentions. -/
def movedData : Data where
  bytecode := [("v", [0x01])]
  operation := some { locktime := some 7 }
  blockHeight := some 9

/-- The two scripts mention one name. -/
theorem names_neighboured {script text name : Text} {tree : List Node}
    (either : script = Text.ofString "a" ∨ script = Text.ofString "b")
    (there : neighbouredEnvironment.script? script = some text)
    (parsed : Script.parse text = .ok tree) (member : name ∈ namesAll tree) :
    name = Text.ofString "b" := by
  rcases either with rfl | rfl
  · have written : neighbouredEnvironment.script? "a" = some (Text.ofString "<b>") := by cbv
    obtain rfl := Option.some.inj (written.symm.trans there)
    have read : Script.parse "<b>" =
        .ok [.group .push [.identifier "b" ⟨1, 2, 1, 3⟩] ⟨1, 1, 1, 4⟩] := by cbv
    cases read.symm.trans parsed
    simpa [namesAll, Node.names] using member
  · have written : neighbouredEnvironment.script? "b" = some (Text.ofString "0xab") := by cbv
    obtain rfl := Option.some.inj (written.symm.trans there)
    have read : Script.parse "0xab" = .ok [.hex [0xab] ⟨1, 1, 1, 5⟩] := by cbv
    cases read.symm.trans parsed
    simp [namesAll, Node.names] at member

theorem mentioned_neighboured {name : Text}
    (mentioned : Mentioned neighbouredEnvironment "a" name) : name = Text.ofString "b" := by
  obtain ⟨script, text, tree, reached, there, parsed, member⟩ := mentioned
  -- The graph does not lead out of the two scripts.
  have either : script = Text.ofString "a" ∨ script = Text.ofString "b" := by
    clear there parsed member
    induction reached with
    | refl => exact .inl rfl
    | tail _ refers ih =>
      obtain ⟨_, _, there, parsed, member, -⟩ := refers
      exact .inr (names_neighboured ih there parsed member)
  exact names_neighboured either there parsed member

/-- A script that pushes another one compiles to the same bytes among other scripts, with other
classifications and with other data. -/
theorem compileReference_sees_reachable_moved :
    Agrees {} movedData neighbouredEnvironment movedEnvironment "a" ∧
      ∃ success : ScriptSuccess, success.bytecode = [0x01, 0xab] ∧
        ((standard.compileReference {} neighbouredEnvironment "a").run default).1 =
          .ok (.success success) ∧
        ((standard.compileReference movedData movedEnvironment "a").run default).1 =
          .ok (.success success) := by
  have agrees : Agrees {} movedData neighbouredEnvironment movedEnvironment "a" := by
    refine ⟨rfl, rfl, rfl, by cbv, fun name mentioned => ?_⟩
    obtain rfl := mentioned_neighboured mentioned
    exact ⟨by cbv, by cbv, by cbv⟩
  obtain ⟨success, outcome, bytecode⟩ := map_verdict_eq_ok_iff.mp
    (show standard.verdictOutcome {} neighbouredEnvironment "a" = .ok (.ok [0x01, 0xab]) by cbv)
  have first := (standard.yields_compileReference {} neighbouredEnvironment "a" default).trans
    outcome
  obtain ⟨same, -, -⟩ :=
    compileReference_sees_reachable {} neighbouredEnvironment "a" default default
  exact ⟨agrees, success, bytecode, first, (same _ _ agrees).trans first⟩

end ScriptTemplate.Toolchain
