/-
# Environments that can be made

The classifications of an environment arrive as JSON values of any kind.  They are read when the
environment is made, and read AGAIN whenever another environment is made from it.  This file shows
that the first reading refuses what it should, and that the later ones refuse nothing and change
nothing.

* `EnvironmentSpec.entries` lists all entries in the order in which they are read.  Making an
  environment fails exactly if one of them is bad, with the first that is (`find?_entries`).
* **Making is undone by looking at what was made**: an environment comes of a specification exactly
  if the specification is that of the environment (`ofSpec_eq_ok_iff`).  So every map keeps its keys,
  in order, and what was read once is read again as the same.
* A `Derivation` goes into a script or starts over with other scripts.  `Derives` says what each
  makes of an environment, and rows of them never fail (`exists_applyAll`).
-/
import Mathlib
import ScriptTemplate.Environment.Classification
import ScriptTemplate.Proofs.PureOutcome
import ScriptTemplate.Toolchain.Standard

namespace ScriptTemplate

/-! ## 1. Words -/

namespace Vocabulary

variable {α : Type} [Vocabulary α]

theorem mem_members (a : α) : a ∈ (members : List α) :=
  List.mem_of_find?_eq_some (find_word a)

/-- **A value names a member exactly if it is the member's word.** -/
theorem ofJson?_eq_some_iff {value : Json} {a : α} :
    ofJson? α value = some a ↔ value = .str (word a) := by
  constructor
  · intro named
    cases value with
    | str text =>
      have same := List.find?_some (p := fun member : α => word member == text) named
      rw [beq_iff_eq.mp same]
    | _ => cases named
  · rintro rfl
    exact ofJson?_word a

end Vocabulary

namespace Misclassification

/-- **An entry is bad** if its value is none of the words that are allowed for it. -/
def IsBad (entry : Misclassification) : Prop := ∀ word ∈ entry.allowed, entry.value ≠ .str word

/-- Whether an entry is bad. -/
def isBad (entry : Misclassification) : Bool :=
  match entry.value with
  | .str text => !entry.allowed.contains text
  | _ => true

theorem isBad_iff {entry : Misclassification} : entry.isBad ↔ entry.IsBad := by
  obtain ⟨map, key, value, allowed⟩ := entry
  cases value with
  | str text =>
    simp only [isBad, IsBad, Bool.not_eq_true', List.contains_eq_mem, decide_eq_false_iff_not,
      ne_eq, Json.str.injEq]
    exact ⟨fun absent word member same => absent (same ▸ member),
      fun apart member => apart text member rfl⟩
  | _ => simp [isBad, IsBad]

/-- What names an entry: its map, its key and its value. -/
def naming (entry : Misclassification) : Text :=
  entry.map ++ "[" ++ Text.quoted entry.key ++ "]: " ++ entry.value.inspect

/-- **The message of an entry begins by naming it.** -/
theorem naming_prefix_message (entry : Misclassification) : entry.naming <+: entry.message :=
  (List.prefix_append ..).trans (List.prefix_append ..)

end Misclassification

/-! ## 2. Making an environment -/

/-- The entries of a map, each as it would be reported. -/
def entriesOf (α : Type) [Vocabulary α] (map : Text) (given : Dictionary Json) :
    List Misclassification :=
  given.map fun entry => ⟨map, entry.1, entry.2, Vocabulary.words α⟩

/-- **All entries of a specification, in the order in which they are read**: variables, locking
types, time locks, and each map in its own order. -/
def EnvironmentSpec.entries (spec : EnvironmentSpec) : List Misclassification :=
  entriesOf VariableKind variablesMap spec.variableKinds ++
    entriesOf LockingType lockingTypesMap spec.lockingTypes ++
    entriesOf TimeLock timeLocksMap spec.timeLocks

/-- What an attempt reports, if it fails. -/
def reported? {α : Type} : Except Misclassification α → Option Misclassification
  | .error entry => some entry
  | .ok _ => none

section Maps

variable {α : Type} [Vocabulary α] {map : Text} {given : Dictionary Json}

theorem isBad_eq_isNone {key : Text} {value : Json} :
    (⟨map, key, value, Vocabulary.words α⟩ : Misclassification).isBad =
      (Vocabulary.ofJson? α value).isNone := by
  rw [Bool.eq_iff_iff, Misclassification.isBad_iff, Option.isNone_iff_eq_none,
    Option.eq_none_iff_forall_ne_some]
  constructor
  · intro bad a named
    refine bad (Vocabulary.word a) ?_ (Vocabulary.ofJson?_eq_some_iff.mp named)
    exact List.mem_map_of_mem (Vocabulary.mem_members a)
  · intro unnamed word member same
    obtain ⟨a, -, rfl⟩ := List.mem_map.mp member
    exact unnamed a (Vocabulary.ofJson?_eq_some_iff.mpr same)

/-- **A map is read up to its first bad entry.** -/
theorem find?_entriesOf :
    (entriesOf α map given).find? Misclassification.isBad = reported? (classify α map given) := by
  induction given with
  | nil => rfl
  | cons entry rest ih =>
    obtain ⟨key, value⟩ := entry
    unfold entriesOf at ih ⊢
    rw [List.map_cons, List.find?_cons, isBad_eq_isNone, classify, ih]
    cases Vocabulary.ofJson? α value with
    | none => rfl
    | some member => cases classify α map rest <;> rfl

/-- **A map that is read keeps its keys, and has the members of its words.** -/
theorem classify_eq_ok_iff {members : Dictionary α} :
    classify α map given = .ok members ↔ Environment.worded members = given := by
  induction given generalizing members with
  | nil => cases members <;> simp [classify, Environment.worded]
  | cons entry rest ih =>
    obtain ⟨key, value⟩ := entry
    unfold classify
    constructor
    · intro h
      cases named : Vocabulary.ofJson? α value with
      | none =>
        rw [named] at h
        cases h
      | some member =>
        rw [named] at h
        obtain ⟨later, read, rfl⟩ := map_eq_ok_iff.mp h
        rw [Vocabulary.ofJson?_eq_some_iff.mp named, ← ih.mp read]
        rfl
    · intro same
      cases members with
      | nil => cases same
      | cons first later =>
        obtain ⟨head, tail⟩ := List.cons.inj same
        cases head
        rw [Vocabulary.ofJson?_word, ih.mpr tail]
        rfl

end Maps

namespace Environment

/-- **Making an environment fails with the first bad entry, if there is one.** -/
theorem find?_entries (spec : EnvironmentSpec) :
    spec.entries.find? Misclassification.isBad = reported? (ofSpec spec) := by
  unfold EnvironmentSpec.entries ofSpec
  rw [List.find?_append, List.find?_append, find?_entriesOf, find?_entriesOf, find?_entriesOf]
  cases classify VariableKind variablesMap spec.variableKinds with
  | error entry => rfl
  | ok variableKinds =>
    cases classify LockingType lockingTypesMap spec.lockingTypes with
    | error entry => rfl
    | ok lockingTypes => cases classify TimeLock timeLocksMap spec.timeLocks <;> rfl

theorem exists_error_iff {spec : EnvironmentSpec} :
    (∃ entry, ofSpec spec = .error entry) ↔ ∃ entry ∈ spec.entries, entry.IsBad := by
  have search : (spec.entries.find? Misclassification.isBad).isSome ↔
      ∃ entry ∈ spec.entries, entry.IsBad := by
    simp only [List.find?_isSome, Misclassification.isBad_iff]
  rw [← search, find?_entries]
  cases ofSpec spec <;> simp [reported?]

theorem first_of_error {spec : EnvironmentSpec} {entry : Misclassification}
    (failed : ofSpec spec = .error entry) :
    ∃ before after, spec.entries = before ++ entry :: after ∧
      (∀ earlier ∈ before, ¬ earlier.IsBad) ∧ entry.IsBad := by
  have found := find?_entries spec
  rw [failed, reported?, List.find?_eq_some_iff_append] at found
  obtain ⟨bad, before, after, split, fine⟩ := found
  refine ⟨before, after, split, ?_, Misclassification.isBad_iff.mp bad⟩
  intro earlier member isBad
  have notBad := fine earlier member
  rw [Misclassification.isBad_iff.mpr isBad] at notBad
  cases notBad

/-- **An environment comes of a specification exactly if it is specified so.** -/
theorem ofSpec_eq_ok_iff {spec : EnvironmentSpec} {env : Environment} :
    ofSpec spec = .ok env ↔ env.spec = spec := by
  constructor
  · intro made
    obtain ⟨variableKinds, first, made⟩ := bind_eq_ok_iff.mp made
    obtain ⟨lockingTypes, second, made⟩ := bind_eq_ok_iff.mp made
    obtain ⟨timeLocks, third, made⟩ := bind_eq_ok_iff.mp made
    cases made
    unfold Environment.spec
    rw [classify_eq_ok_iff.mp first, classify_eq_ok_iff.mp second, classify_eq_ok_iff.mp third]
  · rintro rfl
    refine bind_eq_ok_iff.mpr ⟨env.variableKinds, classify_eq_ok_iff.mpr rfl, ?_⟩
    refine bind_eq_ok_iff.mpr ⟨env.lockingTypes, classify_eq_ok_iff.mpr rfl, ?_⟩
    exact bind_eq_ok_iff.mpr ⟨env.timeLocks, classify_eq_ok_iff.mpr rfl, rfl⟩

/-- **Going into a script never fails**, and reads all classifications as they were. -/
theorem descendClassified_eq (env : Environment) (id : Text) :
    env.descendClassified id = .ok (env.descend id) :=
  ofSpec_eq_ok_iff.mpr rfl

theorem deriveClassified_worded (env : Environment) (scripts : Dictionary (Option Text))
    (kinds : Dictionary VariableKind) (machine : Bool) :
    env.deriveClassified scripts (worded kinds) machine = .ok (env.derive scripts kinds machine) :=
  ofSpec_eq_ok_iff.mpr rfl

end Environment

/-! ## 3. Environments from environments -/

/-- A toolchain and the environment that it works in. -/
structure Workplace (τ ρ σ : Type) where
  toolchain : Toolchain τ ρ σ
  environment : Environment

/-- A way to get an environment from another one. -/
inductive Derivation
  /-- Go into a script. -/
  | descend (id : Text)
  /-- Start over with other scripts and variables. -/
  | derive (scripts : Dictionary (Option Text)) (variableKinds : Dictionary Json) (machine : Bool)

namespace Derivation

/-- The variables of a derivation are classified by words. -/
def IsValid : Derivation → Prop
  | .descend _ => True
  | .derive _ variableKinds _ =>
    ∀ entry ∈ variableKinds, ∃ kind : VariableKind, entry.2 = .str (Vocabulary.word kind)

variable {τ ρ σ : Type}

/-- Makes the environment of a derivation. -/
def apply (place : Workplace τ ρ σ) : Derivation → Except Misclassification (Workplace τ ρ σ)
  | .descend id =>
    (place.environment.descendClassified id).map fun environment => { place with environment }
  | .derive scripts variableKinds machine =>
    (place.environment.deriveClassified scripts variableKinds machine).map fun environment =>
      { place with environment }

/-- Makes one environment after the other. -/
def applyAll (place : Workplace τ ρ σ) :
    List Derivation → Except Misclassification (Workplace τ ρ σ)
  | [] => .ok place
  | step :: rest => step.apply place >>= fun next => applyAll next rest

end Derivation

/-- **What a derivation makes of an environment.**  Going into a script adds it to the ancestry and
leaves the rest.  Starting over keeps the ceiling and the state constructor; scripts, variables and
machine are those that are given, and there are no other classifications and no ancestors. -/
inductive Derives (env : Environment) : Derivation → Environment → Prop
  | descend (id : Text) : Derives env (.descend id) { env with ancestry := env.ancestry ++ [id] }
  | derive (scripts : Dictionary (Option Text)) {given : Dictionary Json}
    {variableKinds : Dictionary VariableKind} (machine : Bool)
    (read : Environment.worded variableKinds = given) :
    Derives env (.derive scripts given machine) {
      scripts, variableKinds, lockingTypes := [], unlocks := [], timeLocks := [], ancestry := []
      ceiling := env.ceiling, capabilities := ⟨machine, env.capabilities.stateConstructor⟩ }

/-- What a row of derivations makes of an environment. -/
inductive DerivesAll : Environment → List Derivation → Environment → Prop
  | nil {env : Environment} : DerivesAll env [] env
  | cons {env next last : Environment} {step : Derivation} {rest : List Derivation}
    (first : Derives env step next) (later : DerivesAll next rest last) :
    DerivesAll env (step :: rest) last

namespace Derivation

variable {τ ρ σ : Type}

/-- Valid variables are the words of some kinds. -/
theorem exists_worded {given : Dictionary Json}
    (valid : ∀ entry ∈ given, ∃ kind : VariableKind, entry.2 = .str (Vocabulary.word kind)) :
    ∃ kinds : Dictionary VariableKind, Environment.worded kinds = given := by
  induction given with
  | nil => exact ⟨[], rfl⟩
  | cons entry rest ih =>
    obtain ⟨⟨kind, first⟩, others⟩ := List.forall_mem_cons.mp valid
    obtain ⟨kinds, rfl⟩ := ih others
    exact ⟨(entry.1, kind) :: kinds, congrArg (· :: _) (Prod.ext rfl first.symm)⟩

/-- **A valid derivation does not fail**, and keeps the toolchain. -/
theorem exists_apply (T : Toolchain τ ρ σ) (env : Environment) {step : Derivation}
    (valid : step.IsValid) :
    ∃ next, step.apply ⟨T, env⟩ = .ok ⟨T, next⟩ ∧ Derives env step next := by
  cases step with
  | descend id =>
    refine ⟨env.descend id, ?_, .descend id⟩
    rw [apply, env.descendClassified_eq]
    rfl
  | derive scripts given machine =>
    obtain ⟨kinds, rfl⟩ := exists_worded valid
    refine ⟨env.derive scripts kinds machine, ?_, .derive scripts machine rfl⟩
    rw [apply, env.deriveClassified_worded]
    rfl

/-- **No row of valid derivations fails.** -/
theorem exists_applyAll (T : Toolchain τ ρ σ) (env : Environment) {steps : List Derivation}
    (valid : ∀ step ∈ steps, step.IsValid) :
    ∃ last, applyAll ⟨T, env⟩ steps = .ok ⟨T, last⟩ ∧ DerivesAll env steps last := by
  induction steps generalizing env with
  | nil => exact ⟨env, rfl, .nil⟩
  | cons step rest ih =>
    obtain ⟨first, others⟩ := List.forall_mem_cons.mp valid
    obtain ⟨next, applied, derives⟩ := exists_apply T env first
    obtain ⟨last, done, later⟩ := ih next others
    exact ⟨last, bind_eq_ok_iff.mpr ⟨_, applied, done⟩, .cons derives later⟩

/-- Going into one script after the other adds them to the ancestry in this order. -/
theorem applyAll_descend (T : Toolchain τ ρ σ) (env : Environment) (ids : List Text) :
    applyAll ⟨T, env⟩ (ids.map .descend) =
      .ok ⟨T, { env with ancestry := env.ancestry ++ ids }⟩ := by
  induction ids generalizing env with
  | nil =>
    rw [List.append_nil]
    rfl
  | cons id rest ih =>
    have applied : (Derivation.descend id).apply ⟨T, env⟩ = .ok ⟨T, env.descend id⟩ := by
      rw [apply, env.descendClassified_eq]
      rfl
    refine bind_eq_ok_iff.mpr ⟨_, applied, ?_⟩
    rw [ih]
    simp [Environment.descend]

end Derivation

namespace Environment

/-- The ways in which making an environment can end, in one statement.

* It fails exactly if some entry is bad.
* If it fails, then with the first bad entry, and the message names map, key and value of it.
* If it succeeds, then with an environment that is specified as was asked for; and all environments
  that are derived from it, one from the other, can be made: with the same toolchain, as `Derives`
  says step by step, and such that making the last one once more changes nothing.
* In particular the ancestry lists the scripts in the order in which they were gone into. -/
theorem made_unless_misclassified {τ ρ σ : Type} (T : Toolchain τ ρ σ) (spec : EnvironmentSpec) :
    ((∃ entry, ofSpec spec = .error entry) ↔ ∃ entry ∈ spec.entries, entry.IsBad) ∧
    (∀ entry, ofSpec spec = .error entry →
      (∃ before after, spec.entries = before ++ entry :: after ∧
        (∀ earlier ∈ before, ¬ earlier.IsBad) ∧ entry.IsBad) ∧
      entry.naming <+: entry.message) ∧
    ∀ env, ofSpec spec = .ok env →
      env.spec = spec ∧
      (∀ steps : List Derivation, (∀ step ∈ steps, step.IsValid) →
        ∃ last, Derivation.applyAll ⟨T, env⟩ steps = .ok ⟨T, last⟩ ∧ DerivesAll env steps last ∧
          ofSpec last.spec = .ok last) ∧
      ∀ ids : List Text, Derivation.applyAll ⟨T, env⟩ (ids.map .descend) =
        .ok ⟨T, { env with ancestry := env.ancestry ++ ids }⟩ := by
  refine ⟨exists_error_iff, ?_, ?_⟩
  · intro entry failed
    exact ⟨first_of_error failed, entry.naming_prefix_message⟩
  · intro env made
    refine ⟨ofSpec_eq_ok_iff.mp made, ?_, Derivation.applyAll_descend T env⟩
    intro steps valid
    obtain ⟨last, applied, derives⟩ := Derivation.exists_applyAll T env valid
    exact ⟨last, applied, derives, ofSpec_eq_ok_iff.mpr rfl⟩

/-- A specification with one bad locking type, behind a good one and before a bad time lock. -/
def misclassifiedSpec : EnvironmentSpec where
  variableKinds := [("owner", .str "Key")]
  lockingTypes := [("plain", .str "standard"), ("vault", .str "P2SH")]
  timeLocks := [("spend", .null)]

/-- An environment with a script under compilation, of which others are derived. -/
def vaultEnvironment : Environment where
  scripts := [("vault", some "OP_1")]
  variableKinds := [("owner", .key)]
  lockingTypes := [("vault", .p2sh)]
  timeLocks := [("spend", .height)]
  ancestry := ["outer"]
  ceiling := some 3
  capabilities := ⟨false, false⟩

/-- The bad locking type is the one that is reported.  Without bad entries one can go into two
scripts, and start over between them: only the second one is under compilation then. -/
theorem made_unless_misclassified_vault :
    (∃ entry ∈ misclassifiedSpec.entries, entry.IsBad) ∧
    (∃ before after, misclassifiedSpec.entries =
      before ++ ⟨lockingTypesMap, "vault", .str "P2SH", ["standard", "p2sh"]⟩ :: after ∧
        ∀ earlier ∈ before, ¬ earlier.IsBad) ∧
    ofSpec vaultEnvironment.spec = .ok vaultEnvironment ∧
    Derivation.applyAll ⟨standard, vaultEnvironment⟩
        [.descend "vault", .derive [] [("height", .str "CurrentBlockHeight")] true,
          .descend "spend"] =
      .ok ⟨standard, {
        variableKinds := [("height", .currentBlockHeight)], ancestry := ["spend"]
        ceiling := some 3, capabilities := ⟨true, false⟩ }⟩ := by
  obtain ⟨fails, first, -⟩ := made_unless_misclassified standard misclassifiedSpec
  have failed : ofSpec misclassifiedSpec =
      .error ⟨lockingTypesMap, "vault", .str "P2SH", ["standard", "p2sh"]⟩ := by rfl
  obtain ⟨⟨before, after, split, fine, -⟩, -⟩ := first _ failed
  obtain ⟨-, -, made⟩ := made_unless_misclassified standard vaultEnvironment.spec
  have again : ofSpec vaultEnvironment.spec = .ok vaultEnvironment := by rfl
  have valid : ∀ step ∈ [Derivation.descend "vault",
      .derive [] [("height", .str "CurrentBlockHeight")] true, .descend "spend"], step.IsValid := by
    simp only [List.forall_mem_cons, Derivation.IsValid]
    exact ⟨trivial, ⟨⟨.currentBlockHeight, rfl⟩, nofun⟩, trivial, nofun⟩
  obtain ⟨last, applied, derives, -⟩ := (made _ again).2.1 _ valid
  refine ⟨fails.mp ⟨_, failed⟩, ⟨before, after, split, fine⟩, again, applied.trans ?_⟩
  obtain _ | ⟨⟨_⟩, _ | ⟨_ | ⟨_, _, read⟩, _ | ⟨⟨_⟩, ⟨_⟩⟩⟩⟩ := derives
  cases Except.ok.inj (classify_eq_ok_iff.mpr read : classify _ variablesMap _ = _)
  rfl

end Environment

end ScriptTemplate
