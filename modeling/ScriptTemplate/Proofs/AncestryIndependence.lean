/-
# What ancestry and ceiling decide

The ancestry of a compilation and the ceiling on it can refuse a script.  They cannot change what a
script compiles to.  This file says exactly when they refuse.

A script that compiles has followed all of its references to their ends.  So no script that it
leads to was an ancestor (`not_mem_ancestry_of_success`), and every chain of references below it
has found room (`length_le_of_success`).  Conversely these two conditions are all that another
ancestry and another ceiling have to meet: `Admits` lists what an environment must offer for what a
script has compiled to elsewhere, and then the script compiles to the same there
(`Admits.compiles`).

`compileReference_success_iff` compares any environment with the one that has no ancestry and no
ceiling.  The two compilations have equal successes, artifacts included; about the errors of those
that fail it says nothing, since these name the ancestry.
-/
import Mathlib
import ScriptTemplate.Proofs.References

namespace ScriptTemplate.Toolchain

open Script

variable {data : Data} {env env' : Environment} {id text : Text} {success : ScriptSuccess}

/-! ## 1. Scripts that are handed out -/

theorem fullAt?_eq_none_iff :
    env.fullAt? = none ↔ ∀ ceiling ∈ env.ceiling, (env.ancestry.length : Int) < ceiling := by
  refine ⟨length_lt_of_fullAt?, fun room => ?_⟩
  unfold Environment.fullAt?
  cases given : env.ceiling with
  | none => rfl
  | some ceiling =>
    have := room ceiling given
    exact if_neg (by omega)

theorem locate_eq_ok_iff :
    env.locate id = .ok text ↔
      env.script? id = some text ∧ id ∉ env.ancestry ∧ env.fullAt? = none := by
  refine ⟨Environment.of_locate, ?_⟩
  rintro ⟨there, new, room⟩
  unfold Environment.locate
  rw [there, room]
  exact if_neg new

/-! ## 2. What a script that compiles has met -/

/-- **A script that compiles leads to none of its ancestors.** -/
theorem not_mem_ancestry_of_success {name : Text} (reached : Reaches env id name)
    (h : standard.referenceOutcome data env id = .ok (.success success)) :
    name ∉ env.ancestry := by
  -- Along the path the ancestry grows, so the environment varies; the graph stays the same.
  suffices along : ∀ (inside : Environment) (compiled : ScriptSuccess),
      Refers inside = Refers env →
      standard.referenceOutcome data inside id = .ok (.success compiled) →
      name ∉ inside.ancestry from along env success rfl h
  clear h
  induction reached using Relation.ReflTransGen.head_induction_on with
  | refl =>
    intro inside compiled _ h
    obtain ⟨text, located, -⟩ := of_referenceOutcome_success h
    exact (Environment.of_locate located).2.1
  | @head script next refers _ ih =>
    intro inside compiled same h
    obtain ⟨inner, below⟩ := success_of_refers h (same ▸ refers)
    have := ih (inside.descend script) inner same below
    exact fun member => this (List.mem_append_left _ member)

/-- **Every chain of references below a script that compiles has found room**, among the scripts
that are left and below the ceiling. -/
theorem length_le_of_success {chain : List Text} (linked : IsReferenceChain env id chain)
    (h : standard.referenceOutcome data env id = .ok (.success success)) :
    chain.length ≤ env.pending ∧
      ∀ ceiling ∈ env.ceiling, env.ancestry.length + chain.length ≤ ceiling := by
  induction chain generalizing env id success with
  | nil => cases linked.1
  | cons first rest ih =>
    obtain ⟨text, located, -⟩ := of_referenceOutcome_success h
    have fewer := Environment.pending_descend_lt located
    rcases linked.cases with alone | ⟨next, others, same, refers, linked⟩
    · have room := fullAt?_eq_none_iff.mp (Environment.of_locate located).2.2
      rw [alone, List.length_singleton]
      refine ⟨by omega, fun ceiling given => ?_⟩
      have := room ceiling given
      omega
    · obtain ⟨rfl, rfl⟩ := List.cons.inj same
      obtain ⟨inner, below⟩ := success_of_refers h refers
      have inside : IsReferenceChain (env.descend first) next rest := linked
      obtain ⟨left, room⟩ := ih inside below
      rw [List.length_cons]
      refine ⟨by omega, fun ceiling given => ?_⟩
      have := room ceiling given
      simp only [Environment.descend, List.length_append, List.length_singleton] at this
      omega

/-! ## 3. Compiling to the same elsewhere -/

/-- **What another environment has to offer** for a script to compile to the same there: the same
meanings and texts as far as the script leads, none of it in the ancestry, and room below the
ceiling for every chain of references. -/
structure Admits (data : Data) (env env' : Environment) (id : Text) : Prop where
  meanings : ∀ name, meaning data env' name = meaning data env name
  capabilities : env'.capabilities = env.capabilities
  texts : ∀ name, Reaches env id name → env'.script? name = env.script? name
  new : ∀ name, Reaches env id name → name ∉ env'.ancestry
  room : ∀ chain, IsReferenceChain env id chain →
    ∀ ceiling ∈ env'.ceiling, env'.ancestry.length + chain.length ≤ ceiling

/-- The script itself is handed out there. -/
theorem Admits.located (admits : Admits data env env' id) (located : env.locate id = .ok text) :
    env'.locate id = .ok text := by
  obtain ⟨there, -, -⟩ := Environment.of_locate located
  refine locate_eq_ok_iff.mpr ⟨(admits.texts id .refl).trans there, admits.new id .refl, ?_⟩
  refine fullAt?_eq_none_iff.mpr fun ceiling given => ?_
  have := admits.room [id] (.single env id) ceiling given
  rw [List.length_singleton] at this
  omega

/-- What is offered for a script is offered, inside it, for every script that it refers to. -/
theorem Admits.descend (admits : Admits data env env' id) {name : Text}
    (refers : Refers env id name)
    (h : standard.referenceOutcome data (env.descend id) name = .ok (.success success)) :
    Admits data (env.descend id) (env'.descend id) name where
  meanings := admits.meanings
  capabilities := admits.capabilities
  texts other reached := admits.texts other (.head refers reached)
  new other reached := by
    -- The name leads to no ancestor, and the script itself is one here.
    have apart := not_mem_ancestry_of_success reached h
    have new := admits.new other (.head refers reached)
    simp only [Environment.descend, List.mem_append, List.mem_singleton, not_or] at apart ⊢
    exact ⟨new, apart.2⟩
  room chain linked ceiling given := by
    have := admits.room (id :: chain) (linked.cons refers) ceiling given
    simp only [Environment.descend, List.length_append, List.length_cons, List.length_nil] at this ⊢
    omega

/-- A tree resolves alike under two data and environments where its names mean the same and its
references have the same verdicts. -/
theorem settle_verdictOutcome_congr {data' : Data} {tree : List Node}
    (meanings : ∀ name ∈ namesAll tree, meaning data' env' name = meaning data env name)
    (verdicts : ∀ name ∈ namesAll tree, IsReference env name →
      standard.verdictOutcome data' env' name = standard.verdictOutcome data env name) :
    (resolveAll data' env' tree).settle (standard.verdictOutcome data' env') =
      (resolveAll data env tree).settle (standard.verdictOutcome data env) := by
  refine settle_resolveAll_congr fun name member range => ?_
  unfold settledName
  rw [meanings name member]
  cases found : meaning data env name with
  | script => rw [verdicts name member (meaning_eq_script_iff.mp found)]
  | _ => rfl

/-- A text comes to the same under two data and environments where its names mean the same,
evaluations run alike, and its references have the same verdicts. -/
theorem textOutcome_congr {data' : Data} {tree : List Node} (parsed : Script.parse text = .ok tree)
    (capabilities : env'.capabilities = env.capabilities)
    (meanings : ∀ name ∈ namesAll tree, meaning data' env' name = meaning data env name)
    (verdicts : ∀ name ∈ namesAll tree, IsReference env name →
      standard.verdictOutcome data' env' name = standard.verdictOutcome data env name) :
    standard.textOutcome data' env' text = standard.textOutcome data env text := by
  rw [textOutcome_of_parsed parsed, textOutcome_of_parsed parsed,
    settle_verdictOutcome_congr meanings verdicts]
  congr 1
  funext pieces
  unfold resolvedOutcome
  rw [capabilities]

/-- **What a script compiles to, it compiles to in every environment that admits it.** -/
theorem Admits.compiles (admits : Admits data env env' id)
    (h : standard.referenceOutcome data env id = .ok (.success success)) :
    standard.referenceOutcome data env' id = .ok (.success success) := by
  induction hp : env.pending using Nat.strongRecOn generalizing env env' id success with
  | ind pending ih =>
    obtain ⟨text, located, compiled⟩ := of_referenceOutcome_success h
    rw [standard.referenceOutcome_of_located data (admits.located located)]
    obtain ⟨tree, pieces, gathered, parsed, -⟩ := of_textOutcome_success compiled
    have verdicts : ∀ name ∈ namesAll tree, IsReference (env.descend id) name →
        standard.verdictOutcome data (env'.descend id) name =
          standard.verdictOutcome data (env.descend id) name := by
      intro name member reference
      obtain ⟨inner, below⟩ := answer_of_success compiled parsed member reference
      have refers : Refers env id name :=
        ⟨text, tree, (Environment.of_locate located).1, parsed, member, reference⟩
      have there := ih _ (hp ▸ Environment.pending_descend_lt located)
        (admits.descend refers below) below rfl
      rw [verdictOutcome, verdictOutcome, there, below]
    have same : standard.textOutcome data (env'.descend id) text =
        standard.textOutcome data (env.descend id) text :=
      textOutcome_congr parsed admits.capabilities (fun name _ => admits.meanings name) verdicts
    rw [same]
    exact compiled

/-! ## 4. Without ancestry and ceiling -/

/-- The numbers of scripts on the chains of references that start at a script. -/
def chainLengths (env : Environment) (id : Text) : Set Nat :=
  { n | ∃ chain, IsReferenceChain env id chain ∧ chain.length = n }

/-- **Below a script that compiles there is a longest chain of references.** -/
theorem exists_longest_of_success
    (h : standard.referenceOutcome data env id = .ok (.success success)) :
    ∃ longest, IsGreatest (chainLengths env id) longest := by
  have bounded : BddAbove (chainLengths env id) := by
    refine ⟨env.pending, ?_⟩
    rintro _ ⟨chain, linked, rfl⟩
    exact (length_le_of_success linked h).1
  have inhabited : (chainLengths env id).Nonempty := ⟨1, [id], .single env id, rfl⟩
  exact ⟨sSup (chainLengths env id), Nat.sSup_mem inhabited bounded,
    fun _ member => le_csSup bounded member⟩

/-- **Ancestry and ceiling decide whether a script compiles, never what it compiles to.**  A script
compiles in an environment to what it compiles to without ancestry and ceiling; and it does so
exactly if it leads to none of its ancestors and the longest chain of references that starts at it
fits between the ancestry and the ceiling. -/
theorem compileReference_success_iff (data : Data) (env : Environment) (id : Text)
    (success : ScriptSuccess) (here there : Ambient) :
    ((standard.compileReference data env id).run here).1 = .ok (.success success) ↔
      ((standard.compileReference data { env with ancestry := [], ceiling := none } id).run
          there).1 = .ok (.success success) ∧
        (∀ ancestor ∈ env.ancestry, ¬ Reaches env id ancestor) ∧
        ∀ ceiling ∈ env.ceiling, ∃ longest, IsGreatest (chainLengths env id) longest ∧
          env.ancestry.length + longest ≤ ceiling := by
  rw [standard.yields_compileReference data env id here,
    standard.yields_compileReference data { env with ancestry := [], ceiling := none } id there]
  constructor
  · intro h
    have admits : Admits data env { env with ancestry := [], ceiling := none } id :=
      ⟨fun _ => rfl, rfl, fun _ _ => rfl, by simp, by simp⟩
    refine ⟨admits.compiles h, ?_, ?_⟩
    · exact fun ancestor member reached => not_mem_ancestry_of_success reached h member
    · intro ceiling given
      obtain ⟨longest, greatest⟩ := exists_longest_of_success h
      obtain ⟨chain, linked, rfl⟩ := greatest.1
      exact ⟨chain.length, greatest, (length_le_of_success linked h).2 ceiling given⟩
  · rintro ⟨h, apart, fits⟩
    have admits : Admits data { env with ancestry := [], ceiling := none } env id := by
      refine ⟨fun _ => rfl, rfl, fun _ _ => rfl, ?_, ?_⟩
      · exact fun name reached member => apart name member reached
      · intro chain linked ceiling given
        obtain ⟨longest, greatest, room⟩ := fits ceiling given
        have shorter : chain.length ≤ longest := greatest.2 ⟨chain, linked, rfl⟩
        omega
    exact admits.compiles h

/-- Three scripts in a row, the last of which refers to none, below an ancestor. -/
def rowBelow (ceiling : Int) : Environment where
  scripts := [("a", some "b"), ("b", some "<c>"), ("c", some "OP_1")]
  ancestry := ["top"]
  ceiling := some ceiling

/-- The row fits below one ancestor if the ceiling is four: it compiles to what it compiles to
without ancestor and ceiling.  With a ceiling of three it is refused.  So its longest chain of
references has three scripts. -/
theorem compileReference_success_iff_row :
    (∃ success,
      ((standard.compileReference {} (rowBelow 4) "a").run default).1 = .ok (.success success) ∧
      success.bytecode = [0x01, 0x51] ∧
      ((standard.compileReference {} { rowBelow 4 with ancestry := [], ceiling := none } "a").run
        default).1 = .ok (.success success)) ∧
    (∃ failure,
      ((standard.compileReference {} (rowBelow 3) "a").run default).1 = .ok (.failure failure)) ∧
    IsGreatest (chainLengths (rowBelow 4) "a") 3 := by
  obtain ⟨success, fitting, bytecode⟩ : ∃ success,
      standard.referenceOutcome {} (rowBelow 4) "a" = .ok (.success success) ∧
        success.bytecode = [0x01, 0x51] := ⟨_, by cbv, by cbv⟩
  obtain ⟨failure, refused⟩ : ∃ failure,
      standard.referenceOutcome {} (rowBelow 3) "a" = .ok (.failure failure) := ⟨_, by cbv⟩
  have compiles := (standard.yields_compileReference {} (rowBelow 4) "a" default).trans fitting
  have fails := (standard.yields_compileReference {} (rowBelow 3) "a" default).trans refused
  obtain ⟨same, apart, fits⟩ :=
    (compileReference_success_iff {} (rowBelow 4) "a" success default default).mp compiles
  obtain ⟨longest, greatest, room⟩ := fits 4 rfl
  -- Only the ceiling stands against the row below three.
  have tight : ¬ 1 + (longest : Int) ≤ 3 := by
    intro enough
    have compiled := (compileReference_success_iff {} (rowBelow 3) "a" success default default).mpr
      ⟨same, apart, fun ceiling given => ⟨longest, greatest, Option.some.inj given ▸ enough⟩⟩
    rw [fails] at compiled
    cases compiled
  have three : longest = 3 := by
    have : 1 + (longest : Int) ≤ 4 := room
    omega
  exact ⟨⟨success, compiles, bytecode, same⟩, ⟨failure, fails⟩, three ▸ greatest⟩

end ScriptTemplate.Toolchain
