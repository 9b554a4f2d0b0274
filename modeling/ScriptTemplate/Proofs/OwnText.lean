/-
# A script and its text

A script may be compiled by its id, or its text may be compiled as it stands.  The first way puts
the id into the ancestry and the second does not, so the two run the same text in two environments,
and a reference back to the script is refused in the one and followed in the other.

**With no ceiling both ways come to the same success, or both fail.**  One half is a matter of
ancestries alone: what compiles inside a script compiles outside of it (`admits_outside`), whatever
the ceiling.  The other half needs that a text which compiles never leads back to its own script
(`not_reaches_of_textOutcome`).  Nothing refuses such a text at once, since its id is not in the
ancestry; but the script that it leads to has the same text, and would lead back to itself.

With a ceiling the second half fails, as the id takes up room.  About failures nothing is said: a
text that leads back to its script fails either way, with errors one level apart.
-/
import Mathlib
import ScriptTemplate.Proofs.Cycles

namespace ScriptTemplate.Toolchain

open Script

variable {data : Data} {env : Environment} {id name text : Text} {success : ScriptSuccess}

/-! ## 1. Texts that lead back to their script -/

/-- **A script that compiles leads to no cycle.** -/
theorem not_leadsToCycle_of_success
    (h : standard.referenceOutcome data env id = .ok (.success success)) :
    ¬ LeadsToCycle env id := by
  induction hp : env.pending using Nat.strongRecOn generalizing env id success with
  | ind pending ih =>
    intro leads
    obtain ⟨next, refers, leads⟩ := leads.exists_refers
    obtain ⟨_, located, -⟩ := of_referenceOutcome_success h
    obtain ⟨_, below⟩ := success_of_refers h refers
    -- The script referred to leads to a cycle as well, with fewer scripts left to compile.
    exact ih _ (hp ▸ Environment.pending_descend_lt located) below rfl leads

/-- **No reference of a text that compiles leads back to the script whose text it is.** -/
theorem not_reaches_of_textOutcome {tree : List Node} (there : env.script? id = some text)
    (h : standard.textOutcome data env text = .ok (.success success))
    (parsed : Script.parse text = .ok tree) (member : name ∈ namesAll tree)
    (reference : IsReference env name) : ¬ Reaches env name id := by
  intro back
  obtain ⟨inner, compiled⟩ := answer_of_success h parsed member reference
  have refers : Refers env id name := ⟨text, tree, there, parsed, member, reference⟩
  have cycle : Relation.TransGen (Refers env) id id := .head' refers back
  exact not_leadsToCycle_of_success compiled ⟨id, back, cycle⟩

/-! ## 2. Inside and outside of a script -/

/-- What compiles inside a script is admitted outside of it. -/
theorem admits_outside
    (h : standard.referenceOutcome data (env.descend id) name = .ok (.success success)) :
    Admits data (env.descend id) env name where
  meanings _ := rfl
  capabilities := rfl
  texts _ _ := rfl
  new other reached := by
    intro ancestor
    exact not_mem_ancestry_of_success reached h (List.mem_append_left _ ancestor)
  room chain linked ceiling given := by
    have room := (length_le_of_success linked h).2 ceiling given
    simp only [Environment.descend, List.length_append, List.length_singleton] at room
    omega

/-- What compiles outside of a script, and does not lead to it, is admitted inside, if there is no
ceiling. -/
theorem admits_inside (unbounded : env.ceiling = none)
    (h : standard.referenceOutcome data env name = .ok (.success success))
    (apart : ¬ Reaches env name id) : Admits data env (env.descend id) name where
  meanings _ := rfl
  capabilities := rfl
  texts _ _ := rfl
  new other reached := by
    intro ancestor
    rcases List.mem_append.mp ancestor with earlier | last
    · exact not_mem_ancestry_of_success reached h earlier
    · obtain rfl := List.mem_singleton.mp last
      exact apart reached
  room chain linked ceiling given := by simp [Environment.descend, unbounded] at given

/-- **What a script compiles to, its text compiles to**, whatever the ceiling. -/
theorem textOutcome_of_referenceOutcome (there : env.script? id = some text)
    (h : standard.referenceOutcome data env id = .ok (.success success)) :
    standard.textOutcome data env text = .ok (.success success) := by
  obtain ⟨found, located, compiled⟩ := of_referenceOutcome_success h
  obtain rfl : text = found :=
    Option.some.inj (there.symm.trans (Environment.of_locate located).1)
  obtain ⟨tree, -, -, parsed, -⟩ := of_textOutcome_success compiled
  have same : standard.textOutcome data env text =
      standard.textOutcome data (env.descend id) text := by
    refine textOutcome_congr parsed rfl (fun _ _ => rfl) fun name member reference => ?_
    obtain ⟨inner, inside⟩ := answer_of_success compiled parsed member reference
    rw [verdictOutcome, verdictOutcome, (admits_outside inside).compiles inside, inside]
  rw [same]
  exact compiled

/-- **What its text compiles to, a script compiles to**, if nothing stops it on the way in. -/
theorem referenceOutcome_of_textOutcome (there : env.script? id = some text)
    (new : id ∉ env.ancestry) (unbounded : env.ceiling = none)
    (h : standard.textOutcome data env text = .ok (.success success)) :
    standard.referenceOutcome data env id = .ok (.success success) := by
  have room : env.fullAt? = none := fullAt?_eq_none_iff.mpr (by simp [unbounded])
  have located : env.locate id = .ok text := locate_eq_ok_iff.mpr ⟨there, new, room⟩
  obtain ⟨tree, -, -, parsed, -⟩ := of_textOutcome_success h
  have same : standard.textOutcome data (env.descend id) text =
      standard.textOutcome data env text := by
    refine textOutcome_congr parsed rfl (fun _ _ => rfl) fun name member reference => ?_
    obtain ⟨inner, outside⟩ := answer_of_success h parsed member reference
    have apart := not_reaches_of_textOutcome there h parsed member reference
    rw [verdictOutcome, verdictOutcome, (admits_inside unbounded outside apart).compiles outside,
      outside]
  rw [standard.referenceOutcome_of_located data located, same]
  exact h

/-! ## 3. The two ways -/

/-- **A script compiles by its id exactly if its text compiles as it stands, and to the same.**  The
bytecode and all artifacts are equal, in any two surroundings and under any ancestry that the id is
not in, if there is no ceiling. -/
theorem compileText_success_iff (data : Data) (env : Environment) (id text : Text)
    (there : env.script? id = some text) (new : id ∉ env.ancestry)
    (unbounded : env.ceiling = none) (success : ScriptSuccess) (here elsewhere : Ambient) :
    ((standard.compileText data env text).run here).1 = .ok (.success success) ↔
      ((standard.compileReference data env id).run elsewhere).1 = .ok (.success success) := by
  rw [standard.yields_compileText data env text here,
    standard.yields_compileReference data env id elsewhere]
  exact ⟨referenceOutcome_of_textOutcome there new unbounded,
    textOutcome_of_referenceOutcome there⟩

/-- A script under compilation, with another one that evaluates a third. -/
def underCompilation : Environment where
  scripts := [("top", some "outer"), ("outer", some "$(<inner>) OP_1"), ("inner", some "0x51")]
  ancestry := ["top"]

/-- Two levels below another script, both ways succeed with the same bytecode and artifacts. -/
theorem compileText_success_iff_nested :
    ∃ success : ScriptSuccess, success.bytecode = [0x51, 0x51] ∧
      ((standard.compileText {} underCompilation "$(<inner>) OP_1").run default).1 =
        .ok (.success success) ∧
      ((standard.compileReference {} underCompilation "outer").run default).1 =
        .ok (.success success) := by
  obtain ⟨success, outcome, bytecode⟩ := map_verdict_eq_ok_iff.mp
    (show standard.verdictOutcome {} underCompilation "outer" = .ok (.ok [0x51, 0x51]) by cbv)
  have second := (standard.yields_compileReference {} underCompilation "outer" default).trans
    outcome
  have first := compileText_success_iff {} underCompilation "outer" "$(<inner>) OP_1" (by cbv)
    (by decide) rfl success default default
  exact ⟨success, bytecode, first.mpr second, second⟩

end ScriptTemplate.Toolchain
