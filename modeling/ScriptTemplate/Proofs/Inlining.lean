/-
# Inlining a referenced script

A script that refers to another by name may as well hold the other's text, or its bytecode as a hex
literal: it compiles to the same bytecode (`compileReference_inline`).  The replacement is made in
the text, so three things have to go together.

* Text: the word is one lexeme, and what replaces it runs into nothing on either side
  (`Splits.split_at_word`).
* Tree: a word of a tree may be replaced by any row that comes to what the word stands for, however
  deep it sits in pushes and evaluations (`replaceable_of_reads`).  Reducing the row as a part of
  the whole is no different from reducing it alone, since rows come to their bytes piece by piece.
* Environment: the references of the inlined text were compiled one level further down, and the
  script that is changed was an ancestor throughout.  `Relaxes` says when one environment hands out
  all that another does; its ancestry may be shorter and the texts of the other's ancestors may
  differ.
-/
import Mathlib
import ScriptTemplate.Proofs.AncestryIndependence
import ScriptTemplate.Proofs.TreeValues

namespace ScriptTemplate

/-! ## 1. Changing the text of a script -/

namespace Environment

/-- The environment where the text of a script is changed, and nothing else. -/
def withText (env : Environment) (id text : Text) : Environment :=
  { env with scripts := env.scripts.insert id (some text) }

variable {env : Environment} {id name text : Text}

theorem script?_withText_self : (env.withText id text).script? id = some text := by
  simp [withText, script?, Dictionary.lookup_insert]

theorem script?_withText_of_ne (apart : name ≠ id) :
    (env.withText id text).script? name = env.script? name := by
  simp [withText, script?, Dictionary.lookup_insert, apart]

/-- Names keep their meaning when a script that is there changes its text. -/
theorem meaning_withText {old : Text} (there : env.script? id = some old) (data : Data) :
    Script.meaning data (env.withText id text) name = Script.meaning data env name := by
  have known : (env.withText id text).hasScript name = env.hasScript name := by
    simp only [withText, hasScript, Dictionary.lookup_insert]
    split
    · next same =>
      subst same
      cases found : env.scripts.lookup name with
      | some held => rfl
      | none => simp [script?, found] at there
    · rfl
  unfold Script.meaning
  rw [known]
  rfl

end Environment

namespace Toolchain

open Script

/-! ## 2. Environments that hand out more -/

/-- **An environment relaxes another**: names mean the same, evaluations run alike, the ancestry is
a part of the other's and no longer, the ceiling is the same, and all scripts but the other's
ancestors have the same text. -/
structure Relaxes (data : Data) (inside outside : Environment) : Prop where
  meanings : ∀ name, meaning data outside name = meaning data inside name
  capabilities : outside.capabilities = inside.capabilities
  ceiling : outside.ceiling = inside.ceiling
  ancestry : outside.ancestry ⊆ inside.ancestry
  length : outside.ancestry.length ≤ inside.ancestry.length
  texts : ∀ name ∉ inside.ancestry, outside.script? name = inside.script? name

namespace Relaxes

variable {data : Data} {inside outside : Environment} {name : Text} {bytes : Bytes}

/-- What compiles, compiles to the same where the environment is relaxed. -/
theorem compiles (relaxes : Relaxes data inside outside) {success : ScriptSuccess}
    (h : standard.referenceOutcome data inside name = .ok (.success success)) :
    standard.referenceOutcome data outside name = .ok (.success success) := by
  have admits : Admits data inside outside name := by
    refine ⟨relaxes.meanings, relaxes.capabilities, ?_, ?_, ?_⟩
    · exact fun other reached => relaxes.texts other (not_mem_ancestry_of_success reached h)
    · exact fun other reached member =>
        not_mem_ancestry_of_success reached h (relaxes.ancestry member)
    · intro chain linked ceiling given
      have room := (length_le_of_success linked h).2 ceiling (relaxes.ceiling ▸ given)
      have := relaxes.length
      omega
  exact admits.compiles h

theorem stands (relaxes : Relaxes data inside outside) (h : Stands data inside name bytes) :
    Stands data outside name bytes := by
  cases h with
  | opcode found => exact .opcode ((relaxes.meanings name).trans found)
  | value found => exact .value ((relaxes.meanings name).trans found)
  | script found compiled =>
    exact .script ((relaxes.meanings name).trans found) (relaxes.compiles compiled)

theorem comesTo (relaxes : Relaxes data inside outside) {nodes : List Node}
    (h : ComesTo data inside nodes bytes) : ComesTo data outside nodes bytes :=
  h.elsewhere relaxes.capabilities fun _ _ => relaxes.stands

/-- Inside a script, its own text may change. -/
theorem withText {env : Environment} {id old : Text} (there : env.script? id = some old)
    (text : Text) : Relaxes data (env.descend id) ((env.withText id text).descend id) where
  meanings _ := Environment.meaning_withText there data
  capabilities := rfl
  ceiling := rfl
  ancestry := List.Subset.refl _
  length := Nat.le_refl _
  texts other new := Environment.script?_withText_of_ne fun same =>
    new (by simp [Environment.descend, same])

/-- Leaving a script relaxes the environment. -/
theorem ascend (env : Environment) (id : Text) : Relaxes data (env.descend id) env where
  meanings _ := rfl
  capabilities := rfl
  ceiling := rfl
  ancestry := List.subset_append_left _ _
  length := by simp [Environment.descend]
  texts _ _ := rfl

end Relaxes

/-! ## 3. Replacing a word in a tree -/

section Replacing

variable {data : Data} {env : Environment} {name : Text} {earlier later : List Lexeme}
  {bytes : Bytes}

/-- **A word between lexemes may be replaced** by any row that comes to what it stands for: the
whole still reads as a tree that comes to the given bytes. -/
def Replaceable (data : Data) (env : Environment) (name : Text) (earlier later : List Lexeme)
    (bytes : Bytes) : Prop :=
  ∃ value, Stands data env name value ∧
    ∀ row nodes, Reads row nodes → ComesTo data env nodes value →
      ∃ changed, Reads (earlier ++ (row ++ later)) changed ∧ ComesTo data env changed bytes

/-- A word is replaced in a part of a row, if the part can then be put back. -/
theorem Replaceable.within {earlier' later' : List Lexeme} {bytes' : Bytes}
    (h : Replaceable data env name earlier later bytes)
    (back : ∀ row changed, Reads (earlier ++ (row ++ later)) changed →
      ComesTo data env changed bytes →
        ∃ whole, Reads (earlier' ++ (row ++ later')) whole ∧ ComesTo data env whole bytes') :
    Replaceable data env name earlier' later' bytes' := by
  obtain ⟨value, stands, replaced⟩ := h
  refine ⟨value, stands, fun row nodes reads comes => ?_⟩
  obtain ⟨changed, again, same⟩ := replaced row nodes reads comes
  exact back row changed again same

/-- **Every word of a tree may be replaced**, however deep it sits. -/
theorem replaceable_of_reads {tree : List Node}
    (reads : Reads (earlier ++ .word name :: later) tree) (comes : ComesTo data env tree bytes) :
    Replaceable data env name earlier later bytes := by
  generalize split : earlier ++ .word name :: later = lexemes at reads
  induction reads generalizing earlier later bytes with
  | nil => simp at split
  | @word other range lexemes nodes rest ih =>
    cases comes with
    | name stands comes =>
      cases earlier with
      | nil =>
        cases split
        refine ⟨_, stands, fun row nodes reads value => ?_⟩
        exact ⟨_, reads.append rest, value.append comes⟩
      | cons first earlier =>
        obtain ⟨rfl, left⟩ := List.cons.inj split
        exact (ih comes left).within fun row changed again same =>
          ⟨.identifier other range :: changed, .word again, .name stands same⟩
  | @hex digits value range lexemes nodes decoded rest ih =>
    cases comes with
    | hex comes =>
      cases earlier with
      | nil => cases split
      | cons first earlier =>
        obtain ⟨rfl, left⟩ := List.cons.inj split
        exact (ih comes left).within fun row changed again same =>
          ⟨.hex value range :: changed, .hex decoded again, .hex same⟩
  | @group bracket range inner lexemes items nodes inside rest ihInside ihRest =>
    cases comes with
    | group comesInside closes comes =>
      cases earlier with
      | nil => cases split
      | cons first earlier =>
        obtain ⟨rfl, left⟩ := List.cons.inj split
        rcases List.append_eq_append_iff.mp left with ⟨cut, found, left⟩ | ⟨cut, found, left⟩
        · -- The word stands inside the group.
          cases cut with
          | nil => cases left
          | cons first cut =>
            obtain ⟨rfl, rfl⟩ := List.cons.inj left
            refine (ihInside comesInside found.symm).within fun row changed again same => ?_
            have whole : Reads _ (.group bracket changed range :: nodes) := .group again rest
            exact ⟨_, by simpa using whole, .group same closes comes⟩
        · -- The word stands behind the group.
          cases cut with
          | nil => cases left
          | cons first cut =>
            obtain ⟨rfl, behind⟩ := List.cons.inj left
            refine (ihRest comes behind.symm).within fun row changed again same => ?_
            have whole : Reads _ (.group bracket items range :: changed) := .group inside again
            exact ⟨_, by simpa [found] using whole, .group comesInside closes same⟩

end Replacing

/-! ## 4. Inlining -/

section Inlining

variable {data : Data} {env : Environment} {id before name after : Text} {success : ScriptSuccess}

/-- A script that was handed out compiles after a change of its text, if the new text reads as a
tree that comes to something inside it. -/
theorem exists_success_withText {text new : Text} {bytes : Bytes} {lexemes : List Lexeme}
    {tree : List Node} (located : env.locate id = .ok text) (splits : Splits new lexemes)
    (reads : Reads lexemes tree)
    (comes : ComesTo data ((env.withText id new).descend id) tree bytes) :
    ∃ again, standard.referenceOutcome data (env.withText id new) id = .ok (.success again) ∧
      again.bytecode = bytes := by
  obtain ⟨-, fresh, room⟩ := Environment.of_locate located
  have found : (env.withText id new).locate id = .ok new :=
    locate_eq_ok_iff.mpr ⟨Environment.script?_withText_self, fresh, room⟩
  rw [standard.referenceOutcome_of_located data found]
  exact textOutcome_success_iff_reads.mpr ⟨lexemes, tree, splits, reads, comes⟩

/-- **A name in the text of a script may be replaced by any text that comes to what it stands for**,
as long as the text splits together with what follows it. -/
theorem exists_success_of_replaced (located : env.locate id = .ok (before ++ name ++ after))
    (placed : WordAt before name after)
    (compiled : standard.textOutcome data (env.descend id) (before ++ name ++ after) =
      .ok (.success success)) :
    ∃ value later, Stands data (env.descend id) name value ∧ Splits after later ∧
      ∀ replacement row nodes, Splits (replacement ++ after) (row ++ later) → Reads row nodes →
        ComesTo data (env.descend id) nodes value →
          ∃ again, standard.referenceOutcome data
              (env.withText id (before ++ replacement ++ after)) id = .ok (.success again) ∧
            again.bytecode = success.bytecode := by
  obtain ⟨lexemes, tree, splits, reads, comes⟩ :=
    textOutcome_success_iff_reads.mp ⟨success, compiled, rfl⟩
  rw [List.append_assoc] at splits
  obtain ⟨earlier, later, rfl, splitsAfter, splitsBefore⟩ := splits.split_at_word placed
  obtain ⟨value, stands, -⟩ := replaceable_of_reads reads comes
  refine ⟨value, later, stands, splitsAfter, ?_⟩
  intro replacement row nodes splitsRow readsRow comesRow
  -- Inside the script its own text has no part in what anything comes to.
  have relaxes : Relaxes data (env.descend id)
      ((env.withText id (before ++ replacement ++ after)).descend id) :=
    .withText (Environment.of_locate located).1 _
  obtain ⟨again, standsAgain, replaced⟩ := replaceable_of_reads reads (relaxes.comesTo comes)
  obtain rfl := (relaxes.stands stands).unique standsAgain
  obtain ⟨changed, readsChanged, comesChanged⟩ :=
    replaced row nodes readsRow (relaxes.comesTo comesRow)
  have splitsChanged := splitsBefore _ _ splitsRow
  rw [← List.append_assoc] at splitsChanged
  exact exists_success_withText located splitsChanged readsChanged comesChanged

/-- The two ways to write a referenced script out in the place of its name: its text between
blanks, and its bytecode as a hex literal. -/
def writtenOut (text : Text) (bytecode : Bytes) : List Text :=
  [" " ++ text ++ " ", "0x" ++ bytecode.toHex]

/-- A script that is written out is a row of its own before any text that does not carry a word
on, and comes to the bytecode of the script. -/
theorem exists_reads_writtenOut {text replacement : Text} {inner : ScriptSuccess}
    {later : List Lexeme}
    (compiled : standard.textOutcome data env text = .ok (.success inner))
    (splitsAfter : Splits after later) (stops : startsOutside isWordPart after)
    (member : replacement ∈ writtenOut text inner.bytecode) :
    ∃ row nodes, Splits (replacement ++ after) (row ++ later) ∧ Reads row nodes ∧
      ComesTo data env nodes inner.bytecode := by
  simp only [writtenOut, List.mem_cons, List.not_mem_nil, or_false] at member
  rcases member with rfl | rfl
  · obtain ⟨row, nodes, splits, reads, comes⟩ :=
      textOutcome_success_iff_reads.mp ⟨inner, compiled, rfl⟩
    have blank : Text.isBlank (.char ' ') := by decide
    have around := Splits.blank blank (splits.append_blank blank splitsAfter)
    refine ⟨row, nodes, ?_, reads, comes⟩
    rw [List.append_assoc, List.append_assoc]
    exact around
  · have literal : ComesTo data env [.hex inner.bytecode default] (inner.bytecode ++ []) :=
      .hex .nil
    rw [List.append_nil] at literal
    exact ⟨[.hex inner.bytecode.toHex], _, splitsAfter.hex stops inner.bytecode,
      .hex (Bytes.ofHex?_toHex _) .nil, literal⟩

end Inlining

/-- **Inlining a referenced script preserves bytecode.**  Where a script compiles and its text names
another one, the other has a text and compiles inside it; and writing the other out in the place of
the name, as its text between blanks or as its bytecode in hex, leaves the script compiling to the
same bytecode. -/
theorem compileReference_inline (data : Data) (env : Environment) (id before name after : Text)
    (success : ScriptSuccess) (ambient : Ambient)
    (written : env.script? id = some (before ++ name ++ after)) (placed : WordAt before name after)
    (reference : meaning data env name = .script)
    (compiled : ((standard.compileReference data env id).run ambient).1 =
      .ok (.success success)) :
    ∃ text inner, env.script? name = some text ∧
      (standard.compileReference data (env.descend id) name).Yields (.ok (.success inner)) ∧
      ∀ replacement ∈ writtenOut text inner.bytecode,
        ∃ again, (standard.compileReference data
            (env.withText id (before ++ replacement ++ after)) id).Yields (.ok (.success again)) ∧
          again.bytecode = success.bytecode := by
  have outcome := (standard.yields_compileReference data env id).eq_of_run compiled
  obtain ⟨whole, located, inside⟩ := of_referenceOutcome_success outcome
  obtain rfl : before ++ name ++ after = whole :=
    Option.some.inj (written.symm.trans (Environment.of_locate located).1)
  obtain ⟨value, later, stands, splitsAfter, replaced⟩ :=
    exists_success_of_replaced located placed inside
  have inScript : meaning data (env.descend id) name = .script := reference
  obtain ⟨inner, referred, rfl⟩ := stands.exists_success inScript
  obtain ⟨text, locatedInner, insideInner⟩ := of_referenceOutcome_success referred
  have yieldsInner := standard.yields_compileReference data (env.descend id) name
  rw [referred] at yieldsInner
  refine ⟨text, inner, (Environment.of_locate locatedInner).1, yieldsInner, ?_⟩
  intro replacement member
  obtain ⟨row, nodes, splitsRow, readsRow, comesRow⟩ :=
    exists_reads_writtenOut insideInner splitsAfter placed.right member
  obtain ⟨again, outcomeAgain, same⟩ := replaced replacement row nodes splitsRow readsRow
    ((Relaxes.ascend (env.descend id) name).comesTo comesRow)
  have yieldsAgain := standard.yields_compileReference data
    (env.withText id (before ++ replacement ++ after)) id
  rw [outcomeAgain] at yieldsAgain
  exact ⟨again, yieldsAgain, same⟩

/-- A script that names another deep inside, and that other one names a third. -/
def nestedEnvironment : Environment where
  scripts := [("a", some "<$(<b> OP_DUP)> OP_1"), ("b", some "0xab c"), ("c", some "OP_2")]

/-- The name inside a push, an evaluation and a push again may be written out in either way. -/
theorem compileReference_inline_nested :
    WordAt "<$(<" "b" "> OP_DUP)> OP_1" ∧ meaning {} nestedEnvironment "b" = .script ∧
      ∃ success : ScriptSuccess,
        (standard.compileReference {} nestedEnvironment "a").Yields (.ok (.success success)) ∧
        success.bytecode = [0x02, 0xab, 0x52, 0x51] ∧
        ∀ replacement ∈ writtenOut "0xab c" [0xab, 0x52],
          ∃ again, (standard.compileReference {} (nestedEnvironment.withText "a"
              ("<$(<" ++ replacement ++ "> OP_DUP)> OP_1")) "a").Yields (.ok (.success again)) ∧
            again.bytecode = [0x02, 0xab, 0x52, 0x51] := by
  have placed : WordAt "<$(<" "b" "> OP_DUP)> OP_1" := ⟨by decide, by decide, by decide⟩
  have reference : meaning {} nestedEnvironment "b" = .script := by cbv
  refine ⟨placed, reference, ?_⟩
  obtain ⟨success, outcome, bytecode⟩ := map_verdict_eq_ok_iff.mp
    (show standard.verdictOutcome {} nestedEnvironment "a" = .ok (.ok [0x02, 0xab, 0x52, 0x51]) by
      cbv)
  have yields := standard.yields_compileReference {} nestedEnvironment "a"
  rw [outcome] at yields
  refine ⟨success, yields, bytecode, ?_⟩
  obtain ⟨text, inner, there, yieldsInner, inlined⟩ :=
    compileReference_inline {} nestedEnvironment "a" "<$(<" "b" "> OP_DUP)> OP_1" success default
      (by cbv) placed reference (yields default)
  obtain ⟨inner', outcomeInner, bytecodeInner⟩ := map_verdict_eq_ok_iff.mp
    (show standard.verdictOutcome {} (nestedEnvironment.descend "a") "b" = .ok (.ok [0xab, 0x52])
      by cbv)
  have same := (standard.yields_compileReference {} (nestedEnvironment.descend "a") "b").eq_of_run
    (yieldsInner default)
  rw [outcomeInner] at same
  cases same
  have found : nestedEnvironment.script? "b" = some (Text.ofString "0xab c") := by cbv
  obtain rfl := Option.some.inj (found.symm.trans there)
  rwa [bytecodeInner, bytecode] at inlined

end Toolchain

end ScriptTemplate
