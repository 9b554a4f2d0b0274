/-
# Texts put after each other

Two texts with blanks between them compile to what the two compile to, one after the other.

The blanks keep the lexemes on both sides apart, so the whole text has the lexemes of the two and
reads as the two trees in one row, up to ranges (`exists_parse_append`).  From there the two halves
of the result go separate ways.  What a row comes to is put together from its parts
(`comesTo_append_iff`).  The errors of a row are those of its names, and their messages do not tell
where a name stands (`exists_settle_append`).

A text that fails for its names is not reduced.  So errors of the reducer in one text are not
reported if a name of the other fails, and the rule for errors is about those of names.
-/
import Mathlib
import ScriptTemplate.Proofs.NameErrors

namespace ScriptTemplate

namespace Script

/-! ## 1. Rows put after each other -/

variable {nodes others : List Node}

theorem Alike.symm (h : Alike nodes others) : Alike others nodes := by
  induction h with
  | nil => exact .nil
  | identifier _ ih => exact .identifier ih
  | hex _ ih => exact .hex ih
  | group _ _ ihInside ih => exact .group ihInside ih

/-- Rows that differ in their ranges only have the same names. -/
theorem Alike.namesAll_eq (h : Alike nodes others) : namesAll nodes = namesAll others := by
  induction h with
  | nil => rfl
  | identifier _ ih => simp [namesAll, Node.names, ih]
  | hex _ ih => simp [namesAll, Node.names, ih]
  | group _ _ ihInside ih => simp [namesAll, Node.names, ihInside, ih]

theorem namesAll_append (nodes others : List Node) :
    namesAll (nodes ++ others) = namesAll nodes ++ namesAll others := by
  simp [← map_name_occurrencesAll, occurrencesAll_append]

/-! ## 2. Blanks between texts -/

variable {first second blanks : Text}

/-- **Texts that parse, with blanks between them, parse to their trees in one row**, up to the
ranges of the pieces. -/
theorem exists_parse_append {tree next : List Node} (parsedFirst : parse first = .ok tree)
    (parsedSecond : parse second = .ok next) (nonempty : blanks ≠ [])
    (blank : ∀ c ∈ blanks, Text.isBlank c) :
    ∃ row, parse (first ++ blanks ++ second) = .ok row ∧ Alike row (tree ++ next) := by
  obtain ⟨lexemes, splits, reads⟩ := exists_reads_of_parse parsedFirst
  obtain ⟨more, splitsNext, readsNext⟩ := exists_reads_of_parse parsedSecond
  obtain ⟨c, rest, rfl⟩ := List.exists_cons_of_ne_nil nonempty
  -- One blank keeps the texts apart; the others belong to the second.
  have later : Splits (rest ++ second) more :=
    splitsNext.blanks_append fun other member => blank other (List.mem_cons_of_mem _ member)
  have whole := splits.append_blank (blank c List.mem_cons_self) later
  rw [List.append_assoc, List.cons_append]
  exact exists_parse_of_reads whole (reads.append readsNext)

end Script

namespace Toolchain

open Script

variable {data : Data} {env : Environment} {nodes others : List Node} {bytes : Bytes}

/-! ## 3. What rows come to -/

/-- **A row comes to what its parts come to, one after the other.** -/
theorem comesTo_append_iff :
    ComesTo data env (nodes ++ others) bytes ↔
      ∃ front back, ComesTo data env nodes front ∧ ComesTo data env others back ∧
        bytes = front ++ back := by
  constructor
  · intro h
    induction nodes generalizing bytes with
    | nil => exact ⟨[], bytes, .nil, h, rfl⟩
    | cons node nodes ih =>
      cases h with
      | name stands rest =>
        obtain ⟨front, back, comes, next, rfl⟩ := ih rest
        exact ⟨_, back, .name stands comes, next, (List.append_assoc ..).symm⟩
      | hex rest =>
        obtain ⟨front, back, comes, next, rfl⟩ := ih rest
        exact ⟨_, back, .hex comes, next, (List.append_assoc ..).symm⟩
      | group inside closes rest =>
        obtain ⟨front, back, comes, next, rfl⟩ := ih rest
        exact ⟨_, back, .group inside closes comes, next, (List.append_assoc ..).symm⟩
  · rintro ⟨front, back, comes, next, rfl⟩
    exact comes.append next

/-- **A row with the names of two rows that resolve does so too**, and its errors say what theirs
say. -/
theorem exists_settle_append {row : List Node} {pieces more : List Resolved}
    (names : namesAll row = namesAll nodes ++ namesAll others)
    (settled : (resolveAll data env nodes).settle (standard.verdictOutcome data env) = .ok pieces)
    (next : (resolveAll data env others).settle (standard.verdictOutcome data env) = .ok more) :
    ∃ whole, (resolveAll data env row).settle (standard.verdictOutcome data env) = .ok whole ∧
      (collectErrors whole).map (·.message) =
        (collectErrors pieces).map (·.message) ++ (collectErrors more).map (·.message) := by
  cases resolved : (resolveAll data env row).settle (standard.verdictOutcome data env) with
  | error escape =>
    have escapes := settle_resolveAll_eq_error resolved
    rw [names, EscapesAt.append_iff] at escapes
    rcases escapes with early | late
    · exact absurd early (not_escapesAt_of_resolveAll settled)
    · exact absurd late (not_escapesAt_of_resolveAll next)
  | ok whole =>
    refine ⟨whole, rfl, ?_⟩
    rw [eq_filledAll_of_settle resolved, eq_filledAll_of_settle settled,
      eq_filledAll_of_settle next]
    simp only [messages_filledAll, names, List.flatMap_append]

/-! ## 4. Compiling texts that parse -/

section Parsed

variable {text : Text} {tree : List Node}

/-- A text that parses compiles to what its tree comes to. -/
theorem success_iff_comesTo (parsed : Script.parse text = .ok tree) :
    (∃ success, standard.textOutcome data env text = .ok (.success success) ∧
        success.bytecode = bytes) ↔ ComesTo data env tree bytes := by
  rw [textOutcome_success_iff]
  constructor
  · rintro ⟨found, accepted, comes⟩
    obtain rfl : tree = found := Except.ok.inj (parsed.symm.trans accepted)
    exact comes
  · exact fun comes => ⟨tree, parsed, comes⟩

/-- A text whose names leave errors fails with them. -/
theorem exists_failure_of_errors {pieces : List Resolved} (parsed : Script.parse text = .ok tree)
    (settled : (resolveAll data env tree).settle (standard.verdictOutcome data env) = .ok pieces)
    (errors : collectErrors pieces ≠ []) :
    ∃ failure, standard.textOutcome data env text = .ok (.failure failure) ∧
      failure.stage = .resolve ∧ failure.errors = collectErrors pieces := by
  obtain ⟨first, others, collected⟩ := List.exists_cons_of_ne_nil errors
  refine ⟨{ stage := .resolve, first, others, artifacts := ⟨some tree, some pieces, none⟩ },
    ?_, rfl, collected.symm⟩
  rw [textOutcome_of_parsed parsed, settled]
  exact resolvedOutcome_of_errors collected

end Parsed

/-! ## 5. Compiling texts put after each other -/

section Append

variable {first blanks second : Text} {tree next : List Node}

/-- **The whole compiles exactly if both texts do**, to their bytecode one after the other. -/
theorem textOutcome_append_success_iff (parsedFirst : Script.parse first = .ok tree)
    (parsedSecond : Script.parse second = .ok next) (nonempty : blanks ≠ [])
    (blank : ∀ c ∈ blanks, Text.isBlank c) :
    (∃ success, standard.textOutcome data env (first ++ blanks ++ second) = .ok (.success success) ∧
        success.bytecode = bytes) ↔
      ∃ front back, standard.textOutcome data env first = .ok (.success front) ∧
        standard.textOutcome data env second = .ok (.success back) ∧
        bytes = front.bytecode ++ back.bytecode := by
  obtain ⟨row, parsed, alike⟩ := exists_parse_append parsedFirst parsedSecond nonempty blank
  rw [success_iff_comesTo parsed]
  constructor
  · intro comes
    obtain ⟨_, _, comesFirst, comesSecond, rfl⟩ := comesTo_append_iff.mp (comes.alike alike.symm)
    obtain ⟨front, compiledFirst, rfl⟩ := (success_iff_comesTo parsedFirst).mpr comesFirst
    obtain ⟨back, compiledSecond, rfl⟩ := (success_iff_comesTo parsedSecond).mpr comesSecond
    exact ⟨front, back, compiledFirst, compiledSecond, rfl⟩
  · rintro ⟨front, back, compiledFirst, compiledSecond, rfl⟩
    have comesFirst := (success_iff_comesTo parsedFirst).mp ⟨front, compiledFirst, rfl⟩
    have comesSecond := (success_iff_comesTo parsedSecond).mp ⟨back, compiledSecond, rfl⟩
    exact (comesFirst.append comesSecond).alike alike

/-- **If names of either text fail, the whole fails for the names of both.** -/
theorem textOutcome_append_of_nameErrors {front back : ScriptResult}
    (parsedFirst : Script.parse first = .ok tree) (parsedSecond : Script.parse second = .ok next)
    (nonempty : blanks ≠ []) (blank : ∀ c ∈ blanks, Text.isBlank c)
    (returnedFirst : standard.textOutcome data env first = .ok front)
    (returnedSecond : standard.textOutcome data env second = .ok back)
    (faulty : front.nameErrors ≠ [] ∨ back.nameErrors ≠ []) :
    ∃ failure,
      standard.textOutcome data env (first ++ blanks ++ second) = .ok (.failure failure) ∧
      failure.stage = .resolve ∧
      failure.errors.map (·.message) =
        front.nameErrors.map (·.message) ++ back.nameErrors.map (·.message) := by
  obtain ⟨row, parsed, alike⟩ := exists_parse_append parsedFirst parsedSecond nonempty blank
  have names := alike.namesAll_eq.trans (namesAll_append tree next)
  obtain ⟨pieces, settled, errors, -⟩ := exists_settle_of_textOutcome parsedFirst returnedFirst
  obtain ⟨more, later, errorsNext, -⟩ := exists_settle_of_textOutcome parsedSecond returnedSecond
  obtain ⟨whole, resolved, messages⟩ := exists_settle_append names settled later
  rw [← errors, ← errorsNext] at messages
  have erroneous : collectErrors whole ≠ [] := by
    intro none
    simp only [none, List.map_nil, List.nil_eq_append_iff, List.map_eq_nil_iff] at messages
    exact faulty.elim (· messages.1) (· messages.2)
  obtain ⟨failure, compiled, stage, reported⟩ := exists_failure_of_errors parsed resolved erroneous
  exact ⟨failure, compiled, stage, reported ▸ messages⟩

end Append

/-- **Putting texts after each other puts their bytecode after each other.**  Two texts that parse
have blanks between them.  The whole compiles exactly if both do, and then to the bytecode of the
one followed by that of the other.  If names of either text fail, and the compilations of both
return, the whole fails for its names, and says of them what the first text says and then what the
second says. -/
theorem compileText_append (data : Data) (env : Environment) (first blanks second : Text)
    (tree next : List Node) (parsedFirst : Script.parse first = .ok tree)
    (parsedSecond : Script.parse second = .ok next) (nonempty : blanks ≠ [])
    (blank : ∀ c ∈ blanks, Text.isBlank c) (one two both : Ambient) :
    (∀ bytes,
      (∃ success, ((standard.compileText data env (first ++ blanks ++ second)).run both).1 =
          .ok (.success success) ∧ success.bytecode = bytes) ↔
        ∃ front back, ((standard.compileText data env first).run one).1 = .ok (.success front) ∧
          ((standard.compileText data env second).run two).1 = .ok (.success back) ∧
          bytes = front.bytecode ++ back.bytecode) ∧
    ∀ front back, ((standard.compileText data env first).run one).1 = .ok front →
      ((standard.compileText data env second).run two).1 = .ok back →
      front.nameErrors ≠ [] ∨ back.nameErrors ≠ [] →
      ∃ failure, ((standard.compileText data env (first ++ blanks ++ second)).run both).1 =
          .ok (.failure failure) ∧ failure.stage = .resolve ∧
        failure.errors.map (·.message) =
          front.nameErrors.map (·.message) ++ back.nameErrors.map (·.message) := by
  rw [standard.yields_compileText data env _ both, standard.yields_compileText data env _ one,
    standard.yields_compileText data env _ two]
  constructor
  · intro bytes
    exact textOutcome_append_success_iff parsedFirst parsedSecond nonempty blank
  · intro front back returnedFirst returnedSecond faulty
    exact textOutcome_append_of_nameErrors parsedFirst parsedSecond nonempty blank returnedFirst
      returnedSecond faulty

/-- Over two lines, a push and an opcode give their bytecode one after the other.  Where names of
the second line fail, they alone are reported, although the evaluation on the first line fails as
well. -/
theorem compileText_append_lines :
    (∃ success, ((standard.compileText {} faultyNames
        (("<ok>" : Text) ++ "\n\t" ++ "OP_1")).run default).1 = .ok (.success success) ∧
      success.bytecode = [0x01, 0x51, 0x51]) ∧
    ∃ failure, ((standard.compileText {} faultyNames
        (("$()" : Text) ++ "\n" ++ "<a> b")).run default).1 = .ok (.failure failure) ∧
      failure.stage = .resolve ∧
      failure.errors.map (·.message) =
        [unknownNameMessage "a", missingValueMessage "b" .addressData] := by
  have returns : ∀ {text : Text} {result : ScriptResult},
      standard.textOutcome {} faultyNames text = .ok result →
        ((standard.compileText {} faultyNames text).run default).1 = .ok result :=
    fun outcome => (standard.yields_compileText {} faultyNames _ default).trans outcome
  constructor
  · obtain ⟨tree, parsedFirst⟩ : ∃ tree, Script.parse "<ok>" = .ok tree := ⟨_, by cbv⟩
    obtain ⟨next, parsedSecond⟩ : ∃ next, Script.parse "OP_1" = .ok next := ⟨_, by cbv⟩
    obtain ⟨front, compiledFirst, pushed⟩ : ∃ front,
        standard.textOutcome {} faultyNames "<ok>" = .ok (.success front) ∧
          front.bytecode = [0x01, 0x51] := ⟨_, by cbv, by cbv⟩
    obtain ⟨back, compiledSecond, opcode⟩ : ∃ back,
        standard.textOutcome {} faultyNames "OP_1" = .ok (.success back) ∧
          back.bytecode = [0x51] := ⟨_, by cbv, by cbv⟩
    refine ((compileText_append {} faultyNames "<ok>" "\n\t" "OP_1" tree next parsedFirst
      parsedSecond (by decide) (by decide) default default default).1 _).mpr
        ⟨front, back, returns compiledFirst, returns compiledSecond, ?_⟩
    rw [pushed, opcode]
    rfl
  · obtain ⟨tree, parsedFirst⟩ : ∃ tree, Script.parse "$()" = .ok tree := ⟨_, by cbv⟩
    obtain ⟨next, parsedSecond⟩ : ∃ next, Script.parse "<a> b" = .ok next := ⟨_, by cbv⟩
    obtain ⟨front, compiledFirst, none⟩ : ∃ front,
        standard.textOutcome {} faultyNames "$()" = .ok front ∧ front.nameErrors = [] :=
      ⟨_, by cbv, by cbv⟩
    obtain ⟨back, compiledSecond, two⟩ : ∃ back,
        standard.textOutcome {} faultyNames "<a> b" = .ok back ∧
          back.nameErrors.map (·.message) =
            [unknownNameMessage "a", missingValueMessage "b" .addressData] :=
      ⟨_, by cbv, by cbv⟩
    have faulty : back.nameErrors ≠ [] := fun none => by simp [none] at two
    obtain ⟨failure, compiled, stage, messages⟩ :=
      (compileText_append {} faultyNames "$()" "\n" "<a> b" tree next parsedFirst parsedSecond
        (by decide) (by decide) default default default).2 front back (returns compiledFirst)
          (returns compiledSecond) (.inr faulty)
    rw [none, two] at messages
    exact ⟨failure, compiled, stage, messages⟩

end Toolchain

end ScriptTemplate
