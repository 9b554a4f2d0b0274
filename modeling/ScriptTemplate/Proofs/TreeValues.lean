/-
# What a script tree comes to

`ComesTo` gives a tree its bytes, rule by rule: a name comes to what it stands for, a hex literal to
its value, a group to what closing it makes of the bytes inside, and a row to the bytes of its
pieces one after the other.  A tree that comes to nothing is one that does not compile.

The rules leave out everything else that compiling gathers: errors, machine states, ranges.  So they
are what statements about bytecode are best proved with.  They are exact: a text compiles with the
given bytecode exactly if it parses to a tree that comes to it (`textOutcome_success_iff`), that is,
if it splits into lexemes that read as such a tree (`textOutcome_success_iff_reads`).
-/
import Mathlib
import ScriptTemplate.Proofs.Gathering
import ScriptTemplate.Proofs.Grammar
import ScriptTemplate.Proofs.References

namespace ScriptTemplate.Toolchain

open Script

/-! ## 1. The rules -/

/-- **What a name stands for**, where it stands for bytes. -/
inductive Stands (data : Data) (env : Environment) (name : Text) : Bytes → Prop
  | opcode {value : UInt8} (found : meaning data env name = .opcode value) :
    Stands data env name [value]
  | value {value : Bytes} (found : meaning data env name = .value value) :
    Stands data env name value
  | script {success : ScriptSuccess} (found : meaning data env name = .script)
    (compiled : standard.referenceOutcome data env name = .ok (.success success)) :
    Stands data env name success.bytecode

/-- **What closing a bracket makes of the bytes inside**: a push of data that can be pushed, or the
top item that a run leaves. -/
inductive Closes (capabilities : Capabilities) : Bracket → Bytes → Bytes → Prop
  | push {inner : Bytes} (small : inner.length < Push.sizeLimit) :
    Closes capabilities .push inner (Push.encode inner)
  | evaluation {inner top : Bytes} {state : Machine.State} (able : capabilities.canEvaluate)
    (ran : Machine.run [] inner = some state) (left : evaluated state = .ok top) :
    Closes capabilities .evaluation inner top

/-- **What a row of pieces comes to.** -/
inductive ComesTo (data : Data) (env : Environment) : List Node → Bytes → Prop
  | nil : ComesTo data env [] []
  | name {name : Text} {range : SourceRange} {nodes : List Node} {bytes more : Bytes}
    (stands : Stands data env name bytes) (rest : ComesTo data env nodes more) :
    ComesTo data env (.identifier name range :: nodes) (bytes ++ more)
  | hex {value : Bytes} {range : SourceRange} {nodes : List Node} {more : Bytes}
    (rest : ComesTo data env nodes more) :
    ComesTo data env (.hex value range :: nodes) (value ++ more)
  | group {bracket : Bracket} {items nodes : List Node} {range : SourceRange}
    {inner bytes more : Bytes} (inside : ComesTo data env items inner)
    (closes : Closes env.capabilities bracket inner bytes) (rest : ComesTo data env nodes more) :
    ComesTo data env (.group bracket items range :: nodes) (bytes ++ more)

variable {data : Data} {env : Environment} {name text : Text} {nodes others : List Node}
  {bytes more : Bytes}

/-- A name stands for one thing at most. -/
theorem Stands.unique {other : Bytes} (h : Stands data env name bytes)
    (h' : Stands data env name other) : bytes = other := by
  cases h with
  | opcode found => cases h' <;> simp_all
  | value found => cases h' <;> simp_all
  | script found compiled => cases h' <;> simp_all

/-- A reference stands for the bytecode of the script it names. -/
theorem Stands.exists_success (h : Stands data env name bytes)
    (reference : meaning data env name = .script) :
    ∃ success, standard.referenceOutcome data env name = .ok (.success success) ∧
      success.bytecode = bytes := by
  cases h with
  | opcode found => rw [reference] at found; cases found
  | value found => rw [reference] at found; cases found
  | script _ compiled => exact ⟨_, compiled, rfl⟩

/-- Rows after each other come to their bytes after each other. -/
theorem ComesTo.append (h : ComesTo data env nodes bytes) (next : ComesTo data env others more) :
    ComesTo data env (nodes ++ others) (bytes ++ more) := by
  induction h with
  | nil => exact next
  | name stands _ ih => rw [List.append_assoc]; exact .name stands ih
  | hex _ ih => rw [List.append_assoc]; exact .hex ih
  | group inside closes _ _ ih => rw [List.append_assoc]; exact .group inside closes ih

/-- Ranges have no part in what a row comes to. -/
theorem ComesTo.alike (h : ComesTo data env nodes bytes) (alike : Alike others nodes) :
    ComesTo data env others bytes := by
  induction h generalizing others with
  | nil => cases alike; exact .nil
  | name stands _ ih => cases alike with | identifier rest => exact .name stands (ih rest)
  | hex _ ih => cases alike with | hex rest => exact .hex (ih rest)
  | group _ closes _ ihInside ih =>
    cases alike with | group inside rest => exact .group (ihInside inside) closes (ih rest)

/-- A row comes to the same elsewhere, if names stand for the same there. -/
theorem ComesTo.elsewhere {env' : Environment} (h : ComesTo data env nodes bytes)
    (capabilities : env'.capabilities = env.capabilities)
    (names : ∀ name bytes, Stands data env name bytes → Stands data env' name bytes) :
    ComesTo data env' nodes bytes := by
  induction h with
  | nil => exact .nil
  | name stands _ ih => exact .name (names _ _ stands) ih
  | hex _ ih => exact .hex ih
  | group _ closes _ ihInside ih => exact .group ihInside (capabilities ▸ closes) ih

/-! ## 2. Names and brackets -/

/-- A name stands for bytes exactly if it resolves to them without error. -/
theorem stands_iff {range : SourceRange} :
    Stands data env name bytes ↔
      settledName data env (standard.verdictOutcome data env) name range =
        .ok (.bytecode bytes range) := by
  unfold settledName
  constructor
  · intro stands
    cases stands with
    | opcode found => rw [found]
    | value found => rw [found]
    | script found compiled =>
      rw [found]
      exact map_eq_ok_iff.mpr ⟨_, map_verdict_eq_ok_iff.mpr ⟨_, compiled, rfl⟩, rfl⟩
  · intro settled
    split at settled
    · next found => cases settled; exact .opcode found
    · next found => cases settled; exact .value found
    · cases settled
    · next found =>
      obtain ⟨verdict, answered, resolved⟩ := map_eq_ok_iff.mp settled
      cases verdict with
      | error errors => cases resolved
      | ok bytecode =>
        cases resolved
        obtain ⟨success, compiled, rfl⟩ := map_verdict_eq_ok_iff.mp answered
        exact .script found compiled
    · cases settled

/-- A name that leaves no error resolves to bytes. -/
theorem eq_bytecode_of_settledName {answer : Text → Except Escape Verdict} {range : SourceRange}
    {piece : Resolved} (settled : settledName data env answer name range = .ok piece)
    (clean : piece.errors = []) : ∃ bytes, piece = .bytecode bytes range := by
  unfold settledName at settled
  split at settled
  · cases settled; exact ⟨_, rfl⟩
  · cases settled; exact ⟨_, rfl⟩
  · cases settled; simp [Resolved.errors] at clean
  · obtain ⟨verdict, -, rfl⟩ := map_eq_ok_iff.mp settled
    cases verdict with
    | ok bytes => exact ⟨bytes, rfl⟩
    | error errors => simp [ofVerdict, Resolved.errors] at clean
  · cases settled; simp [Resolved.errors] at clean

/-- **A bracket closes without error exactly by the rules.** -/
theorem closes_iff {capabilities : Capabilities} {bracket : Bracket} {inner : Gathered}
    (range : SourceRange) :
    (∃ closed, closeGroup capabilities bracket range inner = .ok closed ∧ closed.errors = [] ∧
        closed.output = bytes) ↔
      inner.errors = [] ∧ Closes capabilities bracket inner.output bytes := by
  constructor
  · rintro ⟨closed, closing, clean, rfl⟩
    cases bracket with
    | push =>
      simp only [closeGroup, closePush] at closing
      split at closing
      · next small => cases closing; exact ⟨clean, .push small⟩
      · cases closing
    | evaluation =>
      simp only [closeGroup, closeEvaluation] at closing
      split at closing
      · next able =>
        split at closing
        · cases closing
        · next state ran =>
          split at closing
          · next top left => cases closing; exact ⟨clean, .evaluation able ran left⟩
          · cases closing; simp at clean
      · cases closing; simp at clean
  · rintro ⟨clean, closes⟩
    cases bracket with
    | push =>
      cases closes with
      | push small => exact ⟨_, if_pos small, clean, rfl⟩
    | evaluation =>
      cases closes with
      | @evaluation _ top state able ran left =>
        refine ⟨⟨bytes, inner.errors, inner.states ++ [state]⟩, ?_, clean, rfl⟩
        simp only [closeGroup, closeEvaluation, able, if_true, ran, left]

/-! ## 3. Resolved rows -/

/-- A resolved row is free of errors, and reduces to the given bytes without error. -/
def Delivers (capabilities : Capabilities) (pieces : List Resolved) (bytes : Bytes) : Prop :=
  collectErrors pieces = [] ∧
    ∃ gathered, gatherAll capabilities pieces = .ok gathered ∧ gathered.errors = [] ∧
      gathered.output = bytes

section Delivers

variable {capabilities : Capabilities} {pieces items : List Resolved} {range : SourceRange}

@[simp] theorem delivers_nil_iff : Delivers capabilities [] bytes ↔ bytes = [] := by
  simp [Delivers, collectErrors, eq_comm]

/-- A row of one piece gathers what the piece gathers. -/
theorem gather_of_singleton {piece : Resolved} {gathered : Gathered}
    (h : gatherAll capabilities [piece] = .ok gathered) :
    piece.gather capabilities = .ok gathered := by
  rw [gatherAll_cons, bind_eq_ok_iff] at h
  obtain ⟨first, hf, h⟩ := h
  rw [gatherAll_nil] at h
  cases h
  rw [hf, Gathered.append_empty]

/-- A row delivers what its first piece and the others deliver. -/
theorem delivers_cons_iff {piece : Resolved} :
    Delivers capabilities (piece :: pieces) bytes ↔
      ∃ first others, Delivers capabilities [piece] first ∧ Delivers capabilities pieces others ∧
        bytes = first ++ others := by
  simp only [Delivers, collectErrors, List.append_nil, List.append_eq_nil_iff]
  constructor
  · rintro ⟨⟨cleanFirst, cleanOthers⟩, gathered, h, clean, rfl⟩
    obtain ⟨first, others, hf, ho, rfl⟩ := exists_of_gatherAll_cons h
    rw [Gathered.errors_append, List.append_eq_nil_iff] at clean
    exact ⟨_, _, ⟨cleanFirst, first, gatherAll_singleton hf, clean.1, rfl⟩,
      ⟨cleanOthers, others, ho, clean.2, rfl⟩, rfl⟩
  · rintro ⟨_, _, ⟨cleanFirst, first, hf, cf, rfl⟩, ⟨cleanOthers, others, ho, co, rfl⟩, rfl⟩
    exact ⟨⟨cleanFirst, cleanOthers⟩, first ++ others,
      gatherAll_cons_of_ok (gather_of_singleton hf) ho, by simp [cf, co], rfl⟩

@[simp] theorem delivers_bytecode_iff {value : Bytes} :
    Delivers capabilities [.bytecode value range] bytes ↔ bytes = value := by
  simp [Delivers, collectErrors, Resolved.errors, eq_comm]

/-- A group delivers what closing it makes of what its items deliver. -/
theorem delivers_group_iff {bracket : Bracket} :
    Delivers capabilities [.group bracket items range] bytes ↔
      ∃ inner, Delivers capabilities items inner ∧ Closes capabilities bracket inner bytes := by
  simp only [Delivers, collectErrors, Resolved.errors, List.append_nil]
  constructor
  · rintro ⟨clean, gathered, h, cleanGroup, rfl⟩
    have closing := gather_of_singleton h
    rw [gather_group, bind_eq_ok_iff] at closing
    obtain ⟨inner, hi, closing⟩ := closing
    obtain ⟨cleanInner, closes⟩ := (closes_iff range).mp ⟨gathered, closing, cleanGroup, rfl⟩
    exact ⟨inner.output, ⟨clean, inner, hi, cleanInner, rfl⟩, closes⟩
  · rintro ⟨_, ⟨clean, inner, hi, cleanInner, rfl⟩, closes⟩
    obtain ⟨closed, closing, cleanGroup, rfl⟩ := (closes_iff range).mpr ⟨cleanInner, closes⟩
    exact ⟨clean, closed, gatherAll_singleton (gather_group_of_ok hi closing), cleanGroup, rfl⟩

end Delivers

/-! ## 4. Trees and texts -/

/-- What comes to bytes by the rules resolves and reduces to them. -/
theorem exists_delivers_of_comesTo (h : ComesTo data env nodes bytes) :
    ∃ pieces, (resolveAll data env nodes).settle (standard.verdictOutcome data env) = .ok pieces ∧
      Delivers env.capabilities pieces bytes := by
  induction h with
  | nil => exact ⟨[], settle_resolveAll_nil, delivers_nil_iff.mpr rfl⟩
  | @name name range nodes bytes more stands _ ih =>
    obtain ⟨pieces, settled, delivers⟩ := ih
    have first := (settle_resolve_identifier name range).trans (stands_iff.mp stands)
    exact ⟨_, settle_resolveAll_cons_of_ok first settled,
      delivers_cons_iff.mpr ⟨_, _, delivers_bytecode_iff.mpr rfl, delivers, rfl⟩⟩
  | @hex value range nodes more _ ih =>
    obtain ⟨pieces, settled, delivers⟩ := ih
    exact ⟨_, settle_resolveAll_cons_of_ok (settle_resolve_hex value range) settled,
      delivers_cons_iff.mpr ⟨_, _, delivers_bytecode_iff.mpr rfl, delivers, rfl⟩⟩
  | @group bracket items nodes range inner bytes more _ closes _ ihInside ih =>
    obtain ⟨inside, settledInside, deliversInside⟩ := ihInside
    obtain ⟨pieces, settled, delivers⟩ := ih
    have first := settle_resolve_group_of_ok settledInside bracket range
    exact ⟨_, settle_resolveAll_cons_of_ok first settled,
      delivers_cons_iff.mpr
        ⟨_, _, delivers_group_iff.mpr ⟨inner, deliversInside, closes⟩, delivers, rfl⟩⟩

/-- What resolves and reduces to bytes comes to them by the rules. -/
theorem comesTo_of_delivers :
    ∀ {nodes : List Node} {pieces : List Resolved} {bytes : Bytes},
      (resolveAll data env nodes).settle (standard.verdictOutcome data env) = .ok pieces →
      Delivers env.capabilities pieces bytes → ComesTo data env nodes bytes
  | [], pieces, bytes, settled, delivers => by
    rw [settle_resolveAll_nil] at settled
    cases settled
    rw [delivers_nil_iff.mp delivers]
    exact .nil
  | node :: rest, pieces, bytes, settled, delivers => by
    obtain ⟨first, others, hf, ho, rfl⟩ := exists_of_settle_resolveAll_cons settled
    obtain ⟨bytes, more, front, back, rfl⟩ := delivers_cons_iff.mp delivers
    have next := comesTo_of_delivers ho back
    -- What is left is the first piece; the items of a group are a smaller row again.
    cases node with
    | identifier name range =>
      rw [settle_resolve_identifier] at hf
      have clean : first.errors = [] := by simpa [collectErrors] using front.1
      obtain ⟨value, rfl⟩ := eq_bytecode_of_settledName hf clean
      obtain rfl := delivers_bytecode_iff.mp front
      exact .name (stands_iff.mpr hf) next
    | hex value range =>
      rw [settle_resolve_hex] at hf
      cases hf
      obtain rfl := delivers_bytecode_iff.mp front
      exact .hex next
    | group bracket items range =>
      obtain ⟨inside, hi, rfl⟩ := exists_of_settle_resolve_group hf
      obtain ⟨inner, deliversInside, closes⟩ := delivers_group_iff.mp front
      exact .group (comesTo_of_delivers hi deliversInside) closes next

/-- **A text compiles to given bytes exactly if it parses to a tree that comes to them.** -/
theorem textOutcome_success_iff :
    (∃ success, standard.textOutcome data env text = .ok (.success success) ∧
        success.bytecode = bytes) ↔
      ∃ tree, Script.parse text = .ok tree ∧ ComesTo data env tree bytes := by
  constructor
  · rintro ⟨success, compiled, rfl⟩
    obtain ⟨tree, pieces, gathered, parsed, settled, collected, reduced, clean, output⟩ :=
      of_textOutcome_success compiled
    exact ⟨tree, parsed, comesTo_of_delivers settled ⟨collected, gathered, reduced, clean, output⟩⟩
  · rintro ⟨tree, parsed, comes⟩
    obtain ⟨pieces, settled, collected, gathered, reduced, clean, rfl⟩ :=
      exists_delivers_of_comesTo comes
    rw [textOutcome_of_resolved parsed settled collected, reduced]
    obtain ⟨output, errors, states⟩ := gathered
    obtain rfl : errors = [] := clean
    exact ⟨_, rfl, rfl⟩

/-- **A text compiles to given bytes exactly if it splits into lexemes that read as a tree that
comes to them.** -/
theorem textOutcome_success_iff_reads :
    (∃ success, standard.textOutcome data env text = .ok (.success success) ∧
        success.bytecode = bytes) ↔
      ∃ lexemes tree, Splits text lexemes ∧ Reads lexemes tree ∧ ComesTo data env tree bytes := by
  rw [textOutcome_success_iff]
  constructor
  · rintro ⟨tree, parsed, comes⟩
    obtain ⟨lexemes, splits, reads⟩ := exists_reads_of_parse parsed
    exact ⟨lexemes, tree, splits, reads, comes⟩
  · rintro ⟨lexemes, tree, splits, reads, comes⟩
    obtain ⟨row, parsed, alike⟩ := exists_parse_of_reads splits reads
    exact ⟨row, parsed, comes.alike alike⟩

end ScriptTemplate.Toolchain
