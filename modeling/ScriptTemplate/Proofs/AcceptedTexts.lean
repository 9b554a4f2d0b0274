/-
# The texts that parse

Which texts parse, and what their trees keep of them, said without scanner and parser.

* A text parses exactly if it splits into lexemes (`Splits`) whose brackets match (`Matched`).
  How a text splits is not a choice: there is one way or none (`Splits.unique`).
* **A tree keeps every lexeme.**  Written out piece by piece (`contentsAll`), each group with its
  two brackets around its items, it gives what the lexemes say (`Lexeme.Says`) in their order.

A hex literal says its value.  The digits themselves are NOT kept: `0xAB` and `0xab` have the same
tree, so a text cannot be had back from its tree to the letter.
-/
import Mathlib
import ScriptTemplate.Proofs.Grammar
import ScriptTemplate.Proofs.StandardStages

namespace ScriptTemplate

/-! ## 1. Digits -/

namespace Hex

theorem lt_of_value? {c : CodePoint} {n : Nat} (h : value? c = some n) : n < 16 := by
  have le_high {low high : Char} (within : c.isWithin low high) : c.toNat ≤ high.toNat :=
    of_decide_eq_true (Bool.and_eq_true_iff.mp within).2
  unfold value? at h
  split_ifs at h with digit lower upper
  · have bound : c.toNat ≤ 57 := le_high digit
    cases h
    omega
  · have bound : c.toNat ≤ 102 := le_high lower
    cases h
    omega
  · have bound : c.toNat ≤ 70 := le_high upper
    cases h
    omega

/-- The digits of a byte are its halves. -/
theorem halves_of_byte? {high low : CodePoint} {byte : UInt8} (h : byte? high low = some byte) :
    value? high = some (byte.toNat / 16) ∧ value? low = some (byte.toNat % 16) := by
  unfold byte? at h
  split at h
  · next a b first second =>
    have a_lt := lt_of_value? first
    have b_lt := lt_of_value? second
    cases h
    have whole : (UInt8.ofNat (16 * a + b)).toNat = 16 * a + b := by
      rw [UInt8.toNat_ofNat']
      omega
    rw [first, second, whole]
    constructor <;> congr 1 <;> omega
  · cases h

end Hex

/-- **Digits that are decoded are the halves of the bytes**, in their order. -/
theorem Bytes.halves_of_ofHex? {digits : Text} {value : Bytes} (h : ofHex? digits = some value) :
    digits.map Hex.value? =
      value.flatMap fun byte => [some (byte.toNat / 16), some (byte.toNat % 16)] := by
  fun_induction ofHex? digits generalizing value with
  | case1 =>
    cases h
    rfl
  | case2 => cases h
  | case3 high low rest byte read ih =>
    obtain ⟨later, decoded, rfl⟩ := Option.map_eq_some_iff.mp h
    obtain ⟨first, second⟩ := Hex.halves_of_byte? read
    simp only [List.map_cons, List.flatMap_cons, first, second, ih decoded, List.cons_append,
      List.nil_append]
  | case4 => cases h

end ScriptTemplate

namespace ScriptTemplate.Script

/-! ## 2. Matching brackets -/

/-- **Brackets match**: every opening bracket has a closing one of its kind, and what stands between
the two matches by itself. -/
inductive Matched : List Lexeme → Prop
  | nil : Matched []
  | word {name : Text} {lexemes : List Lexeme} (rest : Matched lexemes) :
    Matched (.word name :: lexemes)
  | hex {digits : Text} {lexemes : List Lexeme} (rest : Matched lexemes) :
    Matched (.hex digits :: lexemes)
  | group {bracket : Bracket} {inner lexemes : List Lexeme} (inside : Matched inner)
    (rest : Matched lexemes) : Matched (.opening bracket :: (inner ++ .closing bracket :: lexemes))

/-- Lexemes that are read as a tree have matching brackets. -/
theorem Reads.matched {lexemes : List Lexeme} {tree : List Node} (h : Reads lexemes tree) :
    Matched lexemes := by
  induction h with
  | nil => exact .nil
  | word _ ih => exact .word ih
  | hex _ _ ih => exact .hex ih
  | group _ _ inside rest => exact .group inside rest

/-- **Well-written lexemes with matching brackets are read as some tree.** -/
theorem Matched.exists_reads {lexemes : List Lexeme} (h : Matched lexemes)
    (valid : ∀ lexeme ∈ lexemes, lexeme.isValid) : ∃ tree, Reads lexemes tree := by
  induction h with
  | nil => exact ⟨[], .nil⟩
  | @word name lexemes _ ih =>
    obtain ⟨tree, read⟩ := ih fun lexeme member => valid lexeme (List.mem_cons_of_mem _ member)
    exact ⟨.identifier name .empty :: tree, .word read⟩
  | @hex digits lexemes _ ih =>
    obtain ⟨tree, read⟩ := ih fun lexeme member => valid lexeme (List.mem_cons_of_mem _ member)
    obtain ⟨value, decoded⟩ := exists_ofHex?_of_isHexBody (valid _ List.mem_cons_self)
    exact ⟨.hex value .empty :: tree, .hex decoded read⟩
  | @group bracket inner lexemes _ _ inside rest =>
    obtain ⟨items, within⟩ := inside fun lexeme member => valid lexeme (by simp [member])
    obtain ⟨tree, after⟩ := rest fun lexeme member => valid lexeme (by simp [member])
    exact ⟨.group bracket items .empty :: tree, .group within after⟩

/-! ## 3. Trees written out -/

/-- What a lexeme can say. -/
inductive Content
  | opening (bracket : Bracket)
  | closing (bracket : Bracket)
  | hex (value : Bytes)
  | word (name : Text)
deriving DecidableEq, Repr

/-- **What a lexeme says.**  A hex literal says the bytes whose halves its digits are, the high half
of each byte first, in whichever case they are written. -/
inductive Lexeme.Says : Lexeme → Content → Prop
  | opening (bracket : Bracket) : Says (.opening bracket) (.opening bracket)
  | closing (bracket : Bracket) : Says (.closing bracket) (.closing bracket)
  | hex {digits : Text} {value : Bytes} (halves : digits.map Hex.value? =
      value.flatMap fun byte => [some (byte.toNat / 16), some (byte.toNat % 16)]) :
    Says (.hex digits) (.hex value)
  | word (name : Text) : Says (.word name) (.word name)

mutual

/-- A piece written out: a group is its items between its brackets. -/
def Node.contents : Node → List Content
  | .identifier name _ => [.word name]
  | .hex value _ => [.hex value]
  | .group bracket items _ => .opening bracket :: (contentsAll items ++ [.closing bracket])

/-- A tree written out, piece by piece. -/
def contentsAll : List Node → List Content
  | [] => []
  | node :: rest => node.contents ++ contentsAll rest

end

/-- **A tree keeps what its lexemes say**, all of it and in their order. -/
theorem Reads.says {lexemes : List Lexeme} {tree : List Node} (h : Reads lexemes tree) :
    List.Forall₂ Lexeme.Says lexemes (contentsAll tree) := by
  induction h with
  | nil => exact .nil
  | @word name range _ _ _ ih => exact .cons (.word name) ih
  | hex decoded _ ih => exact .cons (.hex (Bytes.halves_of_ofHex? decoded)) ih
  | @group bracket range inner lexemes items nodes _ _ inside rest =>
    have written : contentsAll (.group bracket items range :: nodes) =
        .opening bracket :: (contentsAll items ++ .closing bracket :: contentsAll nodes) := by
      simp [contentsAll, Node.contents]
    rw [written]
    exact .cons (.opening bracket) (List.rel_append inside (.cons (.closing bracket) rest))

/-! ## 4. One way to split -/

/-- **A text splits in one way.** -/
theorem Splits.unique {text : Text} {lexemes others : List Lexeme} (h : Splits text lexemes)
    (also : Splits text others) : others = lexemes := by
  obtain ⟨tokens, scanned, rfl⟩ := scanFrom_of_splits h Position.first
  obtain ⟨tokens', scanned', rfl⟩ := scanFrom_of_splits also Position.first
  have same : tokens = tokens' := congrArg Prod.fst (scanned.symm.trans scanned')
  rw [same]

/-- No lexeme has a blank in it. -/
theorem Lexeme.not_isBlank_of_mem {lexeme : Lexeme} (valid : lexeme.isValid) {c : CodePoint}
    (member : c ∈ lexeme.text) : Text.isBlank c = false := by
  cases lexeme with
  | opening bracket =>
    have solid : ∀ c ∈ bracket.opener, Text.isBlank c = false := by cases bracket <;> decide
    exact solid c member
  | closing bracket =>
    have solid : ∀ c ∈ bracket.closer, Text.isBlank c = false := by cases bracket <;> decide
    exact solid c member
  | hex digits =>
    rcases Lexeme.text_cases valid with parts | ⟨brackets, -⟩
    · exact not_isBlank_of_isWordPart (parts c member)
    · exact absurd (brackets (.char 'x') (by simp [Lexeme.text])) (by decide)
  | word name =>
    rcases Lexeme.text_cases valid with parts | ⟨-, ends⟩
    · exact not_isBlank_of_isWordPart (parts c member)
    · have stops : startsOutside isWordPart [.char 'x'] := ends [.char 'x']
      exact absurd stops (by decide)

/-- **The lexemes of a text are all of it but its blanks.** -/
theorem Splits.filter_solid {text : Text} {lexemes : List Lexeme} (h : Splits text lexemes) :
    text.filter (fun c => !Text.isBlank c) = lexemes.flatMap Lexeme.text := by
  induction h with
  | nil => rfl
  | blank blank _ ih => simp [blank, ih]
  | @lexeme lexeme rest lexemes valid _ _ ih =>
    have solid : lexeme.text.filter (fun c => !Text.isBlank c) = lexeme.text :=
      List.filter_eq_self.mpr fun c member => by
        simp [Lexeme.not_isBlank_of_mem valid member]
    rw [List.filter_append, solid, ih, List.flatMap_cons]

/-! ## 5. What the parser accepts -/

/-- **The parser accepts exactly the texts of the grammar, and loses nothing of them.**  A text
parses if and only if it splits into lexemes with matching brackets.  Then its lexemes are
determined, they are all of the text but its blanks, and the tree, written out piece by piece, gives
what they say one by one, each hex literal being the bytes of its digits. -/
theorem parse_accepts_exactly (text : Text) :
    ((∃ tree, Toolchain.standard.parse text = .ok (.ok tree)) ↔
      ∃ lexemes, Splits text lexemes ∧ Matched lexemes) ∧
    ∀ tree, Toolchain.standard.parse text = .ok (.ok tree) →
      ∃ lexemes, (∀ others, Splits text others ↔ others = lexemes) ∧
        text.filter (fun c => !Text.isBlank c) = lexemes.flatMap Lexeme.text ∧
        List.Forall₂ Lexeme.Says lexemes (contentsAll tree) := by
  rw [Toolchain.parse_standard]
  refine ⟨⟨?_, ?_⟩, ?_⟩
  · rintro ⟨tree, parsed⟩
    obtain ⟨lexemes, splits, reads⟩ := exists_reads_of_parse (Except.ok.inj parsed)
    exact ⟨lexemes, splits, reads.matched⟩
  · rintro ⟨lexemes, splits, matched⟩
    obtain ⟨tree, reads⟩ := matched.exists_reads splits.isValid
    obtain ⟨row, parsed, -⟩ := exists_parse_of_reads splits reads
    exact ⟨row, congrArg Except.ok parsed⟩
  · intro tree parsed
    obtain ⟨lexemes, splits, reads⟩ := exists_reads_of_parse (Except.ok.inj parsed)
    refine ⟨lexemes, fun others => ⟨splits.unique, ?_⟩, splits.filter_solid, reads.says⟩
    rintro rfl
    exact splits

/-- A text with glued brackets, nested groups, digits of both cases and two kinds of blanks. -/
theorem parse_accepts_exactly_nested :
    ∃ lexemes, Splits "<0xaB$(\n)> x.1" lexemes ∧ Matched lexemes ∧
      List.Forall₂ Lexeme.Says lexemes [.opening .push, .hex [0xab], .opening .evaluation,
        .closing .evaluation, .closing .push, .word "x.1"] := by
  have parsed : Toolchain.standard.parse "<0xaB$(\n)> x.1" = .ok (.ok [
      .group .push [.hex [0xab] ⟨1, 2, 1, 6⟩, .group .evaluation [] ⟨1, 6, 2, 2⟩] ⟨1, 1, 2, 3⟩,
      .identifier "x.1" ⟨2, 4, 2, 7⟩]) := by cbv
  obtain ⟨accepted, kept⟩ := parse_accepts_exactly "<0xaB$(\n)> x.1"
  obtain ⟨lexemes, only, -, contents⟩ := kept _ parsed
  obtain ⟨others, splits, matched⟩ := accepted.mp ⟨_, parsed⟩
  obtain rfl := (only others).mp splits
  exact ⟨others, splits, matched, contents⟩

end ScriptTemplate.Script
