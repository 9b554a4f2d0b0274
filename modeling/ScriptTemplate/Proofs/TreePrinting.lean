/-
# Trees printed and read back

A tree can be printed in many ways: blanks stand between its lexemes, as many as one likes and at
least one, and before and after all of them; each digit of a hex literal has two cases.  A `Layout`
makes all these choices, and `Layout.print` is the text that comes of them.  Nothing in the printer
looks at the parser.

**Whatever the layout, the printed text parses to the tree again** (`parse_print`), up to the
ranges, which a tree that was never written has to leave open.

The two halves of the argument do not meet.  A printed text splits into the lexemes that were
printed, because a blank ends every lexeme (`splits_spaced`).  And lexemes that say what a tree says
are read as this tree (`reads_of_contents`), the converse of `Reads.says`.

The blanks between lexemes are there on purpose.  Without them a word runs into a word or a literal
that follows it, and a literal into a word.
-/
import Mathlib
import ScriptTemplate.Proofs.AcceptedTexts

namespace ScriptTemplate

/-! ## 1. Digits of either case -/

/-- The digit of a value below sixteen, in upper or in lower case. -/
def Hex.cased (upper : Bool) (n : Nat) : CodePoint :=
  if upper && 10 ≤ n then .ofNat (55 + n) else Hex.digit n

/-- **Both cases of a digit have its value.** -/
theorem Hex.value?_cased : ∀ upper, ∀ n < 16, Hex.value? (Hex.cased upper n) = some n := by
  decide

namespace Bytes

/-- The values of the digits of a byte string, the high one of each byte first. -/
def halves (bytes : Bytes) : List Nat := bytes.flatMap fun byte => [byte.toNat / 16, byte.toNat % 16]

theorem lt_of_mem_halves {bytes : Bytes} {n : Nat} (member : n ∈ bytes.halves) : n < 16 := by
  obtain ⟨byte, -, half⟩ := List.mem_flatMap.mp member
  have small : byte.toNat < 256 := byte.toNat_lt
  simp only [List.mem_cons, List.not_mem_nil, or_false] at half
  rcases half with rfl | rfl
  · omega
  · omega

/-- The digits of a byte string, each in the case that is asked for. -/
def spelled (upper : Nat → Bool) (bytes : Bytes) : Text :=
  bytes.halves.mapIdx fun place n => Hex.cased (upper place) n

/-- **In whichever case they are written, the digits are the halves of the bytes.** -/
theorem map_value?_spelled (upper : Nat → Bool) (bytes : Bytes) :
    (bytes.spelled upper).map Hex.value? =
      bytes.flatMap fun byte => [some (byte.toNat / 16), some (byte.toNat % 16)] := by
  have values : (bytes.spelled upper).map Hex.value? = bytes.halves.map some := by
    apply List.ext_getElem
    · simp [spelled]
    · intro place first second
      have inside : place < bytes.halves.length := by simpa [spelled] using first
      have small := lt_of_mem_halves (List.getElem_mem inside)
      simp [spelled, Hex.value?_cased _ _ small]
  rw [values, halves, List.map_flatMap]
  rfl

/-- **Digits that are the halves of bytes are decoded to them.** -/
theorem ofHex?_of_halves {digits : Text} {value : Bytes} (halves : digits.map Hex.value? =
      value.flatMap fun byte => [some (byte.toNat / 16), some (byte.toNat % 16)]) :
    ofHex? digits = some value := by
  induction value generalizing digits with
  | nil =>
    obtain rfl := List.map_eq_nil_iff.mp halves
    rfl
  | cons byte later ih =>
    rw [List.flatMap_cons] at halves
    obtain ⟨high, others, rfl, first, halves⟩ := List.map_eq_cons_iff.mp halves
    obtain ⟨low, rest, rfl, second, halves⟩ := List.map_eq_cons_iff.mp halves
    have whole : UInt8.ofNat (16 * (byte.toNat / 16) + byte.toNat % 16) = byte := by
      rw [Nat.div_add_mod, UInt8.ofNat_toNat]
    have read : Hex.byte? high low = some byte := by simp only [Hex.byte?, first, second, whole]
    simp only [ofHex?, read, ih halves, Option.map_some]

end Bytes

namespace Script

/-! ## 2. Lexemes that say what a tree says -/

/-- The lexeme that says something, its digits in the case that is asked for. -/
def Content.lexeme (upper : Nat → Bool) : Content → Lexeme
  | .opening bracket => .opening bracket
  | .closing bracket => .closing bracket
  | .hex value => .hex (value.spelled upper)
  | .word name => .word name

theorem Content.says_lexeme (upper : Nat → Bool) (content : Content) :
    (content.lexeme upper).Says content := by
  cases content with
  | opening bracket => exact .opening bracket
  | closing bracket => exact .closing bracket
  | hex value => exact .hex (Bytes.map_value?_spelled upper value)
  | word name => exact .word name

/-- A lexeme that says something is well written, if a word is one. -/
theorem Lexeme.Says.isValid {lexeme : Lexeme} {content : Content} (h : lexeme.Says content)
    (words : ∀ name, content = .word name → isWord name) : lexeme.isValid := by
  cases h with
  | opening bracket => rfl
  | closing bracket => rfl
  | word name => exact words name rfl
  | @hex digits value halves =>
    -- As many halves as there are digits, two a byte, and each digit has a value.
    have digit : ∀ c ∈ digits, Hex.isDigit c := by
      intro c member
      have mapped : Hex.value? c ∈ digits.map Hex.value? := List.mem_map_of_mem member
      rw [halves] at mapped
      obtain ⟨byte, -, half⟩ := List.mem_flatMap.mp mapped
      simp only [List.mem_cons, List.not_mem_nil, or_false] at half
      rcases half with half | half
      · simp [Hex.isDigit, half]
      · simp [Hex.isDigit, half]
    have count : digits.length = value.length * 2 := by
      simpa [List.length_flatMap] using congrArg List.length halves
    simp only [Lexeme.isValid, isHexBody, Bool.and_eq_true, List.all_eq_true, beq_iff_eq]
    exact ⟨digit, by omega⟩

mutual

/-- Lexemes that say what a piece says are read as this piece. -/
theorem Node.reads_of_contents : ∀ (node : Node) {lexemes : List Lexeme},
    List.Forall₂ Lexeme.Says lexemes node.contents → Reads lexemes [node]
  | .identifier name range, lexemes, stated => by
    rw [Node.contents] at stated
    obtain ⟨first, rest, word, none, rfl⟩ := List.forall₂_cons_right_iff.mp stated
    cases word
    cases none
    exact .word .nil
  | .hex value range, lexemes, stated => by
    rw [Node.contents] at stated
    obtain ⟨first, rest, literal, none, rfl⟩ := List.forall₂_cons_right_iff.mp stated
    cases none
    cases literal with
    | hex halves => exact .hex (Bytes.ofHex?_of_halves halves) .nil
  | .group bracket items range, lexemes, stated => by
    rw [Node.contents] at stated
    obtain ⟨first, inner, opens, later, rfl⟩ := List.forall₂_cons_right_iff.mp stated
    cases opens
    have inside := reads_of_contents items (List.forall₂_take_append _ _ _ later)
    obtain ⟨last, rest, closes, none, behind⟩ :=
      List.forall₂_cons_right_iff.mp (List.forall₂_drop_append _ _ _ later)
    cases closes
    cases none
    rw [← List.take_append_drop (contentsAll items).length inner, behind]
    exact .group inside .nil

/-- **Lexemes that say what a tree says are read as this tree.** -/
theorem reads_of_contents : ∀ (tree : List Node) {lexemes : List Lexeme},
    List.Forall₂ Lexeme.Says lexemes (contentsAll tree) → Reads lexemes tree
  | [], lexemes, stated => by
    rw [contentsAll] at stated
    cases stated
    exact .nil
  | node :: rest, lexemes, stated => by
    rw [contentsAll] at stated
    have first := Node.reads_of_contents node (List.forall₂_take_append _ _ _ stated)
    have later := reads_of_contents rest (List.forall₂_drop_append _ _ _ stated)
    rw [← List.take_append_drop node.contents.length lexemes]
    exact first.append later

end

mutual

theorem Node.mem_names_of_contents : ∀ (node : Node) {name : Text},
    .word name ∈ node.contents → name ∈ node.names
  | .identifier own range, name, member => by
    simp only [Node.contents, List.mem_singleton, Content.word.injEq] at member
    simp [Node.names, member]
  | .hex value range, name, member => by simp [Node.contents] at member
  | .group bracket items range, name, member => by
    have inside : .word name ∈ contentsAll items := by simpa [Node.contents] using member
    rw [Node.names]
    exact mem_namesAll_of_contents items inside

/-- The words of a tree written out are its names. -/
theorem mem_namesAll_of_contents : ∀ (tree : List Node) {name : Text},
    .word name ∈ contentsAll tree → name ∈ namesAll tree
  | [], name, member => by simp [contentsAll] at member
  | node :: rest, name, member => by
    rw [contentsAll, List.mem_append] at member
    rw [namesAll, List.mem_append]
    exact member.imp (Node.mem_names_of_contents node) (mem_namesAll_of_contents rest)

end

/-! ## 3. Layouts -/

/-- **How a tree is printed.** -/
structure Layout where
  /-- What stands before the first lexeme. -/
  leading : Text
  /-- What stands between a lexeme, given by its number from zero, and the next one. -/
  gap : Nat → Text
  /-- What stands after the last lexeme. -/
  trailing : Text
  /-- Which digits are in upper case, by the number of their lexeme and their place in it. -/
  upper : Nat → Nat → Bool
  blank_leading : ∀ c ∈ leading, Text.isBlank c
  blank_gap : ∀ number, ∀ c ∈ gap number, Text.isBlank c
  blank_trailing : ∀ c ∈ trailing, Text.isBlank c
  gap_ne_nil : ∀ number, gap number ≠ []

/-- Texts in one row, the first of them having the given number, with their gaps between them. -/
def spaced (gap : Nat → Text) : Nat → List Text → Text
  | _, [] => []
  | _, [last] => last
  | number, text :: rest => text ++ (gap number ++ spaced gap (number + 1) rest)

namespace Layout

/-- The lexemes of a tree, with the digits that the layout asks for. -/
def lexemes (layout : Layout) (tree : List Node) : List Lexeme :=
  (contentsAll tree).mapIdx fun number content => content.lexeme (layout.upper number)

/-- **The text of a tree.** -/
def print (layout : Layout) (tree : List Node) : Text :=
  layout.leading ++ spaced layout.gap 0 ((layout.lexemes tree).map Lexeme.text) ++ layout.trailing

variable (layout : Layout) (tree : List Node)

theorem says_lexemes : List.Forall₂ Lexeme.Says (layout.lexemes tree) (contentsAll tree) := by
  rw [List.forall₂_iff_get]
  refine ⟨by simp [lexemes], fun number first second => ?_⟩
  simpa [lexemes] using Content.says_lexeme (layout.upper number) _

/-- The printed lexemes are well written, if the names of the tree are words. -/
theorem isValid_lexemes {tree : List Node} (words : ∀ name ∈ namesAll tree, isWord name) :
    ∀ lexeme ∈ layout.lexemes tree, lexeme.isValid := by
  intro lexeme member
  obtain ⟨number, inside, rfl⟩ := List.mem_mapIdx.mp member
  refine (Content.says_lexeme _ _).isValid fun name same => words name ?_
  exact mem_namesAll_of_contents tree (same ▸ List.getElem_mem inside)

/-- **A blank ends every lexeme**: a row of well-written lexemes with gaps between them splits into
these lexemes. -/
theorem splits_spaced (number : Nat) : ∀ {lexemes : List Lexeme},
    (∀ lexeme ∈ lexemes, lexeme.isValid) →
      Splits (spaced layout.gap number (lexemes.map Lexeme.text)) lexemes
  | [], _ => .nil
  | [last], valid => by
    have whole := Splits.lexeme (valid last List.mem_cons_self)
      (Lexeme.endsBefore_of_startsOutside rfl last) .nil
    rwa [List.append_nil] at whole
  | lexeme :: next :: rest, valid => by
    have later := splits_spaced (number + 1) fun other member =>
      valid other (List.mem_cons_of_mem lexeme member)
    obtain ⟨c, others, gap⟩ := List.exists_cons_of_ne_nil (layout.gap_ne_nil number)
    have blank : Text.isBlank c := layout.blank_gap number c (gap ▸ List.mem_cons_self)
    have ends : lexeme.endsBefore
        (layout.gap number ++ spaced layout.gap (number + 1) ((next :: rest).map Lexeme.text)) := by
      rw [gap, List.cons_append]
      exact Lexeme.endsBefore_of_startsOutside (startsOutside_of_isBlank blank _) lexeme
    exact .lexeme (valid lexeme List.mem_cons_self) ends
      (later.blanks_append (layout.blank_gap number))

/-- A printed text splits into the lexemes that were printed. -/
theorem splits_print {tree : List Node} (words : ∀ name ∈ namesAll tree, isWord name) :
    Splits (layout.print tree) (layout.lexemes tree) := by
  have row := (layout.splits_spaced 0 (layout.isValid_lexemes words)).blanks_append
    layout.blank_leading
  have tail : Splits (layout.trailing ++ []) [] := Splits.nil.blanks_append layout.blank_trailing
  rw [List.append_nil] at tail
  have stops : startsOutside isWordPart layout.trailing := by
    cases trailing : layout.trailing with
    | nil => rfl
    | cons c rest =>
      exact startsOutside_of_isBlank (layout.blank_trailing c (trailing ▸ List.mem_cons_self)) rest
  simpa [print] using row.append stops tail

end Layout

/-! ## 4. Reading back -/

/-- **A printed tree is read back.**  The tree may be nested to any depth, its names being words,
and the layout may be any: the printed text parses, and its tree is the one that was printed, up to
ranges. -/
theorem parse_print (layout : Layout) (tree : List Node)
    (words : ∀ name ∈ namesAll tree, isWord name) :
    ∃ row, Toolchain.standard.parse (layout.print tree) = .ok (.ok row) ∧ Alike row tree := by
  have reads := reads_of_contents tree (layout.says_lexemes tree)
  obtain ⟨row, parsed, alike⟩ := exists_parse_of_reads (layout.splits_print words) reads
  exact ⟨row, congrArg Except.ok parsed, alike⟩

/-- A layout with a line for each lexeme, some digits in upper case. -/
def linewise : Layout where
  leading := "\t"
  gap number := if number = 0 then " \n" else "\n"
  trailing := []
  upper _ place := place == 1
  blank_leading := by decide
  blank_gap number := by split <;> decide
  blank_trailing := by simp
  gap_ne_nil number := by split <;> decide

/-- A push of an empty literal, a literal and an empty evaluation, before a name with a dot. -/
def mixedTree : List Node :=
  [.group .push [.hex [] .empty, .hex [0xab] .empty, .group .evaluation [] .empty] .empty,
    .identifier "x.1" .empty]

theorem parse_print_linewise :
    linewise.print mixedTree = "\t< \n0x\n0xaB\n$(\n)\n>\nx.1" ∧
    ∃ row, Toolchain.standard.parse "\t< \n0x\n0xaB\n$(\n)\n>\nx.1" = .ok (.ok row) ∧
      Alike row mixedTree := by
  have printed : linewise.print mixedTree = "\t< \n0x\n0xaB\n$(\n)\n>\nx.1" := by cbv
  refine ⟨printed, ?_⟩
  rw [← printed]
  refine parse_print linewise mixedTree fun name member => ?_
  obtain rfl : name = "x.1" := by simpa [mixedTree, namesAll, Node.names] using member
  decide

end Script

end ScriptTemplate
