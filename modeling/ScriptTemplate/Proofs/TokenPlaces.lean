/-
# Where tokens stand

Tokens carry lines and columns, which the scanner counts as it goes.  This file reads them back: a
line and a column of a text have an offset (`Text.offset?`), found by counting lines of the text
and not by scanning it.

* **The place that the scanner counts has the offset that it has reached** (`offset?_placeAt`).
* `Scanned` says what scanning does, token by token: it passes over blanks, and then there is a
  lexeme, or a character that starts none, or the end.
* From this come the two facts that the rest of the theory uses.  Tokens stand in the text where
  their places say, one after the other (`Scanned.standing`).  And wherever a row of tokens is cut,
  the text can be cut: what stands before the next token splits into the tokens before it
  (`Scanned.exists_cut`).
-/
import Mathlib
import ScriptTemplate.Proofs.Splitting

namespace ScriptTemplate

/-! ## 1. Offsets -/

/-- The place where a range starts. -/
def SourceRange.start (range : SourceRange) : Position := ⟨range.startLine, range.startColumn⟩

/-- The place where a range ends. -/
def SourceRange.stop (range : SourceRange) : Position := ⟨range.endLine, range.endColumn⟩

/-- A place that lines and columns can name. -/
def Position.IsCounted (p : Position) : Prop := 1 ≤ p.line ∧ 1 ≤ p.column

namespace Position

theorem IsCounted.after {p : Position} (counted : p.IsCounted) (c : CodePoint) :
    (p.after c).IsCounted := by
  obtain ⟨line, column⟩ := counted
  unfold Position.after
  split
  · exact ⟨by dsimp only; omega, le_rfl⟩
  · exact ⟨line, by dsimp only; omega⟩

theorem IsCounted.afterAll {p : Position} (counted : p.IsCounted) (text : Text) :
    (p.afterAll text).IsCounted := by
  induction text generalizing p with
  | nil => exact counted
  | cons c rest ih => exact ih (counted.after c)

theorem isCounted_first : first.IsCounted := ⟨le_rfl, le_rfl⟩

/-- A text that starts a line lower ends a line lower. -/
theorem afterAll_lower (line column : Int) (text : Text) :
    (⟨line + 1, column⟩ : Position).afterAll text =
      ⟨((⟨line, column⟩ : Position).afterAll text).line + 1,
        ((⟨line, column⟩ : Position).afterAll text).column⟩ := by
  induction text generalizing line column with
  | nil => rfl
  | cons c rest ih =>
    simp only [afterAll_cons, after]
    split
    · exact ih (line + 1) 1
    · exact ih line (column + 1)

end Position

namespace Text

/-- The offset of a place in a text that is given by its lines: so many lines stand above it, and
so many characters to its left. -/
def offsetIn? : List Text → Nat → Nat → Option Nat
  | [], _, _ => none
  | line :: _, 0, left => if left ≤ line.length then some left else none
  | line :: later, above + 1, left => (offsetIn? later above left).map (line.length + 1 + ·)

/-- **The offset of a place in a text**, if the text has this place.  Lines and columns count from
one, and lines are ended by newlines. -/
def offset? (text : Text) (place : Position) : Option Nat :=
  if 1 ≤ place.line ∧ 1 ≤ place.column then
    offsetIn? (Text.splitOn '\n' text) (place.line - 1).toNat (place.column - 1).toNat
  else none

/-- The part of a text from one offset up to another. -/
def slice (text : Text) (start stop : Nat) : Text := (text.take stop).drop start

/-- The place that is counted at an offset of a text. -/
def placeAt (text : Text) (offset : Nat) : Position := Position.first.afterAll (text.take offset)

variable {line : Text}

/-- A line ends at its newline. -/
theorem splitOn_newline (noNewline : .char '\n' ∉ line) (rest : Text) :
    Text.splitOn '\n' (line ++ .char '\n' :: rest) = line :: Text.splitOn '\n' rest := by
  induction line with
  | nil => simp [Text.splitOn]
  | cons c others ih =>
    have other : c ≠ .char '\n' := fun same => noNewline (by simp [same])
    have inner := ih fun member => noNewline (List.mem_cons_of_mem _ member)
    simp [Text.splitOn, other, inner]

/-- A text that begins without a newline has a first line that is at least as long. -/
theorem exists_first_line (noNewline : .char '\n' ∉ line) (rest : Text) :
    ∃ first later, Text.splitOn '\n' (line ++ rest) = first :: later ∧
      line.length ≤ first.length := by
  induction line with
  | nil =>
    cases lines : Text.splitOn '\n' ([] ++ rest) with
    | nil =>
      cases rest with
      | nil => cases lines
      | cons c rest =>
        simp only [List.nil_append, Text.splitOn] at lines
        split at lines
        · cases lines
        · split at lines <;> cases lines
    | cons first later => exact ⟨first, later, rfl, Nat.zero_le _⟩
  | cons c others ih =>
    have other : c ≠ .char '\n' := fun same => noNewline (by simp [same])
    obtain ⟨first, later, lines, longer⟩ :=
      ih fun member => noNewline (List.mem_cons_of_mem _ member)
    refine ⟨c :: first, later, ?_, by simpa using longer⟩
    simp [Text.splitOn, other, lines]

/-- Counting from the middle of a first line.  The induction moves characters to this line; at a
newline the line is complete, and counting starts anew one line lower. -/
theorem offsetIn?_afterAll (noNewline : .char '\n' ∉ line) (before rest : Text) :
    offsetIn? (Text.splitOn '\n' (line ++ (before ++ rest)))
        (((⟨1, line.length + 1⟩ : Position).afterAll before).line - 1).toNat
        (((⟨1, line.length + 1⟩ : Position).afterAll before).column - 1).toNat =
      some (line.length + before.length) := by
  induction before generalizing line with
  | nil =>
    obtain ⟨first, later, lines, longer⟩ := exists_first_line noNewline rest
    simp [lines, offsetIn?, longer]
  | cons c before ih =>
    by_cases newline : c = .char '\n'
    · subst newline
      have below := ih List.not_mem_nil
      have counted := Position.isCounted_first.afterAll before
      have lower := Position.afterAll_lower 1 1 before
      simp only [List.nil_append, List.length_nil, Nat.cast_zero, Int.zero_add] at below
      rw [List.cons_append, splitOn_newline noNewline, Position.afterAll_cons]
      simp only [Position.after, if_true, lower]
      have above : (((⟨1, 1⟩ : Position).afterAll before).line + 1 - 1).toNat =
          (((⟨1, 1⟩ : Position).afterAll before).line - 1).toNat + 1 := by
        have := counted.1
        unfold Position.first at this
        omega
      rw [above, offsetIn?, below, Option.map_some, List.length_cons]
      congr 1
      omega
    · have longer : .char '\n' ∉ line ++ [c] := by simpa [eq_comm] using ⟨noNewline, newline⟩
      have moved := ih longer
      simp only [List.append_assoc, List.cons_append, List.nil_append, List.length_append,
        List.length_cons, List.length_nil, Nat.cast_add, Nat.cast_one, zero_add] at moved
      rw [Position.afterAll_cons]
      simp only [Position.after, newline, if_false, List.length_cons]
      rw [List.cons_append, moved]
      congr 1
      omega

/-- **The place behind a beginning of a text has the length of this beginning as its offset.** -/
theorem offset?_afterAll (before rest : Text) :
    offset? (before ++ rest) (Position.first.afterAll before) = some before.length := by
  have counted := Position.isCounted_first.afterAll before
  have noNewline : .char '\n' ∉ ([] : Text) := List.not_mem_nil
  have found := offsetIn?_afterAll noNewline before rest
  simp only [List.nil_append, List.length_nil, Nat.cast_zero, Int.zero_add, Nat.zero_add] at found
  unfold offset?
  rw [if_pos ⟨counted.1, counted.2⟩]
  exact found

/-- **The place that is counted at an offset has this offset.** -/
theorem offset?_placeAt {text : Text} {offset : Nat} (inside : offset ≤ text.length) :
    offset? text (placeAt text offset) = some offset := by
  have found := offset?_afterAll (text.take offset) (text.drop offset)
  rw [List.take_append_drop, List.length_take_of_le inside] at found
  exact found

theorem take_append_slice {start stop : Nat} (le : start ≤ stop) (text : Text) :
    text.take start ++ slice text start stop = text.take stop := by
  have parts := List.take_append_drop start (text.take stop)
  rwa [List.take_take, Nat.min_eq_left le] at parts

/-- A part of a text may be cut in two. -/
theorem slice_append_slice {start middle stop : Nat} (first : start ≤ middle)
    (second : middle ≤ stop) (text : Text) :
    slice text start middle ++ slice text middle stop = slice text start stop := by
  have whole := take_append_slice (first.trans second) text
  rw [← take_append_slice second, ← take_append_slice first, List.append_assoc] at whole
  exact (List.append_cancel_left whole).symm

end Text

namespace Script

/-! ## 2. Scanning, token by token -/

/-- **What scanning a text finds**, from a given place on. -/
inductive Scanned : Position → Text → List Token → Ending → Prop
  | endOfText {place : Position} {blanks : Text} (blank : ∀ c ∈ blanks, Text.isBlank c) :
    Scanned place blanks [] (.endOfText (place.afterAll blanks))
  | stray {place : Position} {blanks rest : Text} {c : CodePoint}
    (blank : ∀ c ∈ blanks, Text.isBlank c) (solid : Text.isBlank c = false)
    (unread : Lexeme.read? (c :: rest) = none) :
    Scanned place (blanks ++ c :: rest) [] (.stray (place.afterAll blanks))
  | token {place : Position} {blanks rest : Text} {lexeme : Lexeme} {tokens : List Token}
    {ending : Ending} (blank : ∀ c ∈ blanks, Text.isBlank c) (valid : lexeme.isValid)
    (ends : lexeme.endsBefore rest)
    (later : Scanned (place.afterAll (blanks ++ lexeme.text)) rest tokens ending) :
    Scanned place (blanks ++ (lexeme.text ++ rest))
      (⟨lexeme, place.afterAll blanks, place.afterAll (blanks ++ lexeme.text)⟩ :: tokens) ending

/-- Blanks may stand before what is scanned. -/
theorem Scanned.blank {place : Position} {c : CodePoint} {rest : Text} {tokens : List Token}
    {ending : Ending} (blank : Text.isBlank c)
    (h : Scanned (place.after c) rest tokens ending) : Scanned place (c :: rest) tokens ending := by
  have more {blanks : Text} (others : ∀ c ∈ blanks, Text.isBlank c) :
      ∀ d ∈ c :: blanks, Text.isBlank d := List.forall_mem_cons.mpr ⟨blank, others⟩
  cases h with
  | endOfText others => exact .endOfText (more others)
  | stray others solid unread => exact .stray (more others) solid unread
  | token others valid ends later => exact .token (more others) valid ends later

theorem scanned_scanFrom {place : Position} {text : Text} {tokens : List Token} {ending : Ending}
    (h : scanFrom place text = (tokens, ending)) : Scanned place text tokens ending := by
  have noBlanks : ∀ c ∈ ([] : Text), Text.isBlank c := by simp
  fun_induction scanFrom place text generalizing tokens ending with
  | case1 place =>
    cases h
    exact .endOfText noBlanks
  | case2 place c rest blank ih => exact (ih h).blank blank
  | case3 place c rest solid unread =>
    cases h
    have found : Scanned place _ _ _ := .stray noBlanks (by simpa using solid) unread
    exact found
  | case4 place c rest solid lexeme remaining read _ stop found last scanned =>
    rename_i ih
    obtain ⟨valid, ends⟩ := Lexeme.isValid_of_read? read
    cases h
    rw [Lexeme.read?_eq_some read]
    have found : Scanned place _ _ _ := .token noBlanks valid ends (ih scanned)
    exact found

/-! ## 3. Texts cut at a token -/

/-- Blanks before a text that begins with no blank are none. -/
theorem eq_nil_of_startsOutside {blanks text : Text} (blank : ∀ c ∈ blanks, Text.isBlank c)
    (outside : startsOutside Text.isBlank (blanks ++ text)) : blanks = [] := by
  cases blanks with
  | nil => rfl
  | cons c rest => simp [startsOutside, blank c List.mem_cons_self] at outside

namespace Scanned

variable {place : Position} {text : Text} {passed more : List Token} {token : Token}
  {ending : Ending}

/-- What scanning finds in a text starts where the blanks before it end. -/
theorem exists_solid (h : Scanned place text more ending) :
    ∃ blanks rest, text = blanks ++ rest ∧ (∀ c ∈ blanks, Text.isBlank c) ∧
      startsOutside Text.isBlank rest ∧ Scanned (place.afterAll blanks) rest more ending := by
  have noBlanks : ∀ c ∈ ([] : Text), Text.isBlank c := by simp
  cases h with
  | endOfText blank => exact ⟨text, [], by simp, blank, rfl, .endOfText noBlanks⟩
  | @stray _ blanks rest c blank solid unread =>
    have found : Scanned (place.afterAll blanks) _ _ _ := .stray noBlanks solid unread
    exact ⟨blanks, c :: rest, rfl, blank, by simp [startsOutside, solid], found⟩
  | @token _ blanks rest lexeme tokens _ blank valid ends later =>
    rw [Position.afterAll_append] at later
    have found : Scanned (place.afterAll blanks) _ _ _ := .token noBlanks valid ends later
    obtain ⟨c, others, written, solid⟩ := Lexeme.exists_text_cons valid
    refine ⟨blanks, lexeme.text ++ rest, rfl, blank, ?_, ?_⟩
    · simp [startsOutside, written, solid]
    · simpa using found

/-- **Where a row of tokens is cut, the text can be cut.**  What stands before the cut splits into
the tokens passed, and scanning goes on behind it, at no blank. -/
theorem exists_cut (h : Scanned place text (passed ++ more) ending) :
    ∃ before rest, text = before ++ rest ∧ Splits before (passed.map Token.lexeme) ∧
      startsOutside Text.isBlank rest ∧ Scanned (place.afterAll before) rest more ending := by
  induction passed generalizing place text with
  | nil =>
    obtain ⟨blanks, rest, rfl, blank, outside, found⟩ := exists_solid h
    have splits := Splits.nil.blanks_append blank
    rw [List.append_nil] at splits
    exact ⟨blanks, rest, rfl, splits, outside, found⟩
  | cons first passed ih =>
    rw [List.cons_append] at h
    cases h with
    | @token _ blanks remaining lexeme _ _ blank valid ends later =>
      obtain ⟨before, rest, rfl, splits, outside, found⟩ := ih later
      refine ⟨blanks ++ (lexeme.text ++ before), rest, by simp, ?_, outside, ?_⟩
      · -- The lexeme also ends where the text is cut off.
        have atEnd : lexeme.endsBefore [] := Lexeme.endsBefore_of_startsOutside rfl lexeme
        have stops : lexeme.endsBefore before := by
          have cut := Lexeme.endsBefore_append ends fun _ => atEnd
          rwa [List.append_nil] at cut
        exact (Splits.lexeme valid stops splits).blanks_append blank
      · simpa using found

/-- **A token stands in the text at its place**, behind the tokens passed. -/
theorem exists_token (h : Scanned place text (passed ++ token :: more) ending) :
    ∃ before after, text = before ++ (token.lexeme.text ++ after) ∧
      Splits before (passed.map Token.lexeme) ∧ token.start = place.afterAll before := by
  obtain ⟨before, rest, rfl, splits, outside, found⟩ := exists_cut h
  cases found with
  | @token _ blanks after lexeme _ _ blank valid ends later =>
    obtain rfl := eq_nil_of_startsOutside blank outside
    exact ⟨before, after, rfl, splits, rfl⟩

/-- **Where the tokens end, there is the end of the text or a character that starts no lexeme.** -/
theorem exists_ending (h : Scanned place text passed ending) :
    ∃ before rest, text = before ++ rest ∧ Splits before (passed.map Token.lexeme) ∧
      (rest = [] ∧ ending = .endOfText (place.afterAll before) ∨
        ∃ c others, rest = c :: others ∧ Text.isBlank c = false ∧
          Lexeme.read? (c :: others) = none ∧ ending = .stray (place.afterAll before)) := by
  rw [← List.append_nil passed] at h
  obtain ⟨before, rest, rfl, splits, outside, found⟩ := exists_cut h
  refine ⟨before, rest, rfl, splits, ?_⟩
  cases found with
  | endOfText blank =>
    rw [← List.append_nil rest] at outside
    obtain rfl := eq_nil_of_startsOutside blank outside
    exact .inl ⟨rfl, rfl⟩
  | @stray _ blanks others c blank solid unread =>
    obtain rfl := eq_nil_of_startsOutside blank outside
    exact .inr ⟨c, others, rfl, solid, unread, rfl⟩

end Scanned

/-! ## 4. Tokens one after the other -/

/-- **A token stands at an offset of a text**: it is written there, and its places are those of the
two ends. -/
structure Token.At (text : Text) (offset : Nat) (token : Token) : Prop where
  valid : token.lexeme.isValid
  inside : offset + token.lexeme.text.length ≤ text.length
  written : text.slice offset (offset + token.lexeme.text.length) = token.lexeme.text
  start : token.start = text.placeAt offset
  stop : token.stop = text.placeAt (offset + token.lexeme.text.length)

/-- **Tokens stand one after the other** between two offsets of a text. -/
inductive Standing (text : Text) : Nat → Nat → List Token → Prop
  | nil {low high : Nat} (le : low ≤ high) : Standing text low high []
  | cons {low high offset : Nat} {token : Token} {tokens : List Token} (le : low ≤ offset)
    (stands : token.At text offset)
    (later : Standing text (offset + token.lexeme.text.length) high tokens) :
    Standing text low high (token :: tokens)

/-- A token between two parts of a text. -/
theorem Token.at_length {lexeme : Lexeme} (valid : lexeme.isValid) (before after : Text) :
    Token.At (before ++ (lexeme.text ++ after)) before.length
      ⟨lexeme, Position.first.afterAll before, Position.first.afterAll (before ++ lexeme.text)⟩ := by
  have front : (before ++ (lexeme.text ++ after)).take before.length = before := List.take_left' rfl
  have both : (before ++ (lexeme.text ++ after)).take (before.length + lexeme.text.length) =
      before ++ lexeme.text := by
    rw [← List.append_assoc]
    exact List.take_left' (List.length_append)
  refine ⟨valid, ?_, ?_, ?_, ?_⟩
  · simp only [List.length_append]
    omega
  · simp only [Text.slice, both, List.drop_left]
  · simp only [Text.placeAt, front]
  · simp only [Text.placeAt, both]

theorem Token.At.length_pos {text : Text} {offset : Nat} {token : Token}
    (h : token.At text offset) : 0 < token.lexeme.text.length := by
  obtain ⟨c, rest, written, -⟩ := Lexeme.exists_text_cons h.valid
  simp [written]

namespace Standing

variable {text : Text} {low high : Nat} {token : Token} {tokens more : List Token}

theorem le (h : Standing text low high tokens) : low ≤ high := by
  induction h with
  | nil le => exact le
  | cons le _ _ ih => omega

/-- Tokens that stand one after the other can be parted at each of them. -/
theorem exists_of_append (h : Standing text low high (tokens ++ token :: more)) :
    ∃ offset, Standing text low offset tokens ∧ token.At text offset ∧
      Standing text (offset + token.lexeme.text.length) high more := by
  induction tokens generalizing low with
  | nil =>
    cases h with
    | @cons _ _ offset _ _ le stands later => exact ⟨offset, .nil le, stands, later⟩
  | cons first tokens ih =>
    rw [List.cons_append] at h
    cases h with
    | cons le stands later =>
      obtain ⟨offset, earlier, own, later⟩ := ih later
      exact ⟨offset, .cons le stands earlier, own, later⟩

end Standing

/-- **The tokens of a text stand in it one after the other.** -/
theorem Scanned.standing {before rest : Text} {tokens : List Token} {ending : Ending}
    (h : Scanned (Position.first.afterAll before) rest tokens ending) :
    Standing (before ++ rest) before.length (before ++ rest).length tokens := by
  generalize start : Position.first.afterAll before = place at h
  induction h generalizing before with
  | endOfText blank => exact .nil (by simp)
  | stray blank solid unread => exact .nil (by simp)
  | @token _ blanks rest lexeme tokens ending blank valid ends later ih =>
    subst start
    have stands := Token.at_length valid (before ++ blanks) rest
    have next := @ih (before ++ (blanks ++ lexeme.text)) (Position.afterAll_append ..)
    simp only [Position.afterAll_append, List.append_assoc, List.length_append] at stands next ⊢
    refine .cons (Nat.le_add_right _ blanks.length) stands ?_
    rw [Nat.add_assoc]
    exact next

theorem standing_of_scan {text : Text} {tokens : List Token} {ending : Ending}
    (h : scan text = (tokens, ending)) : Standing text 0 text.length tokens := by
  have scanned : Scanned (Position.first.afterAll []) text tokens ending := scanned_scanFrom h
  exact scanned.standing

end Script

end ScriptTemplate
