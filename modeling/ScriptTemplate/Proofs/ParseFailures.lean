/-
# Where and why a text is refused

The parser refuses a text at the first lexeme that cannot stand where it does.  Said without the
parser, this is a matter of brackets alone: every lexeme changes a stack of open brackets, and only
a bracket that closes another than the innermost one has no place (`Lexeme.nest?`).

* The frames of the parser ARE this stack (`exists_build_of_nest?`).  As long as lexemes nest it goes
  on, and where one does not it stops (`build_of_not_nests`).
* So a refusal tells what stands before it: lexemes that nest, leaving the brackets open whose
  innermost closer is among the inputs on offer (`exists_refusal`).
* **What stands before a refusal is never at fault.**  The closers that are missing make it a text
  that parses (`exists_parse_closed`).

The last point uses that the text before the refusal splits by itself, although its last lexeme was
read with the rest of the text in view.  It ends before the end of a text too.
-/
import Mathlib
import ScriptTemplate.Proofs.Grammar
import ScriptTemplate.Proofs.TokenPlaces
import ScriptTemplate.Toolchain.Standard

namespace ScriptTemplate.Script

/-! ## 1. Open brackets -/

/-- What a lexeme makes of the open brackets, the innermost one first.  A closing bracket has to
belong to the innermost. -/
def Lexeme.nest? (stack : List Bracket) : Lexeme → Option (List Bracket)
  | .opening bracket => some (bracket :: stack)
  | .closing bracket => if stack.head? = some bracket then some stack.tail else none
  | .hex _ => some stack
  | .word _ => some stack

/-- **The brackets that a row of lexemes leaves open**, the innermost one first, unless a bracket
is closed by a closer of another. -/
def leftOpen? (lexemes : List Lexeme) : Option (List Bracket) := lexemes.foldlM Lexeme.nest? []

/-- The closers of the open brackets leave nothing open. -/
theorem foldlM_nest?_closers (stack : List Bracket) :
    (stack.map Lexeme.closing).foldlM Lexeme.nest? stack = some [] := by
  induction stack with
  | nil => rfl
  | cons bracket outer ih =>
    rw [List.map_cons, List.foldlM_cons]
    simpa [Lexeme.nest?] using ih

/-- **Lexemes followed by the closers they lack leave nothing open.** -/
theorem leftOpen?_closed {lexemes : List Lexeme} {stack : List Bracket}
    (h : leftOpen? lexemes = some stack) :
    leftOpen? (lexemes ++ stack.map Lexeme.closing) = some [] := by
  unfold leftOpen? at h ⊢
  rw [List.foldlM_append, h]
  exact foldlM_nest?_closers stack

/-- The closers of brackets split into closing brackets. -/
theorem splits_closers (stack : List Bracket) :
    Splits (stack.flatMap Bracket.closer) (stack.map Lexeme.closing) := by
  induction stack with
  | nil => exact .nil
  | cons bracket outer ih =>
    rw [List.flatMap_cons, List.map_cons]
    have valid : (Lexeme.closing bracket).isValid := rfl
    exact .lexeme valid rfl ih

theorem startsOutside_closers (stack : List Bracket) :
    startsOutside isWordPart (stack.flatMap Bracket.closer) := by
  cases stack with
  | nil => rfl
  | cons bracket outer => cases bracket <;> simp [startsOutside, Bracket.closer] <;> decide

/-! ## 2. The parser follows the brackets -/

section Follow

variable {frames : List Frame} {items : List Node} {token : Token} {stack : List Bracket}

/-- **A lexeme that nests leads the parser on**, with the brackets open that it leaves. -/
theorem exists_build_of_nest? (items : List Node)
    (nests : token.lexeme.nest? (frames.map Frame.bracket) = some stack) :
    ∃ frames' items', frames'.map Frame.bracket = stack ∧ ∀ ending rest,
      build frames items ending (token :: rest) = build frames' items' ending rest := by
  cases h : token.lexeme with
  | word name =>
    rw [h] at nests
    exact ⟨_, _, Option.some.inj nests, fun _ _ => build_word h⟩
  | hex digits =>
    rw [h] at nests
    refine ⟨frames, .hex ((Bytes.ofHex? digits).getD []) (.between token.start token.stop) :: items,
      Option.some.inj nests, fun ending rest => ?_⟩
    rw [build]
    simp only [h]
  | opening bracket =>
    rw [h] at nests
    exact ⟨⟨bracket, token.start, items⟩ :: frames, [], Option.some.inj nests,
      fun _ _ => build_opening h⟩
  | closing bracket =>
    rw [h, Lexeme.nest?] at nests
    split at nests
    · next innermost =>
      cases frames with
      | nil => cases innermost
      | cons frame outer =>
        obtain ⟨opened, start, earlier⟩ := frame
        obtain rfl : opened = bracket := Option.some.inj innermost
        exact ⟨outer, _, Option.some.inj nests, fun _ _ => build_closing h⟩
    · cases nests

/-- **A lexeme that does not nest stops the parser**: it closes another bracket. -/
theorem build_of_not_nests (items : List Node)
    (mismatch : token.lexeme.nest? (frames.map Frame.bracket) = none) :
    ∃ bracket, token.lexeme = .closing bracket ∧
      (frames.map Frame.bracket).head? ≠ some bracket ∧ ∀ ending rest,
        build frames items ending (token :: rest) = refuse frames token.start := by
  cases h : token.lexeme with
  | word name => rw [h] at mismatch; cases mismatch
  | hex digits => rw [h] at mismatch; cases mismatch
  | opening bracket => rw [h] at mismatch; cases mismatch
  | closing bracket =>
    rw [h, Lexeme.nest?] at mismatch
    split at mismatch
    · cases mismatch
    · next other =>
      refine ⟨bracket, rfl, other, fun ending rest => ?_⟩
      rw [build]
      cases frames with
      | nil => simp only [h]
      | cons frame outer =>
        have differs : frame.bracket ≠ bracket := fun same => other (by simp [same])
        simp only [h, differs, if_false]

/-- As long as lexemes nest, the parser goes on. -/
theorem exists_build_of_foldlM_nest? {tokens : List Token} (items : List Node)
    (nests : (tokens.map Token.lexeme).foldlM Lexeme.nest? (frames.map Frame.bracket) =
      some stack) :
    ∃ frames' items', frames'.map Frame.bracket = stack ∧ ∀ ending rest,
      build frames items ending (tokens ++ rest) = build frames' items' ending rest := by
  induction tokens generalizing frames items with
  | nil => exact ⟨frames, items, Option.some.inj nests, fun _ _ => rfl⟩
  | cons token tokens ih =>
    rw [List.map_cons, List.foldlM_cons] at nests
    obtain ⟨between, first, later⟩ := Option.bind_eq_some_iff.mp nests
    obtain ⟨frames', items', rfl, step⟩ := exists_build_of_nest? items first
    obtain ⟨frames'', items'', same, run⟩ := ih items' later
    refine ⟨frames'', items'', same, fun ending rest => ?_⟩
    rw [List.cons_append, step, run]

end Follow

/-- **A text whose lexemes leave nothing open parses.** -/
theorem exists_parse_of_leftOpen? {text : Text} {lexemes : List Lexeme}
    (splits : Splits text lexemes) (closed : leftOpen? lexemes = some []) :
    ∃ tree, parse text = .ok tree := by
  obtain ⟨tokens, scanned, rfl⟩ := scanFrom_of_splits splits Position.first
  have nests : (tokens.map Token.lexeme).foldlM Lexeme.nest? (([] : List Frame).map Frame.bracket) =
      some [] := closed
  obtain ⟨frames, items, none, run⟩ := exists_build_of_foldlM_nest? [] nests
  obtain rfl : frames = [] := List.map_eq_nil_iff.mp none
  refine ⟨items.reverse, ?_⟩
  have whole := run (.endOfText (Position.first.afterAll text)) []
  rw [List.append_nil] at whole
  rw [parse, scan, scanned]
  simp only [whole, build]

/-- **What stands before a refusal can be closed**: with the closers of the brackets that it leaves
open it parses. -/
theorem exists_parse_closed {text : Text} {lexemes : List Lexeme} {stack : List Bracket}
    (splits : Splits text lexemes) (nests : leftOpen? lexemes = some stack) :
    ∃ tree, parse (text ++ stack.flatMap Bracket.closer) = .ok tree :=
  exists_parse_of_leftOpen? (splits.append (startsOutside_closers stack) (splits_closers stack))
    (leftOpen?_closed nests)

/-! ## 3. Refusals -/

/-- How the way out is offered to the reader: the closer of the innermost open bracket, or the end
of the text. -/
def wayOut : List Bracket → Text
  | [] => ParseFailure.endMarker
  | bracket :: _ => bracket.closerDescription

theorem expectedWithin_eq (frames : List Frame) :
    expectedWithin frames = wayOut (frames.map Frame.bracket) :: itemDescriptions := by
  cases frames <;> rfl

/-- **Why the parser refuses what comes next**, and where, given the open brackets. -/
inductive Refusal (ending : Ending) (stack : List Bracket) : List Token → Position → Prop
  | ended (unfinished : stack ≠ [] ∨ ∃ position, ending = .stray position) :
    Refusal ending stack [] ending.position
  | closer {token : Token} {rest : List Token} {bracket : Bracket}
    (closes : token.lexeme = .closing bracket) (other : stack.head? ≠ some bracket) :
    Refusal ending stack (token :: rest) token.start

/-- **A refusal comes behind tokens that nest**, and offers the way out of the brackets they leave
open. -/
theorem exists_of_build_error {frames : List Frame} {items : List Node} {ending : Ending}
    {tokens : List Token} {failure : ParseFailure}
    (refused : build frames items ending tokens = .error failure) :
    ∃ passed more stack, tokens = passed ++ more ∧
      (passed.map Token.lexeme).foldlM Lexeme.nest? (frames.map Frame.bracket) = some stack ∧
      failure.expected = wayOut stack :: itemDescriptions ∧
      Refusal ending stack more failure.position := by
  induction tokens generalizing frames items with
  | nil =>
    refine ⟨[], [], frames.map Frame.bracket, rfl, rfl, ?_⟩
    unfold build at refused
    split at refused
    · cases refused
    · next unfinished =>
      cases refused
      refine ⟨expectedWithin_eq frames, .ended ?_⟩
      cases ending with
      | stray position => exact .inr ⟨position, rfl⟩
      | endOfText position =>
        left
        intro none
        exact unfinished position rfl (List.map_eq_nil_iff.mp none)
  | cons token rest ih =>
    cases nests : token.lexeme.nest? (frames.map Frame.bracket) with
    | none =>
      obtain ⟨bracket, closes, other, stops⟩ := build_of_not_nests items nests
      rw [stops] at refused
      cases refused
      exact ⟨[], token :: rest, _, rfl, rfl, expectedWithin_eq frames, .closer closes other⟩
    | some between =>
      obtain ⟨frames', items', rfl, step⟩ := exists_build_of_nest? items nests
      rw [step] at refused
      obtain ⟨passed, more, stack, rfl, later, expected, why⟩ := ih refused
      refine ⟨token :: passed, more, stack, rfl, ?_, expected, why⟩
      rw [List.map_cons, List.foldlM_cons, nests]
      exact later

/-! ## 4. Texts that are refused -/

/-- A lexeme stands at the front of a text. -/
def StartsLexeme (text : Text) : Prop :=
  ∃ (lexeme : Lexeme) (rest : Text),
    lexeme.isValid ∧ lexeme.endsBefore rest ∧ text = lexeme.text ++ rest

theorem not_startsLexeme {text : Text} (unread : Lexeme.read? text = none) :
    ¬ StartsLexeme text := by
  rintro ⟨lexeme, rest, valid, ends, rfl⟩
  rw [Lexeme.read?_append valid ends] at unread
  cases unread

/-- **What cannot stand where these brackets are open**: a character that is no blank and starts no
lexeme, the end of the text unless nothing is open, and a closer other than the innermost one. -/
inductive Offends (stack : List Bracket) : Text → Prop
  | stray {c : CodePoint} {rest : Text} (solid : Text.isBlank c = false)
    (strange : ¬ StartsLexeme (c :: rest)) : Offends stack (c :: rest)
  | unclosed (unfinished : stack ≠ []) : Offends stack []
  | closer {bracket : Bracket} {rest : Text} (other : stack.head? ≠ some bracket) :
    Offends stack (bracket.closer ++ rest)

/-- **A text that is refused splits up to the place of the refusal**, into lexemes that nest, and
what stands there offends. -/
theorem exists_refusal {text : Text} {failure : ParseFailure}
    (refused : parse text = .error failure) :
    ∃ before rest lexemes stack, text = before ++ rest ∧ Splits before lexemes ∧
      leftOpen? lexemes = some stack ∧ Offends stack rest ∧
      failure.expected = wayOut stack :: itemDescriptions ∧
      failure.position = Position.first.afterAll before := by
  rcases scanning : scan text with ⟨tokens, ending⟩
  rw [parse, scanning] at refused
  have scanned := scanned_scanFrom scanning
  obtain ⟨passed, more, stack, rfl, nests, expected, why⟩ := exists_of_build_error refused
  generalize failure.position = place at why
  cases why with
  | ended unfinished =>
    rw [List.append_nil] at scanned
    obtain ⟨before, rest, rfl, splits, last⟩ := scanned.exists_ending
    rcases last with ⟨rfl, rfl⟩ | ⟨c, others, rfl, solid, unread, rfl⟩
    · rcases unfinished with isOpen | ⟨_, stray⟩
      · exact ⟨before, [], _, stack, rfl, splits, nests, .unclosed isOpen, expected, rfl⟩
      · cases stray
    · exact ⟨before, c :: others, _, stack, rfl, splits, nests,
        .stray solid (not_startsLexeme unread), expected, rfl⟩
  | @closer token rest bracket closes other =>
    obtain ⟨before, after, rfl, splits, start⟩ := scanned.exists_token
    rw [closes]
    exact ⟨before, _, _, stack, rfl, splits, nests, .closer other, expected, start⟩

/-- The inputs on offer are in the order of the alphabet. -/
theorem pairwise_expected (stack : List Bracket) :
    (wayOut stack :: itemDescriptions).Pairwise (· < ·) := by
  cases stack with
  | nil => decide
  | cons bracket outer =>
    cases bracket
    · show (Bracket.push.closerDescription :: itemDescriptions).Pairwise (· < ·)
      decide
    · show (Bracket.evaluation.closerDescription :: itemDescriptions).Pairwise (· < ·)
      decide

/-- **A parse failure points at the first lexeme that cannot stand where it does, and offers what
can.**  The text before its place splits into lexemes that nest, leaving a stack of brackets open,
and what stands at the place offends.  The inputs on offer are the four kinds of items and the way
out of the innermost open bracket, in the order of the alphabet.  Nothing before the place is at
fault: followed by the closers of the open brackets, the innermost first, it parses. -/
theorem parse_failure_at_first_offence (text : Text) (failure : ParseFailure)
    (refused : Toolchain.standard.parse text = .ok (.error failure)) :
    ∃ before rest lexemes stack, text = before ++ rest ∧
      Text.offset? text failure.position = some before.length ∧
      Splits before lexemes ∧ leftOpen? lexemes = some stack ∧ Offends stack rest ∧
      failure.expected.Perm (itemDescriptions ++ [wayOut stack]) ∧
      failure.expected.Pairwise (· < ·) ∧
      ∃ tree, Toolchain.standard.parse (before ++ stack.flatMap Bracket.closer) =
        .ok (.ok tree) := by
  obtain ⟨before, rest, lexemes, stack, rfl, splits, nests, offends, expected, place⟩ :=
    exists_refusal (Except.ok.inj refused)
  obtain ⟨tree, parsed⟩ := exists_parse_closed splits nests
  refine ⟨before, rest, lexemes, stack, rfl, ?_, splits, nests, offends, ?_, ?_, tree,
    congrArg Except.ok parsed⟩
  · rw [place]
    exact Text.offset?_afterAll before rest
  · rw [expected]
    exact (List.perm_append_singleton _ _).symm
  · rw [expected]
    exact pairwise_expected stack

/-- On the second line the closer of a push stands inside an evaluation, which is inside a push. -/
theorem parse_failure_at_first_offence_nested :
    Toolchain.standard.parse "<0xab\n$( x >>" = .ok (.error
      ⟨["\")\"", "a hex literal", "a push", "an evaluation", "an identifier"], ⟨2, 6⟩⟩) ∧
    ∃ before rest lexemes stack, ("<0xab\n$( x >>" : Text) = before ++ rest ∧
      before.length = 11 ∧ Splits before lexemes ∧ leftOpen? lexemes = some stack ∧
      Offends stack rest ∧
      ∃ tree, Toolchain.standard.parse (before ++ stack.flatMap Bracket.closer) =
        .ok (.ok tree) := by
  have refused : Toolchain.standard.parse "<0xab\n$( x >>" = .ok (.error
      ⟨["\")\"", "a hex literal", "a push", "an evaluation", "an identifier"], ⟨2, 6⟩⟩) := by cbv
  have offset : Text.offset? "<0xab\n$( x >>" ⟨2, 6⟩ = some 11 := by cbv
  obtain ⟨before, rest, lexemes, stack, whole, place, splits, nests, offends, -, -, tree, parsed⟩ :=
    parse_failure_at_first_offence _ _ refused
  have length : before.length = 11 := Option.some.inj (place.symm.trans offset)
  exact ⟨refused, before, rest, lexemes, stack, whole, length, splits, nests, offends, tree, parsed⟩

end ScriptTemplate.Script
