/-
# The grammar of script trees

`Reads` says which trees a row of lexemes can be read as, without a stack: words and hex literals
stand for themselves, and a group is what its two brackets enclose.  It leaves the ranges of the
pieces open, so a tree is determined by its lexemes up to these (`Alike`).

The parser accepts exactly the texts that split into lexemes which can be read as a tree:

* `exists_reads_of_parse`: the tree of a text that parses reads its lexemes;
* `exists_parse_of_reads`: a text whose lexemes can be read as a tree parses, to a tree like it.

The parser keeps a stack of open brackets.  The invariant for the first half is `Held`, which says
what the stack holds of the lexemes already passed; for the second half, the tokens of a tree leave
the stack as it is and add the tree to the items (`Forms.build_append`).

With its ranges a tree is determined by its tokens, and `Forms` says how: the tokens of a text that
parses form its tree (`exists_forms_of_parse`).
-/
import ScriptTemplate.Proofs.Splitting
import ScriptTemplate.Script.Node

namespace ScriptTemplate.Script

/-! ## 1. Trees and their lexemes -/

/-- **A row of lexemes reads as a tree.** -/
inductive Reads : List Lexeme → List Node → Prop
  | nil : Reads [] []
  | word {name : Text} {range : SourceRange} {lexemes : List Lexeme} {nodes : List Node}
    (rest : Reads lexemes nodes) :
    Reads (.word name :: lexemes) (.identifier name range :: nodes)
  | hex {digits : Text} {value : Bytes} {range : SourceRange} {lexemes : List Lexeme}
    {nodes : List Node} (decoded : Bytes.ofHex? digits = some value) (rest : Reads lexemes nodes) :
    Reads (.hex digits :: lexemes) (.hex value range :: nodes)
  | group {bracket : Bracket} {range : SourceRange} {inner lexemes : List Lexeme}
    {items nodes : List Node} (inside : Reads inner items) (rest : Reads lexemes nodes) :
    Reads (.opening bracket :: (inner ++ .closing bracket :: lexemes))
      (.group bracket items range :: nodes)

/-- Rows that are read one after the other are read as one row. -/
theorem Reads.append {lexemes more : List Lexeme} {nodes others : List Node}
    (h : Reads lexemes nodes) (next : Reads more others) :
    Reads (lexemes ++ more) (nodes ++ others) := by
  induction h with
  | nil => exact next
  | word _ ih => exact .word ih
  | hex decoded _ ih => exact .hex decoded ih
  | group inside _ _ ih =>
    rw [List.cons_append, List.append_assoc, List.cons_append]
    exact .group inside ih

/-- Two rows of pieces that differ in their ranges only. -/
inductive Alike : List Node → List Node → Prop
  | nil : Alike [] []
  | identifier {name : Text} {range range' : SourceRange} {nodes nodes' : List Node}
    (rest : Alike nodes nodes') :
    Alike (.identifier name range :: nodes) (.identifier name range' :: nodes')
  | hex {value : Bytes} {range range' : SourceRange} {nodes nodes' : List Node}
    (rest : Alike nodes nodes') : Alike (.hex value range :: nodes) (.hex value range' :: nodes')
  | group {bracket : Bracket} {range range' : SourceRange} {items items' nodes nodes' : List Node}
    (inside : Alike items items') (rest : Alike nodes nodes') :
    Alike (.group bracket items range :: nodes) (.group bracket items' range' :: nodes')

/-- The digits of a hex literal are the bytes of some value. -/
theorem exists_ofHex?_of_isHexBody {digits : Text} (h : isHexBody digits) :
    ∃ value, Bytes.ofHex? digits = some value := by
  fun_induction Bytes.ofHex? digits with
  | case1 => exact ⟨[], rfl⟩
  | case2 => simp [isHexBody] at h
  | case3 high low rest byte read ih =>
    have body : isHexBody rest := by
      simp only [isHexBody, Bool.and_eq_true, List.all_cons, List.length_cons, beq_iff_eq] at h ⊢
      exact ⟨h.1.2.2, by omega⟩
    obtain ⟨value, decoded⟩ := ih body
    exact ⟨byte :: value, by rw [decoded]; rfl⟩
  | case4 high low rest unread =>
    simp only [isHexBody, Bool.and_eq_true, List.all_cons, Hex.isDigit,
      Option.isSome_iff_exists] at h
    obtain ⟨⟨⟨a, ha⟩, ⟨b, hb⟩, -⟩, -⟩ := h
    simp [Hex.byte?, ha, hb] at unread

/-! ## 2. The steps of the parser -/

section Steps

variable {frames : List Frame} {items : List Node} {ending : Ending} {token : Token}
  {rest : List Token} {bracket : Bracket}

theorem build_word {name : Text} (h : token.lexeme = .word name) :
    build frames items ending (token :: rest) =
      build frames (.identifier name (.between token.start token.stop) :: items) ending rest := by
  rw [build]
  simp only [h]

theorem build_hex {digits : Text} {value : Bytes} (h : token.lexeme = .hex digits)
    (decoded : Bytes.ofHex? digits = some value) :
    build frames items ending (token :: rest) =
      build frames (.hex value (.between token.start token.stop) :: items) ending rest := by
  rw [build]
  simp only [h, decoded, Option.getD_some]

theorem build_opening (h : token.lexeme = .opening bracket) :
    build frames items ending (token :: rest) =
      build (⟨bracket, token.start, items⟩ :: frames) [] ending rest := by
  rw [build]
  simp only [h]

theorem build_closing {start : Position} {earlier : List Node}
    (h : token.lexeme = .closing bracket) :
    build (⟨bracket, start, earlier⟩ :: frames) items ending (token :: rest) =
      build frames (.group bracket items.reverse (.between start token.stop) :: earlier) ending
        rest := by
  rw [build]
  simp only [h, if_true]

/-- Where the tokens are used up, the text has ended and nothing is open. -/
theorem of_build_nil {tree : List Node} (built : build frames items ending [] = .ok tree) :
    frames = [] ∧ items.reverse = tree ∧ ∃ position, ending = .endOfText position := by
  unfold build at built
  split at built
  · next position => exact ⟨rfl, Except.ok.inj built, position, rfl⟩
  · cases built

/-- A bracket that closes belongs to the innermost open one, if the parser goes on. -/
theorem exists_frame_of_build {tree : List Node} (h : token.lexeme = .closing bracket)
    (built : build frames items ending (token :: rest) = .ok tree) :
    ∃ start earlier outer, frames = ⟨bracket, start, earlier⟩ :: outer := by
  rw [build] at built
  simp only [h] at built
  cases frames with
  | nil => cases built
  | cons frame outer =>
    obtain ⟨opened, start, earlier⟩ := frame
    dsimp only at built
    split at built
    · next same => cases same; exact ⟨start, earlier, outer, rfl⟩
    · cases built

end Steps

/-! ## 3. What the parser accepts -/

/-- **What the parser holds** of the lexemes it has passed: each open bracket, the items before it,
and the items since the innermost one. -/
def Held : List Frame → List Node → List Lexeme → Prop
  | [], items, passed => Reads passed items.reverse
  | frame :: outer, items, passed =>
    ∃ before inner, passed = before ++ .opening frame.bracket :: inner ∧
      Held outer frame.earlier before ∧ Reads inner items.reverse

namespace Held

variable {frames : List Frame} {items : List Node} {passed : List Lexeme}

/-- A piece is added to the items. -/
theorem item (h : Held frames items passed) {lexemes : List Lexeme} {node : Node}
    (read : Reads lexemes [node]) : Held frames (node :: items) (passed ++ lexemes) := by
  cases frames with
  | nil =>
    simp only [Held, List.reverse_cons] at h ⊢
    exact h.append read
  | cons frame outer =>
    obtain ⟨before, inner, rfl, outside, inside⟩ := h
    refine ⟨before, inner ++ lexemes, by simp, outside, ?_⟩
    rw [List.reverse_cons]
    exact inside.append read

/-- An opening bracket makes a frame. -/
theorem opening (h : Held frames items passed) (bracket : Bracket) (start : Position) :
    Held (⟨bracket, start, items⟩ :: frames) [] (passed ++ [.opening bracket]) :=
  ⟨passed, [], rfl, h, .nil⟩

/-- A closing bracket takes its frame away and leaves a group. -/
theorem closing {bracket : Bracket} {start : Position} {earlier : List Node}
    (h : Held (⟨bracket, start, earlier⟩ :: frames) items passed) (range : SourceRange) :
    Held frames (.group bracket items.reverse range :: earlier)
      (passed ++ [.closing bracket]) := by
  obtain ⟨before, inner, rfl, outside, inside⟩ := h
  have group : Reads (.opening bracket :: (inner ++ [.closing bracket]))
      [.group bracket items.reverse range] := .group inside .nil
  rw [List.append_assoc, List.cons_append]
  exact outside.item group

end Held

/-- **A step of the parser** that leads on keeps what it holds true. -/
theorem exists_build_step {frames : List Frame} {items tree : List Node} {ending : Ending}
    {token : Token} {rest : List Token}
    (built : build frames items ending (token :: rest) = .ok tree) :
    ∃ frames' items', build frames' items' ending rest = .ok tree ∧
      ∀ passed, token.lexeme.isValid → Held frames items passed →
        Held frames' items' (passed ++ [token.lexeme]) := by
  cases h : token.lexeme with
  | word name =>
    rw [build_word h] at built
    exact ⟨_, _, built, fun _ _ held => held.item (.word .nil)⟩
  | hex digits =>
    cases decoded : Bytes.ofHex? digits with
    | some value =>
      rw [build_hex h decoded] at built
      exact ⟨_, _, built, fun _ _ held => held.item (.hex decoded .nil)⟩
    | none =>
      -- The step is made all the same, but no well-written literal leads here.
      refine ⟨frames, _, by rw [build] at built; simpa only [h] using built, fun _ valid _ => ?_⟩
      obtain ⟨value, found⟩ := exists_ofHex?_of_isHexBody valid
      rw [decoded] at found
      cases found
  | opening bracket =>
    rw [build_opening h] at built
    exact ⟨_, _, built, fun _ _ held => held.opening bracket token.start⟩
  | closing bracket =>
    obtain ⟨start, earlier, outer, rfl⟩ := exists_frame_of_build h built
    rw [build_closing h] at built
    exact ⟨_, _, built, fun _ _ held => held.closing _⟩

/-- A text that parses is scanned up to its end. -/
theorem endOfText_of_build {frames : List Frame} {items tree : List Node} {ending : Ending}
    {tokens : List Token} (built : build frames items ending tokens = .ok tree) :
    ∃ position, ending = .endOfText position := by
  induction tokens generalizing frames items with
  | nil => exact (of_build_nil built).2.2
  | cons token rest ih =>
    obtain ⟨frames', items', built, -⟩ := exists_build_step built
    exact ih built

/-- **What the parser builds reads all the lexemes**, those already passed and those to come. -/
theorem reads_of_build {frames : List Frame} {items tree : List Node} {passed : List Lexeme}
    {ending : Ending} {tokens : List Token} (held : Held frames items passed)
    (valid : ∀ lexeme ∈ tokens.map Token.lexeme, lexeme.isValid)
    (built : build frames items ending tokens = .ok tree) :
    Reads (passed ++ tokens.map Token.lexeme) tree := by
  induction tokens generalizing frames items passed with
  | nil =>
    obtain ⟨rfl, rfl, -⟩ := of_build_nil built
    simpa [Held] using held
  | cons token rest ih =>
    rw [List.map_cons] at valid ⊢
    obtain ⟨frames', items', built, kept⟩ := exists_build_step built
    rw [List.append_cons]
    exact ih (kept passed (valid _ List.mem_cons_self) held)
      (fun lexeme member => valid lexeme (List.mem_cons_of_mem _ member)) built

/-! ## 4. Trees of tokens -/

/-- **Tokens form a tree**: they read as its pieces, and each piece has the range from the start of
its first token to the end of its last. -/
inductive Forms : List Token → List Node → Prop
  | nil : Forms [] []
  | word {token : Token} {name : Text} {tokens : List Token} {nodes : List Node}
    (own : token.lexeme = .word name) (rest : Forms tokens nodes) :
    Forms (token :: tokens) (.identifier name (.between token.start token.stop) :: nodes)
  | hex {token : Token} {digits : Text} {value : Bytes} {tokens : List Token} {nodes : List Node}
    (own : token.lexeme = .hex digits) (decoded : Bytes.ofHex? digits = some value)
    (rest : Forms tokens nodes) :
    Forms (token :: tokens) (.hex value (.between token.start token.stop) :: nodes)
  | group {opener closer : Token} {bracket : Bracket} {inner tokens : List Token}
    {items nodes : List Node} (opens : opener.lexeme = .opening bracket)
    (closes : closer.lexeme = .closing bracket) (inside : Forms inner items)
    (rest : Forms tokens nodes) :
    Forms (opener :: (inner ++ closer :: tokens))
      (.group bracket items (.between opener.start closer.stop) :: nodes)

/-- Tokens whose lexemes read as a tree form one like it. -/
theorem Reads.exists_forms {lexemes : List Lexeme} {tree : List Node} (h : Reads lexemes tree)
    {tokens : List Token} (same : tokens.map Token.lexeme = lexemes) :
    ∃ row, Forms tokens row ∧ Alike row tree := by
  induction h generalizing tokens with
  | nil =>
    obtain rfl := List.map_eq_nil_iff.mp same
    exact ⟨[], .nil, .nil⟩
  | word _ ih =>
    obtain ⟨token, others, rfl, word, same⟩ := List.map_eq_cons_iff.mp same
    obtain ⟨row, forms, alike⟩ := ih same
    exact ⟨_, .word word forms, .identifier alike⟩
  | hex decoded _ ih =>
    obtain ⟨token, others, rfl, literal, same⟩ := List.map_eq_cons_iff.mp same
    obtain ⟨row, forms, alike⟩ := ih same
    exact ⟨_, .hex literal decoded forms, .hex alike⟩
  | group _ _ ihInside ihRest =>
    obtain ⟨opener, others, rfl, opens, same⟩ := List.map_eq_cons_iff.mp same
    obtain ⟨inner, others, rfl, sameInside, same⟩ := List.map_eq_append_iff.mp same
    obtain ⟨closer, others, rfl, closes, same⟩ := List.map_eq_cons_iff.mp same
    obtain ⟨inside, formsInside, alikeInside⟩ := ihInside sameInside
    obtain ⟨row, forms, alike⟩ := ihRest same
    exact ⟨_, .group opens closes formsInside forms, .group alikeInside alike⟩

/-- The tokens of a tree add the tree to the items, whatever is open and whatever follows. -/
theorem Forms.build_append {tokens : List Token} {row : List Node} (h : Forms tokens row)
    (ending : Ending) (frames : List Frame) (items : List Node) (rest : List Token) :
    build frames items ending (tokens ++ rest) =
      build frames (row.reverse ++ items) ending rest := by
  induction h generalizing frames items rest with
  | nil => rfl
  | word own _ ih =>
    rw [List.cons_append, build_word own, ih]
    simp
  | hex own decoded _ ih =>
    rw [List.cons_append, build_hex own decoded, ih]
    simp
  | group opens closes _ _ ihInside ihRest =>
    -- The items start anew behind the opening bracket, so the inner tree is added to none.
    rw [List.cons_append, List.append_assoc, List.cons_append, build_opening opens, ihInside,
      build_closing closes, ihRest]
    simp

/-- A text whose tokens form a tree parses to this tree. -/
theorem Forms.parse_eq {text : Text} {tokens : List Token} {row : List Node} {stop : Position}
    (h : Forms tokens row) (scanned : scan text = (tokens, .endOfText stop)) :
    parse text = .ok row := by
  have whole := h.build_append (.endOfText stop) [] [] []
  rw [List.append_nil, List.append_nil] at whole
  simp only [parse, scanned, whole, build, List.reverse_reverse]

/-! ## 5. Texts -/

/-- The lexemes that a text splits into are well written. -/
theorem Splits.isValid {text : Text} {lexemes : List Lexeme} (h : Splits text lexemes) :
    ∀ lexeme ∈ lexemes, lexeme.isValid := by
  induction h with
  | nil => simp
  | blank _ _ ih => exact ih
  | lexeme valid _ _ ih =>
    intro lexeme member
    rcases List.mem_cons.mp member with rfl | member
    · exact valid
    · exact ih lexeme member

/-- **The tree of a text that parses reads the lexemes of the text.** -/
theorem exists_reads_of_parse {text : Text} {tree : List Node} (h : parse text = .ok tree) :
    ∃ lexemes, Splits text lexemes ∧ Reads lexemes tree := by
  rcases scanned : scan text with ⟨tokens, ending⟩
  rw [parse, scanned] at h
  obtain ⟨position, rfl⟩ := endOfText_of_build h
  have splits := splits_of_scanFrom scanned
  have held : Held [] [] [] := Reads.nil
  exact ⟨_, splits, reads_of_build held splits.isValid h⟩

/-- **A text whose lexemes read as a tree parses**, to a tree like it. -/
theorem exists_parse_of_reads {text : Text} {lexemes : List Lexeme} {tree : List Node}
    (splits : Splits text lexemes) (reads : Reads lexemes tree) :
    ∃ row, parse text = .ok row ∧ Alike row tree := by
  obtain ⟨tokens, scanned, same⟩ := scanFrom_of_splits splits Position.first
  obtain ⟨row, forms, alike⟩ := reads.exists_forms same
  exact ⟨row, forms.parse_eq scanned, alike⟩

/-- **The tokens of a text that parses form its tree.** -/
theorem exists_forms_of_parse {text : Text} {tree : List Node} (h : parse text = .ok tree) :
    ∃ tokens stop, scan text = (tokens, .endOfText stop) ∧ Forms tokens tree := by
  obtain ⟨lexemes, splits, reads⟩ := exists_reads_of_parse h
  obtain ⟨tokens, scanned, same⟩ := scanFrom_of_splits splits Position.first
  obtain ⟨row, forms, -⟩ := reads.exists_forms same
  obtain rfl : row = tree := Except.ok.inj ((forms.parse_eq scanned).symm.trans h)
  exact ⟨tokens, _, scanned, forms⟩

end ScriptTemplate.Script
