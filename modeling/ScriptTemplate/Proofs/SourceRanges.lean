/-
# The text that ranges point at

Every piece of a tree carries a range, two places given by line and column.  Here the ranges are
read back: each has two offsets in the text (`SourceRange.Spans`), and what stands between them is
what the piece was read from (`Node.PointsAt`).

* A name stands there as it is, and a hex literal in some spelling of its bytes.
* A group stands there from its opening to its closing bracket.  Its items come one after the other
  (`InOrder`) between the two brackets, and overlap neither with these nor with one another.

Both are shown of the tokens first, which stand in the text one after the other.  The range of a
group starts at one token and ends at another, possibly lines below, and the items come from the
tokens between.
-/
import Mathlib
import ScriptTemplate.Proofs.AcceptedTexts
import ScriptTemplate.Proofs.TokenPlaces

namespace ScriptTemplate

namespace SourceRange

/-- **A range spans a part of a text**: its two places have these offsets. -/
structure Spans (text : Text) (range : SourceRange) (start stop : Nat) : Prop where
  start : Text.offset? text range.start = some start
  stop : Text.offset? text range.stop = some stop

/-- What a text has at a range: from its start up to, and not including, its end. -/
def slice? (text : Text) (range : SourceRange) : Option Text := do
  let start ← Text.offset? text range.start
  let stop ← Text.offset? text range.stop
  return Text.slice text start stop

variable {text : Text} {range : SourceRange} {start stop : Nat}

theorem Spans.slice?_eq (h : range.Spans text start stop) :
    range.slice? text = some (text.slice start stop) := by
  simp [slice?, h.start, h.stop]

theorem spans_between (first : start ≤ text.length) (last : stop ≤ text.length) :
    (between (text.placeAt start) (text.placeAt stop)).Spans text start stop :=
  ⟨Text.offset?_placeAt first, Text.offset?_placeAt last⟩

end SourceRange

namespace Script

/-! ## 1. Pieces and their ranges -/

/-- The range of a piece. -/
def Node.range : Node → SourceRange
  | .identifier _ range => range
  | .hex _ range => range
  | .group _ _ range => range

mutual

/-- A piece and all pieces in it, however deep. -/
def Node.pieces : Node → List Node
  | .identifier name range => [.identifier name range]
  | .hex value range => [.hex value range]
  | .group bracket items range => .group bracket items range :: piecesAll items

/-- All pieces of a tree. -/
def piecesAll : List Node → List Node
  | [] => []
  | node :: rest => node.pieces ++ piecesAll rest

end

/-- **Pieces come one after the other** between two offsets of a text.  Each spans a part that is
not empty, and the next one starts no earlier than it ends. -/
inductive InOrder (text : Text) : Nat → Nat → List Node → Prop
  | nil {low high : Nat} (le : low ≤ high) : InOrder text low high []
  | cons {low high start stop : Nat} {node : Node} {nodes : List Node} (le : low ≤ start)
    (lt : start < stop) (spans : node.range.Spans text start stop)
    (later : InOrder text stop high nodes) : InOrder text low high (node :: nodes)

/-- **A piece points at the text it was read from.**  The items of a group are in order from the
end of its opening bracket to the start of its closing one. -/
def Node.PointsAt (text : Text) : Node → Prop
  | .identifier name range => range.slice? text = some name
  | .hex value range =>
    ∃ digits, range.slice? text = some (.char '0' :: .char 'x' :: digits) ∧
      (Lexeme.hex digits).Says (.hex value)
  | .group bracket items range =>
    ∃ start stop inner, range.Spans text start (stop + bracket.closer.length) ∧
      range.slice? text = some (bracket.opener ++ (inner ++ bracket.closer)) ∧
      InOrder text (start + bracket.opener.length) stop items

/-! ## 2. Tokens and trees -/

namespace Token.At

variable {text : Text} {offset last : Nat} {token opener closer : Token}

/-- The range from one token to another spans the text from where the first starts to where the
second ends. -/
theorem spans (first : opener.At text offset) (second : closer.At text last) :
    (SourceRange.between opener.start closer.stop).Spans text offset
      (last + closer.lexeme.text.length) := by
  rw [first.start, second.stop]
  exact SourceRange.spans_between (le_of_add_le_left first.inside) second.inside

/-- At the range of a token stands its lexeme. -/
theorem slice?_eq (h : token.At text offset) :
    (SourceRange.between token.start token.stop).slice? text = some token.lexeme.text := by
  rw [(h.spans h).slice?_eq, h.written]

/-- A token and another one behind it have some text between them. -/
theorem slice?_between (first : opener.At text offset) (second : closer.At text last)
    (le : offset + opener.lexeme.text.length ≤ last) :
    (SourceRange.between opener.start closer.stop).slice? text =
      some (opener.lexeme.text ++
        (text.slice (offset + opener.lexeme.text.length) last ++ closer.lexeme.text)) := by
  have behind := Text.slice_append_slice le (Nat.le_add_right last closer.lexeme.text.length) text
  have whole := Text.slice_append_slice (Nat.le_add_right offset opener.lexeme.text.length)
    (le.trans (Nat.le_add_right last closer.lexeme.text.length)) text
  rw [second.written] at behind
  rw [first.written] at whole
  rw [(first.spans second).slice?_eq, ← whole, ← behind]

end Token.At

/-- **A tree points at the text in which its tokens stand.** -/
theorem Forms.pointsAt {text : Text} {tokens : List Token} {row : List Node}
    (h : Forms tokens row) {low high : Nat} (standing : Standing text low high tokens) :
    InOrder text low high row ∧ ∀ node ∈ piecesAll row, node.PointsAt text := by
  induction h generalizing low high with
  | nil => exact ⟨.nil standing.le, by simp [piecesAll]⟩
  | word own _ ih =>
    cases standing with
    | cons le stands later =>
      obtain ⟨inOrder, points⟩ := ih later
      have slice := stands.slice?_eq
      rw [own] at slice
      constructor
      · exact .cons le (Nat.lt_add_of_pos_right stands.length_pos) (stands.spans stands) inOrder
      · exact List.forall_mem_cons.mpr ⟨slice, points⟩
  | hex own decoded _ ih =>
    cases standing with
    | cons le stands later =>
      obtain ⟨inOrder, points⟩ := ih later
      have slice := stands.slice?_eq
      rw [own] at slice
      have spelled := Bytes.halves_of_ofHex? decoded
      constructor
      · exact .cons le (Nat.lt_add_of_pos_right stands.length_pos) (stands.spans stands) inOrder
      · exact List.forall_mem_cons.mpr ⟨⟨_, slice, .hex spelled⟩, points⟩
  | group opens closes _ _ ihInside ihRest =>
    cases standing with
    | cons le stands later =>
      -- The tokens part at the closing bracket: the items are before it, the siblings behind.
      obtain ⟨last, inside, closing, later⟩ := later.exists_of_append
      obtain ⟨itemsInOrder, itemsPoint⟩ := ihInside inside
      obtain ⟨inOrder, points⟩ := ihRest later
      have behind := inside.le
      have spans := stands.spans closing
      have slice := stands.slice?_between closing behind
      constructor
      · have length := closing.length_pos
        exact .cons le (by omega) spans inOrder
      · rw [closes] at spans
        rw [opens, closes] at slice
        rw [opens] at itemsInOrder
        exact List.forall_mem_append.mpr
          ⟨List.forall_mem_cons.mpr ⟨⟨_, last, _, spans, slice, itemsInOrder⟩, itemsPoint⟩, points⟩

/-! ## 3. Texts that parse -/

/-- **Ranges point at the text they name.**  The pieces of a tree come one after the other in its
text, and each piece, however deep, points at what it was read from. -/
theorem ranges_point_at_text (text : Text) (tree : List Node)
    (parsed : Toolchain.standard.parse text = .ok (.ok tree)) :
    InOrder text 0 text.length tree ∧ ∀ node ∈ piecesAll tree, node.PointsAt text := by
  obtain ⟨tokens, stop, scanned, forms⟩ := exists_forms_of_parse (Except.ok.inj parsed)
  exact forms.pointsAt (standing_of_scan scanned)

/-- A push over two lines, with an evaluation on the second. -/
theorem ranges_point_at_text_multiline :
    Toolchain.standard.parse "<0xAB\n $( x.1 )> y" = .ok (.ok
      [.group .push [.hex [0xab] ⟨1, 2, 1, 6⟩,
        .group .evaluation [.identifier "x.1" ⟨2, 5, 2, 8⟩] ⟨2, 2, 2, 10⟩] ⟨1, 1, 2, 11⟩,
      .identifier "y" ⟨2, 12, 2, 13⟩]) ∧
    (Node.group .evaluation [.identifier "x.1" ⟨2, 5, 2, 8⟩] ⟨2, 2, 2, 10⟩).PointsAt
      "<0xAB\n $( x.1 )> y" := by
  have parsed : Toolchain.standard.parse "<0xAB\n $( x.1 )> y" = .ok (.ok
      [.group .push [.hex [0xab] ⟨1, 2, 1, 6⟩,
        .group .evaluation [.identifier "x.1" ⟨2, 5, 2, 8⟩] ⟨2, 2, 2, 10⟩] ⟨1, 1, 2, 11⟩,
      .identifier "y" ⟨2, 12, 2, 13⟩]) := by cbv
  exact ⟨parsed, (ranges_point_at_text _ _ parsed).2 _ (by simp [piecesAll, Node.pieces])⟩

end Script

end ScriptTemplate
