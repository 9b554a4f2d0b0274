/-
# Names in the order of their places

The scanner goes through a text from left to right and from line to line, so its tokens come in the
order of their places (`Standing.order`).  A tree keeps the names of its text in the same order,
however deep they are nested: the names that the parser holds, in the open brackets from the
outermost one in and then among the newest items, are those of the tokens it has passed
(`occurrencesAll_of_build`).

Together: the names of a tree stand one after the other in its text (`order_of_parse`).  About
groups nothing is said, whose ranges contain one another.
-/
import Mathlib
import ScriptTemplate.Proofs.Grammar
import ScriptTemplate.Proofs.StandardStages
import ScriptTemplate.Proofs.TokenPlaces

namespace ScriptTemplate

/-! ## 1. Places -/

/-- **A place stands before another**: on an earlier line, or further left on the same one. -/
def Position.Precedes (p q : Position) : Prop :=
  p.line < q.line ∨ p.line = q.line ∧ p.column < q.column

instance (p q : Position) : Decidable (p.Precedes q) :=
  inferInstanceAs (Decidable (_ ∨ _))

namespace Position

theorem Precedes.trans {p q r : Position} (first : p.Precedes q) (second : q.Precedes r) :
    p.Precedes r := by
  unfold Precedes at *
  omega

/-- A place precedes the one after a character. -/
theorem precedes_after (p : Position) (c : CodePoint) : p.Precedes (p.after c) := by
  unfold after
  split
  · left
    dsimp only
    omega
  · right
    exact ⟨rfl, by dsimp only; omega⟩

/-- **A place precedes the one after a text that is not empty.** -/
theorem precedes_afterAll {text : Text} (nonempty : text ≠ []) (p : Position) :
    p.Precedes (p.afterAll text) := by
  induction text generalizing p with
  | nil => exact absurd rfl nonempty
  | cons c rest ih =>
    rw [afterAll_cons]
    by_cases last : rest = []
    · subst last
      exact p.precedes_after c
    · exact (p.precedes_after c).trans (ih last (p.after c))

end Position

/-- **Places of a text come in the order of their offsets.** -/
theorem Text.precedes_placeAt {text : Text} {first second : Nat} (lt : first < second)
    (inside : second ≤ text.length) :
    (Text.placeAt text first).Precedes (Text.placeAt text second) := by
  have nonempty : Text.slice text first second ≠ [] := by
    apply List.ne_nil_of_length_pos
    simp only [Text.slice, List.length_drop, List.length_take]
    omega
  unfold Text.placeAt
  rw [← Text.take_append_slice (Nat.le_of_lt lt), Position.afterAll_append]
  exact Position.precedes_afterAll nonempty _

namespace Script

/-! ## 2. Tokens -/

/-- **Tokens come in the order of their places**, and none of them stands before the first offset. -/
theorem Standing.order {text : Text} {low high : Nat} {tokens : List Token}
    (h : Standing text low high tokens) :
    (∀ token ∈ tokens, ∃ offset, low ≤ offset ∧ token.At text offset) ∧
      tokens.Pairwise fun a b => a.start.Precedes b.start := by
  induction h with
  | nil le => exact ⟨by simp, .nil⟩
  | @cons low high offset token tokens le stands later ih =>
    obtain ⟨after, ordered⟩ := ih
    refine ⟨?_, .cons ?_ ordered⟩
    · intro other member
      rcases List.mem_cons.mp member with rfl | member
      · exact ⟨offset, le, stands⟩
      · obtain ⟨place, further, own⟩ := after other member
        exact ⟨place, by omega, own⟩
    · intro other member
      obtain ⟨place, further, own⟩ := after other member
      have positive := stands.length_pos
      have inside := own.inside
      rw [stands.start, own.start]
      exact Text.precedes_placeAt (by omega) (by omega)

/-! ## 3. Names and where they stand -/

/-- A name at a place of a text. -/
structure Occurrence where
  name : Text
  range : SourceRange
deriving DecidableEq, Repr, Inhabited

mutual

/-- The names in a piece and where they stand, from left to right. -/
def Node.occurrences : Node → List Occurrence
  | .identifier name range => [⟨name, range⟩]
  | .hex .. => []
  | .group _ items _ => occurrencesAll items

/-- The names in a row of pieces and where they stand, from left to right. -/
def occurrencesAll : List Node → List Occurrence
  | [] => []
  | node :: rest => node.occurrences ++ occurrencesAll rest

end

mutual

theorem map_name_occurrences : ∀ node : Node, node.occurrences.map (·.name) = node.names
  | .identifier name range => by simp [Node.occurrences, Node.names]
  | .hex value range => by simp [Node.occurrences, Node.names]
  | .group bracket items range => by
    rw [Node.occurrences, Node.names]
    exact map_name_occurrencesAll items

theorem map_name_occurrencesAll :
    ∀ nodes : List Node, (occurrencesAll nodes).map (·.name) = namesAll nodes
  | [] => by simp [occurrencesAll, namesAll]
  | node :: rest => by
    rw [occurrencesAll, namesAll, List.map_append, map_name_occurrences node,
      map_name_occurrencesAll rest]

end

theorem occurrencesAll_append (nodes others : List Node) :
    occurrencesAll (nodes ++ others) = occurrencesAll nodes ++ occurrencesAll others := by
  induction nodes with
  | nil => simp [occurrencesAll]
  | cons node rest ih => simp [occurrencesAll, ih]

/-! ## 4. Names from tokens -/

/-- The name that a token is, if it is one. -/
def Token.occurrence? (token : Token) : Option Occurrence :=
  match token.lexeme with
  | .word name => some ⟨name, .between token.start token.stop⟩
  | _ => none

/-- The names that the parser holds: those before each open bracket, from the outermost one in, and
those among the items since the innermost one. -/
def heldOccurrences : List Frame → List Node → List Occurrence
  | [], items => occurrencesAll items.reverse
  | frame :: outer, items => heldOccurrences outer frame.earlier ++ occurrencesAll items.reverse

/-- A piece that is added to the items brings its names. -/
theorem heldOccurrences_cons (frames : List Frame) (node : Node) (items : List Node) :
    heldOccurrences frames (node :: items) = heldOccurrences frames items ++ node.occurrences := by
  cases frames <;> simp [heldOccurrences, occurrencesAll_append, occurrencesAll]

/-- **A step of the parser** moves a name from the tokens to what is held, and no other. -/
theorem heldOccurrences_build_step {frames : List Frame} {items tree : List Node} {ending : Ending}
    {token : Token} {rest : List Token}
    (built : build frames items ending (token :: rest) = .ok tree) :
    ∃ frames' items', build frames' items' ending rest = .ok tree ∧
      heldOccurrences frames' items' =
        heldOccurrences frames items ++ token.occurrence?.toList := by
  cases h : token.lexeme with
  | word name =>
    rw [build_word h] at built
    refine ⟨_, _, built, ?_⟩
    simp [heldOccurrences_cons, Node.occurrences, Token.occurrence?, h]
  | hex digits =>
    rw [build] at built
    simp only [h] at built
    refine ⟨_, _, built, ?_⟩
    simp [heldOccurrences_cons, Node.occurrences, Token.occurrence?, h]
  | opening bracket =>
    rw [build_opening h] at built
    refine ⟨_, _, built, ?_⟩
    simp [heldOccurrences, occurrencesAll, Token.occurrence?, h]
  | closing bracket =>
    -- The new group has the names that its frame and the items had.
    obtain ⟨start, earlier, outer, rfl⟩ := exists_frame_of_build h built
    rw [build_closing h] at built
    refine ⟨_, _, built, ?_⟩
    simp [heldOccurrences_cons, heldOccurrences, Node.occurrences, Token.occurrence?, h]

/-- **The names of a tree are those of its tokens**, in this order. -/
theorem occurrencesAll_of_build {frames : List Frame} {items tree : List Node} {ending : Ending}
    {tokens : List Token} (built : build frames items ending tokens = .ok tree) :
    occurrencesAll tree =
      heldOccurrences frames items ++ tokens.filterMap Token.occurrence? := by
  induction tokens generalizing frames items with
  | nil =>
    obtain ⟨rfl, rfl, -⟩ := of_build_nil built
    simp [heldOccurrences]
  | cons token rest ih =>
    obtain ⟨frames', items', built, moved⟩ := heldOccurrences_build_step built
    rw [ih built, moved, List.append_assoc]
    cases own : token.occurrence? with
    | none => rw [List.filterMap_cons_none own, Option.toList_none, List.nil_append]
    | some occurrence =>
      rw [List.filterMap_cons_some own, Option.toList_some, List.singleton_append]

/-- **The names of a tree stand one after the other in its text.** -/
theorem order_of_parse {text : Text} {tree : List Node} (parsed : parse text = .ok tree) :
    (occurrencesAll tree).Pairwise fun a b => a.range.start.Precedes b.range.start := by
  rcases scanned : scan text with ⟨tokens, ending⟩
  rw [parse, scanned] at parsed
  have names : occurrencesAll tree = tokens.filterMap Token.occurrence? := by
    simpa [heldOccurrences, occurrencesAll] using occurrencesAll_of_build parsed
  have starts {token : Token} {occurrence : Occurrence}
      (own : token.occurrence? = some occurrence) : occurrence.range.start = token.start := by
    unfold Token.occurrence? at own
    split at own
    · cases own
      rfl
    · cases own
  rw [names]
  refine (standing_of_scan scanned).order.2.filterMap _ fun a b precedes first hf second hs => ?_
  rw [starts hf, starts hs]
  exact precedes

end Script

end ScriptTemplate
