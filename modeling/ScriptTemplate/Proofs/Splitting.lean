/-
# How texts split into lexemes

`Splits` says which lexemes a text consists of, without a scanner: a text is cut into blanks and
lexemes, every lexeme is well written, and it ends where it has to.  Only hex literals and words
have to end somewhere, namely where no character follows that would carry them on.

* Scanning reaches the end of a text exactly if the text splits, and finds the lexemes it splits
  into (`scanFrom_of_splits`, `splits_of_scanFrom`).
* A text may be put after another unless it begins with a word part (`Splits.append`).
* A word that stands between characters that are no word parts is a lexeme of its own, and any
  other text that splits may take its place and that of all that follows (`Splits.split_at_word`).
  The second half does not look at how the new text begins: what stands before the word ends in a
  bracket or a blank, and these run into nothing.
* There are no other words among the lexemes (`Splits.exists_wordAt`).
-/
import ScriptTemplate.Script.Token

namespace ScriptTemplate.Script

/-! ## 1. Characters -/

theorem isWordPart_of_isAlphanumeric {c : CodePoint} (h : isAlphanumeric c) : isWordPart c := by
  simp [isWordPart, h]

theorem isWordPart_of_isWordStart {c : CodePoint} (h : isWordStart c) : isWordPart c :=
  isWordPart_of_isAlphanumeric (by simp [isAlphanumeric, h])

/-- A word part has one of the numbers of `.`, the digits, the letters and `_`. -/
theorem toNat_of_isWordPart {c : CodePoint} (h : isWordPart c) :
    c.toNat = 46 ∨ 48 ≤ c.toNat ∧ c.toNat ≤ 57 ∨ 65 ≤ c.toNat ∧ c.toNat ≤ 90 ∨ c.toNat = 95 ∨
      97 ≤ c.toNat ∧ c.toNat ≤ 122 := by
  simp only [isWordPart, isAlphanumeric, isWordStart, isLetter, CodePoint.isWithin, Bool.or_eq_true,
    Bool.and_eq_true, decide_eq_true_eq, beq_iff_eq] at h
  rcases h with ((((⟨low, high⟩ | ⟨low, high⟩) | rfl) | ⟨low, high⟩) | rfl)
  · exact .inr (.inr (.inr (.inr ⟨low, high⟩)))
  · exact .inr (.inr (.inl ⟨low, high⟩))
  · exact .inr (.inr (.inr (.inl rfl)))
  · exact .inr (.inl ⟨low, high⟩)
  · exact .inl rfl

theorem not_isWordPart_of_isBlank {c : CodePoint} (h : Text.isBlank c) : isWordPart c = false := by
  cases part : isWordPart c with
  | false => rfl
  | true =>
    have number := toNat_of_isWordPart part
    simp [Text.isBlank, Text.isSpace, Text.inRanges, Text.spaceRanges] at h
    omega

theorem not_isBlank_of_isWordPart {c : CodePoint} (h : isWordPart c) : Text.isBlank c = false := by
  cases blank : Text.isBlank c with
  | false => rfl
  | true => rw [not_isWordPart_of_isBlank blank] at h; cases h

/-- A hexadecimal digit may not follow a hex literal. -/
theorem isAlphanumeric_of_isDigit {c : CodePoint} (h : Hex.isDigit c) : isAlphanumeric c := by
  simp only [Hex.isDigit, Hex.value?, CodePoint.isWithin] at h
  simp only [isAlphanumeric, isWordStart, isLetter, CodePoint.isWithin, Bool.or_eq_true,
    Bool.and_eq_true, decide_eq_true_eq]
  have numbers : 'a'.toNat = 97 ∧ 'f'.toNat = 102 ∧ 'z'.toNat = 122 ∧ 'A'.toNat = 65 ∧
      'F'.toNat = 70 ∧ 'Z'.toNat = 90 := by decide
  grind

/-! ## 2. Well-written lexemes -/

/-- Whether a text is a word. -/
def isWord : Text → Bool
  | [] => false
  | c :: rest => isWordStart c && rest.all isWordPart

/-- Whether a text starts with no character of a class. -/
def startsOutside (p : CodePoint → Bool) (text : Text) : Bool := text.head?.all fun c => !p c

/-- Whether a text ends with no character of a class. -/
def endsOutside (p : CodePoint → Bool) (text : Text) : Bool := text.getLast?.all fun c => !p c

theorem endsOutside_append_cons (p : CodePoint → Bool) (text : Text) (c : CodePoint) (rest : Text) :
    endsOutside p (text ++ c :: rest) = endsOutside p (c :: rest) := by
  rw [endsOutside, endsOutside, List.getLast?_append, List.getLast?_cons, Option.some_or]

theorem takeWhile_append_of_startsOutside {p : CodePoint → Bool} {run rest : Text}
    (all : run.all p) (stops : startsOutside p rest) :
    (run ++ rest).takeWhile p = run ∧ (run ++ rest).dropWhile p = rest := by
  rw [List.takeWhile_append_of_pos (by simpa using all),
    List.dropWhile_append_of_pos (by simpa using all)]
  cases rest with
  | nil => simp
  | cons c rest =>
    have outside : p c = false := by simpa [startsOutside] using stops
    simp [outside]

theorem startsOutside_dropWhile (p : CodePoint → Bool) (text : Text) :
    startsOutside p (text.dropWhile p) := by
  unfold startsOutside
  have := List.head?_dropWhile_not p text
  cases h : (text.dropWhile p).head? with
  | none => rfl
  | some c => simpa [h] using this

namespace Lexeme

/-- Whether a lexeme is well written. -/
def isValid : Lexeme → Bool
  | .opening _ => true
  | .closing _ => true
  | .hex digits => isHexBody digits
  | .word name => isWord name

/-- Whether a lexeme ends where the given text follows. -/
def endsBefore : Lexeme → Text → Bool
  | .opening _, _ => true
  | .closing _, _ => true
  | .hex _, rest => startsOutside isAlphanumeric rest
  | .word _, rest => startsOutside isWordPart rest

/-- At a character that words start with, a word is read. -/
theorem read?_of_isWordStart {c : CodePoint} (start : isWordStart c) (rest : Text) :
    read? (c :: rest) =
      some (.word (c :: rest.takeWhile isWordPart), rest.dropWhile isWordPart) := by
  unfold read?
  -- The earlier patterns all begin with a character that no word starts with.
  split
  · next same => cases same; exact absurd start (by decide)
  · next same => cases same; exact absurd start (by decide)
  · next same => cases same; exact absurd start (by decide)
  · next same => cases same; exact absurd start (by decide)
  · next same => cases same; exact absurd start (by decide)
  · next same => cases same; exact if_pos start
  · next same => cases same

/-- **A well-written lexeme that ends where it has to is read.** -/
theorem read?_append {lexeme : Lexeme} {rest : Text} (valid : lexeme.isValid)
    (ends : lexeme.endsBefore rest) : read? (lexeme.text ++ rest) = some (lexeme, rest) := by
  cases lexeme with
  | opening bracket => cases bracket <;> rfl
  | closing bracket => cases bracket <;> rfl
  | hex digits =>
    have digitsOnly : digits.all isAlphanumeric := by
      simp only [isValid, isHexBody, Bool.and_eq_true, List.all_eq_true] at valid ⊢
      exact fun c member => isAlphanumeric_of_isDigit (valid.1 c member)
    obtain ⟨taken, left⟩ := takeWhile_append_of_startsOutside digitsOnly ends
    have body : isHexBody digits := valid
    show read? (.char '0' :: .char 'x' :: (digits ++ rest)) = _
    simp only [read?, taken, left, body, if_true]
  | word name =>
    cases name with
    | nil => cases valid
    | cons c others =>
      simp only [isValid, isWord, Bool.and_eq_true] at valid
      obtain ⟨taken, left⟩ := takeWhile_append_of_startsOutside valid.2 ends
      show read? (c :: (others ++ rest)) = _
      rw [read?_of_isWordStart valid.1, taken, left]

/-- **A lexeme that was read is well written and ends where it has to.** -/
theorem isValid_of_read? {text rest : Text} {lexeme : Lexeme}
    (h : read? text = some (lexeme, rest)) : lexeme.isValid ∧ lexeme.endsBefore rest := by
  unfold read? at h
  split at h
  · cases h; exact ⟨rfl, rfl⟩
  · cases h; exact ⟨rfl, rfl⟩
  · cases h; exact ⟨rfl, rfl⟩
  · cases h; exact ⟨rfl, rfl⟩
  · split at h
    · next body => cases h; exact ⟨body, startsOutside_dropWhile _ _⟩
    · cases h
  · split at h
    · next start =>
      cases h
      refine ⟨?_, startsOutside_dropWhile _ _⟩
      simp only [isValid, isWord, start, Bool.true_and, List.all_takeWhile]
    · cases h
  · cases h

/-- **Hex literals and words consist of word parts; brackets have none**, and end before any
text. -/
theorem text_cases {lexeme : Lexeme} (valid : lexeme.isValid) :
    (∀ c ∈ lexeme.text, isWordPart c) ∨
      (∀ c ∈ lexeme.text, isWordPart c = false) ∧ ∀ rest, lexeme.endsBefore rest := by
  cases lexeme with
  | opening bracket => exact .inr ⟨by cases bracket <;> decide, fun _ => rfl⟩
  | closing bracket => exact .inr ⟨by cases bracket <;> decide, fun _ => rfl⟩
  | hex digits =>
    left
    simp only [isValid, isHexBody, Bool.and_eq_true, List.all_eq_true] at valid
    intro c member
    rcases List.mem_cons.mp member with rfl | member
    · decide
    · rcases List.mem_cons.mp member with rfl | member
      · decide
      · exact isWordPart_of_isAlphanumeric (isAlphanumeric_of_isDigit (valid.1 c member))
  | word name =>
    left
    cases name with
    | nil => cases valid
    | cons c rest =>
      simp only [isValid, isWord, Bool.and_eq_true, List.all_eq_true] at valid
      intro d member
      rcases List.mem_cons.mp member with rfl | member
      · exact isWordPart_of_isWordStart valid.1
      · exact valid.2 d member

/-- A lexeme ends before two texts alike, if they begin alike. -/
theorem endsBefore_append {lexeme : Lexeme} {text rest more : Text}
    (h : lexeme.endsBefore (text ++ rest)) (alone : text = [] → lexeme.endsBefore more) :
    lexeme.endsBefore (text ++ more) := by
  cases text with
  | nil => exact alone rfl
  | cons c others => cases lexeme <;> exact h

theorem endsBefore_of_startsOutside {rest : Text} (h : startsOutside isWordPart rest)
    (lexeme : Lexeme) : lexeme.endsBefore rest := by
  cases lexeme with
  | opening bracket => rfl
  | closing bracket => rfl
  | word name => exact h
  | hex digits =>
    cases rest with
    | nil => rfl
    | cons c others =>
      simp only [endsBefore, startsOutside, List.head?_cons, Option.all_some, Bool.not_eq_true',
        isWordPart, Bool.or_eq_false_iff] at h ⊢
      exact h.1

/-- A lexeme that ends where a word starts is a bracket. -/
theorem endsOutside_of_endsBefore {lexeme : Lexeme} {c : CodePoint} {rest : Text}
    (start : isWordStart c) (ends : lexeme.endsBefore (c :: rest)) :
    endsOutside isWordPart lexeme.text := by
  cases lexeme with
  | opening bracket => cases bracket <;> decide
  | closing bracket => cases bracket <;> decide
  | hex digits => simp [endsBefore, startsOutside, isAlphanumeric, start] at ends
  | word name => simp [endsBefore, startsOutside, isWordPart_of_isWordStart start] at ends

/-- A well-written lexeme begins with a character that is no blank. -/
theorem exists_text_cons {lexeme : Lexeme} (valid : lexeme.isValid) :
    ∃ c rest, lexeme.text = c :: rest ∧ Text.isBlank c = false := by
  cases lexeme with
  | opening bracket => cases bracket <;> exact ⟨_, _, rfl, by decide⟩
  | closing bracket => cases bracket <;> exact ⟨_, _, rfl, by decide⟩
  | hex digits => exact ⟨_, _, rfl, by decide⟩
  | word name =>
    cases name with
    | nil => cases valid
    | cons c rest =>
      simp only [isValid, isWord, Bool.and_eq_true] at valid
      exact ⟨c, rest, rfl, not_isBlank_of_isWordPart (isWordPart_of_isWordStart valid.1)⟩

end Lexeme

/-! ## 3. Splitting -/

/-- **A text splits into lexemes**: it consists of blanks and of well-written lexemes, in this
order, each of which ends where it has to. -/
inductive Splits : Text → List Lexeme → Prop
  | nil : Splits [] []
  | blank {c : CodePoint} {rest : Text} {lexemes : List Lexeme} (blank : Text.isBlank c)
    (others : Splits rest lexemes) : Splits (c :: rest) lexemes
  | lexeme {lexeme : Lexeme} {rest : Text} {lexemes : List Lexeme} (valid : lexeme.isValid)
    (ends : lexeme.endsBefore rest) (others : Splits rest lexemes) :
    Splits (lexeme.text ++ rest) (lexeme :: lexemes)

theorem scanFrom_nil (position : Position) : scanFrom position [] = ([], .endOfText position) := by
  rw [scanFrom]

theorem scanFrom_blank {c : CodePoint} (blank : Text.isBlank c) (position : Position)
    (rest : Text) : scanFrom position (c :: rest) = scanFrom (position.after c) rest := by
  rw [scanFrom, if_pos blank]

/-- At a lexeme the scanner makes a token of it and goes on behind it. -/
theorem scanFrom_lexeme {lexeme : Lexeme} {rest : Text} (valid : lexeme.isValid)
    (ends : lexeme.endsBefore rest) (position : Position) :
    scanFrom position (lexeme.text ++ rest) =
      (⟨lexeme, position, position.afterAll lexeme.text⟩ ::
          (scanFrom (position.afterAll lexeme.text) rest).1,
        (scanFrom (position.afterAll lexeme.text) rest).2) := by
  have read := Lexeme.read?_append valid ends
  obtain ⟨c, others, written, solid⟩ := Lexeme.exists_text_cons valid
  have front : lexeme.text ++ rest = c :: (others ++ rest) := by rw [written, List.cons_append]
  rw [front] at read ⊢
  rw [scanFrom, if_neg (by simp [solid])]
  split
  · next none => rw [read] at none; cases none
  · next found => rw [read] at found; cases found; rfl

/-- **The lexemes of a text that splits are scanned, up to the end.** -/
theorem scanFrom_of_splits {text : Text} {lexemes : List Lexeme} (h : Splits text lexemes)
    (position : Position) :
    ∃ tokens, scanFrom position text = (tokens, .endOfText (position.afterAll text)) ∧
      tokens.map Token.lexeme = lexemes := by
  induction h generalizing position with
  | nil => exact ⟨[], scanFrom_nil position, rfl⟩
  | @blank c rest lexemes blank _ ih =>
    obtain ⟨tokens, scanned, same⟩ := ih (position.after c)
    exact ⟨tokens, (scanFrom_blank blank position rest).trans scanned, same⟩
  | @lexeme lexeme rest lexemes valid ends _ ih =>
    obtain ⟨tokens, scanned, same⟩ := ih (position.afterAll lexeme.text)
    refine ⟨⟨lexeme, position, position.afterAll lexeme.text⟩ :: tokens, ?_, ?_⟩
    · rw [scanFrom_lexeme valid ends, scanned, Position.afterAll_append]
    · rw [List.map_cons, same]

/-- **A text that is scanned up to its end splits into what was found.** -/
theorem splits_of_scanFrom {text : Text} {position stop : Position} {tokens : List Token}
    (h : scanFrom position text = (tokens, .endOfText stop)) :
    Splits text (tokens.map Token.lexeme) := by
  fun_induction scanFrom position text generalizing tokens with
  | case1 => cases h; exact .nil
  | case2 position c rest blank ih => exact .blank blank (ih h)
  | case3 => cases h
  | case4 position c rest solid lexeme remaining read _ stop found ending scanned =>
    rename_i ih
    obtain ⟨valid, ends⟩ := Lexeme.isValid_of_read? read
    cases h
    rw [Lexeme.read?_eq_some read]
    exact .lexeme valid ends (ih scanned)

/-! ## 4. Texts put together -/

/-- **Texts may be put after each other** if the second does not begin with a word part. -/
theorem Splits.append {text more : Text} {lexemes others : List Lexeme} (h : Splits text lexemes)
    (stops : startsOutside isWordPart more) (next : Splits more others) :
    Splits (text ++ more) (lexemes ++ others) := by
  induction h with
  | nil => exact next
  | blank solid _ ih => exact .blank solid ih
  | @lexeme lexeme rest lexemes valid ends _ ih =>
    rw [List.append_assoc]
    have ends : lexeme.endsBefore (rest ++ []) := by rwa [List.append_nil]
    exact .lexeme valid
      (Lexeme.endsBefore_append ends fun _ => Lexeme.endsBefore_of_startsOutside stops lexeme) ih

theorem startsOutside_of_isBlank {c : CodePoint} (blank : Text.isBlank c) (rest : Text) :
    startsOutside isWordPart (c :: rest) := by
  simp [startsOutside, not_isWordPart_of_isBlank blank]

/-- Texts may be put after each other with a blank between them. -/
theorem Splits.append_blank {text more : Text} {lexemes others : List Lexeme} {c : CodePoint}
    (h : Splits text lexemes) (blank : Text.isBlank c) (next : Splits more others) :
    Splits (text ++ c :: more) (lexemes ++ others) :=
  h.append (startsOutside_of_isBlank blank more) (.blank blank next)

/-- Blanks in front of a text add no lexeme. -/
theorem Splits.blanks_append {blanks text : Text} {lexemes : List Lexeme} (h : Splits text lexemes)
    (blank : ∀ c ∈ blanks, Text.isBlank c) : Splits (blanks ++ text) lexemes := by
  induction blanks with
  | nil => exact h
  | cons c rest ih =>
    exact .blank (blank c List.mem_cons_self)
      (ih fun other member => blank other (List.mem_cons_of_mem _ member))

theorem isHexBody_toHex (bytes : Bytes) : isHexBody bytes.toHex := by
  have digit : ∀ n < 16, Hex.isDigit (Hex.digit n) := fun n small => by
    simp [Hex.isDigit, Hex.value?_digit n small]
  simp only [isHexBody, Bool.and_eq_true, beq_iff_eq, List.all_eq_true]
  constructor
  · intro c member
    obtain ⟨byte, -, member⟩ := List.mem_flatMap.mp member
    have := byte.toNat_lt
    simp only [Hex.ofByte, List.mem_cons, List.not_mem_nil, or_false] at member
    rcases member with rfl | rfl
    · exact digit _ (by omega)
    · exact digit _ (by omega)
  · induction bytes with
    | nil => rfl
    | cons byte rest ih =>
      simp only [Bytes.toHex, List.flatMap_cons, List.length_append] at ih ⊢
      simp only [Hex.ofByte, List.length_cons, List.length_nil]
      omega

/-- Bytes written as a hex literal are one lexeme, unless a word part follows. -/
theorem Splits.hex {after : Text} {later : List Lexeme} (h : Splits after later)
    (stops : startsOutside isWordPart after) (bytes : Bytes) :
    Splits ((Lexeme.hex bytes.toHex).text ++ after) (.hex bytes.toHex :: later) :=
  .lexeme (isHexBody_toHex bytes) (Lexeme.endsBefore_of_startsOutside stops _) h

/-- **A name stands as a word in a text**: it is a word, and its neighbours are no word parts. -/
structure WordAt (before name after : Text) : Prop where
  word : isWord name
  left : endsOutside isWordPart before
  right : startsOutside isWordPart after

namespace WordAt

variable {before name after : Text}

/-- The word is read where it stands. -/
theorem read?_word (placed : WordAt before name after) :
    Lexeme.read? (name ++ after) = some (.word name, after) := by
  have valid : (Lexeme.word name).isValid := placed.word
  have ends : (Lexeme.word name).endsBefore after := placed.right
  exact Lexeme.read?_append valid ends

theorem exists_name_cons (placed : WordAt before name after) :
    ∃ c rest, name = c :: rest ∧ isWordStart c := by
  have word := placed.word
  cases name with
  | nil => cases word
  | cons c rest =>
    simp only [isWord, Bool.and_eq_true] at word
    exact ⟨c, rest, rfl, word.1⟩

/-- What stands before a word may be cut anywhere. -/
theorem of_append {earlier : Text} (placed : WordAt (earlier ++ before) name after) :
    WordAt before name after := by
  refine ⟨placed.word, ?_, placed.right⟩
  cases before with
  | nil => rfl
  | cons c rest => exact endsOutside_append_cons _ earlier c rest ▸ placed.left

/-- What stands before a word does not consist of word parts. -/
theorem exists_not_isWordPart (placed : WordAt before name after) (nonempty : before ≠ []) :
    ∃ c ∈ before, isWordPart c = false := by
  rcases List.eq_nil_or_concat before with rfl | ⟨others, c, rfl⟩
  · exact absurd rfl nonempty
  · exact ⟨c, by simp, by simpa [endsOutside] using placed.left⟩

/-- A lexeme that begins with all that stands before a word is a bracket. -/
theorem of_lexeme {lexeme : Lexeme} (valid : lexeme.isValid)
    (placed : WordAt before name after) (nonempty : before ≠ []) (front : before <+: lexeme.text) :
    (∀ c ∈ lexeme.text, isWordPart c = false) ∧ ∀ rest, lexeme.endsBefore rest := by
  rcases Lexeme.text_cases valid with parts | bracket
  · obtain ⟨c, member, outside⟩ := placed.exists_not_isWordPart nonempty
    have part := parts c (front.subset member)
    rw [outside] at part
    cases part
  · exact bracket

/-- A lexeme that begins before a word ends before it. -/
theorem exists_between {lexeme : Lexeme} {rest : Text} (valid : lexeme.isValid)
    (placed : WordAt before name after) (nonempty : before ≠ [])
    (whole : before ++ (name ++ after) = lexeme.text ++ rest) :
    ∃ between, before = lexeme.text ++ between ∧ between ++ (name ++ after) = rest := by
  rcases List.append_eq_append_iff.mp whole with ⟨cut, written, left⟩ | ⟨between, before, left⟩
  · -- A lexeme that reached into the word would have a word part, and no bracket has one.
    obtain ⟨outside, -⟩ := of_lexeme valid placed nonempty ⟨cut, written.symm⟩
    obtain ⟨c, others, spelled, start⟩ := placed.exists_name_cons
    cases cut with
    | nil => exact ⟨[], by simp [written], left⟩
    | cons first cut =>
      rw [spelled] at left
      obtain ⟨rfl, -⟩ := List.cons.inj left
      have part := isWordPart_of_isWordStart start
      rw [outside c (by simp [written])] at part
      cases part
  · exact ⟨between, before, left.symm⟩

end WordAt

/-- **A word is a lexeme of its own, and may be replaced together with all that follows.** -/
theorem Splits.split_at_word {before name after : Text} {lexemes : List Lexeme}
    (h : Splits (before ++ (name ++ after)) lexemes) (placed : WordAt before name after) :
    ∃ earlier later, lexemes = earlier ++ .word name :: later ∧ Splits after later ∧
      ∀ rest others, Splits rest others → Splits (before ++ rest) (earlier ++ others) := by
  generalize whole : before ++ (name ++ after) = text at h
  induction h generalizing before with
  | nil =>
    obtain ⟨c, others, spelled, -⟩ := placed.exists_name_cons
    simp [spelled] at whole
  | @blank c rest lexemes blank _ ih =>
    cases before with
    | nil =>
      obtain ⟨d, others, spelled, start⟩ := placed.exists_name_cons
      rw [spelled] at whole
      obtain ⟨rfl, -⟩ := List.cons.inj whole
      rw [not_isBlank_of_isWordPart (isWordPart_of_isWordStart start)] at blank
      cases blank
    | cons first before =>
      obtain ⟨rfl, left⟩ := List.cons.inj whole
      have placed : WordAt ([first] ++ before) name after := placed
      obtain ⟨earlier, later, same, others, replaced⟩ := ih placed.of_append left
      refine ⟨earlier, later, same, others, fun rest more next => ?_⟩
      exact .blank blank (replaced rest more next)
  | @lexeme lexeme rest lexemes valid ends others ih =>
    by_cases empty : before = []
    · subst empty
      have read := placed.read?_word
      rw [show name ++ after = lexeme.text ++ rest from whole,
        Lexeme.read?_append valid ends] at read
      cases read
      exact ⟨[], lexemes, rfl, others, fun rest more next => next⟩
    · obtain ⟨between, rfl, left⟩ := placed.exists_between valid empty whole
      obtain ⟨earlier, later, same, others, replaced⟩ := ih placed.of_append left
      refine ⟨lexeme :: earlier, later, congrArg (lexeme :: ·) same, others, ?_⟩
      intro rest more next
      rw [List.append_assoc]
      refine .lexeme valid (Lexeme.endsBefore_append (left ▸ ends) fun alone => ?_)
        (replaced rest more next)
      exact (placed.of_lexeme valid empty (by simp [alone])).2 rest

/-- **Every word among the lexemes of a text stands as a word in it.** -/
theorem Splits.exists_wordAt {text name : Text} {earlier later : List Lexeme}
    (h : Splits text (earlier ++ .word name :: later)) :
    ∃ before after, text = before ++ (name ++ after) ∧ WordAt before name after := by
  generalize split : earlier ++ .word name :: later = lexemes at h
  induction h generalizing earlier with
  | nil => simp at split
  | @blank c rest lexemes blank _ ih =>
    obtain ⟨before, after, rfl, placed⟩ := ih split
    refine ⟨[c] ++ before, after, rfl, placed.word, ?_, placed.right⟩
    cases before with
    | nil => simp [endsOutside, not_isWordPart_of_isBlank blank]
    | cons d before => exact (endsOutside_append_cons ..).trans placed.left
  | @lexeme lexeme rest lexemes valid ends _ ih =>
    cases earlier with
    | nil =>
      obtain ⟨rfl, -⟩ := List.cons.inj split
      exact ⟨[], rest, rfl, valid, rfl, ends⟩
    | cons first earlier =>
      obtain ⟨rfl, left⟩ := List.cons.inj split
      obtain ⟨before, after, rfl, placed⟩ := ih left
      refine ⟨first.text ++ before, after, by simp, placed.word, ?_, placed.right⟩
      cases before with
      | nil =>
        obtain ⟨c, others, rfl, start⟩ := placed.exists_name_cons
        rw [List.append_nil]
        exact Lexeme.endsOutside_of_endsBefore start ends
      | cons d before => exact (endsOutside_append_cons ..).trans placed.left

end ScriptTemplate.Script
