/-
# Gaps in messages

A message is a row of code points and gaps.  A gap starts with a percent sign and says, in this
order: the name of the value that it takes, in parentheses; flags; the least width; after a point,
the precision; a size letter, which means nothing; and the letter of its kind.  All but the last
may be left out.  Width and precision may be a star: they are values then, like the gap's own.

A gap that the end of the message cuts off is kept as far as it goes.  What is wrong with a gap is
found when it is filled, since an earlier gap may turn out to be wrong for its value first.
-/
import ScriptTemplate.Text.Integer

namespace ScriptTemplate.Log

/-- The name of the value that a gap takes. -/
inductive GapName
  | complete (name : Text)
  /-- The closing parenthesis is missing. -/
  | incomplete
deriving DecidableEq, Repr, Inhabited

/-- A width or a precision. -/
inductive Amount
  | number (n : Nat)
  /-- The next value. -/
  | star
deriving DecidableEq, Repr, Inhabited

/-- A place of a message that takes a value. -/
structure Gap where
  name : Option GapName := none
  flags : Text := []
  width : Option Amount := none
  precision : Option Amount := none
  /-- The letter of the kind; none if the message ends before it. -/
  letter : Option CodePoint := none
deriving DecidableEq, Repr, Inhabited

/-- A piece of a message. -/
inductive Piece
  | point (c : CodePoint)
  /-- A gap, and the index of its letter in the message. -/
  | gap (gap : Gap) (index : Nat)
deriving DecidableEq, Repr, Inhabited

namespace Gap

/-- The text up to the parenthesis that closes `depth` open ones, and the text after it. -/
def closing? : Nat → Text → Option (Text × Text)
  | _, [] => none
  | depth, c :: rest =>
    if c = ')' then
      match depth with
      | 0 => some ([], rest)
      | depth + 1 => (closing? depth rest).map fun (name, rest) => (c :: name, rest)
    else
      (closing? (if c = '(' then depth + 1 else depth) rest).map fun (name, rest) =>
        (c :: name, rest)

/-- The name at the front of a gap. -/
def readName : Text → Option GapName × Text
  | .char '(' :: rest =>
    match closing? 0 rest with
    | some (name, rest) => (some (.complete name), rest)
    | none => (some .incomplete, [])
  | text => (none, text)

/-- Whether a code point is a flag. -/
def isFlag (c : CodePoint) : Bool := c == '-' || c == '+' || c == ' ' || c == '#' || c == '0'

/-- Whether a code point is a digit of a width or a precision. -/
def isDigit (c : CodePoint) : Bool := c.isWithin '0' '9'

/-- A star or digits at the front of a text. -/
def readAmount : Text → Option Amount × Text
  | .char '*' :: rest => (some .star, rest)
  | text =>
    let digits := text.takeWhile isDigit
    if digits.isEmpty then (none, text)
    else
      (some (.number (Text.ofDigits (digits.filterMap Text.asciiDigit?))), text.dropWhile isDigit)

/-- A precision behind its point; a point alone means zero. -/
def readPrecision : Text → Option Amount × Text
  | .char '.' :: rest =>
    let (amount, rest) := readAmount rest
    (some (amount.getD (.number 0)), rest)
  | text => (none, text)

/-- Passes over a size letter. -/
def skipSize : Text → Text
  | c :: rest => if c = 'h' ∨ c = 'l' ∨ c = 'L' then rest else c :: rest
  | [] => []

/-- The gap that a text starts with, its percent sign being passed. -/
def read (text : Text) : Gap × Text :=
  let (name, text) := readName text
  let flags := text.takeWhile isFlag
  let (width, text) := readAmount (text.dropWhile isFlag)
  let (precision, text) := readPrecision text
  let text := skipSize text
  ({ name, flags, width, precision, letter := text.head? }, text.tail)

/-! ## Reading a gap leaves no more text -/

theorem length_closing?_le {depth : Nat} {text name rest : Text}
    (h : closing? depth text = some (name, rest)) : rest.length ≤ text.length := by
  induction text generalizing depth name with
  | nil => simp [closing?] at h
  | cons c text ih =>
    have step {d : Nat} (h : (closing? d text).map (fun (name, rest) => (c :: name, rest)) =
        some (name, rest)) : rest.length ≤ (c :: text).length := by
      simp only [Option.map_eq_some_iff, Prod.mk.injEq, Prod.exists] at h
      obtain ⟨found, after, hf, -, rfl⟩ := h
      have := ih hf
      simp only [List.length_cons]
      omega
    unfold closing? at h
    split at h
    · split at h
      · simp only [Option.some.injEq, Prod.mk.injEq] at h
        obtain ⟨-, rfl⟩ := h
        simp
      · exact step h
    · exact step h

theorem length_readName_le (text : Text) : (readName text).2.length ≤ text.length := by
  unfold readName
  split
  · split
    · next h =>
      have := length_closing?_le h
      simp only [List.length_cons]
      omega
    · simp
  · exact Nat.le_refl _

theorem length_readAmount_le (text : Text) : (readAmount text).2.length ≤ text.length := by
  unfold readAmount
  split
  · simp
  · dsimp only
    split
    · exact Nat.le_refl _
    · exact (List.dropWhile_sublist _).length_le

theorem length_readPrecision_le (text : Text) : (readPrecision text).2.length ≤ text.length := by
  unfold readPrecision
  split
  · next rest =>
    have := length_readAmount_le rest
    simp only [List.length_cons]
    omega
  · exact Nat.le_refl _

theorem length_skipSize_le (text : Text) : (skipSize text).length ≤ text.length := by
  unfold skipSize
  split
  · split
    · simp
    · exact Nat.le_refl _
  · exact Nat.le_refl _

/-- **Reading a gap leaves no more text than there was.** -/
theorem length_read_le (text : Text) : (read text).2.length ≤ text.length := by
  have h1 := length_readName_le text
  have h2 : ((readName text).2.dropWhile isFlag).length ≤ (readName text).2.length :=
    (List.dropWhile_sublist isFlag).length_le
  have h3 := length_readAmount_le ((readName text).2.dropWhile isFlag)
  have h4 := length_readPrecision_le (readAmount ((readName text).2.dropWhile isFlag)).2
  have h5 := length_skipSize_le
    (readPrecision (readAmount ((readName text).2.dropWhile isFlag)).2).2
  simp only [read, List.length_tail]
  omega

end Gap

/-- The pieces of the end of a message that has `total` code points in all. -/
def piecesFrom (total : Nat) : Text → List Piece
  | [] => []
  | .char '%' :: .char '%' :: rest => .point '%' :: piecesFrom total rest
  | .char '%' :: rest =>
    have := Gap.length_read_le rest
    .gap (Gap.read rest).1 (total - (Gap.read rest).2.length - 1)
      :: piecesFrom total (Gap.read rest).2
  | c :: rest => .point c :: piecesFrom total rest
termination_by text => text.length
decreasing_by all_goals simp only [List.length_cons]; omega

/-- The pieces of a message. -/
def pieces (message : Text) : List Piece := piecesFrom message.length message

end ScriptTemplate.Log
