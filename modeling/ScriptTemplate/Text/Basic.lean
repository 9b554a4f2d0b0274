/-
# Texts

A text is a row of code points.  Nearly all of them are characters.  JSON can also name one half
of a UTF-16 pair that stands alone, which is a code point and no character; such a text can be an
id, a script or a value like any other.  So a text is not a `String`.  Every string is a text, and
stands for it wherever a text is wanted.
-/

namespace ScriptTemplate

/-- A code point: a character, or the surrogate U+D800 + `offset` that stands alone. -/
inductive CodePoint
  | char (c : Char)
  | surrogate (offset : Fin 2048)
deriving DecidableEq, Repr, Inhabited

namespace CodePoint

instance : Coe Char CodePoint := ⟨char⟩

/-- The number of a code point. -/
def toNat : CodePoint → Nat
  | char c => c.toNat
  | surrogate offset => 0xd800 + offset

/-- The code point of a number; the numbers behind the last code point have none, and give the
first. -/
def ofNat (n : Nat) : CodePoint :=
  if h : 0xd800 ≤ n ∧ n < 0xe000 then surrogate ⟨n - 0xd800, by omega⟩ else char (Char.ofNat n)

/-- The number of code points. -/
def limit : Nat := 0x110000

/-- Whether a code point is a surrogate. -/
def isSurrogate : CodePoint → Bool
  | char _ => false
  | surrogate _ => true

/-- Whether a code point lies between two characters, or is one of them. -/
def isWithin (low high : Char) (c : CodePoint) : Bool :=
  low.toNat ≤ c.toNat && c.toNat ≤ high.toNat

instance : LT CodePoint := ⟨fun a b => a.toNat < b.toNat⟩

instance : DecidableLT CodePoint := fun a b => inferInstanceAs (Decidable (a.toNat < b.toNat))

/-- **Code points are told apart by their numbers.** -/
theorem toNat_inj {a b : CodePoint} : a.toNat = b.toNat ↔ a = b := by
  refine ⟨fun h => ?_, fun h => by rw [h]⟩
  have valid (c : Char) : c.toNat < 0xd800 ∨ 0xdfff < c.toNat := by
    rcases c.valid with h | h
    · exact .inl h
    · exact .inr h.1
  cases a with
  | char c =>
    cases b with
    | char d => exact congrArg char (Char.toNat_inj.mp h)
    | surrogate k =>
      have hc : c.toNat = 0xd800 + k.val := h
      have := valid c
      have := k.isLt
      omega
  | surrogate k =>
    cases b with
    | char d =>
      have hd : 0xd800 + k.val = d.toNat := h
      have := valid d
      have := k.isLt
      omega
    | surrogate m =>
      have hk : 0xd800 + k.val = 0xd800 + m.val := h
      exact congrArg surrogate (Fin.ext (by omega))

end CodePoint

/-- A row of code points. -/
abbrev Text := List CodePoint

namespace Text

/-- The text of a row of characters. -/
def ofChars (chars : List Char) : Text := chars.map .char

/-- The text of a string. -/
def ofString (s : String) : Text := ofChars s.toList

instance : Coe String Text := ⟨ofString⟩

/-- The text of a natural number in decimal digits. -/
def ofNat (n : Nat) : Text := ofChars (Nat.toDigits 10 n)

/-- Whether a text consists of characters alone. -/
def isWellFormed (text : Text) : Bool := text.all fun c => !c.isSurrogate

/-- The characters of a text, each surrogate being replaced. -/
def replaced (replacement : List Char) (text : Text) : List Char :=
  text.flatMap fun
    | .char c => [c]
    | .surrogate _ => replacement

/-- The replacement character. -/
def replacementChar : Char := Char.ofNat 0xfffd

/-- A text as a string; surrogates become replacement characters. -/
def toString (text : Text) : String := String.ofList (text.replaced [replacementChar])

/-- Texts with a separator between them. -/
def join (separator : Text) (parts : List Text) : Text := separator.intercalate parts

/-- The parts of a text between the places of a mark; there is always one part. -/
def splitOn (mark : CodePoint) : Text → List Text
  | [] => [[]]
  | c :: rest =>
    if c = mark then [] :: splitOn mark rest
    else
      match splitOn mark rest with
      | [] => [[c]]
      | part :: parts => (c :: part) :: parts

/-- A text widened to a width by copies of a code point on its left. -/
def padLeft (filler : CodePoint) (width : Nat) (text : Text) : Text :=
  List.replicate (width - text.length) filler ++ text

/-- A text widened to a width by copies of a code point on its right. -/
def padRight (filler : CodePoint) (width : Nat) (text : Text) : Text :=
  text ++ List.replicate (width - text.length) filler

/-- **Strings are told apart as texts.** -/
theorem ofString_inj {s t : String} : ofString s = ofString t ↔ s = t := by
  refine ⟨fun h => ?_, fun h => by rw [h]⟩
  have chars : s.toList = t.toList :=
    (List.map_inj_right fun _ _ e => CodePoint.char.inj e).mp h
  exact String.toList_injective chars

end Text

end ScriptTemplate
