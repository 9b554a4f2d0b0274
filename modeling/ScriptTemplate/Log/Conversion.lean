/-
# Values in gaps

The letter of a gap says what its value is written as: running text, text as it is inspected, an
integer in one of three bases, a rounded double, or a single code point.  Numbers are laid out in
three parts, a sign, a mark of the base and digits, because filling up with zeros happens behind
the first two.
-/
import ScriptTemplate.Json.Printer
import ScriptTemplate.Number.Rounded
import ScriptTemplate.Text.Case

namespace ScriptTemplate.Log

/-- Why a message cannot be filled. -/
inductive TemplateFault
  | tooFewValues
  | valuesLeft
  /-- The message ends inside a gap. -/
  | incomplete
  /-- The message ends inside the name of a value. -/
  | incompleteName
  /-- A name, where the values have none. -/
  | noNames
  /-- A name, where the values are a list. -/
  | namedItem
  | unknownName (name : Text)
  | unknownLetter (letter : CodePoint) (index : Nat)
  /-- A value of the given kind where a number is needed. -/
  | notReal (letter : CodePoint) (kind : Text)
  /-- A value of the given kind where an integer is needed. -/
  | notInteger (letter : CodePoint) (kind : Text)
  /-- A value of the given kind where a double is needed. -/
  | notFloat (kind : Text)
  | infinityAsInteger
  | nanAsInteger
  /-- An integer beyond the doubles. -/
  | beyondFloats
  | notCodePoint
  | beyondCodePoints
  | amountNotInteger
  | widthTooBig
  | precisionTooBig
  /-- A width, given as a value, that no text can have. -/
  | widthBeyondRange
  /-- A precision, given as a value, that no text can have. -/
  | precisionBeyondRange
  /-- More digits than an integer can be written with. -/
  | tooManyDigits
  /-- A text that would be longer than any that is written. -/
  | textTooLong
deriving DecidableEq, Repr, Inhabited

namespace TemplateFault

/-- A letter as messages show it, which is by a question mark unless it is an ASCII character. -/
def shownLetter (letter : CodePoint) : CodePoint :=
  if 31 ≤ letter.toNat ∧ letter.toNat < 127 then letter else '?'

/-- The text of a fault. -/
def message : TemplateFault → Text
  | tooFewValues => "not enough arguments for format string"
  | valuesLeft => "not all arguments converted during string formatting"
  | incomplete => "incomplete format"
  | incompleteName => "incomplete format key"
  | noNames => "format requires a mapping"
  | namedItem => "list indices must be integers or slices, not str"
  | unknownName name => Text.quoted name
  | unknownLetter letter index =>
    "unsupported format character \x27" ++ [shownLetter letter] ++ "\x27 (0x"
      ++ Text.ofChars (Nat.toDigits 16 letter.toNat) ++ ") at index " ++ toString index
  | notReal letter kind =>
    "%" ++ [letter] ++ " format: a real number is required, not " ++ kind
  | notInteger letter kind =>
    "%" ++ [letter] ++ " format: an integer is required, not " ++ kind
  | notFloat kind => "must be real number, not " ++ kind
  | infinityAsInteger => "cannot convert float infinity to integer"
  | nanAsInteger => "cannot convert float NaN to integer"
  | beyondFloats => "int too large to convert to float"
  | notCodePoint => "%c requires int or char"
  | beyondCodePoints => "%c arg not in range(0x110000)"
  | amountNotInteger => "* wants int"
  | widthTooBig => "width too big"
  | precisionTooBig => "precision too big"
  | widthBeyondRange => "Python int too large to convert to C ssize_t"
  | precisionBeyondRange => "Python int too large to convert to C int"
  | tooManyDigits => "precision too large"
  | textTooLong => ""

end TemplateFault

/-- The word for a kind of value. -/
def valueKind : Json → Text
  | .null => "NoneType"
  | .bool _ => "bool"
  | .number (.int _) => "int"
  | .number (.float _) => "float"
  | .str _ => "str"
  | .arr _ => "list"
  | .obj _ => "dict"

/-- How a value is written. -/
structure Conversion where
  alignsLeft : Bool := false
  /-- Whether a number that is not negative has a plus sign. -/
  plusSign : Bool := false
  /-- Whether a number that is not negative has a blank in the place of its sign. -/
  blankSign : Bool := false
  /-- Whether integers have the mark of their base, and doubles keep their point. -/
  alternate : Bool := false
  /-- Whether numbers are filled up with zeros. -/
  zeroFilled : Bool := false
  width : Nat := 0
  precision : Option Nat := none
  letter : CodePoint
deriving DecidableEq, Repr, Inhabited

namespace Conversion

/-! ## Layout -/

/-- The greatest width and the greatest number of digits that a value is written with. -/
def sizeLimit : Nat := Nat.pow 2 24

/-- A text filled up with blanks. -/
def aligned (conversion : Conversion) (text : Text) : Text :=
  if conversion.alignsLeft then text.padRight ' ' conversion.width
  else text.padLeft ' ' conversion.width

/-- The sign of a number. -/
def sign (conversion : Conversion) (negative : Bool) : Text :=
  if negative then "-"
  else if conversion.plusSign then "+"
  else if conversion.blankSign then " "
  else ""

/-- A number laid out: its sign, the mark of its base, its digits. -/
def number (conversion : Conversion) (negative : Bool) (mark digits : Text) : Text :=
  let front := conversion.sign negative ++ mark
  if conversion.zeroFilled && !conversion.alignsLeft then
    front ++ digits.padLeft '0' (conversion.width - front.length)
  else conversion.aligned (front ++ digits)

/-- A text laid out; the precision says how much of it is shown. -/
def shortened (conversion : Conversion) (text : Text) : Text :=
  conversion.aligned ((conversion.precision.map text.take).getD text)

/-! ## Kinds of values -/

/-- The most digits that can be asked of an integer. -/
def digitsLimit : Nat := Nat.pow 2 31 - 4

/-- An integer in a base. -/
def integer (conversion : Conversion) (base : Nat) (mark : Text) (n : Int) :
    Except TemplateFault Text :=
  let least := conversion.precision.getD 0
  if digitsLimit < least then .error .tooManyDigits
  else if sizeLimit < least then .error .textTooLong
  else
    let digits := (Text.ofChars (Nat.toDigits base n.natAbs)).padLeft '0' least
    .ok (conversion.number (n < 0) (if conversion.alternate then mark else "") digits)

/-- The whole part of a value that is a number. -/
def wholeOf (letter : CodePoint) : Json → Except TemplateFault Int
  | .number (.int n) => .ok n
  | .bool value => .ok (if value then 1 else 0)
  | .number (.float x) =>
    match Number.Binary.ofFloat x with
    | .nan => .error .nanAsInteger
    | .infinite _ => .error .infinityAsInteger
    | .finite negative significand exponent =>
      .ok (Number.wholePart negative significand exponent)
  | value => .error (.notReal letter (valueKind value))

/-- A value that is an integer. -/
def integerOf (letter : CodePoint) : Json → Except TemplateFault Int
  | .number (.int n) => .ok n
  | .bool value => .ok (if value then 1 else 0)
  | value => .error (.notInteger letter (valueKind value))

/-- A value as a double. -/
def floatOf : Json → Except TemplateFault Float
  | .number (.float x) => .ok x
  | .number (.int n) =>
    if Number.exceedsFloat n then .error .beyondFloats else .ok (Number.floatOfInt n)
  | .bool value => .ok (if value then 1.0 else 0.0)
  | value => .error (.notFloat (valueKind value))

/-- A double in a style, with six digits unless the precision says otherwise. -/
def rounded (conversion : Conversion) (style : Number.RoundedStyle) (upperCase : Bool)
    (value : Json) : Except TemplateFault Text := do
  let x ← floatOf value
  let digits := conversion.precision.getD 6
  if sizeLimit < digits then throw .textTooLong
  let format : Number.RoundedFormat :=
    { style, digits, complete := conversion.alternate, upperCase }
  match format.text x with
  | .char '-' :: digits => return conversion.number true "" digits
  | digits => return conversion.number false "" digits

/-- A value as a single code point. -/
def codePointOf : Json → Except TemplateFault CodePoint
  | .str [c] => .ok c
  | .number (.int n) =>
    if 0 ≤ n ∧ n < CodePoint.limit then .ok (.ofNat n.toNat) else .error .beyondCodePoints
  | .bool value => .ok (.ofNat (if value then 1 else 0))
  | _ => .error .notCodePoint

/-- The text of a value, however wide; `index` is where the letter stands in the message. -/
def unboundedText (conversion : Conversion) (index : Nat) (value : Json) :
    Except TemplateFault Text :=
  match conversion.letter with
  | .char 's' => .ok (conversion.shortened value.display)
  | .char 'r' => .ok (conversion.shortened value.inspect)
  | .char 'a' => .ok (conversion.shortened (Text.asciiOnly value.inspect))
  | .char 'd' => do conversion.integer 10 "" (← wholeOf 'd' value)
  | .char 'i' => do conversion.integer 10 "" (← wholeOf 'i' value)
  | .char 'u' => do conversion.integer 10 "" (← wholeOf 'u' value)
  | .char 'o' => do conversion.integer 8 "0o" (← integerOf 'o' value)
  | .char 'x' => do conversion.integer 16 "0x" (← integerOf 'x' value)
  | .char 'X' => do return Text.upper (← conversion.integer 16 "0x" (← integerOf 'X' value))
  | .char 'e' => conversion.rounded .scientific false value
  | .char 'E' => conversion.rounded .scientific true value
  | .char 'f' => conversion.rounded .fixed false value
  | .char 'F' => conversion.rounded .fixed true value
  | .char 'g' => conversion.rounded .general false value
  | .char 'G' => conversion.rounded .general true value
  | .char 'c' => do return conversion.aligned [← codePointOf value]
  | letter => .error (.unknownLetter letter index)

/-- The text of a value, unless it is wider than any that is written; what is wrong with the value
itself is found first. -/
def text (conversion : Conversion) (index : Nat) (value : Json) : Except TemplateFault Text := do
  if conversion.width ≤ sizeLimit then conversion.unboundedText index value
  else
    let _ ← { conversion with width := 0 }.unboundedText index value
    throw .textTooLong

end Conversion

end ScriptTemplate.Log
