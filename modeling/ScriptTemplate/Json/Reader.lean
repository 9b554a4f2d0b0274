/-
# Reading JSON

The reader works on the text that is left.  A fault names what was wanted and carries the
text at the point of the fault; from the length of that rest the line, the column and the offset
are computed once, at the end.

Beside the words of the standard the three words for values that are no numbers are read.  A
numeral longer than the digit limit is a fault of its own kind: it has no place.
-/
import ScriptTemplate.Bytes
import ScriptTemplate.Dictionary
import ScriptTemplate.Json.Basic
import ScriptTemplate.Text.Integer

namespace ScriptTemplate.Json

/-- What the reader wanted where it stopped. -/
inductive Wanted
  | value
  | name
  | colon
  | comma
  | closingQuote
  | printableCharacter
  | escape
  | unicodeEscape
  | nothingMore
  | noByteOrderMark
deriving DecidableEq, Repr, Inhabited

/-- The text of what was wanted. -/
def Wanted.message : Wanted → Text
  | .value => "Expecting value"
  | .name => "Expecting property name enclosed in double quotes"
  | .colon => "Expecting ':' delimiter"
  | .comma => "Expecting ',' delimiter"
  | .closingQuote => "Unterminated string starting at"
  | .printableCharacter => "Invalid control character at"
  | .escape => "Invalid \\escape"
  | .unicodeEscape => "Invalid \\uXXXX escape"
  | .nothingMore => "Extra data"
  | .noByteOrderMark => "Unexpected UTF-8 BOM (decode using utf-8-sig)"

/-- A fault while reading. -/
inductive Fault
  /-- Something else was wanted in front of the text `rest`. -/
  | unexpected (wanted : Wanted) (rest : Text)
  /-- A numeral with too many digits. -/
  | longNumeral (digits : Nat)
deriving DecidableEq, Repr, Inhabited

/-- What a reader returns: a value and the text after it. -/
abbrev Reading (α : Type) := Except Fault (α × Text)

/-- The blanks between JSON tokens. -/
def isGap (c : CodePoint) : Bool := c == ' ' || c == '\t' || c == '\n' || c == '\r'

/-- The text after the blanks at its front. -/
def skipGap (text : Text) : Text := text.dropWhile isGap

/-! ## Numbers -/

/-- The digits at the front of a text, and the rest. -/
def spanDigits (text : Text) : Text × Text := text.span (·.isWithin '0' '9')

/-- The whole part at the front of a text: a lone zero, or digits that start with another. -/
def wholePart? : Text → Option (Text × Text)
  | .char '0' :: rest => some ("0", rest)
  | text =>
    match spanDigits text with
    | ([], _) => none
    | found => some found

/-- The digits of a fraction, if a point and a digit follow. -/
def fractionPart : Text → Text × Text
  | .char '.' :: rest =>
    match spanDigits rest with
    | ([], _) => ([], .char '.' :: rest)
    | found => found
  | text => ([], text)

/-- A signed exponent, if its letter and a digit follow. -/
def exponentPart (text : Text) : Option (Int × Text) :=
  match text with
  | c :: rest =>
    if c = 'e' ∨ c = 'E' then
      let (negative, body) := Text.signed rest
      match spanDigits body with
      | ([], _) => none
      | (digits, rest) =>
        let n := Text.ofDigits (digits.filterMap Text.asciiDigit?)
        some (if negative then -(n : Int) else n, rest)
    else none
  | [] => none

/-- A number at the front of a text; none if no number stands there. -/
def readNumber? (text : Text) : Option (Reading Number) :=
  let (negative, body) := match text with
    | .char '-' :: rest => (true, rest)
    | _ => (false, text)
  match wholePart? body with
  | none => none
  | some (whole, rest) =>
    let (fraction, rest) := fractionPart rest
    let exponent? := exponentPart rest
    let rest := match exponent? with
      | some (_, rest) => rest
      | none => rest
    let digits := Text.ofDigits ((whole ++ fraction).filterMap Text.asciiDigit?)
    if fraction.isEmpty && exponent?.isNone then
      if Text.digitLimit < whole.length then some (.error (.longNumeral whole.length))
      else some (.ok (.int (if negative then -(digits : Int) else digits), rest))
    else
      let exponent := (exponent?.map (·.1)).getD 0 - (fraction.length : Int)
      some (.ok (.float (Number.floatOfDecimal negative digits exponent), rest))

/-! ## Strings -/

/-- The number of four hexadecimal digits at the front of a text that goes on after them. -/
def unit? : Text → Option (Nat × Text)
  | a :: b :: c :: d :: next :: rest =>
    match Hex.value? a, Hex.value? b, Hex.value? c, Hex.value? d with
    | some h, some i, some j, some k =>
      some (((h * 16 + i) * 16 + j) * 16 + k, next :: rest)
    | _, _, _, _ => none
  | _ => none

/-- The character that a two-character escape stands for. -/
def shortEscape? (c : CodePoint) : Option CodePoint :=
  if c = '\x22' ∨ c = '\\' ∨ c = '/' then some c
  else if c = 'b' then some (.char '\x08')
  else if c = 'f' then some (.char '\x0c')
  else if c = 'n' then some (.char '\n')
  else if c = 'r' then some (.char '\r')
  else if c = 't' then some (.char '\t')
  else none

/-- A code point written by its code, the text starting after `\u`; two codes of a pair make one
character.  `fault` is the text that starts at the `u`. -/
def codeEscape (fault text : Text) : Reading CodePoint :=
  match unit? text with
  | none => .error (.unexpected .unicodeEscape fault)
  | some (high, rest) =>
    match rest with
    | .char '\\' :: .char 'u' :: second =>
      -- A pair is looked for only if its second half is complete and text goes on after it.
      if 0xd800 ≤ high ∧ high < 0xdc00 ∧ !(second.drop 4).isEmpty then
        match unit? second with
        | none => .error (.unexpected .unicodeEscape (.char 'u' :: second))
        | some (low, after) =>
          if 0xdc00 ≤ low ∧ low < 0xe000 then
            .ok (.ofNat (0x10000 + (high - 0xd800) * 0x400 + (low - 0xdc00)), after)
          else .ok (.ofNat high, rest)
      else .ok (.ofNat high, rest)
    | _ => .ok (.ofNat high, rest)

/-- What a string holds up to its closing quote.  `start` is the text from the opening
quote on; `done` is what was read, newest first. -/
def readString (start : Text) : Nat → Text → Text → Reading Text
  | 0, _, _ => .error (.unexpected .closingQuote start)
  | fuel + 1, done, text =>
    match text with
    | [] => .error (.unexpected .closingQuote start)
    | .char '\x22' :: rest => .ok (done.reverse, rest)
    | .char '\\' :: rest =>
      match rest with
      | [] => .error (.unexpected .closingQuote start)
      | .char 'u' :: digits =>
        match codeEscape rest digits with
        | .error fault => .error fault
        | .ok (c, rest) => readString start fuel (c :: done) rest
      | c :: rest =>
        match shortEscape? c with
        | some c => readString start fuel (c :: done) rest
        | none => .error (.unexpected .escape text)
    | c :: rest =>
      if c.toNat < 0x20 then .error (.unexpected .printableCharacter text)
      else readString start fuel (c :: done) rest

/-- A string, the text starting at its opening quote. -/
def string (text : Text) : Reading Text := readString text text.length [] text.tail

/-! ## Values -/

/-- The words that stand for a value. -/
def constants : List (Text × Json) := [
  ("null", .null), ("true", .bool true), ("false", .bool false),
  ("NaN", .float (0 / 0)), ("Infinity", .float (1 / 0)), ("-Infinity", .float (-1 / 0))]

/-- The word at the front of a text. -/
def constant? (text : Text) : Option (Json × Text) :=
  constants.findSome? fun (word, value) =>
    if word.isPrefixOf text then some (value, text.drop word.length) else none

mutual

/-- A value at the front of a text that starts with no blank.  Each level of nesting and each
entry takes one unit of fuel; the length of the text is enough. -/
def value : Nat → Text → Reading Json
  | 0, text => .error (.unexpected .value text)
  | fuel + 1, text =>
    match text with
    | .char '\x22' :: _ => (string text).map fun (s, rest) => (.str s, rest)
    | .char '[' :: rest =>
      match skipGap rest with
      | .char ']' :: rest => .ok (.arr [], rest)
      | rest => items fuel [] rest
    | .char '\x7b' :: rest =>
      match skipGap rest with
      | .char '\x7d' :: rest => .ok (.obj [], rest)
      | rest => fields fuel [] rest
    | _ =>
      match constant? text with
      | some found => .ok found
      | none =>
        match readNumber? text with
        | some (.ok (n, rest)) => .ok (.number n, rest)
        | some (.error fault) => .error fault
        | none => .error (.unexpected .value text)

/-- The items of an array from the next one on, those read being newest first. -/
def items : Nat → List Json → Text → Reading Json
  | 0, _, text => .error (.unexpected .value text)
  | fuel + 1, done, text =>
    match value fuel text with
    | .error fault => .error fault
    | .ok (item, rest) =>
      match skipGap rest with
      | .char ']' :: rest => .ok (.arr (item :: done).reverse, rest)
      | .char ',' :: rest => items fuel (item :: done) (skipGap rest)
      | rest => .error (.unexpected .comma rest)

/-- The fields of an object from the next one on, those read being newest first. -/
def fields : Nat → List (Text × Json) → Text → Reading Json
  | 0, _, text => .error (.unexpected .value text)
  | fuel + 1, done, text =>
    match text with
    | .char '\x22' :: _ =>
      match string text with
      | .error fault => .error fault
      | .ok (name, rest) =>
        match skipGap rest with
        | .char ':' :: rest =>
          match value fuel (skipGap rest) with
          | .error fault => .error fault
          | .ok (item, rest) =>
            match skipGap rest with
            | .char '\x7d' :: rest =>
              .ok (.obj (Dictionary.ofList ((name, item) :: done).reverse), rest)
            | .char ',' :: rest => fields fuel ((name, item) :: done) (skipGap rest)
            | rest => .error (.unexpected .comma rest)
        | rest => .error (.unexpected .colon rest)
    | _ => .error (.unexpected .name text)

end

/-- Reads one value that fills the whole text, blanks aside. -/
def parse (text : Text) : Except Fault Json :=
  match text with
  | .char '\ufeff' :: _ => .error (.unexpected .noByteOrderMark text)
  | _ =>
    match value (2 * text.length + 2) (skipGap text) with
    | .error fault => .error fault
    | .ok (result, rest) =>
      match skipGap rest with
      | [] => .ok result
      | rest => .error (.unexpected .nothingMore rest)

/-- The text of a fault in a given text: what was wanted, and the line, column and offset of the
place, the offset counted from zero. -/
def Fault.message (text : Text) : Fault → Text
  | .unexpected wanted rest =>
    let offset := text.length - rest.length
    let before := text.take offset
    let line := before.count (.char '\n') + 1
    let column := (before.reverse.takeWhile (· != .char '\n')).length + 1
    wanted.message ++ ": line " ++ toString line ++ " column " ++ toString column
      ++ " (char " ++ toString offset ++ ")"
  | .longNumeral digits =>
    "Exceeds the limit (" ++ toString Text.digitLimit
      ++ " digits) for integer string conversion: value has " ++ toString digits ++ " digits"

end ScriptTemplate.Json
