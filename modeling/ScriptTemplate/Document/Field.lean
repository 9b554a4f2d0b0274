/-
# Checks of values and fields

The values of documents are checked by type: texts, words of a vocabulary, integers, dictionaries.
A text may have surrogates in it, a word and a numeral may not, nor may the name of a field.
A field may be given under its name or under its document name; the document name wins, and then
the other one is an unknown field.
-/
import ScriptTemplate.Dictionary
import ScriptTemplate.Document.Numeral
import ScriptTemplate.Document.Problem
import ScriptTemplate.Json.Basic
import ScriptTemplate.Vocabulary

namespace ScriptTemplate.Document

variable {α : Type}

/-! ## Values -/

/-- A text. -/
def textValue : Json → Except Cause Text
  | .str text => .ok text
  | _ => .error .notText

/-- A word of a vocabulary. -/
def wordValue (α : Type) [Vocabulary α] : Json → Except Cause α
  | .str text =>
    if !text.isWellFormed then .error .illFormedText
    else
      match Vocabulary.ofWord? α text with
      | some member => .ok member
      | none => .error (.notWord (Vocabulary.words α))
  | _ => .error (.notWord (Vocabulary.words α))

/-- The integer of a text. -/
def integerText (text : Text) : Except Cause Int :=
  if !text.isWellFormed then .error .illFormedText
  else
    match numeral text with
    | .ok n => .ok n
    | .error .malformed => .error .notNumeral
    | .error .tooLong => .error .numeralTooLarge

/-- The integer of a double, which has to be whole and to fit sixty-four bits. -/
def integerFloat (x : Float) : Except Cause Int :=
  match Number.Binary.ofFloat x with
  | .nan => .error .notFinite
  | .infinite _ => .error .notFinite
  | .finite negative significand exponent =>
    let whole := Number.wholePart negative significand exponent
    if whole.natAbs * Nat.pow 2 (-exponent).toNat ≠ significand * Nat.pow 2 exponent.toNat then
      .error .fractional
    else if Nat.pow 2 63 ≤ whole.natAbs then .error .numeralTooLarge
    else .ok whole

/-- An integer; truth values count as one and zero. -/
def integerValue : Json → Except Cause Int
  | .number (.int n) => .ok n
  | .number (.float x) => integerFloat x
  | .bool value => .ok (if value then 1 else 0)
  | .str text => integerText text
  | _ => .error .notInteger

/-- An integer within bounds. -/
def boundedValue (least : Int) (greatest : Option Int) (n : Int) : Except Cause Int :=
  if n < least then .error (.tooSmall least)
  else
    match greatest with
    | some greatest => if greatest < n then .error (.tooLarge greatest) else .ok n
    | none => .ok n

/-- A value that may be null. -/
def nullable (check : Json → Except Cause α) : Json → Except Cause (Option α)
  | .null => .ok none
  | value => (check value).map some

/-! ## Dictionaries and fields -/

/-- A check of the value at hand, as a check of a document. -/
def here (checked : Except Cause α) : Checked α := checked.mapError fun cause => [⟨[], cause⟩]

/-- The values of a dictionary, each checked under its key. -/
def entries {β : Type} (check : β → Except Cause α) : Dictionary β → Checked (Dictionary α)
  | [] => .ok []
  | (key, value) :: rest =>
    (((here (check value)).within key).both (entries check rest)).map fun (value, rest) =>
      (key, value) :: rest

/-- A dictionary of checked values. -/
def dictionaryValue (check : Json → Except Cause α) : Json → Checked (Dictionary α)
  | .obj fields => entries check fields
  | _ => .fail .notDictionary

/-- A field, with the name under which documents give it. -/
structure Field where
  name : Text
  documentName : Text
deriving DecidableEq, Repr, Inhabited

/-- A field that has a single name. -/
def Field.plain (name : Text) : Field := ⟨name, name⟩

namespace Field

/-- The key under which a field is given: the document name if it is there, else the name. -/
def key? (field : Field) (fields : Dictionary Json) : Option Text :=
  if (fields.lookup field.documentName).isSome then some field.documentName
  else if (fields.lookup field.name).isSome then some field.name
  else none

/-- Checks a field that may be missing. -/
def optional (field : Field) (fields : Dictionary Json) (otherwise : α)
    (check : Json → Checked α) : Checked α :=
  match field.key? fields with
  | some key => (check ((fields.lookup key).getD .null)).within key
  | none => .ok otherwise

/-- Checks a field that has to be there. -/
def required (field : Field) (fields : Dictionary Json) (check : Json → Checked α) : Checked α :=
  match field.key? fields with
  | some key => (check ((fields.lookup key).getD .null)).within key
  | none => (Checked.fail .missing).within field.documentName

end Field

/-- Checks of a record, which are not made if the name of a field has a surrogate in it. -/
def wellNamed (fields : Dictionary Json) (checked : Checked α) : Checked α :=
  if (Dictionary.names fields).all Text.isWellFormed then checked else .fail .illFormedText

/-- Checks that no field is unknown. -/
def noOthers (known : List Field) (fields : Dictionary Json) : Checked Unit :=
  let used := known.filterMap fun field => field.key? fields
  match (Dictionary.names fields).filter fun name => !used.contains name with
  | [] => .ok ()
  | others => .error (others.map fun name => ⟨[name], .unknownField⟩)

end ScriptTemplate.Document
