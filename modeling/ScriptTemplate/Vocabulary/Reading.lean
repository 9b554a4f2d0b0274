/-
# Words in JSON

A classification that arrives in JSON is a text, and the text is a word.  Everything else is
refused, with the value shown as it is.
-/
import ScriptTemplate.Json.Printer
import ScriptTemplate.Vocabulary

namespace ScriptTemplate.Vocabulary

/-- The member that a JSON value names: texts only. -/
def ofJson? (α : Type) [Vocabulary α] : Json → Option α
  | .str text => ofWord? α text
  | _ => none

/-- The text of the refusal of a value that is no word of the vocabulary with the given title. -/
def refusal (title : Text) (value : Json) : Text :=
  value.inspect ++ " is not a valid " ++ title

/-- **A written word is read as its own member.** -/
@[simp] theorem ofJson?_word {α : Type} [Vocabulary α] (a : α) :
    ofJson? α (.str (word a)) = some a := ofWord?_word a

end ScriptTemplate.Vocabulary
