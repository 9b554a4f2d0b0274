/-
# The words of classifications and outcomes

Each classification is a closed list of words.  A word is read by exact spelling; what is not in
the list is refused.  `ofWord?_word` holds of every vocabulary, because no two of its words agree.
-/
import ScriptTemplate.Text.Basic

namespace ScriptTemplate

/-- A closed list of named things, in the order in which the words are offered.  No two members
share a word, so the first member with the word of `a` is `a`. -/
class Vocabulary (α : Type) where
  members : List α
  word : α → Text
  find_word : ∀ a, members.find? (fun member => word member == word a) = some a

namespace Vocabulary

/-- The member that a word names. -/
def ofWord? (α : Type) [Vocabulary α] (text : Text) : Option α :=
  (members : List α).find? fun member => word member == text

/-- All words of a vocabulary. -/
def words (α : Type) [Vocabulary α] : List Text := (members : List α).map word

/-- **A word names its own member.** -/
theorem ofWord?_word {α : Type} [Vocabulary α] (a : α) : ofWord? α (word a) = some a :=
  find_word a

end Vocabulary

/-- The stage at which a compilation stopped. -/
inductive Stage
  | parse
  | resolve
  | reduce
deriving DecidableEq, Repr, Inhabited

instance : Vocabulary Stage where
  members := [.parse, .resolve, .reduce]
  word
    | .parse => "parse"
    | .resolve => "resolve"
    | .reduce => "reduce"
  find_word a := by cases a <;> decide

/-- The transform that was applied to a compiled script. -/
inductive Transform
  | p2shLocking
  | p2shUnlocking
deriving DecidableEq, Repr, Inhabited

instance : Vocabulary Transform where
  members := [.p2shLocking, .p2shUnlocking]
  word
    | .p2shLocking => "p2sh-locking"
    | .p2shUnlocking => "p2sh-unlocking"
  find_word a := by cases a <;> decide

/-- How a locking script is placed in an output; `standard` is meant where nothing is said. -/
inductive LockingType
  | standard
  | p2sh
deriving DecidableEq, Repr, Inhabited

instance : Vocabulary LockingType where
  members := [.standard, .p2sh]
  word
    | .standard => "standard"
    | .p2sh => "p2sh"
  find_word a := by cases a <;> decide

/-- The kind of locktime that a script requires; `none` is meant where nothing is said. -/
inductive TimeLock
  | none
  | height
  | timestamp
deriving DecidableEq, Repr, Inhabited

instance : Vocabulary TimeLock where
  members := [.none, .height, .timestamp]
  word
    | .none => "none"
    | .height => "height"
    | .timestamp => "timestamp"
  find_word a := by cases a <;> decide

/-- What a variable of a script stands for. -/
inductive VariableKind
  | addressData
  | walletData
  | currentBlockHeight
  | currentBlockTime
  | key
  | hdKey
deriving DecidableEq, Repr, Inhabited

instance : Vocabulary VariableKind where
  members := [.addressData, .walletData, .currentBlockHeight, .currentBlockTime, .key, .hdKey]
  word
    | .addressData => "AddressData"
    | .walletData => "WalletData"
    | .currentBlockHeight => "CurrentBlockHeight"
    | .currentBlockTime => "CurrentBlockTime"
    | .key => "Key"
    | .hdKey => "HdKey"
  find_word a := by cases a <;> decide

/-- Locktimes from here on are timestamps; below they are block heights. -/
def timestampThreshold : Nat := 500000000

end ScriptTemplate
