/-
# Upper and lower case

Both maps are the full ones of Unicode: a character may become several.  The capital sigma is the
only one whose small form depends on its surroundings: at the end of a word it is written `ς`.
-/
import ScriptTemplate.Text.Blank
import ScriptTemplate.Text.CaseTable

namespace ScriptTemplate.Text

/-- The image of a code point under a table of offsets. -/
def shifted? (table : List Shift) (n : Nat) : Option Nat :=
  (table.find? fun s => s.first ≤ n && n ≤ s.last && (n - s.first) % s.stride == 0).map
    fun s => ((n : Int) + s.offset).toNat

/-- The image of a character under a case map. -/
def mapped (expansions : List (Nat × List Nat)) (shifts : List Shift) (c : CodePoint) : Text :=
  match expansions.lookup c.toNat with
  | some codes => codes.map .ofNat
  | none =>
    match shifted? shifts c.toNat with
    | some n => [.ofNat n]
    | none => [c]

/-- A text in upper case. -/
def upper (text : Text) : Text := text.flatMap (mapped upperExpansions upperShifts)

/-- The capital sigma. -/
def capitalSigma : CodePoint := .ofNat 0x03a3

/-- The small sigma inside and at the end of a word. -/
def smallSigma (final : Bool) : CodePoint := .ofNat (if final then 0x03c2 else 0x03c3)

/-- Whether the first character that is not passed over has a case. -/
def startsCased (text : Text) : Bool :=
  match text.dropWhile fun c => inRanges ignorableRanges c.toNat with
  | [] => false
  | c :: _ => inRanges casedRanges c.toNat

/-- Lower case from left to right; `before` is the text already passed, nearest character first. -/
def lowerFrom (before : Text) : Text → Text
  | [] => []
  | c :: rest =>
    let image :=
      if c = capitalSigma then [smallSigma (startsCased before && !startsCased rest)]
      else mapped lowerExpansions lowerShifts c
    image ++ lowerFrom (c :: before) rest

/-- A text in lower case. -/
def lower (text : Text) : Text := lowerFrom [] text

end ScriptTemplate.Text
