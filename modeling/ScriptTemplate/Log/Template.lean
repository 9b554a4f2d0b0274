/-
# Filling messages

The gaps of a message are filled from left to right, and the first fault ends the work.  Values
come in a row, or as a single value.  Gaps without a name use up the values one by one; a single
value counts as a row of one.  A single dictionary is also what names are looked up in, and the
value of a name takes the place of all values that are left.

Values that no gap has used are a fault, except where names can be looked up.  A message that comes
without values is taken as it stands.
-/
import ScriptTemplate.Log.Conversion
import ScriptTemplate.Log.Gap

namespace ScriptTemplate.Log

/-- The values that a message comes with. -/
inductive Values
  | row (values : List Json)
  | single (value : Json)
deriving Repr, Inhabited

namespace Values

/-- No values. -/
def none : Values := row []

/-- The values of a record: a dictionary that is the only one counts as a single value. -/
def ofList : List Json → Values
  | [.obj (field :: fields)] => single (.obj (field :: fields))
  | values => row values

/-- Whether there is anything to fill gaps with. -/
def areGiven : Values → Bool
  | row values => !values.isEmpty
  | single value => value.isTrue

end Values

/-- What gaps can draw on: values that are not used up, and what names are looked up in. -/
structure Supply where
  values : List Json
  named : Option Json := none
deriving Repr, Inhabited

namespace Supply

/-- All of the values. -/
def ofValues : Values → Supply
  | .row values => { values }
  | .single (.obj fields) => { values := [.obj fields], named := some (.obj fields) }
  | .single (.arr items) => { values := [.arr items], named := some (.arr items) }
  | .single value => { values := [value] }

/-- Uses up a value. -/
def next (supply : Supply) : Except TemplateFault (Json × Supply) :=
  match supply.values with
  | [] => .error .tooFewValues
  | value :: values => .ok (value, { supply with values })

/-- The value of a name, or why there is none. -/
def look (supply : Supply) (name : GapName) : Except TemplateFault Json :=
  match supply.named, name with
  | none, _ => .error .noNames
  | some _, .incomplete => .error .incompleteName
  | some (.obj fields), .complete name =>
    match fields.lookup name with
    | some value => .ok value
    | none => .error (.unknownName name)
  | some _, .complete _ => .error .namedItem

/-- The supply after a gap's name: the value of the name is all that is left. -/
def atName (supply : Supply) : Option GapName → Except TemplateFault Supply
  | none => .ok supply
  | some name => do return { supply with values := [← supply.look name] }

/-- Uses up a value that is an integer. -/
def nextInteger (supply : Supply) : Except TemplateFault (Int × Supply) := do
  let (value, supply) ← supply.next
  match value with
  | .number (.int n) => return (n, supply)
  | .bool value => return (if value then 1 else 0, supply)
  | _ => throw .amountNotInteger

end Supply

namespace Gap

/-- The bound of widths. -/
def widthBound : Int := Nat.pow 2 63

/-- The bound of precisions. -/
def precisionBound : Int := Nat.pow 2 31

/-- The width of a gap; a negative one means that values are aligned to the left. -/
def takeWidth (gap : Gap) (supply : Supply) : Except TemplateFault (Int × Supply) :=
  match gap.width with
  | none => .ok (0, supply)
  | some (.number n) => if widthBound ≤ n then .error .widthTooBig else .ok (n, supply)
  | some .star => do
    let (n, supply) ← supply.nextInteger
    if n < -widthBound ∨ widthBound ≤ n then throw .widthBeyondRange
    return (n, supply)

/-- The precision of a gap; a negative one counts as zero. -/
def takePrecision (gap : Gap) (supply : Supply) : Except TemplateFault (Option Nat × Supply) :=
  match gap.precision with
  | none => .ok (none, supply)
  | some (.number n) =>
    if precisionBound ≤ n then .error .precisionTooBig else .ok (some n, supply)
  | some .star => do
    let (n, supply) ← supply.nextInteger
    if n < -precisionBound ∨ precisionBound ≤ n then throw .precisionBeyondRange
    return (some n.toNat, supply)

/-- How the values of a gap with a width, a precision and a letter are written. -/
def conversion (gap : Gap) (width : Int) (precision : Option Nat) (letter : CodePoint) :
    Conversion where
  alignsLeft := gap.flags.contains (.char '-') || decide (width < 0)
  plusSign := gap.flags.contains (.char '+')
  blankSign := gap.flags.contains (.char ' ')
  alternate := gap.flags.contains (.char '#')
  zeroFilled := gap.flags.contains (.char '0')
  width := width.natAbs
  precision
  letter

/-- Fills a gap. -/
def fill (gap : Gap) (index : Nat) (supply : Supply) : Except TemplateFault (Text × Supply) := do
  let supply ← supply.atName gap.name
  let (width, supply) ← gap.takeWidth supply
  let (precision, supply) ← gap.takePrecision supply
  match gap.letter with
  | none => throw .incomplete
  | some letter =>
    let (value, supply) ← supply.next
    return (← (gap.conversion width precision letter).text index value, supply)

end Gap

/-- Fills a row of pieces. -/
def fillPieces (supply : Supply) : List Piece → Except TemplateFault Text
  | [] => if supply.values.isEmpty || supply.named.isSome then .ok [] else .error .valuesLeft
  | .point c :: rest => (fillPieces supply rest).map (c :: ·)
  | .gap gap index :: rest => do
    let (text, supply) ← gap.fill index supply
    return text ++ (← fillPieces supply rest)

/-- Fills the gaps of a message. -/
def fill (message : Text) (values : Values) : Except TemplateFault Text :=
  if values.areGiven then fillPieces (.ofValues values) (pieces message) else .ok message

end ScriptTemplate.Log
