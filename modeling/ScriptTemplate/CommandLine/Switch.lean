/-
# Switches and the pieces of a command line

Before anything is done, every argument is recognised for what it is: a switch, a value, the
separator, or something that looks like a switch and is none.  A long switch may be shortened as
long as one switch alone starts that way.  After the separator everything is a value.
-/
import ScriptTemplate.Text.Digit
import ScriptTemplate.Text.Quoted

namespace ScriptTemplate.CommandLine

/-- What can be asked for on the command line besides the script. -/
inductive Switch
  | help
  | environment
  | toolchain
  | data
  | raw
  | json
  | verbose
  | stats
  | version
deriving DecidableEq, Repr, Inhabited

namespace Switch

/-- All switches, in the order in which they are offered. -/
def all : List Switch :=
  [help, environment, toolchain, data, raw, json, verbose, stats, version]

/-- The letter of a switch that has a short form. -/
def letter? : Switch → Option CodePoint
  | help => some (.char 'h')
  | environment => some (.char 'e')
  | toolchain => some (.char 't')
  | data => some (.char 'd')
  | verbose => some (.char 'v')
  | _ => none

/-- The long form of a switch. -/
def long : Switch → Text
  | help => "--help"
  | environment => "--environment"
  | toolchain => "--toolchain"
  | data => "--data"
  | raw => "--raw"
  | json => "--json"
  | verbose => "--verbose"
  | stats => "--stats"
  | version => "--version"

/-- Whether a switch wants a value. -/
def takesValue : Switch → Bool
  | environment => true
  | toolchain => true
  | data => true
  | _ => false

/-- Both forms of a switch, as messages name it. -/
def title (switch : Switch) : Text :=
  match switch.letter? with
  | some letter => "-" ++ [letter] ++ "/" ++ switch.long
  | none => switch.long

/-- The switch with a letter. -/
def ofLetter? (letter : CodePoint) : Option Switch :=
  all.find? fun switch => switch.letter? == some letter

/-- The switch with a long form. -/
def ofLong? (text : Text) : Option Switch := all.find? fun switch => switch.long == text

/-- The switches whose long form starts with a text. -/
def startingWith (text : Text) : List Switch :=
  all.filter fun switch => text.isPrefixOf switch.long

end Switch

/-- An argument, recognised. -/
inductive Piece
  | separator
  | value (text : Text)
  /-- The short form of a switch, with what is attached to it. -/
  | short (switch : Switch) (attached : Option Text)
  /-- The long form of a switch, with what follows an equals sign. -/
  | long (switch : Switch) (attached : Option Text)
  /-- Something like a switch that is none. -/
  | stranger (text : Text)
deriving DecidableEq, Repr, Inhabited

/-- The mark of the separator. -/
def separatorMark : Text := "--"

/-- An argument that several switches start with. -/
structure Ambiguity where
  argument : Text
  candidates : List Switch
deriving DecidableEq, Repr, Inhabited

/-- At least one digit, up to the end of the line. -/
def isDigitRun (text : Text) : Bool :=
  match text.reverse with
  | .char '\n' :: reversed => !reversed.isEmpty && reversed.all fun c => (Text.digitValue? c).isSome
  | reversed => !reversed.isEmpty && reversed.all fun c => (Text.digitValue? c).isSome

/-- A number without its sign: digits, or a point with digits behind it and maybe before it. -/
def isUnsignedNumber (text : Text) : Bool :=
  isDigitRun text ||
    match text.dropWhile fun c => (Text.digitValue? c).isSome with
    | .char '.' :: fraction => isDigitRun fraction
    | _ => false

/-- An argument that starts with a dash and names no switch: negative numbers and texts with a
blank in them are values. -/
def otherPiece (argument : Text) : Piece :=
  if isUnsignedNumber (argument.drop 1) || argument.contains (.char ' ') then .value argument
  else .stranger argument

/-- The text behind the first equals sign, if there is one. -/
def afterEquals? (text : Text) : Option Text := (text.dropWhile (· != .char '=')).tail?

/-- What is attached to the letter of a switch: the rest of the argument, without an equals sign
at its front. -/
def attachedTo : Text → Option Text
  | [] => none
  | .char '=' :: value => some value
  | rest => some rest

/-- Recognises an argument before the separator. -/
def recognize (argument : Text) : Except Ambiguity Piece :=
  match argument with
  | .char '-' :: .char '-' :: _ =>
    let name := argument.takeWhile (· != .char '=')
    let attached := afterEquals? argument
    match Switch.ofLong? name with
    | some switch => .ok (.long switch attached)
    | none =>
      match Switch.startingWith name with
      | [] => .ok (otherPiece argument)
      | [switch] => .ok (.long switch attached)
      | candidates => .error ⟨argument, candidates⟩
  | .char '-' :: letter :: rest =>
    match Switch.ofLetter? letter with
    | some switch => .ok (.short switch (attachedTo rest))
    | none => .ok (otherPiece argument)
  | _ => .ok (.value argument)

/-- Recognises all arguments. -/
def recognizeAll : List Text → Except Ambiguity (List Piece)
  | [] => .ok []
  | argument :: rest =>
    if argument == separatorMark then .ok (.separator :: rest.map .value)
    else do
      let piece ← recognize argument
      return piece :: (← recognizeAll rest)

end ScriptTemplate.CommandLine
