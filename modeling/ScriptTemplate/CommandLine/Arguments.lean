/-
# The request of a command line (`build_parser`)

The recognised pieces are worked through from left to right.  The first value that belongs to no
switch is the script's id; every further one is left over.  Of a value given twice the last one
counts.  Help and version are answered as soon as they are met; a switch that is given wrongly ends
the work as soon as it is met.  Only at the end it is found what is missing, and then what is left
over.
-/
import ScriptTemplate.CommandLine.Switch

namespace ScriptTemplate.CommandLine

/-- A mistake in the use of the command line. -/
inductive UsageFault
  | ambiguous (which : Ambiguity)
  | wantsValue (switch : Switch)
  | unwantedValue (switch : Switch) (value : Text)
  | missing (names : List Text)
  | leftOver (arguments : List Text)
deriving DecidableEq, Repr, Inhabited

/-- The text of a mistake. -/
def UsageFault.message : UsageFault → Text
  | .ambiguous which =>
    "ambiguous option: " ++ which.argument ++ " could match "
      ++ Text.join ", " (which.candidates.map (·.long))
  | .wantsValue switch => "argument " ++ switch.title ++ ": expected one argument"
  | .unwantedValue switch value =>
    "argument " ++ switch.title ++ ": ignored explicit argument " ++ Text.quoted value
  | .missing names => "the following arguments are required: " ++ Text.join ", " names
  | .leftOver arguments => "unrecognized arguments: " ++ Text.join " " arguments

/-- Why the work on a command line ends early. -/
inductive Interruption
  | help
  | version
  | fault (fault : UsageFault)
deriving DecidableEq, Repr, Inhabited

/-- What a switch that takes a value is given. -/
inductive Given
  | text (value : Text)
  /-- Nothing at all, and not even an empty text. -/
  | nothing
deriving DecidableEq, Repr, Inhabited

/-- What is given by a value that is attached to its switch.  The mark of the separator is taken
for a separator there too, and leaves nothing. -/
def Given.ofAttached (value : Text) : Given :=
  if value = separatorMark then .nothing else .text value

/-- What is known so far. -/
structure Collected where
  script : Option Text := none
  environment : Option Given := none
  toolchain : Option Given := none
  data : Option Given := none
  raw : Bool := false
  json : Bool := false
  verbose : Bool := false
  stats : Bool := false
  leftOver : List Text := []
deriving DecidableEq, Repr, Inhabited

/-- A switch that is acted on; nothing is given to a switch that takes no value. -/
structure Action where
  switch : Switch
  value : Given := .nothing
deriving DecidableEq, Repr, Inhabited

/-- What an argument comes to: actions in order, and whether the value after the argument is used
up. -/
structure Reading where
  actions : List Action
  usesNext : Bool := false
deriving DecidableEq, Repr, Inhabited

/-- A switch to which nothing is attached. -/
def bare (next? : Option Text) (switch : Switch) : Except UsageFault Reading :=
  if switch.takesValue then
    match next? with
    | some value => .ok { actions := [⟨switch, .text value⟩], usesNext := true }
    | none => .error (.wantsValue switch)
  else .ok { actions := [{ switch }] }

/-- A switch to which a text is attached that is its value. -/
def valued (switch : Switch) (value : Text) : Except UsageFault Reading :=
  if switch.takesValue then .ok { actions := [⟨switch, .ofAttached value⟩] }
  else .error (.unwantedValue switch value)

/-- A short switch and the rest of its argument: the value of a switch that takes one, or the
letters of further switches. -/
def readLetters (next? : Option Text) (switch : Switch) : Text → Except UsageFault Reading
  | [] => bare next? switch
  | letter :: rest =>
    match switch.takesValue, Switch.ofLetter? letter with
    | false, some following => do
      let reading ← readLetters next? following rest
      return { reading with actions := { switch } :: reading.actions }
    | _, _ => valued switch (letter :: rest)

/-- A short switch and what is attached to it. -/
def readShort (next? : Option Text) (switch : Switch) : Option Text → Except UsageFault Reading
  | none => bare next? switch
  | some [] => valued switch []
  | some attached => readLetters next? switch attached

/-- A long switch and what is attached to it. -/
def readLong (next? : Option Text) (switch : Switch) : Option Text → Except UsageFault Reading
  | none => bare next? switch
  | some value => valued switch value

namespace Collected

/-- Acts on a switch. -/
def perform (known : Collected) (action : Action) : Except Interruption Collected :=
  match action.switch with
  | .help => .error .help
  | .version => .error .version
  | .environment => .ok { known with environment := some action.value }
  | .toolchain => .ok { known with toolchain := some action.value }
  | .data => .ok { known with data := some action.value }
  | .raw => .ok { known with raw := true }
  | .json => .ok { known with json := true }
  | .verbose => .ok { known with verbose := true }
  | .stats => .ok { known with stats := true }

/-- Notes an argument that means nothing. -/
def leave (known : Collected) (argument : Text) : Collected :=
  { known with leftOver := known.leftOver ++ [argument] }

/-- Takes a reading into account. -/
def apply (known : Collected) (reading : Reading) : Except Interruption Collected :=
  reading.actions.foldlM perform known

end Collected

/-- The value at the front of the pieces. -/
def nextValue? : List Piece → Option Text
  | .value text :: _ => some text
  | _ => none

/-- Works through the pieces.  A separator that stands next to the script's id is not left
over. -/
def collect (known : Collected) : List Piece → Except Interruption Collected
  | [] => .ok known
  | .separator :: .value text :: rest =>
    if known.script.isNone then collect { known with script := some text } rest
    else collect ((known.leave separatorMark).leave text) rest
  | .separator :: rest => collect (known.leave separatorMark) rest
  | .value text :: .separator :: rest =>
    if known.script.isNone then collect { known with script := some text } rest
    else collect (known.leave text) (.separator :: rest)
  | .value text :: rest =>
    if known.script.isNone then collect { known with script := some text } rest
    else collect (known.leave text) rest
  | .stranger text :: rest => collect (known.leave text) rest
  | .short switch attached :: rest => do
    let reading ← (readShort (nextValue? rest) switch attached).mapError .fault
    let known ← known.apply reading
    collect known (rest.drop (if reading.usesNext then 1 else 0))
  | .long switch attached :: rest => do
    let reading ← (readLong (nextValue? rest) switch attached).mapError .fault
    let known ← known.apply reading
    collect known (rest.drop (if reading.usesNext then 1 else 0))
termination_by pieces => pieces.length
decreasing_by all_goals simp only [List.length_cons, List.length_drop]; omega

/-- What a command line asks for. -/
structure Request where
  script : Text
  environment : Given
  toolchain : Given
  data : Option Given
  raw : Bool
  json : Bool
  verbose : Bool
  stats : Bool
deriving DecidableEq, Repr, Inhabited

/-- The name of the script's id in messages. -/
def scriptTitle : Text := "script_id"

/-- What has to be given and was not. -/
def Collected.missing (known : Collected) : List Text :=
  (if known.script.isNone then [scriptTitle] else [])
    ++ (if known.environment.isNone then [Switch.environment.title] else [])
    ++ (if known.toolchain.isNone then [Switch.toolchain.title] else [])

/-- The request, if everything needed is there and nothing is left over. -/
def Collected.request (known : Collected) : Except UsageFault Request :=
  match known.script, known.environment, known.toolchain with
  | some script, some environment, some toolchain =>
    if known.leftOver.isEmpty then
      .ok { script, environment, toolchain, data := known.data, raw := known.raw,
            json := known.json, verbose := known.verbose, stats := known.stats }
    else .error (.leftOver known.leftOver)
  | _, _, _ => .error (.missing known.missing)

/-- Reads a command line. -/
def readArguments (arguments : List Text) : Except Interruption Request := do
  let pieces ← (recognizeAll arguments).mapError fun which => .fault (.ambiguous which)
  let known ← collect {} pieces
  known.request.mapError .fault

end ScriptTemplate.CommandLine
