/-
# The command line at work (`main`)

A call reads its arguments, the settings, the toolchain, the environment and the data, in this
order; the first trouble ends it.  Then the script is compiled, and the outcome is shown.

Trouble with what was given is reported with exit code 2.  Some trouble is not the program's to
report, and is handed on: a path or a name that is nothing at all, a directory in the place of a
file, a path that cannot be followed, a numeral of enormous length, an escape of the toolchain.
-/
import ScriptTemplate.CommandLine.Arguments
import ScriptTemplate.CommandLine.Catalog
import ScriptTemplate.CommandLine.Files
import ScriptTemplate.CommandLine.Help
import ScriptTemplate.Compiler
import ScriptTemplate.Document.Data
import ScriptTemplate.Document.Environment
import ScriptTemplate.Json.Reader
import ScriptTemplate.Report
import ScriptTemplate.Toolchain.Standard

namespace ScriptTemplate.CommandLine

/-- Everything that a call depends on. -/
structure Call where
  arguments : List Text
  /-- The environment variables. -/
  environ : Dictionary Text
  files : Files
  catalog : Catalog

/-- What a call leaves behind. -/
structure Output where
  exitCode : Nat
  out : Text := ""
  err : Text := ""
deriving DecidableEq, Repr, Inhabited

/-- The exit code of a successful compilation. -/
def exitSuccess : Nat := 0

/-- The exit code of a failed compilation. -/
def exitFailure : Nat := 1

/-- The exit code for a mistake in what was given. -/
def exitUsage : Nat := 2

/-- What can go wrong before or while a script is compiled. -/
inductive Trouble
  | settings (fault : SettingsFault)
  | catalog (fault : CatalogFault)
  /-- Nothing was given for the toolchain. -/
  | noToolchainName
  /-- Nothing was given for a path. -/
  | noPath
  | noFile (path : Text)
  | notJson (path : Text) (text : Text) (fault : Json.Fault)
  | environment (path : Text) (fault : Document.Invalid)
  | data (path : Text) (fault : Document.Invalid)
  | badPath (fault : PathFault)
  | directory (path : Text)
  | belowFile (path : Text)
  | nameTooLong (path : Text)
  | longNumeral (fault : Json.Fault)
  | escaped (escape : Escape)
deriving Repr, Inhabited

namespace Trouble

/-- Whether the program itself reports the trouble. -/
def isReported : Trouble → Bool
  | catalog (.relative _) => false
  | noToolchainName => false
  | noPath => false
  | badPath _ => false
  | directory _ => false
  | belowFile _ => false
  | nameTooLong _ => false
  | longNumeral _ => false
  | escaped _ => false
  | _ => true

/-- The text of a trouble. -/
def message : Trouble → Text
  | settings fault => fault.message
  | catalog fault => fault.message
  | noToolchainName => "'list' object has no attribute 'partition'"
  | noPath => "'list' object has no attribute 'read_text'"
  | noFile path => "File not found: " ++ path
  | notJson path text fault => "Invalid JSON in " ++ path ++ ": " ++ fault.message text
  | environment path fault => "Invalid environment document " ++ path ++ ":\n" ++ fault.text
  | data path fault => "Invalid data document " ++ path ++ ":\n" ++ fault.text
  | badPath fault => fault.message
  | directory path => "[Errno 21] Is a directory: " ++ Text.quoted path
  | belowFile path => "[Errno 20] Not a directory: " ++ Text.quoted path
  | nameTooLong path => "[Errno 36] File name too long: " ++ Text.quoted path
  | longNumeral fault => fault.message []
  | escaped escape => escape.message

end Trouble

/-! ## Reading what is given -/

/-- Reads the JSON of a text that was found under a path. -/
def readText (path content : Text) : Except Trouble Json :=
  let text := withLineFeeds content
  match Json.parse text with
  | .ok value => .ok value
  | .error (.longNumeral digits) => .error (.longNumeral (.longNumeral digits))
  | .error fault => .error (.notJson path text fault)

/-- Reads a JSON file. -/
def readJson (files : Files) (path : Text) : Except Trouble Json :=
  match pathFault? path with
  | some fault => .error (.badPath fault)
  | none =>
    match files path with
    | .missing => .error (.noFile path)
    | .directory => .error (.directory path)
    | .belowFile => .error (.belowFile path)
    | .nameTooLong => .error (.nameTooLong path)
    | .text content => readText path content

/-- The path that was given, in normal form. -/
def givenPath : Given → Except Trouble Text
  | .text path => .ok (normalPath path)
  | .nothing => .error .noPath

/-- Makes sure that what was given names a toolchain. -/
def checkToolchain (catalog : Catalog) : Given → Except Trouble Unit
  | .text path => (catalog.check path).mapError .catalog
  | .nothing => .error .noToolchainName

/-- Reads an environment document. -/
def readEnvironment (files : Files) (given : Given) : Except Trouble Environment := do
  let path ← givenPath given
  let document ← (Document.EnvironmentDocument.ofJson (← readJson files path)).mapError
    (.environment path)
  return document.toEnvironment {}

/-- Reads a data document; without one there are no data. -/
def readData (files : Files) : Option Given → Except Trouble Data
  | none => .ok {}
  | some given => do
    let path ← givenPath given
    (Document.DataDocument.read (← readJson files path)).mapError (.data path)

/-- The compiler and the data that a request calls for. -/
def prepare (call : Call) (request : Request) (settings : Settings) :
    Except Trouble
      (Compiler (List Script.Node) (List Script.Resolved) Machine.State × Data) := do
  checkToolchain call.catalog request.toolchain
  let environment ← readEnvironment call.files request.environment
  let data ← readData call.files request.data
  return (Compiler.create Toolchain.standard environment settings, data)

/-! ## Compiling and showing the outcome -/

/-- What is printed about an outcome, on either channel. -/
def display {τ ρ σ : Type} (request : Request) (result : Result τ ρ σ) : Text × Text :=
  if request.json then (unlines [result.toJson.pretty], "")
  else
    match result with
    | .success outcome => (unlines [outcome.bytecode.toHex], "")
    | .failure outcome => ("", unlines outcome.lines)

/-- Compiles what a request asks for, and shows the outcome. -/
def fulfil (host : Host) (call : Call) (request : Request) : Except Trouble Output := do
  let settings ← (Settings.load call.environ).mapError .settings
  let (compiler, data) ← prepare call request settings
  let step :=
    if request.raw then compiler.compileReference data request.script
    else compiler.compile data request.script
  let (outcome, ambient) := step.run { host, sink := some (settings.sink request.verbose) }
  let result ← outcome.mapError .escaped
  let (out, report) := display request result
  let stats := if request.stats then unlines [ambient.metrics.snapshot.pretty] else ""
  return {
    exitCode := if result.succeeded then exitSuccess else exitFailure
    out
    err := Log.linesText host.timestamp ambient.lines ++ report ++ stats }

/-- **The whole program**: what a call leaves behind, or the trouble that is handed on. -/
def run (host : Host) (call : Call) : Except Trouble Output :=
  match readArguments call.arguments with
  | .error .help => .ok { exitCode := exitSuccess, out := help }
  | .error .version => .ok { exitCode := exitSuccess, out := versionText }
  | .error (.fault fault) => .ok { exitCode := exitUsage, err := usageError fault.message }
  | .ok request =>
    match fulfil host call request with
    | .ok output => .ok output
    | .error trouble =>
      if trouble.isReported then
        .ok { exitCode := exitUsage, err := unlines ["Error: " ++ trouble.message] }
      else .error trouble

end ScriptTemplate.CommandLine
