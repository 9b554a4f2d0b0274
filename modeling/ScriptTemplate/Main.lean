/-
# The program

The outer layer: arguments, environment variables, files, clock and random ids are collected, the
command line is run on them, and what it leaves behind is printed.
-/
import ScriptTemplate.CommandLine.Run
import ScriptTemplate.Log.Timestamp
import Std.Time.DateTime.Timestamp

namespace ScriptTemplate

open CommandLine

/-- The toolchains that can be named: the standard one. -/
def builtInCatalog : Catalog := [
  { name := "standard", attributes := [("TOOLCHAIN", stageFunctions)] }]

/-- Reads what stands under a path. -/
def readPath (path : Text) : IO FileContent := do
  try
    return .text (← IO.FS.readFile path.toString)
  catch
    | .noFileOrDirectory .. => return .missing
    | .inappropriateType .. => return .directory
    | failure => throw failure

/-- The files that a command line names, by path. -/
def readFiles (arguments : List Text) : IO (Dictionary FileContent) := do
  match readArguments arguments with
  | .error _ => return []
  | .ok request =>
    let paths := (request.environment :: request.data.toList).filterMap fun given =>
      (givenPath given).toOption
    (paths.filter fun path => (pathFault? path).isNone).mapM fun path => do
      return (path, ← readPath path)

/-- The environment variables that settings are read from. -/
def readEnviron : IO (Dictionary Text) := do
  let entries ← [Settings.depthVariable, Settings.levelVariable, Settings.formatVariable].mapM
    fun name => do return (← IO.getEnv name.toString).map fun value => (name, Text.ofString value)
  return entries.filterMap id

/-- A random id in five groups, marked as random. -/
def randomId : IO Text := do
  let bytes := (← IO.getRandomBytes 16).toList
  let marked := bytes.mapIdx fun i b =>
    if i = 6 then (b &&& 0x0f) ||| 0x40 else if i = 8 then (b &&& 0x3f) ||| 0x80 else b
  let digits := Bytes.toHex marked
  let group (start size : Nat) : Text := (digits.drop start).take size
  return Text.join "-" [group 0 8, group 8 4, group 12 4, group 16 4, group 20 12]

/-- Prints what a call left behind. -/
def emit (output : Output) : IO UInt32 := do
  IO.print output.out.toString
  IO.eprint output.err.toString
  return output.exitCode.toUInt32

end ScriptTemplate

open ScriptTemplate CommandLine in
/-- Runs the command line.  A first run is timed, and the clock of the second one shows the time
that it took. -/
def main (arguments : List String) : IO UInt32 := do
  let arguments := arguments.map Text.ofString
  let table ← readFiles arguments
  let call : Call := {
    arguments
    environ := ← readEnviron
    files := fun path => (table.lookup path).getD .missing
    catalog := builtInCatalog }
  let id ← randomId
  let now ← Std.Time.Timestamp.now
  let timestamp := Log.timestampText (now.toNanosecondsSinceUnixEpoch.val / 1000).toNat
  let started ← IO.monoNanosNow
  match run { clock := fun _ => 0.0, freshId := fun _ => id, timestamp } call with
  | .error trouble => throw (IO.userError trouble.message.toString)
  | .ok output =>
    if output.err.isEmpty then emit output
    else
      let seconds := Float.ofNat ((← IO.monoNanosNow) - started) / 1000000000.0
      let clock : Nat → Float := fun reading => if reading = 0 then 0.0 else seconds
      match run { clock, freshId := fun _ => id, timestamp } call with
      | .error trouble => throw (IO.userError trouble.message.toString)
      | .ok output => emit output
