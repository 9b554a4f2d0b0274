/-
# What the command line says about itself (`build_parser`)
-/
import ScriptTemplate.Text.Basic

namespace ScriptTemplate.CommandLine

/-- The name of the program. -/
def programName : Text := "authscript-compile"

/-- The version of the program. -/
def programVersion : Text := "0.1.0"

/-- The answer to a question for the version. -/
def versionText : Text := programName ++ " " ++ programVersion ++ "\n"

/-- Lines with their line ends. -/
def unlines (lines : List Text) : Text := lines.flatMap (· ++ "\n")

/-- How the program is called. -/
def usage : Text := unlines [
  "usage: authscript-compile [-h] -e ENVIRONMENT -t TOOLCHAIN [-d DATA] [--raw]",
  "                          [--json] [-v] [--stats] [--version]",
  "                          script_id"]

/-- What the switches, exit codes and environment variables mean. -/
def helpBody : Text := unlines [
  "",
  "Compile an authentication script template to bytecode",
  "",
  "positional arguments:",
  "  script_id             ID of the script to compile",
  "",
  "options:",
  "  -h, --help            show this help message and exit",
  "  -e ENVIRONMENT, --environment ENVIRONMENT",
  "                        Environment JSON (scripts, variables, script",
  "                        classifications)",
  "  -t TOOLCHAIN, --toolchain TOOLCHAIN",
  "                        Script toolchain as module:attribute",
  "  -d DATA, --data DATA  Compilation data JSON (bytecode values, operationData)",
  "  --raw                 Skip locktime checks and P2SH transforms",
  "  --json                Print the result as JSON",
  "  -v, --verbose         Log compilation steps to stderr",
  "  --stats               Print compilation statistics to stderr as JSON",
  "  --version             show program\x27s version number and exit",
  "",
  "Exit codes:",
  "  0  compiled successfully",
  "  1  compilation failed (errors printed)",
  "  2  usage or input document error",
  "",
  "Environment variables:",
  "  AUTHSCRIPT_MAX_DEPTH   maximum script dependency depth",
  "  AUTHSCRIPT_LOG_LEVEL   log level (default: WARNING)",
  "  AUTHSCRIPT_LOG_JSON    emit JSON log lines (true/false)",
  "        "]

/-- The answer to a question for help. -/
def help : Text := usage ++ helpBody

/-- What is said about a mistake in the use of the command line. -/
def usageError (message : Text) : Text :=
  usage ++ programName ++ ": error: " ++ message ++ "\n"

end ScriptTemplate.CommandLine
