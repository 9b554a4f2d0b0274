/-
# Files of the command line

Paths are written in a normal form: without empty steps and without steps that stay in place.
Line ends of all kinds are read as one character.

A path is handed over in UTF-8, and a path that cannot be handed over names no file at all.  The
surrogates U+DC80 to U+DCFF stand for single bytes in paths, any other surrogate has no form, and a
zero byte would end the path.
-/
import ScriptTemplate.Text.Quoted

namespace ScriptTemplate.CommandLine

/-- What is found under a path. -/
inductive FileContent
  | text (content : Text)
  | missing
  | directory
  /-- The path goes on below a file. -/
  | belowFile
  /-- The path, or a step of it, is longer than names can be. -/
  | nameTooLong
deriving DecidableEq, Repr, Inhabited

/-- The files that can be read, by path in normal form. -/
abbrev Files := Text → FileContent

/-- The mark at the front of an absolute path.  Exactly two slashes are kept apart from one. -/
def pathRoot (path : Text) : Text :=
  match (path.takeWhile (· == .char '/')).length with
  | 0 => ""
  | 2 => "//"
  | _ => "/"

/-- The steps of a path. -/
def pathSteps (path : Text) : List Text :=
  (Text.splitOn '/' path).filter fun step => !step.isEmpty && step != "."

/-- A path in normal form; the empty path is the current directory. -/
def normalPath (path : Text) : Text :=
  let normal := pathRoot path ++ Text.join "/" (pathSteps path)
  if normal.isEmpty then "." else normal

/-! ## Handing paths over -/

/-- Why a path cannot be handed over. -/
inductive PathFault
  /-- The code points from `first` up to `last` have no form. -/
  | unencodable (first last : Nat) (point : CodePoint)
  | zeroByte
deriving DecidableEq, Repr, Inhabited

/-- The text of a fault. -/
def PathFault.message : PathFault → Text
  | .unencodable first last point =>
    let which : Text :=
      if first = last then
        "character \x27" ++ Text.codeEscape point.toNat ++ "\x27 in position " ++ toString first
      else "characters in position " ++ toString first ++ "-" ++ toString last
    "\x27utf-8\x27 codec can't encode " ++ which ++ ": surrogates not allowed"
  | .zeroByte => "embedded null byte"

/-- Whether a code point stands for a single byte of a path. -/
def isByteStandIn (c : CodePoint) : Bool := 0xdc80 ≤ c.toNat && c.toNat ≤ 0xdcff

/-- The first stretch of surrogates that have no form, `index` being the place of the text in the
path. -/
def unencodable? (index : Nat) : Text → Option PathFault
  | [] => none
  | c :: rest =>
    if c.isSurrogate && !isByteStandIn c then
      some (.unencodable index (index + (rest.takeWhile (·.isSurrogate)).length) c)
    else unencodable? (index + 1) rest

/-- Why a path cannot be handed over, if it cannot. -/
def pathFault? (path : Text) : Option PathFault :=
  (unencodable? 0 path).or (if path.contains (.char '\x00') then some .zeroByte else none)

/-- How many bytes a path takes. -/
def byteLength (path : Text) : Nat :=
  let width (c : CodePoint) : Nat :=
    if isByteStandIn c || c.toNat < 0x80 then 1
    else if c.toNat < 0x800 then 2
    else if c.toNat < 0x10000 then 3
    else 4
  path.foldr (fun c rest => width c + rest) 0

/-! ## Line ends -/

/-- A text with line feeds for its line ends. -/
def withLineFeeds : Text → Text
  | [] => []
  | .char '\r' :: .char '\n' :: rest => .char '\n' :: withLineFeeds rest
  | .char '\r' :: rest => .char '\n' :: withLineFeeds rest
  | c :: rest => c :: withLineFeeds rest

end ScriptTemplate.CommandLine
