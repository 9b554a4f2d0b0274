/-
# Toolchains by name (`load_toolchain`)

A toolchain is named by a module and an attribute of it, with a colon between them.  Modules form
a tree by the points in their names; a module is found by going down from its first part.  What
an attribute offers decides whether it is a toolchain: it needs all five stage functions.
-/
import ScriptTemplate.Dictionary
import ScriptTemplate.Text.Quoted

namespace ScriptTemplate.CommandLine

/-- The functions that make something a toolchain. -/
def stageFunctions : List Text :=
  ["parse", "create_resolver", "resolve", "collect_resolution_errors", "reduce"]

/-- Whether something with the given functions is a toolchain. -/
def offersAllStages (functions : List Text) : Bool :=
  stageFunctions.all fun function => functions.contains function

/-- A module that can be named. -/
structure CatalogModule where
  name : Text
  /-- Whether it can have modules below it. -/
  isPackage : Bool := false
  /-- Attributes, each with the functions that it offers. -/
  attributes : Dictionary (List Text) := []
deriving DecidableEq, Repr, Inhabited

/-- The modules that can be named. -/
abbrev Catalog := List CatalogModule

/-- The module of a name. -/
def Catalog.find? (catalog : Catalog) (name : Text) : Option CatalogModule :=
  List.find? (·.name == name) catalog

/-- Why no toolchain is found under a name. -/
inductive CatalogFault
  /-- The name is not made of a module and an attribute. -/
  | malformed (path : Text)
  /-- A relative name, with nothing that it is relative to. -/
  | relative (name : Text)
  /-- A part of the module's name does not exist; the module above it may be no package. -/
  | noModule (name part : Text) (abovePlain : Option Text)
  | noAttribute (name member : Text)
  | notToolchain (path : Text)
deriving DecidableEq, Repr, Inhabited

/-- The text of a fault. -/
def CatalogFault.message : CatalogFault → Text
  | .malformed path => "Toolchain must be given as module:attribute, got " ++ Text.quoted path
  | .relative name =>
    "the \x27package\x27 argument is required to perform a relative import for "
      ++ Text.quoted name
  | .noModule name part abovePlain =>
    let reason : Text := match abovePlain with
      | some above => "; " ++ Text.quoted above ++ " is not a package"
      | none => ""
    "Cannot import toolchain module " ++ Text.quoted name ++ ": No module named "
      ++ Text.quoted part ++ reason
  | .noAttribute name member =>
    "Module " ++ Text.quoted name ++ " has no attribute " ++ Text.quoted member
  | .notToolchain path =>
    Text.quoted path ++ " does not implement the script toolchain protocol"

namespace Catalog

/-- Goes down from a module, part by part.  A part of the name that does not exist is reported
with all parts above it. -/
def descend (catalog : Catalog) (name : Text) (above : CatalogModule) :
    List Text → Except CatalogFault CatalogModule
  | [] => .ok above
  | part :: rest =>
    let full := above.name ++ "." ++ part
    match catalog.find? full with
    | some found => descend catalog name found rest
    | none => .error (.noModule name full (if above.isPackage then none else some above.name))

/-- Finds a module by its name. -/
def locate (catalog : Catalog) (name : Text) : Except CatalogFault CatalogModule :=
  match Text.splitOn '.' name with
  | [] => .error (.noModule name name none)
  | first :: rest =>
    if first.isEmpty then .error (.relative name)
    else
      match catalog.find? first with
      | some found => catalog.descend name found rest
      | none => .error (.noModule name first none)

/-- Makes sure that a path names a toolchain. -/
def check (catalog : Catalog) (path : Text) : Except CatalogFault Unit := do
  let name := path.takeWhile (· != .char ':')
  let member := (path.dropWhile (· != .char ':')).drop 1
  if name.isEmpty || member.isEmpty then .error (.malformed path)
  else
    let found ← catalog.locate name
    match found.attributes.lookup member with
    | none => .error (.noAttribute name member)
    | some functions =>
      if offersAllStages functions then .ok () else .error (.notToolchain path)

end Catalog

end ScriptTemplate.CommandLine
