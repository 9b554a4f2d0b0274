/-
# Log records and their two layouts (`ReadableFormatter`, `JSONFormatter`)

A record says what happened, how much it matters, and where the compilation was.  The readable
layout is one line for a terminal; the other is one JSON object a line.

The compiler makes records of texts and numbers.  Records that are made by hand may hold any
values, and then it can happen that a record cannot be written.
-/
import ScriptTemplate.Log.Level
import ScriptTemplate.Log.Template
import ScriptTemplate.Trace

namespace ScriptTemplate.Log

/-- The name in front of every logger's. -/
def root : Text := "authscript"

/-- The full name of a logger. -/
def loggerName (name : Text) : Text := root ++ "." ++ name

/-- A failure that is attached to a record: its kind and the values it was made with. -/
structure Attachment where
  kind : Text
  arguments : List Json
  /-- Whether a lone text among the values is shown in quotes. -/
  quotesLoneText : Bool := false
deriving Repr, Inhabited

namespace Attachment

/-- The values of a failure: nothing, a lone value as running text, or several in parentheses. -/
def detail (attachment : Attachment) : Text :=
  match attachment.arguments with
  | [] => ""
  | [value] => if attachment.quotesLoneText then value.inspect else value.display
  | values => "(" ++ Text.join ", " (values.map Json.inspect) ++ ")"

/-- The kind of a failure, and its values if there is anything to show. -/
def text (attachment : Attachment) : Text :=
  if attachment.detail.isEmpty then attachment.kind
  else attachment.kind ++ ": " ++ attachment.detail

end Attachment

/-- Where a record was made.  A record that passed no sink may lack all of it, or carry any
values. -/
structure Origin where
  compilationId : Json := .null
  scriptId : Json := .null
  depth : Json := .int 0
deriving Repr, Inhabited

/-- What stands for a compilation id where there is none. -/
def noId : Text := "-"

/-- The origin of a record that is made under a trace. -/
def Origin.ofTrace (trace : Trace) : Origin :=
  ⟨.str ((normalizedId trace.compilationId).getD noId), trace.scriptId, trace.depth⟩

/-- One thing that happened. -/
structure Record where
  /-- The name of the level. -/
  label : Json
  /-- The full name of the logger. -/
  logger : Json
  /-- The message, with gaps. -/
  template : Json
  values : Values := .none
  origin : Origin
  attachment : Option Attachment := none
deriving Repr, Inhabited

/-- Why a record cannot be written. -/
inductive RecordFault
  | template (fault : TemplateFault)
  /-- A compilation id of the given kind, which has no first part. -/
  | indivisibleId (kind : Text)
  /-- A compilation id that is a dictionary. -/
  | dictionaryId
  /-- A name of the level of the given kind, which has no width. -/
  | unalignedLabel (kind : Text)
deriving DecidableEq, Repr, Inhabited

/-- The text of a fault. -/
def RecordFault.message : RecordFault → Text
  | .template fault => fault.message
  | .indivisibleId kind => Text.quoted kind ++ " object is not subscriptable"
  | .dictionaryId => "unhashable type: 'slice'"
  | .unalignedLabel kind => "unsupported format string passed to " ++ kind ++ ".__format__"

/-- How records are written. -/
inductive Layout
  | readable
  | json
deriving DecidableEq, Repr, Inhabited

/-- How much of a compilation id is shown. -/
def shortLength : Nat := 8

/-- The short form of a compilation id. -/
def shortId (id : Json) : Except RecordFault Json :=
  if !id.isTrue then .ok (.str noId)
  else
    match id with
    | .str text => .ok (.str (text.take shortLength))
    | .arr items => .ok (.arr (items.take shortLength))
    | .obj _ => .error .dictionaryId
    | id => .error (.indivisibleId (valueKind id))

/-- A text behind a text, or the code points of a text behind the items of a list. -/
def followedBy (suffix : Text) : Json → Json
  | .str text => .str (text ++ suffix)
  | .arr items => .arr (items ++ suffix.map fun c => .str [c])
  | value => value

/-- The place of a record: the compilation id, and the script with its depth if there is one. -/
def Origin.place (origin : Origin) : Except RecordFault Json := do
  let id ← shortId origin.compilationId
  match origin.scriptId with
  | .null => return id
  | script => return followedBy (" " ++ script.display ++ "@" ++ origin.depth.display) id

/-- The name of a level, filled up with blanks. -/
def alignedLabel (label : Json) : Except RecordFault Text :=
  match label with
  | .str text => .ok (text.padRight ' ' 7)
  | .number n => .ok ((n.text Number.plainFormat).padRight ' ' 7)
  | .bool value => .ok (Text.padRight ' ' 7 (if value then "1" else "0"))
  | label => .error (.unalignedLabel (valueKind label))

namespace Record

/-- The message of a record, its gaps filled. -/
def message (record : Record) : Except RecordFault Text :=
  (fill record.template.display record.values).mapError .template

/-- A record on one line, its attachment below. -/
def readable (record : Record) : Except RecordFault Text := do
  let place ← record.origin.place
  let label ← alignedLabel record.label
  let message ← record.message
  let attached : Text := match record.attachment with
    | none => ""
    | some attachment => "\n" ++ attachment.text
  return label ++ " [" ++ place.display ++ "] " ++ record.logger.display ++ ": " ++ message
    ++ attached

/-- A record as a JSON object. -/
def toJson (record : Record) (timestamp : Text) : Except RecordFault Json := do
  let message ← record.message
  let script : List (Text × Json) := match record.origin.scriptId with
    | .null => []
    | script => [("script_id", script), ("depth", record.origin.depth)]
  let attached : List (Text × Json) := match record.attachment with
    | none => []
    | some attachment => [("exception", .str attachment.text)]
  let fields : List (Text × Json) := [("timestamp", .str timestamp), ("level", record.label),
    ("logger", record.logger), ("message", .str message),
    ("compilation_id", record.origin.compilationId)]
  return .obj (fields ++ script ++ attached)

/-- A record in a layout, without a line end. -/
def text (record : Record) (timestamp : Text) : Layout → Except RecordFault Text
  | .readable => record.readable
  | .json => do return (← record.toJson timestamp).compress

end Record

/-- Where records go: which are written, and how. -/
structure Sink where
  threshold : Level := Level.warning
  layout : Layout := .readable
deriving DecidableEq, Repr, Inhabited

/-- A record together with the layout that it was written in. -/
structure Line where
  layout : Layout
  record : Record
deriving Repr, Inhabited

/-- The text of lines, each with its line end.  A record that cannot be written leaves no line. -/
def linesText (timestamp : Text) (lines : List Line) : Text :=
  lines.flatMap fun line =>
    match line.record.text timestamp line.layout with
    | .ok text => text ++ "\n"
    | .error _ => []

end ScriptTemplate.Log
