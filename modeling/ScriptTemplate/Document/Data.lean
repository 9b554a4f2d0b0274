/-
# Data documents (`DataDocument`, `CompilationData`)

The document form of compilation data gives bytecode in hexadecimal.  It is checked in three
steps, and a step reports its problems only if the steps before had none: the document itself,
then the operation data, then the bounds of height and time.  A document keeps its bytecode as it is
written, and decodes it when the data are made.

Data can also be given directly, with bytes for bytecode; all checks are then made in one step.
-/
import ScriptTemplate.Data
import ScriptTemplate.Document.Field
import ScriptTemplate.Text.Quoted

namespace ScriptTemplate

open Document

/-! ## Operation data -/

/-- The name of the record of operation data. -/
def OperationData.record : Text := "OperationData"

/-- The field of the locktime. -/
def OperationData.locktimeField : Field := .plain "locktime"

/-- The largest locktime. -/
def locktimeLimit : Int := 4294967295

/-- Operation data: a locktime within bounds if there is one; other fields are kept. -/
def OperationData.ofFields (given : Dictionary Json) : Checked OperationData :=
  let locktime := OperationData.locktimeField.optional given none fun value =>
    here (nullable (fun value => do boundedValue 0 (some locktimeLimit) (← integerValue value))
      value)
  wellNamed given <| locktime.map fun locktime =>
    { locktime
      extra := given.filter fun entry => entry.1 != OperationData.locktimeField.name }

/-! ## Data given directly -/

/-- A value for a variable. -/
inductive SuppliedBytes
  | bytes (value : Bytes)
  /-- A text stands for its UTF-8 form. -/
  | text (value : Text)
  | other
deriving DecidableEq, Repr, Inhabited

/-- Values for variables, or something that is no dictionary. -/
inductive SuppliedBytecode
  | entries (values : Dictionary SuppliedBytes)
  | other
deriving DecidableEq, Repr, Inhabited

/-- The fields of compilation data as they are given; null for what is missing. -/
structure DataFields where
  bytecode : SuppliedBytecode := .entries []
  operation : Json := .null
  blockHeight : Json := .null
  blockTime : Json := .null
deriving Repr, Inhabited

namespace Data

/-- The name of the record. -/
def record : Text := "CompilationData"

/-- The field of bytecode. -/
def bytecodeField : Field := .plain "bytecode"

/-- The field of operation data. -/
def operationField : Field := ⟨"operation_data", "operationData"⟩

/-- The field of the block height. -/
def blockHeightField : Field := ⟨"current_block_height", "currentBlockHeight"⟩

/-- The field of the block time. -/
def blockTimeField : Field := ⟨"current_block_time", "currentBlockTime"⟩

/-- The bytes of a supplied value. -/
def suppliedValue : SuppliedBytes → Except Cause Bytes
  | .bytes value => .ok value
  | .text value =>
    if value.isWellFormed then .ok (Text.toString value).toUTF8.toList
    else .error .illFormedText
  | .other => .error .notBytes

/-- The bytecode of supplied values. -/
def suppliedBytecode : SuppliedBytecode → Checked (Dictionary Bytes)
  | .entries values => Document.entries suppliedValue values
  | .other => .fail .notDictionary

/-- Operation data as a part of the whole; null for none. -/
def suppliedOperation : Json → Checked (Option OperationData)
  | .null => .ok none
  | .obj given => (OperationData.ofFields given).map some
  | _ => .fail (.notRecord OperationData.record)

/-- A height or a time, which is at least zero; null for none. -/
def suppliedBlock (value : Json) : Checked (Option Int) :=
  here (nullable (fun value => do boundedValue 0 none (← integerValue value)) value)

/-- Makes compilation data from its fields. -/
def ofFields (given : DataFields) : Except Invalid Data :=
  let bytecode := (suppliedBytecode given.bytecode).within bytecodeField.name
  let operation := (suppliedOperation given.operation).within operationField.name
  let height := (suppliedBlock given.blockHeight).within blockHeightField.name
  let time := (suppliedBlock given.blockTime).within blockTimeField.name
  let checks := bytecode.both (operation.both (height.both time))
  let checked : Checked Data := checks.map fun (bytecode, operation, blockHeight, blockTime) =>
    { bytecode, operation, blockHeight, blockTime }
  checked.asRecord record

end Data

/-! ## Data documents -/

namespace Document

/-- Bytes in hexadecimal: pairs of digits, with blanks before, between and after the pairs. -/
def spacedHex? : Text → Option Bytes
  | [] => some []
  | high :: rest =>
    if Text.isAsciiBlank high then spacedHex? rest
    else
      match rest with
      | [] => none
      | low :: rest =>
        match Hex.byte? high low with
        | some b => (spacedHex? rest).map (b :: ·)
        | none => none

/-- A text without the mark `0x` at its beginning; a second mark stays. -/
def unmarked : Text → Text
  | .char '0' :: .char 'x' :: rest => rest
  | text => text

/-- The bytes that a document gives for a variable. -/
def documentBytes? (text : Text) : Option Bytes := spacedHex? (unmarked text)

/-- Texts by name, each of which gives bytes. -/
abbrev HexEntries :=
  { entries : Dictionary Text // ∀ entry ∈ entries, (documentBytes? entry.2).isSome }

/-- No entries. -/
def HexEntries.empty : HexEntries := ⟨[], List.forall_mem_nil _⟩

/-- Why the value of a variable is refused. -/
def notHexReason (name : Text) : Text := "bytecode value for " ++ Text.quoted name ++ " is not hex"

/-- Checks that all entries give bytes, up to the first one that does not. -/
def hexEntries : Dictionary Text → Except Cause HexEntries
  | [] => .ok .empty
  | (name, text) :: rest =>
    if hex : (documentBytes? text).isSome then
      (hexEntries rest).map fun entries =>
        ⟨(name, text) :: entries.1, List.forall_mem_cons.mpr ⟨hex, entries.2⟩⟩
    else .error (.refused (notHexReason name))

/-- The bytes of all entries. -/
def HexEntries.decoded (entries : HexEntries) : Dictionary Bytes :=
  entries.1.pmap (fun entry hex => (entry.1, (documentBytes? entry.2).get hex)) entries.2

/-- The document form of compilation data. -/
structure DataDocument where
  /-- Values of variables, as they are written. -/
  bytecode : HexEntries
  operation : Option (Dictionary Json)
  blockHeight : Option Int
  blockTime : Option Int
deriving Repr

namespace DataDocument

/-- The name of the record. -/
def record : Text := "DataDocument"

/-- All fields, in the order in which their problems are reported. -/
def fields : List Field :=
  [Data.bytecodeField, Data.operationField, Data.blockHeightField, Data.blockTimeField]

/-- Bytecode of a document: texts in hexadecimal. -/
def bytecodeValue (value : Json) : Checked HexEntries := do
  here (hexEntries (← dictionaryValue textValue value))

/-- Operation data of a document: any dictionary, or null. -/
def operationValue : Json → Checked (Option (Dictionary Json))
  | .null => .ok none
  | .obj given => .ok (some given)
  | _ => .fail .notDictionary

/-- Checks the fields of a document. -/
def ofFields (given : Dictionary Json) : Checked DataDocument :=
  let block (field : Field) : Checked (Option Int) :=
    field.optional given none fun value => here (nullable integerValue value)
  let bytecode := Data.bytecodeField.optional given .empty bytecodeValue
  let operation := Data.operationField.optional given none operationValue
  let checks := bytecode.both <| operation.both <| (block Data.blockHeightField).both <|
    (block Data.blockTimeField).both (noOthers fields given)
  wellNamed given <| checks.map fun (bytecode, operation, blockHeight, blockTime, _) =>
    { bytecode, operation, blockHeight, blockTime }

/-- Reads a document, without the bounds of its numbers. -/
def ofJson (value : Json) : Except Invalid DataDocument :=
  let checked : Checked DataDocument := match value with
    | .obj given => ofFields given
    | _ => .fail (.notRecord record)
  checked.asRecord record

/-- The operation data of a document. -/
def operationData (document : DataDocument) : Except Invalid (Option OperationData) :=
  match document.operation with
  | none => .ok none
  | some given => ((OperationData.ofFields given).asRecord OperationData.record).map some

/-- A height or a time, which is at least zero. -/
def boundedBlock (field : Field) : Option Int → Checked (Option Int)
  | none => .ok none
  | some n => ((here (boundedValue 0 none n)).within field.name).map some

/-- The height and the time of a document. -/
def blocks (document : DataDocument) : Except Invalid (Option Int × Option Int) :=
  ((boundedBlock Data.blockHeightField document.blockHeight).both
    (boundedBlock Data.blockTimeField document.blockTime)).asRecord Data.record

/-- The compilation data of a document. -/
def toData (document : DataDocument) : Except Invalid Data := do
  let operation ← document.operationData
  let (blockHeight, blockTime) ← document.blocks
  return { bytecode := document.bytecode.decoded, operation, blockHeight, blockTime }

/-- Reads a document to the end. -/
def read (value : Json) : Except Invalid Data := do
  (← ofJson value).toData

end DataDocument

end Document

end ScriptTemplate
