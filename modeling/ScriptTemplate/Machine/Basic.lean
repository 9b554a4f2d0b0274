/-
# The stack machine (`MiniVM`)

The machine that evaluations run on knows pushes of up to 255 bytes and five operations.  It
reads its code from the front.  An instruction either goes on with a new stack, or stops the
machine with a fault that leaves the stack alone.

One code has no outcome at all: a push whose length byte would stand behind the end of the
code.  `run` has no answer then, and says so with `none`.
-/
import ScriptTemplate.Bytes
import ScriptTemplate.Digest.Ripemd160
import ScriptTemplate.Machine.Push

namespace ScriptTemplate.Machine

/-- Why the machine stopped early. -/
inductive Fault
  /-- No instruction has this opcode. -/
  | unsupported (opcode : UInt8)
  /-- A push announces more data than the code has left. -/
  | shortPush
  /-- An operation wants more items than the stack has. -/
  | emptyStack
deriving DecidableEq, Repr, Inhabited

/-- The text of a fault. -/
def Fault.message : Fault → Text
  | .unsupported opcode => "Unsupported opcode 0x" ++ Bytes.toHex [opcode]
  | .shortPush => "Push exceeds instruction length"
  | .emptyStack => "Tried to read from an empty stack"

/-- A stack, top item first. -/
abbrev Stack := List Bytes

/-- A machine at rest: its stack, how many bytes of code it has read, and its fault if any. -/
structure State where
  stack : Stack
  read : Nat
  fault : Option Fault
deriving DecidableEq, Repr, Inhabited

/-- The operations besides pushes. -/
inductive Operation
  | drop
  | duplicate
  | equal
  | sha256
  | hash160
deriving DecidableEq, Repr, Inhabited

/-- The operation of an opcode. -/
def Operation.ofOpcode? (opcode : UInt8) : Option Operation :=
  if opcode = 0x75 then some .drop
  else if opcode = 0x76 then some .duplicate
  else if opcode = 0x87 then some .equal
  else if opcode = 0xa8 then some .sha256
  else if opcode = 0xa9 then some .hash160
  else none

/-- What an operation makes of a stack; none if the stack has too few items. -/
def Operation.apply? : Operation → Stack → Option Stack
  | .drop, _ :: rest => some rest
  | .duplicate, top :: rest => some (top :: top :: rest)
  | .equal, b :: a :: rest => some ((if a = b then [1] else []) :: rest)
  | .sha256, top :: rest => some (Digest.sha256 top :: rest)
  | .hash160, top :: rest => some (Digest.hash160 top :: rest)
  | _, _ => none

/-- What one instruction does.  `used` counts the bytes it takes after its opcode. -/
inductive Effect
  | proceed (stack : Stack) (used : Nat)
  | halt (fault : Fault) (used : Nat)
  | truncated
deriving DecidableEq, Repr, Inhabited

/-- A push of `length` bytes from the code that follows; `used` bytes were read for the length. -/
def pushEffect (stack : Stack) (used length : Nat) (code : Bytes) : Effect :=
  if length ≤ code.length then .proceed (code.take length :: stack) (used + length)
  else .halt .shortPush used

/-- What the instruction with this opcode does, given the code after the opcode. -/
def effect (stack : Stack) (opcode : UInt8) (code : Bytes) : Effect :=
  if opcode.toNat ≤ Push.directLimit then pushEffect stack 0 opcode.toNat code
  else if opcode = Push.oneByteLength then
    match code with
    | [] => .truncated
    | length :: code => pushEffect stack 1 length.toNat code
  else
    match Operation.ofOpcode? opcode with
    | none => .halt (.unsupported opcode) 0
    | some operation =>
      match operation.apply? stack with
      | none => .halt .emptyStack 0
      | some stack => .proceed stack 0

/-- Runs the code that is left, `read` bytes of it being done already. -/
def runFrom (stack : Stack) (read : Nat) (code : Bytes) : Option State :=
  match code with
  | [] => some ⟨stack, read, none⟩
  | opcode :: code =>
    match effect stack opcode code with
    | .proceed stack used => runFrom stack (read + 1 + used) (code.drop used)
    | .halt fault used => some ⟨stack, read + 1 + used, some fault⟩
    | .truncated => none
termination_by code.length
decreasing_by simp only [List.length_drop, List.length_cons]; omega

/-- Runs a code on a stack. -/
def run (stack : Stack) (code : Bytes) : Option State := runFrom stack 0 code

end ScriptTemplate.Machine
