/-
Method bodies.

A body is a list of instructions, a native function or missing.  A native
function gets the arguments of the call and may read and change the shared
state; the combinators below build the ones that are composed from parts.
-/
import ModSettings.Exec.Error
import ModSettings.Exec.Shared
import ModSettings.Program.Instruction
import ModSettings.Program.Value

namespace ModSettings

/-- A computation of a method: a value, an error or a panic. -/
abbrev Exec (α : Type) : Type := Run Shared ExecError α

abbrev Native : Type := List Value → Exec Value

inductive Body where
  | code (instructions : List Instruction)
  | native (run : Native)
  | missing

namespace Body

def instructions? : Body → Option (List Instruction)
  | code instructions => some instructions
  | _ => none

end Body

/-! ## Reading values -/

namespace Value

def mismatch {α : Type} (v : Value) (expected : String) : Except ExecError α :=
  .error (.typeMismatch expected v.kind)

def asBool : Value → Except ExecError Bool
  | bool b => .ok b
  | v => v.mismatch "bool"

def asInt : Value → Except ExecError Int64
  | int n => .ok n
  | v => v.mismatch "int"

/-- Whole numbers widen to the nearest float. -/
def asFloat : Value → Except ExecError Float
  | float x => .ok x
  | int n => .ok n.toFloat
  | v => v.mismatch "float"

def asString : Value → Except ExecError String
  | str s => .ok s
  | v => v.mismatch "string"

def asType : Value → Except ExecError Ty
  | type t => .ok t
  | v => v.mismatch "Type"

def asMod : Value → Except ExecError Key
  | mod key => .ok key
  | v => v.mismatch "Mod"

def asCaller : Value → Except ExecError Key
  | caller key => .ok key
  | v => v.mismatch "EventCaller"

end Value

inductive Reading where
  | bool
  | int
  | float
  | string
  | type
  | mod
  | caller
  deriving DecidableEq, Repr

namespace Reading

def all : List Reading := [bool, int, float, string, type, mod, caller]

def name : Reading → String
  | bool => "bool"
  | int => "int"
  | float => "float"
  | string => "string"
  | type => "Type"
  | mod => "Mod"
  | caller => "Caller"

/-- Reads a value as one kind and gives it back as a value of that kind. -/
def read (kind : Reading) (v : Value) : Except ExecError Value :=
  match kind with
  | bool => v.asBool.map .bool
  | int => v.asInt.map .int
  | float => v.asFloat.map .float
  | string => v.asString.map .str
  | type => v.asType.map .type
  | mod => v.asMod.map .mod
  | caller => v.asCaller.map .caller

end Reading

/-- The argument at a position, which a native body may find missing. -/
def argument (args : List Value) (index : Nat) : Except ExecError Value :=
  match args[index]? with
  | some v => .ok v
  | none => .error (.missingArgument index)

/-! ## Composing native bodies -/

namespace Native

def const (v : Value) : Native := fun _ => .pure v

def arg (index : Nat) : Native := fun args => .ofExcept (argument args index)

def count : Native := fun args => .pure (.int (Int64.ofNat args.length))

def raise (e : ExecError) : Native := fun _ => .fail e

def abort (p : Panic) : Native := fun _ => .panic p

/-- Notes the arguments of the call under a tag, then goes on. -/
def record (tag : String) (next : Native) : Native := fun args => do
  let shown := args.map fun v => v.kind ++ ":" ++ v.text
  Run.note ("rec " ++ tag ++ "(" ++ "; ".intercalate shown ++ ")")
  next args

/-- Runs the parts in order and ends with the first that fails. -/
def sequence : List Native → List Value → Exec (List Value)
  | [], _ => .pure []
  | part :: rest, args => do
      let v ← part args
      let vs ← sequence rest args
      .pure (v :: vs)

def tuple (parts : List Native) : Native := fun args => do
  let vs ← sequence parts args
  .pure (.tuple vs)

/-- Reads the result of another body as one kind. -/
def reading (kind : Reading) (next : Native) : Native := fun args => do
  let v ← next args
  .ofExcept (kind.read v)

def inWorld : Native := fun _ => do
  let s ← Run.get
  .pure (.bool s.registry.inWorld)

def setInWorld (value : Bool) : Native := fun _ => do
  Run.ofFlow (Shared.setInWorld value)
  .pure .unit

end Native

end ModSettings
