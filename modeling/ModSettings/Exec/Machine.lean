/-
Running method bodies.

A machine runs the methods of one assembly against one catalog.  Methods of the
API class and of `EventCaller` come from the catalog and all others from the
assembly.  At most `callLimit` calls may be open at once; `room` counts how many
more may be opened, and it is what the recursion goes down on.
-/
import ModSettings.Program.Assembly
import ModSettings.Program.Catalog

namespace ModSettings

/-- How many calls may be open inside each other. -/
def callLimit : Nat := 64

structure Machine where
  assembly : Assembly
  catalog : Catalog

/-- Methods of the API class and of `EventCaller` are not looked for in
assemblies. -/
def Signature.isApi (m : Signature) : Bool := m.owner == .api || m.owner == .eventCaller

namespace Machine

/-- The class that decides late-bound calls on a receiver.  A handle of a mod
stands for the mod's main class as long as the mod is registered. -/
def runtimeClass? (registry : Registry) : Value → Option Ty
  | .object t => some t
  | .mod key => registry.mainType? key
  | .caller _ => some .eventCaller
  | _ => none

/-- What a late-bound call runs: the receiver's override if it has a class and
the class has one, else the named method itself. -/
def resolve (a : Assembly) (registry : Registry) (target : Signature) (args : List Value) :
    Signature :=
  if target.isStatic then target
  else
    ((args.head?.bind (runtimeClass? registry)).bind (a.resolveVirtual? · target)).getD target

/-- Leaves a method: with nothing if it returns nothing, else with the value on
top of the stack. -/
def leave (method : Signature) (stack : List Value) : Exec Value :=
  if method.result.isVoid then .pure .unit
  else
    match stack with
    | top :: _ => .pure top
    | [] => .fail (.stackUnderflow method.fullName)

/-- Runs the instructions of a body.  The stack has its top in front, and
`invoke` performs the calls.  Running off the end leaves the method. -/
def runCode (a : Assembly) (invoke : Signature → List Value → Exec Value) (method : Signature)
    (args : Array Value) : List Instruction → List Value → Exec Value
  | [], stack => leave method stack
  | .ret :: _, stack => leave method stack
  | .loadArg index :: rest, stack =>
      match args[index.toNat]? with
      | some v => runCode a invoke method args rest (v :: stack)
      | none => .fail (.argumentOutOfRange method.fullName index.toNat)
  | .loadInt n :: rest, stack => runCode a invoke method args rest (.int n :: stack)
  | .loadString s :: rest, stack => runCode a invoke method args rest (.str s :: stack)
  | .loadType t :: rest, stack => runCode a invoke method args rest (.type t :: stack)
  | .call target :: rest, stack =>
      if stack.length < target.arity then .fail (.stackUnderflow method.fullName)
      else do
        let result ← invoke target (stack.take target.arity).reverse
        let below := stack.drop target.arity
        runCode a invoke method args rest
          (if target.result.isVoid then below else result :: below)
  | .callVirtual target :: rest, stack =>
      if stack.length < target.arity then .fail (.stackUnderflow method.fullName)
      else do
        let callArgs := (stack.take target.arity).reverse
        let s ← Run.get
        let found := resolve a s.registry target callArgs
        let result ← invoke found callArgs
        let below := stack.drop target.arity
        runCode a invoke method args rest
          (if found.result.isVoid then below else result :: below)

/-- Runs a method with its full list of arguments while `room` more calls may be
opened.  A native or instruction body adds the method to the frames of an error
that leaves it; the checks before it do not. -/
def invokeWithin (vm : Machine) : (room : Nat) → Signature → List Value → Exec Value
  | 0, _, _ => .fail (.callDepthExceeded callLimit)
  | room + 1, method, args =>
      if args.length ≠ method.arity then
        .fail (.arityMismatch method.fullName method.arity args.length)
      else if method.isApi then
        match vm.catalog.native? method with
        | some run => run args
        | none => .fail (.unresolvedMethod method.text)
      else
        match (vm.assembly.method? method).map Method.body with
        | none => .fail (.unresolvedMethod method.text)
        | some .missing => .fail (.noBody method.text)
        | some (.native run) => (run args).mapError (·.within method)
        | some (.code instructions) =>
            (runCode vm.assembly (vm.invokeWithin room) method args.toArray instructions
              []).mapError (·.within method)

def invoke (vm : Machine) (method : Signature) (args : List Value) : Exec Value :=
  vm.invokeWithin callLimit method args

end Machine

end ModSettings
