/-
Hooks that are methods of an assembly.

Each event has one hook name and a fixed list of parameters, buttons and
visibility checks a choice of two.  Methods are found on the holder or the
nearest class above it that declares one, and run on the interpreter.
-/
import ModSettings.Event.Hooks
import ModSettings.Exec.Machine

namespace ModSettings

/-- The methods that a holder offers for the events. -/
structure HookTable where
  assembly : Assembly
  holder : Ty
  /-- Passed first to hooks that are instance methods. -/
  receiver : Value

namespace HookTable

/-- A holder that is a mod's main class stands for the mod itself; any other is
an object of its class. -/
def ofHolder (key : Key) (assembly : Assembly) (holder : Ty) : HookTable :=
  { assembly, holder,
    receiver := if holder.isModHandle then .mod key else .object holder }

def find? (t : HookTable) (kind : EventKind) (params : List Ty) : Option Signature :=
  (t.assembly.findInHierarchy? t.holder kind.hookName params).map (·.signature)

/-! ## Accepted parameter lists -/

def signal? (t : HookTable) (s : Signal) : Option Signature := t.find? s.kind []

def button? (t : HookTable) : Option Signature := t.find? .button [.string]

def indexedButton? (t : HookTable) : Option Signature := t.find? .button [.string, .int]

def sliderText? (t : HookTable) : Option Signature := t.find? .sliderText [.string, .float]

def visibility? (t : HookTable) : Option Signature := t.find? .visibility [.string, .bool]

/-- A visibility check that is not told whether the player is in a world. -/
def visibilityByName? (t : HookTable) : Option Signature := t.find? .visibility [.string]

def inputEdit? (t : HookTable) : Option Signature :=
  t.find? .inputEdit [.string, .string, .int]

def caretMove? (t : HookTable) : Option Signature :=
  t.find? .caretMove [.string, .string, .int, .int]

def binds (t : HookTable) : EventKind → Bool
  | .button => t.button?.isSome || t.indexedButton?.isSome
  | .sliderText => t.sliderText?.isSome
  | .visibility => t.visibility?.isSome || t.visibilityByName?.isSome
  | .inputEdit => t.inputEdit?.isSome
  | .caretMove => t.caretMove?.isSome
  | .menuOpen => (t.signal? .menuOpen).isSome
  | .menuClose => (t.signal? .menuClose).isSome
  | .load => (t.signal? .load).isSome
  | .unload => (t.signal? .unload).isSome
  | .menuCreate => (t.signal? .menuCreate).isSome
  | .worldEnter => (t.signal? .worldEnter).isSome
  | .worldExit => (t.signal? .worldExit).isSome

def capabilities (t : HookTable) : Capabilities := .ofList (EventKind.all.filter t.binds)

/-! ## Choosing a method -/

/-- The method that an event runs, with the arguments after the receiver.  A
button with an index runs the hook that takes one, a button without runs the
other. -/
def call? (t : HookTable) : Event → Option (Signature × List Value)
  | .signal s => (t.signal? s).map (·, [])
  | .button name none => t.button?.map (·, [.str name])
  | .button name (some index) => t.indexedButton?.map (·, [.str name, .int index.toInt64])
  | .sliderText slider value => t.sliderText?.map (·, [.str slider.name, .float value])
  | .visibility setting inWorld =>
      (t.visibility?.map (·, [.str setting.name, .bool inWorld])).or
        (t.visibilityByName?.map (·, [.str setting.name]))
  | .inputEdit input text caret =>
      t.inputEdit?.map (·, [.str input, .str text, .int caret.toInt64])
  | .caretMove input text caret anchor =>
      t.caretMove?.map (·, [.str input, .str text, .int caret.toInt64, .int anchor.toInt64])

/-- The whole argument list of a hook method. -/
def withReceiver (t : HookTable) (method : Signature) (args : List Value) : List Value :=
  if method.isStatic then args else t.receiver :: args

/-! ## Reading the result -/

/-- A position in a text, if the number is one. -/
def position? (n : Int64) : Option UInt64 := if 0 ≤ n then some n.toUInt64 else none

/-- What a result means as the answer to an event, with what is logged of it.
Positions count only together with their other half, and a result that does not
fit leaves everything as it was. -/
def answer (method : Signature) (result : Value) : (event : Event) → event.Answer × Journal
  | .signal _ => ((), [])
  | .button _ _ => ((), [])
  | .sliderText slider _ =>
      (match result with
        | .str text => text
        | .float x => slider.display.render x
        | .int n => slider.display.render n.toFloat
        | v => v.text, [])
  | .visibility setting _ =>
      match result with
      | .bool visible => (visible, [])
      | v => (false, [.log .warn (method.fullName ++ " returned " ++ v.kind ++ " for setting " ++
          setting.name ++ ", expected bool")])
  | .inputEdit _ text caret =>
      match result.textAndInt? with
      | some (newText, n) => (((position? n).map fun newCaret => (newText, newCaret)).getD
          (text, caret), [])
      | none => ((text, caret),
          [.log .debug (method.fullName ++ " returned " ++ result.kind ++ ", ignoring")])
  | .caretMove _ _ caret anchor =>
      ((do
        let (c, a) ← result.intPair?
        some (← position? c, ← position? a)).getD (caret, anchor), [])

/-- Runs the method an event calls for.  Without one the event is left alone. -/
def handle (t : HookTable) (ctx : Context) (event : Event) : HookRun event.Answer :=
  match t.call? event with
  | none => .pure event.defaultAnswer
  | some (method, args) => do
      let vm : Machine := { assembly := t.assembly, catalog := ctx.catalog }
      let result ← (vm.invoke method (t.withReceiver method args)).asHook
      let (value, journal) := answer method result event
      Run.ofFlow (Flow.writeAll journal)
      .pure value

def hooks (t : HookTable) : Hooks where
  capabilities := fun _ => t.capabilities
  handle := t.handle

def boundEntry (t : HookTable) : Entry :=
  .log .debug ("Bound event hooks on " ++ t.holder.text ++ ": " ++ t.capabilities.text)

def bind {σ : Type} (key : Key) (assembly : Assembly) (holder : Ty) : Flow σ Hooks := do
  let t := ofHolder key assembly holder
  Flow.write t.boundEntry
  return t.hooks

end HookTable

end ModSettings
