/-
Adapters: the bodies that stubs are given.

An adapter loads a value for every slot of the target, converts handles where
the mapping relied on it, calls the target and returns what that returns.
-/
import ModSettings.Bridge.Discovery

namespace ModSettings

inductive SynthesisError where
  | mappingLength (target : String) (expected found : Nat)
  | argumentOutOfRange (hook : String) (index : Nat)
  | incompatibleArgument (index : Nat) (source target : String)
  | hookNotFound (hook : String)
  deriving DecidableEq, Repr

namespace SynthesisError

def kind : SynthesisError → String
  | mappingLength _ _ _ => "MappingLength"
  | argumentOutOfRange _ _ => "ArgumentOutOfRange"
  | incompatibleArgument _ _ _ => "IncompatibleArgument"
  | hookNotFound _ => "HookNotFound"

def text : SynthesisError → String
  | mappingLength target expected found =>
      "Mapping has " ++ toString found ++ " sources but " ++ target ++ " takes " ++
        toString expected ++ " arguments"
  | argumentOutOfRange hook index =>
      "Argument " ++ toString index ++ " does not exist on " ++ hook
  | incompatibleArgument index source target =>
      "Argument " ++ toString index ++ " of type " ++ source ++ " cannot be converted to " ++
        target
  | hookNotFound hook => "Hook method is not declared in the assembly: " ++ hook

end SynthesisError

namespace Bridge

/-- The largest argument position that an instruction can name. -/
def lastOperand : Nat := 65535

/-- Supplies the handle of the mod whose main class is given.  A slot that wants
an event caller, and not a mod, gets the event caller. -/
def injectCode (modType slot : Ty) : List Instruction :=
  [.loadType modType, .call Offer.getMod.method] ++
    if !slot.isModHandle && slot.isCallerHandle then [.call Offer.getCaller.method] else []

/-- Converts a loaded value from its type to that of the slot: nothing to do,
one call between the two handles of a mod, or impossible. -/
def convertCode? (source slot : Ty) : Option (List Instruction) :=
  if slot.accepts source then some []
  else if source.isCallerHandle && slot.isModHandle then
    some [.callVirtual Offer.getParent.method]
  else if source.isModHandle && slot.isCallerHandle then some [.call Offer.getCaller.method]
  else none

/-- The instructions that leave the value of one slot on the stack. -/
def slotCode (hook : Signature) (arguments : Array Ty) (modType slot : Ty) :
    Source → Except SynthesisError (List Instruction)
  | .inject => .ok (injectCode modType slot)
  | .argument index =>
      match arguments[index]? with
      | none => .error (.argumentOutOfRange hook.fullName index)
      | some source =>
          if lastOperand < index then .error (.argumentOutOfRange hook.fullName index)
          else
            match convertCode? source slot with
            | some conversion => .ok (.loadArg (UInt16.ofNat index) :: conversion)
            | none => .error (.incompatibleArgument index source.text slot.text)

/-- The body of the adapter for a binding.  The first slot that cannot be
supplied decides the error. -/
def synthesize (b : Binding) (modType : Ty) : Except SynthesisError (List Instruction) := do
  let slots := b.target.arguments
  if b.mapping.sources.length ≠ slots.length then
    .error (.mappingLength b.target.fullName slots.length b.mapping.sources.length)
  let arguments := b.hook.arguments.toArray
  let loads ← (slots.zip b.mapping.sources).mapM fun (slot, source) =>
    slotCode b.hook arguments modType slot source
  .ok (loads.flatten ++ [.call b.target, .ret])

def patch (a : Assembly) (b : Binding) (modType : Ty) : Except SynthesisError Assembly := do
  let code ← synthesize b modType
  match a.setBody? b.hook (.code code) with
  | some patched => .ok patched
  | none => .error (.hookNotFound b.hook.fullName)

def patchedEntry (b : Binding) : Entry :=
  .log .debug ("Patched " ++ b.hook.fullName ++ " -> " ++ b.target.fullName)

end Bridge

end ModSettings
