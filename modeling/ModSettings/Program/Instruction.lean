/-
Instructions of method bodies.

A body works on a stack of values.  `call` runs exactly the method it names,
while `callVirtual` first looks for the receiver's own override of it.
-/
import ModSettings.Text.Quoted
import ModSettings.Types.Signature

namespace ModSettings

inductive Instruction where
  /-- Pushes an argument of the running method, the receiver being argument
  zero. -/
  | loadArg (index : UInt16)
  | loadInt (n : Int64)
  | loadString (s : String)
  | loadType (t : Ty)
  | call (target : Signature)
  | callVirtual (target : Signature)
  /-- Leaves the method with the value on top of the stack, or with none if the
  method returns nothing. -/
  | ret
  deriving Inhabited

namespace Instruction

def text : Instruction → String
  | loadArg index => "ldarg " ++ toString index.toNat
  | loadInt n => "ldc " ++ toString n.toInt
  | loadString s => "ldstr " ++ quoted s
  | loadType t => "ldtoken " ++ t.text
  | call target => "call " ++ target.text
  | callVirtual target => "callvirt " ++ target.text
  | ret => "ret"

def same : Instruction → Instruction → Bool
  | loadArg a, loadArg b => a == b
  | loadInt a, loadInt b => a == b
  | loadString a, loadString b => a == b
  | loadType a, loadType b => a == b
  | call a, call b => a == b
  | callVirtual a, callVirtual b => a == b
  | ret, ret => true
  | _, _ => false

instance : BEq Instruction := ⟨same⟩

end Instruction

end ModSettings
