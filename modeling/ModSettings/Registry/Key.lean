/-
Keys under which mods are registered.

A key names a slot and the version that the slot had when the key was made.  A
slot is used again after its mod is removed, under a newer version, so an old
key never names the mod that came later.
-/

namespace ModSettings

inductive Key where
  /-- The key that names nothing. -/
  | null
  | entry (slot : Nat) (version : UInt32)
  deriving DecidableEq, Repr, Inhabited

namespace Key

def text : Key → String
  | null => "ModKey(null)"
  | entry slot version => "ModKey(" ++ toString slot ++ "v" ++ toString version.toNat ++ ")"

end Key

end ModSettings
