/-
The configuration of the settings API.
-/
import ModSettings.Bridge.Install

namespace ModSettings

structure Config where
  version : UInt32 := 1
  debug : Bool := false
  bridge : BridgeConfig := {}
  deriving DecidableEq, Repr, Inhabited

end ModSettings
