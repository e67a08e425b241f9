/-
Changes to the shared state, with the messages they log.

These are the operations of the registry and the settings store as mods and the
session perform them.  Those that log nothing are the pure ones, lifted.
-/
import ModSettings.Exec.Flow

namespace ModSettings

namespace Shared

def onRegistry (f : Registry → Registry) : Flow Shared Unit :=
  Flow.modify fun s => { s with registry := f s.registry }

def onStore (f : Store → Store) : Flow Shared Unit :=
  Flow.modify fun s => { s with store := f s.store }

/-! ## Registry -/

def register (name : String) (mainType : Ty) : Flow Shared (Except RegistryError Key) := fun s =>
  match s.registry.register name mainType with
  | .error e => ⟨.error e, s, []⟩
  | .ok (key, registry) =>
      ⟨.ok key, { s with registry },
        [.log .debug ("Registered mod '" ++ name ++ "' as " ++ key.text)]⟩

/-- Tells whether there was a mod to remove. -/
def unregister (key : Key) : Flow Shared Bool := fun s =>
  match s.registry.modName? key with
  | none => ⟨false, s, []⟩
  | some name =>
      ⟨true, { s with registry := s.registry.unregister key },
        [.log .debug ("Unregistered mod '" ++ name ++ "'")]⟩

def bindCaller (key : Key) : Flow Shared (Except RegistryError Unit) := fun s =>
  match s.registry.bindCaller key with
  | .error e => ⟨.error e, s, []⟩
  | .ok registry => ⟨.ok (), { s with registry }, []⟩

def setApiLoaded (key : Key) (apiLoaded : Bool) : Flow Shared Unit :=
  onRegistry (·.setApiLoaded key apiLoaded)

def setInWorld (inWorld : Bool) : Flow Shared Unit := onRegistry (·.setInWorld inWorld)

def clearRegistry : Flow Shared Unit := do
  onRegistry Registry.clear
  Flow.log .debug "Registry cleared"

/-! ## Store -/

def declare (key : Key) (name : String) (default : SettingValue) : Flow Shared Unit := do
  Flow.log .trace ("Declared " ++ default.kind ++ " setting '" ++ name ++ "'")
  onStore (·.declare key name default)

def setSetting (key : Key) (name : String) (value : SettingValue) :
    Flow Shared (Except SettingsError Unit) := fun s =>
  match s.store.set key name value with
  | .error e => ⟨.error e, s, []⟩
  | .ok store => ⟨.ok (), { s with store }, []⟩

/-- Puts a mod's settings back to their defaults and tells how many there
are. -/
def resetAll (key : Key) : Flow Shared Nat := fun s =>
  let count := (s.store.ownedBy key).length
  ⟨count, { s with store := s.store.resetAll key },
    [.log .debug ("Reset " ++ toString count ++ " settings")]⟩

def removeSettings (key : Key) : Flow Shared Unit := onStore (·.removeMod key)

end Shared

end ModSettings
