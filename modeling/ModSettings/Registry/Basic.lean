/-
The registry of mods.

A mod is registered under its name and its main class.  The main class must
derive from `Mod` and belongs to one live mod only, so a class leads back to the
mod that registered it.  An index kept beside the mods finds it.  The registry
also holds the flag that tells whether the player is in a world.
-/
import ModSettings.Registry.Slots
import ModSettings.Types.WellKnown

namespace ModSettings

structure ModRecord where
  name : String
  mainType : Ty
  /-- The settings API was loaded for this mod and not unloaded since. -/
  apiLoaded : Bool := false
  callerBound : Bool := false

structure Registry where
  mods : Slots ModRecord := {}
  /-- The keys of the mods by their main classes, a row for each class. -/
  byType : List (Ty × Key) := []
  inWorld : Bool := false

inductive RegistryError where
  | modNotFound
  | typeNotRegistered (type : String)
  | alreadyRegistered (type : String)
  | notAModType (type : String)
  | callerNotBound (name : String)
  deriving DecidableEq, Repr

namespace RegistryError

def kind : RegistryError → String
  | modNotFound => "Registry.ModNotFound"
  | typeNotRegistered _ => "Registry.TypeNotRegistered"
  | alreadyRegistered _ => "Registry.AlreadyRegistered"
  | notAModType _ => "Registry.NotAModType"
  | callerNotBound _ => "Registry.CallerNotBound"

def text : RegistryError → String
  | modNotFound => "Mod not registered"
  | typeNotRegistered type => "No mod registered for type: " ++ type
  | alreadyRegistered type => "Mod type already registered: " ++ type
  | notAModType type => "Type is not a mod class: " ++ type
  | callerNotBound name => "No event caller bound for mod: " ++ name

end RegistryError

namespace Registry

/-! ## Reading -/

def contains (r : Registry) (key : Key) : Bool := r.mods.contains key

def modName? (r : Registry) (key : Key) : Option String := (r.mods.get? key).map (·.name)

def mainType? (r : Registry) (key : Key) : Option Ty := (r.mods.get? key).map (·.mainType)

/-- A mod that is not registered counts as not loaded. -/
def isApiLoaded (r : Registry) (key : Key) : Bool :=
  ((r.mods.get? key).map (·.apiLoaded)).getD false

def size (r : Registry) : Nat := r.mods.size

/-- The mod whose main class is the given type. -/
def keyOfType? (r : Registry) (t : Ty) : Option Key :=
  (r.byType.find? fun row => row.1 == t).map (·.2)

def modForType (r : Registry) (t : Ty) : Except RegistryError Key :=
  match r.keyOfType? t with
  | some key => .ok key
  | none => .error (.typeNotRegistered t.text)

theorem modForType_eq_ok {r : Registry} {t : Ty} {key : Key} (h : r.modForType t = .ok key) :
    r.keyOfType? t = some key := by
  rw [modForType] at h
  cases found : r.keyOfType? t with
  | none => rw [found] at h; exact nomatch h
  | some found' =>
    rw [found] at h
    cases h
    rfl

/-- The handle of a mod's event caller is the mod's own key. -/
def callerForMod (r : Registry) (key : Key) : Except RegistryError Key :=
  match r.mods.get? key with
  | none => .error .modNotFound
  | some record => if record.callerBound then .ok key else .error (.callerNotBound record.name)

theorem callerForMod_eq_ok {r : Registry} {key found : Key} (h : r.callerForMod key = .ok found) :
    found = key := by
  rw [callerForMod] at h
  cases known : r.mods.get? key with
  | none => rw [known] at h; exact nomatch h
  | some record =>
    rw [known] at h
    dsimp only at h
    split at h <;> cases h
    rfl

/-! ## Changing -/

/-- Registers a mod under a fresh key.  A class that is no mod is refused before
one that is taken. -/
def register (r : Registry) (name : String) (mainType : Ty) :
    Except RegistryError (Key × Registry) :=
  if !Ty.mod.accepts mainType then .error (.notAModType mainType.text)
  else if (r.keyOfType? mainType).isSome then .error (.alreadyRegistered mainType.text)
  else
    let (key, mods) := r.mods.insert { name, mainType }
    .ok (key, { r with mods, byType := (mainType, key) :: r.byType })

/-- Removes a mod and the row of its main class. -/
def unregister (r : Registry) (key : Key) : Registry :=
  match r.mods.get? key with
  | none => r
  | some record =>
      { r with
        mods := r.mods.erase key
        byType := r.byType.filter fun row => !row.1 == record.mainType }

def bindCaller (r : Registry) (key : Key) : Except RegistryError Registry :=
  if r.contains key then
    .ok { r with mods := r.mods.update key fun record => { record with callerBound := true } }
  else .error .modNotFound

/-- Without effect on a key that is not registered. -/
def setApiLoaded (r : Registry) (key : Key) (apiLoaded : Bool) : Registry :=
  { r with mods := r.mods.update key fun record => { record with apiLoaded } }

def setInWorld (r : Registry) (inWorld : Bool) : Registry := { r with inWorld }

/-- Removes every mod and leaves the world. -/
def clear (r : Registry) : Registry := { mods := r.mods.clear, byType := [], inWorld := false }

end Registry

end ModSettings
