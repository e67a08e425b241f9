/-
The methods that the settings API offers.

Every catalog starts with the two methods that turn a type into its mod and a
mod into its event caller, and knows how to get from an event caller back to its
mod.  Adapters use these three to supply handles.  The first two can be bound by
name like any other entry; the third is reached by generated code only.
-/
import ModSettings.Program.Body
import ModSettings.Types.WellKnown

namespace ModSettings

/-! ## What methods of the API do -/

namespace Native

def registryCheck {α : Type} (check : Registry → Except RegistryError α) : Exec α := do
  let s ← Run.get
  .ofExcept ((check s.registry).mapError .registry)

def storeCheck {α : Type} (check : Store → Except SettingsError α) : Exec α := do
  let s ← Run.get
  .ofExcept ((check s.store).mapError .settings)

def modArg (args : List Value) (index : Nat) : Exec Key :=
  .ofExcept (argument args index >>= Value.asMod)

def stringArg (args : List Value) (index : Nat) : Exec String :=
  .ofExcept (argument args index >>= Value.asString)

/-- Reads a setting: takes a mod and a name. -/
def reader {α : Type} (look : Store → Key → String → Except SettingsError α)
    (wrap : α → Value) : Native := fun args => do
  let key ← modArg args 0
  let name ← stringArg args 1
  let a ← storeCheck fun st => look st key name
  .pure (wrap a)

/-- Assigns a setting: takes a mod, a name and a value.  The value is read
before the name. -/
def writer (read : Value → Except ExecError SettingValue) : Native := fun args => do
  let key ← modArg args 0
  let value ← Run.ofExcept (argument args 2 >>= read)
  let name ← stringArg args 1
  let done ← Run.ofFlow (Shared.setSetting key name value)
  .ofExcept ((done.map fun _ => Value.unit).mapError .settings)

def resetter (read : Value → Except ExecError Key) : Native := fun args => do
  let key ← Run.ofExcept (argument args 0 >>= read)
  let _ ← Run.ofFlow (Shared.resetAll key)
  .pure .unit

end Native

/-! ## Offers -/

/-- A method of the API with what it does. -/
structure Offer where
  method : Signature
  run : Native

namespace Offer

def api (name : String) (params : List Ty) (result : Ty) (run : Native) : Offer :=
  { method := { owner := .api, name, params, result, isStatic := true }, run }

/-- How an entry shows itself among others. -/
def debugText (o : Offer) : String :=
  "CatalogEntry \x7b method: " ++ quoted o.method.text ++ " \x7d"

/-! ## Conversions between handles -/

/-- Leads from a mod's main class to the mod. -/
def getMod : Offer := api "GetMod" [.type] .mod fun args => do
  let t ← Run.ofExcept (argument args 0 >>= Value.asType)
  let key ← Native.registryCheck (·.modForType t)
  .pure (.mod key)

/-- Leads from a mod to its event caller. -/
def getCaller : Offer := api "GetCallerFromMod" [.mod] .eventCaller fun args => do
  let key ← Native.modArg args 0
  let key ← Native.registryCheck (·.callerForMod key)
  .pure (.caller key)

/-- Leads from an event caller back to its mod. -/
def getParent : Offer where
  method := { owner := .eventCaller, name := "get_parent", result := .mod }
  run := fun args => do
    let key ← Run.ofExcept (argument args 0 >>= Value.asCaller)
    Native.registryCheck fun r => if r.contains key then .ok () else .error .modNotFound
    .pure (.mod key)

end Offer

/-- What an API offers besides the conversions between handles, in the order in
which it is considered. -/
structure Catalog where
  others : List Offer := []

namespace Catalog

def entries (c : Catalog) : List Offer := Offer.getMod :: Offer.getCaller :: c.others

/-- The entries of that name, letters compared without regard to case. -/
def named (c : Catalog) (name : String) : List Offer :=
  c.entries.filter fun o => sameIgnoringCase o.method.name name

/-- What runs when a method of the API is called: the first entry with exactly
its signature. -/
def native? (c : Catalog) (m : Signature) : Option Native :=
  ((c.entries ++ [Offer.getParent]).find? fun o => o.method == m).map (·.run)

def add (c : Catalog) (o : Offer) : Catalog := { c with others := c.others ++ [o] }

/-- The catalog with nothing but the conversions. -/
def basic : Catalog := {}

/-- The settings API that mods are written against. -/
def standard : Catalog :=
  { others := [
      .api "IsInWorld" [] .bool Native.inWorld,
      .api "IsApiLoaded" [.mod] .bool (fun args => do
        let key ← Native.modArg args 0
        let s ← Run.get
        .pure (.bool (s.registry.isApiLoaded key))),
      .api "GetCheckboxState" [.mod, .string] .bool (.reader Store.checkbox .bool),
      .api "SetCheckboxState" [.mod, .string, .bool] .void
        (.writer fun v => v.asBool.map .checkbox),
      .api "GetSliderValue" [.mod, .string] .float (.reader Store.slider .float),
      .api "SetSliderValue" [.mod, .string, .float] .void
        (.writer fun v => v.asFloat.map .slider),
      .api "GetInputValue" [.mod, .string] .string (.reader Store.input .str),
      .api "SetInputValue" [.mod, .string, .string] .void
        (.writer fun v => v.asString.map .input),
      .api "GetComboboxSelectedIndex" [.mod, .string] .int
        (.reader Store.combobox fun (index, _) => .int index.toInt64),
      .api "GetComboboxSelectedItem" [.mod, .string] .string
        (.reader Store.combobox fun (_, item) => .str item),
      .api "GetKeybindMain" [.mod, .string] .string
        (.reader Store.keybind fun (main, _) => .str main),
      .api "GetKeybindAlt" [.mod, .string] .string
        (.reader Store.keybind fun (_, alt) => .str alt),
      .api "ResetAllSettings" [.mod] .void (.resetter Value.asMod),
      .api "ResetAllSettings" [.eventCaller] .void (.resetter Value.asCaller)] }

end Catalog

end ModSettings
