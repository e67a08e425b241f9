/-
Values that a settings menu edits.

Each setting is one of five widgets and holds that widget's state.  A combobox
knows its items; everything that reads it shows the empty text when the selected
index lies beyond them.
-/
import ModSettings.Number.Text

namespace ModSettings

inductive SettingValue where
  | checkbox (on : Bool)
  | slider (position : Float)
  | input (text : String)
  | combobox (index : UInt64) (items : List String)
  /-- The main key and the alternative one. -/
  | keybind (main alt : String)
  deriving Inhabited

inductive SettingsError where
  | unknownSetting (name : String)
  /-- A setting of kind `expected` met a value or a request of kind `found`. -/
  | kindMismatch (name expected found : String)
  deriving DecidableEq, Repr

namespace SettingsError

def kind : SettingsError → String
  | unknownSetting _ => "Settings.UnknownSetting"
  | kindMismatch _ _ _ => "Settings.KindMismatch"

def text : SettingsError → String
  | unknownSetting name => "Unknown setting: " ++ name
  | kindMismatch name expected found =>
      "Setting " ++ name ++ " is a " ++ expected ++ ", not a " ++ found

end SettingsError

namespace SettingValue

def kind : SettingValue → String
  | checkbox _ => "checkbox"
  | slider _ => "slider"
  | input _ => "input"
  | combobox _ _ => "combobox"
  | keybind _ _ => "keybind"

/-- The item at an index, empty beyond the last one. -/
def itemAt (items : List String) (index : UInt64) : String := items.getD index.toNat ""

def selectedItem? : SettingValue → Option String
  | combobox index items => some (itemAt items index)
  | _ => none

def text : SettingValue → String
  | checkbox on => toString on
  | slider position => floatText position
  | input text => text
  | combobox index items => itemAt items index
  | keybind main alt => main ++ " / " ++ alt

/-- The items of a combobox.  No other widget has any. -/
def items : SettingValue → List String
  | combobox _ items => items
  | _ => []

/-- The value a setting takes when `new` is assigned to it.  Both must be of one
kind, and a combobox keeps its own items and takes the index alone. -/
def assign? (old new : SettingValue) : Option SettingValue :=
  match old, new with
  | combobox _ items, combobox index _ => some (combobox index items)
  | old, new => if old.kind = new.kind then some new else none

/-- Assignment keeps the widget and its items. -/
theorem assign?_keeps {old new v : SettingValue} (h : old.assign? new = some v) :
    v.kind = old.kind ∧ v.items = old.items := by
  cases old <;> cases new <;> simp [assign?, kind] at h <;> subst h <;> exact ⟨rfl, rfl⟩

end SettingValue

end ModSettings
