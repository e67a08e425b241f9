/-
How settings are shown: the text beside a slider and where a setting appears.

Every mode but the custom one is answered here; the custom ones are left to the
mod's hooks.
-/
import ModSettings.Number.Text

namespace ModSettings

inductive SliderDisplay where
  /-- The nearest whole number. -/
  | whole
  | decimal
  /-- A hundred times the value, to the nearest whole number, in percent. -/
  | percent
  /-- The mod decides; the plain value where it does not. -/
  | custom
  deriving DecidableEq, Repr, Inhabited

namespace SliderDisplay

def all : List SliderDisplay := [whole, decimal, percent, custom]

def name : SliderDisplay → String
  | whole => "Whole"
  | decimal => "Decimal"
  | percent => "Percent"
  | custom => "Custom"

def render (display : SliderDisplay) (value : Float) : String :=
  match display with
  | whole => toString (Real64.ofFloat value).whole
  | decimal => (Real64.ofFloat value).twoPlaces
  | percent => toString (Real64.ofFloat (value * 100.0)).whole ++ "%"
  | custom => floatText value

end SliderDisplay

inductive SettingAccess where
  | both
  | mainMenu
  | world
  | custom
  deriving DecidableEq, Repr, Inhabited

namespace SettingAccess

def all : List SettingAccess := [both, mainMenu, world, custom]

def name : SettingAccess → String
  | both => "Both"
  | mainMenu => "MainMenu"
  | world => "World"
  | custom => "Custom"

/-- Whether the setting shows, unless the mod has to say. -/
def visible? (access : SettingAccess) (inWorld : Bool) : Option Bool :=
  match access with
  | both => some true
  | mainMenu => some !inWorld
  | world => some inWorld
  | custom => none

end SettingAccess

structure SliderInfo where
  name : String
  label : String
  display : SliderDisplay
  deriving DecidableEq, Repr

structure SettingInfo where
  name : String
  label : String
  access : SettingAccess
  deriving DecidableEq, Repr

end ModSettings
