/-
The twelve events of a settings menu and sets of them.

Every kind has a hook name: the mark that all hooks share followed by the kind's
own suffix.  A method with exactly that name handles the event; any other
marked method is a stub for the settings API.
-/
import ModSettings.Types.WellKnown

namespace ModSettings

inductive EventKind where
  | menuOpen
  | menuClose
  | load
  | unload
  | button
  | menuCreate
  | sliderText
  | visibility
  | worldEnter
  | worldExit
  | inputEdit
  | caretMove
  deriving DecidableEq, Repr, Inhabited

namespace EventKind

def all : List EventKind :=
  [menuOpen, menuClose, load, unload, button, menuCreate, sliderText, visibility, worldEnter,
    worldExit, inputEdit, caretMove]

def index : EventKind → Nat
  | menuOpen => 0
  | menuClose => 1
  | load => 2
  | unload => 3
  | button => 4
  | menuCreate => 5
  | sliderText => 6
  | visibility => 7
  | worldEnter => 8
  | worldExit => 9
  | inputEdit => 10
  | caretMove => 11

def name : EventKind → String
  | menuOpen => "Open"
  | menuClose => "Close"
  | load => "Load"
  | unload => "Unload"
  | button => "Button"
  | menuCreate => "Create"
  | sliderText => "Slider"
  | visibility => "Access"
  | worldEnter => "WorldLoad"
  | worldExit => "WorldExit"
  | inputEdit => "InputValueChange"
  | caretMove => "InputCaretMove"

def ofName? (text : String) : Option EventKind := all.find? fun kind => kind.name == text

/-- The part of the hook name after the mark.  It is also how messages name the
event. -/
def hookSuffix : EventKind → String
  | menuOpen => "SettingsOpen"
  | menuClose => "SettingsClose"
  | load => "Load"
  | unload => "Unload"
  | button => "ButtonPress"
  | menuCreate => "SettingsCreate"
  | sliderText => "HandleSliderText"
  | visibility => "HandleSettingVisible"
  | worldEnter => "WorldLoad"
  | worldExit => "WorldUnload"
  | inputEdit => "InputValueChange"
  | caretMove => "InputCaretMove"

def hookName (kind : EventKind) : String := hookMark ++ kind.hookSuffix

/-- The kind whose hook has exactly this name. -/
def ofHookName? (name : String) : Option EventKind := all.find? fun kind => kind.hookName == name

def flagName : EventKind → String
  | menuOpen => "OPEN"
  | menuClose => "CLOSE"
  | load => "LOAD"
  | unload => "UNLOAD"
  | button => "BUTTON"
  | menuCreate => "CREATE"
  | sliderText => "SLIDER_TEXT"
  | visibility => "ACCESS_CHECK"
  | worldEnter => "WORLD_LOAD"
  | worldExit => "WORLD_EXIT"
  | inputEdit => "INPUT_CHANGE"
  | caretMove => "INPUT_CARET_MOVE"

/-- Events that a caller fires by their kind alone.  Buttons and text inputs
carry a payload and are delivered with it. -/
def isGeneric : EventKind → Bool
  | button | inputEdit | caretMove => false
  | _ => true

theorem mem_all (kind : EventKind) : kind ∈ all := by cases kind <;> decide

end EventKind

/-- A set of event kinds, one bit for each. -/
structure Capabilities where
  bits : BitVec 12
  deriving DecidableEq, Repr

namespace Capabilities

def empty : Capabilities := ⟨0⟩

/-- Bits beyond the twelfth are dropped. -/
def ofBits (n : Nat) : Capabilities := ⟨BitVec.ofNat 12 n⟩

def ofKind (kind : EventKind) : Capabilities := ⟨BitVec.twoPow 12 kind.index⟩

def handles (c : Capabilities) (kind : EventKind) : Bool := c.bits.getLsbD kind.index

def insert (c : Capabilities) (kind : EventKind) : Capabilities :=
  ⟨c.bits ||| (ofKind kind).bits⟩

def ofList (kinds : List EventKind) : Capabilities := kinds.foldl insert empty

def toList (c : Capabilities) : List EventKind := EventKind.all.filter c.handles

/-- The names of the flags joined by bars, and a zero for the empty set. -/
def text (c : Capabilities) : String :=
  let flags := match c.toList with
    | [] => "0x0"
    | kinds => " | ".intercalate (kinds.map (·.flagName))
  "Capabilities(" ++ flags ++ ")"

theorem handles_empty (kind : EventKind) : empty.handles kind = false := by
  simp [empty, handles]

theorem handles_insert (c : Capabilities) (k kind : EventKind) :
    (c.insert k).handles kind = (c.handles kind || k == kind) := by
  have flag : (ofKind k).handles kind = (k == kind) := by
    cases k <;> cases kind <;> decide
  rw [← flag]
  simp only [insert, handles, BitVec.getLsbD_or]

theorem handles_ofList (kinds : List EventKind) (kind : EventKind) :
    (ofList kinds).handles kind = kinds.contains kind := by
  suffices h : ∀ c : Capabilities,
      (kinds.foldl insert c).handles kind = (c.handles kind || kinds.contains kind) by
    rw [ofList, h, handles_empty, Bool.false_or]
  induction kinds with
  | nil => intro c; simp
  | cons k rest ih =>
      intro c
      rw [List.foldl_cons, ih, handles_insert, List.contains_cons, Bool.or_assoc,
        BEq.comm ]

end Capabilities

end ModSettings
