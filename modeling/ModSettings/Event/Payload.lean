/-
Events with what they carry, and the answers they ask for.

Seven kinds are signals and carry nothing.  The others carry the widget they
concern.  Each event fixes the type of its answer, so a hook cannot answer a
question that was not asked, and one function delivers all of them.
-/
import ModSettings.Event.Kind
import ModSettings.Settings.Widget

namespace ModSettings

/-- The events that carry nothing and ask for nothing. -/
inductive Signal where
  | menuOpen
  | menuClose
  | load
  | unload
  | menuCreate
  | worldEnter
  | worldExit
  deriving DecidableEq, Repr, Inhabited

namespace Signal

def all : List Signal :=
  [menuOpen, menuClose, load, unload, menuCreate, worldEnter, worldExit]

def kind : Signal → EventKind
  | menuOpen => .menuOpen
  | menuClose => .menuClose
  | load => .load
  | unload => .unload
  | menuCreate => .menuCreate
  | worldEnter => .worldEnter
  | worldExit => .worldExit

end Signal

def EventKind.signal? (kind : EventKind) : Option Signal :=
  Signal.all.find? fun s => s.kind == kind

/-- Something that happened to one mod's settings. -/
inductive Event where
  | signal (s : Signal)
  /-- A button was pressed; one of a row of buttons also has an index. -/
  | button (name : String) (index : Option UInt64)
  | sliderText (slider : SliderInfo) (value : Float)
  | visibility (setting : SettingInfo) (inWorld : Bool)
  /-- The text of an input changed; the answer is the text and caret to keep. -/
  | inputEdit (input text : String) (caret : UInt64)
  /-- The caret of an input moved; the answer is the caret and anchor to keep. -/
  | caretMove (input text : String) (caret anchor : UInt64)

namespace Event

def kind : Event → EventKind
  | signal s => s.kind
  | button _ _ => .button
  | sliderText _ _ => .sliderText
  | visibility _ _ => .visibility
  | inputEdit _ _ _ => .inputEdit
  | caretMove _ _ _ _ => .caretMove

/-- What a hook has to say to an event of this kind. -/
def Answer : Event → Type
  | signal _ => Unit
  | button _ _ => Unit
  | sliderText _ _ => String
  | visibility _ _ => Bool
  | inputEdit _ _ _ => String × UInt64
  | caretMove _ _ _ _ => UInt64 × UInt64

/-- The answer of hooks that leave the event alone: nothing changes, the slider
shows its built-in text, the setting is hidden. -/
def defaultAnswer : (event : Event) → event.Answer
  | signal _ => ()
  | button _ _ => ()
  | sliderText slider value => slider.display.render value
  | visibility _ _ => false
  | inputEdit _ text caret => (text, caret)
  | caretMove _ _ caret anchor => (caret, anchor)

/-- The answer used when no hook gave one.  A custom slider then has no text to
show. -/
def fallback : (event : Event) → event.Answer
  | signal _ => ()
  | button _ _ => ()
  | sliderText _ _ => "\x7bnull\x7d"
  | visibility _ _ => false
  | inputEdit _ text caret => (text, caret)
  | caretMove _ _ caret anchor => (caret, anchor)

end Event

end ModSettings
