/-
What running mods leaves behind to be read.

The journal lists, in the order in which they happened, the messages logged, the
calls made to the settings menu and the lines that a mod's own code wrote.  Two
more entries are never shown: that an event reached a mod's event caller, and
that a hook began to run, with what it was told and what it could see.  They
make the order of events a thing that can be spoken about.
-/
import ModSettings.Event.Payload
import ModSettings.Registry.Basic
import ModSettings.Settings.Store

namespace ModSettings

structure Shared where
  registry : Registry := {}
  store : Store := .empty

/-- How much a message matters, the most important first. -/
inductive Level where
  | error
  | warn
  | info
  | debug
  | trace
  deriving DecidableEq, Repr, Inhabited

namespace Level

def all : List Level := [error, warn, info, debug, trace]

def text : Level → String
  | error => "ERROR"
  | warn => "WARN"
  | info => "INFO"
  | debug => "DEBUG"
  | trace => "TRACE"

/-- How far down the list of levels this one stands. -/
def depth : Level → Nat
  | error => 0
  | warn => 1
  | info => 2
  | debug => 3
  | trace => 4

end Level

inductive Entry where
  | log (level : Level) (message : String)
  /-- The menu was told to build the widgets of a mod. -/
  | buildMenu (key : Key) (name : String)
  /-- The menu was told to look again at what of a mod shows. -/
  | refreshMenu (key : Key)
  | note (line : String)
  | delivered (key : Key) (kind : EventKind)
  | entered (key : Key) (event : Event) (seen : Shared)

namespace Entry

/-- The line that shows the entry to a reader of the given threshold: messages
above it in importance or level with it, all dealings with the menu and all
notes. -/
def line? (threshold : Option Level) : Entry → Option String
  | log level message =>
      if threshold.any fun limit => level.depth ≤ limit.depth then
        some (level.text ++ " " ++ message)
      else none
  | buildMenu key name => some ("ui build " ++ key.text ++ " " ++ name)
  | refreshMenu key => some ("ui refresh " ++ key.text)
  | note line => some line
  | delivered _ _ => none
  | entered _ _ _ => none

end Entry

abbrev Journal := List Entry

namespace Journal

/-- What a reader of the given threshold sees; without a threshold no messages
are shown at all. -/
def lines (threshold : Option Level) (j : Journal) : List String :=
  j.filterMap (·.line? threshold)

end Journal

end ModSettings
