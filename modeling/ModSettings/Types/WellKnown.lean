/-
The three classes that every mod and the settings API agree on, and the rule
for exchanging handles.

A mod is held either through its main class, which derives from `Mod`, or
through its event caller, which derives from `EventCaller`.  The two are handles
of one mod and each can be computed from the other, so where a signature is
matched loosely any handle may stand for any other.
-/
import ModSettings.Types.Basic

namespace ModSettings

/-- The mark that starts the name of every method a mod declares for the
settings API. -/
def hookMark : String := "ExtraSettingsAPI_"

namespace Ty

/-- The class above every mod's main class. -/
def mod : Ty := cls "Mod" none [] .abstract true

/-- The class of the object that delivers events to a mod. -/
def eventCaller : Ty := cls "EventCaller" none [] .concrete false

/-- The class whose static methods are the settings API. -/
def api : Ty := cls "ExtraSettingsAPI" none [] .abstract true

def isModHandle (t : Ty) : Bool := mod.accepts t

def isCallerHandle (t : Ty) : Bool := eventCaller.accepts t

/-- A value of this type identifies a mod. -/
def isHandle (t : Ty) : Bool := t.isModHandle || t.isCallerHandle

/-- A value of type `source` may be passed for `target` once handles are
converted into each other where needed. -/
def admits (target source : Ty) : Bool :=
  target.accepts source || (source.isHandle && target.isHandle)

end Ty

end ModSettings
