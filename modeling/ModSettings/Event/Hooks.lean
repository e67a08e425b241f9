/-
Hooks: what a mod does when an event reaches it.

Hooks keep a memory of their own between events, held as a value.  They see the
key of their mod, the catalog and the shared state, and answer an event, report
a failure or panic; whatever they changed until then stays changed.
-/
import ModSettings.Exec.Error
import ModSettings.Program.Catalog

namespace ModSettings

inductive HookError where
  | failed (message : String)
  | exec (cause : ExecError)
  | settings (cause : SettingsError)
  deriving DecidableEq, Repr

namespace HookError

/-- The name of the cause; for a method that failed, of the error below its
frames. -/
def kind : HookError → String
  | failed _ => "Failed"
  | exec cause => cause.root.kind
  | settings _ => "Settings"

def text : HookError → String
  | failed message => message
  | exec cause => cause.text
  | settings cause => cause.text

def trace : HookError → String
  | exec cause => cause.trace
  | e => e.text

end HookError

/-- What a hook is told besides the event. -/
structure Context where
  key : Key
  catalog : Catalog

/-- What a hook can change: the shared state and its own memory. -/
structure Desk where
  shared : Shared
  memory : Value

abbrev HookRun (α : Type) : Type := Run Desk HookError α

structure Hooks where
  /-- What the hooks remember between events. -/
  memory : Value := .unit
  /-- The events they say they handle, which may depend on what they remember. -/
  capabilities : Value → Capabilities
  handle : Context → (event : Event) → HookRun event.Answer

namespace Hooks

def handles (h : Hooks) : Capabilities := h.capabilities h.memory

/-- Hooks that answer every event with the default and claim to handle the given
ones. -/
def idle (capabilities : Capabilities) : Hooks where
  capabilities := fun _ => capabilities
  handle := fun _ event => .pure event.defaultAnswer

/-- Hooks of a mod that handles nothing. -/
def none : Hooks := idle .empty

end Hooks

/-- Changes to the shared state leave the memory of the hooks alone. -/
def Flow.asHook {α : Type} (m : Flow Shared α) : HookRun α :=
  Run.ofFlow (Flow.zoom Desk.shared (fun desk shared => { desk with shared }) m)

/-- A method run for a hook works on the shared state alone. -/
def Exec.asHook {α : Type} (m : Exec α) : HookRun α :=
  Run.zoom Desk.shared (fun desk shared => { desk with shared }) (m.mapError .exec)

end ModSettings
