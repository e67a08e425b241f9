/-
Event callers: the gate between the session and one mod's hooks.

A caller notes once, when it is made, which events the hooks handle, and passes
on no other event later.  An error or a panic of a hook ends here: it is logged
under the mod's display name and the event gets its fallback.  That delivering
an event always gives an answer is said by the types, for a flow has no way to
fail.
-/
import ModSettings.Event.Hooks

namespace ModSettings

/-- The menu that a caller drives: the one on the screen, whose calls go into
the journal, or none. -/
inductive Menu where
  | shown
  | absent
  deriving DecidableEq, Repr

namespace Menu

def build {σ : Type} (menu : Menu) (key : Key) (name : String) : Flow σ Unit :=
  match menu with
  | shown => Flow.write (.buildMenu key name)
  | absent => Flow.pure ()

def refresh {σ : Type} (menu : Menu) (key : Key) : Flow σ Unit :=
  match menu with
  | shown => Flow.write (.refreshMenu key)
  | absent => Flow.pure ()

end Menu

structure Caller where
  key : Key
  displayName : String
  hooks : Hooks
  /-- The events that are passed on. -/
  capabilities : Capabilities

namespace Caller

def ofHooks (key : Key) (displayName : String) (hooks : Hooks) : Caller :=
  { key, displayName, hooks, capabilities := hooks.handles }

def handles (c : Caller) (kind : EventKind) : Bool := c.capabilities.handles kind

def debugText (c : Caller) : String :=
  "EventCaller \x7b key: " ++ c.key.text ++ ", display_name: " ++ quoted c.displayName ++
    ", capabilities: " ++ c.capabilities.text ++ " \x7d"

def logAs {σ : Type} (c : Caller) (level : Level) (message : String) : Flow σ Unit :=
  Flow.log level ("[" ++ c.displayName ++ "] " ++ message)

/-! ## Running a hook -/

/-- Runs the hook for an event.  The answer is missing if the hook failed; its
memory and what it changed are kept in any case. -/
def runHook (c : Caller) (ctx : Context) (event : Event) :
    Flow Shared (Option event.Answer × Caller) := fun shared =>
  let began : Entry := .entered c.key event shared
  let r := c.hooks.handle ctx event { shared, memory := c.hooks.memory }
  let after : Caller := { c with hooks := { c.hooks with memory := r.state.memory } }
  let failed (how : String) : Entry :=
    .log .error ("[" ++ c.displayName ++ "] " ++ event.kind.hookName ++ how)
  match r.value with
  | .ok answer => ⟨(some answer, after), r.state.shared, began :: r.journal⟩
  | .error e => ⟨(none, after), r.state.shared,
      began :: r.journal ++ [failed (" failed: " ++ e.trace)]⟩
  | .panic p => ⟨(none, after), r.state.shared,
      began :: r.journal ++ [failed (" panicked: " ++ p.text)]⟩

/-- What is said of a slider or a setting that leaves its text or visibility to
a hook that is not there. -/
def unboundMessage? : Event → Option String
  | .sliderText slider _ => some ("Slider setting " ++ slider.name ++ " uses display mode " ++
      slider.display.name ++ " but no " ++ EventKind.sliderText.hookName ++
      " method was found")
  | .visibility setting _ => some ("Setting " ++ setting.name ++ " uses access mode " ++
      setting.access.name ++ " but no " ++ EventKind.visibility.hookName ++
      " method was found")
  | _ => none

/-- Answers an event through the hooks if they handle its kind, else with the
fallback. -/
def answer (c : Caller) (ctx : Context) (event : Event) :
    Flow Shared (event.Answer × Caller) :=
  if c.handles event.kind then do
    let (found, c) ← c.runHook ctx event
    return (found.getD event.fallback, c)
  else do
    match unboundMessage? event with
    | some message => c.logAs .warn message
    | none => Flow.pure ()
    return (event.fallback, c)

def deliver (c : Caller) (ctx : Context) (event : Event) :
    Flow Shared (event.Answer × Caller) := do
  Flow.write (.delivered c.key event.kind)
  c.answer ctx event

/-! ## Firing by kind -/

/-- What a signal does before its hook runs, whether or not there is one. -/
def prepare (c : Caller) (menu : Menu) : Signal → Flow Shared Unit
  | .menuCreate => menu.build c.key c.displayName
  | .menuOpen => menu.refresh c.key
  | .load => Shared.setApiLoaded c.key true
  | .unload => Shared.setApiLoaded c.key false
  | _ => Flow.pure ()

def signal (c : Caller) (ctx : Context) (menu : Menu) (s : Signal) : Flow Shared Caller := do
  Flow.write (.delivered c.key s.kind)
  c.prepare menu s
  let (_, c) ← c.answer ctx (.signal s)
  return c

/-- Fires an event by its kind alone.  Kinds that need something to carry run no
hook, and those with a way of their own say so. -/
def fire (c : Caller) (ctx : Context) (menu : Menu) (kind : EventKind) : Flow Shared Caller :=
  match kind.signal? with
  | some s => c.signal ctx menu s
  | none => do
      if !kind.isGeneric then
        c.logAs .trace (kind.hookSuffix ++ " has a dedicated call path")
      return c

/-! ## Deliveries -/

/-- Whether a setting shows; the hook is told whether the player is in a
world. -/
def visible (c : Caller) (ctx : Context) (setting : SettingInfo) :
    Flow Shared (Bool × Caller) := do
  let shared ← Flow.get
  c.deliver ctx (.visibility setting shared.registry.inWorld)

end Caller

end ModSettings
