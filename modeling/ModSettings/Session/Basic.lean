/-
A session of the settings API.

It holds the state that mods share, one event caller for every loaded mod, the
order in which they were loaded and whether the settings menu is built and open.
The menu is built once, on the first opening after the start or after a
shutdown.
-/
import ModSettings.Config.Basic
import ModSettings.Event.AssemblyHooks
import ModSettings.Event.Caller
import ModSettings.Registry.Attachment
import ModSettings.Session.Holder

namespace ModSettings

structure Session where
  config : Config
  catalog : Catalog
  shared : Shared := {}
  callers : Attachments Caller := {}
  /-- The loaded mods, the first loaded in front. -/
  order : List Key := []
  menuBuilt : Bool := false
  isOpen : Bool := false

inductive SessionError where
  | registry (cause : RegistryError)
  | notLoaded
  deriving DecidableEq, Repr

namespace SessionError

def kind : SessionError → String
  | registry cause => cause.kind
  | notLoaded => "NotLoaded"

def text : SessionError → String
  | registry cause => cause.text
  | notLoaded => "Mod is not loaded"

end SessionError

structure Descriptor where
  name : String
  displayName : String
  mainType : Ty
  assembly : Option Assembly := none
  holder : Holder := .mainClass
  /-- Hooks given as such; they go before those of the assembly. -/
  hooks : Option Hooks := none
  settings : List (String × SettingValue) := []

namespace Session

def onShared {α : Type} (m : Flow Shared α) : Flow Session α :=
  Flow.zoom Session.shared (fun s shared => { s with shared }) m

/-! ## Reaching the caller of a mod -/

/-- Runs something on the caller stored under exactly this key and keeps what
became of the caller. -/
def withCaller {α : Type} (key : Key) (f : Caller → Context → Flow Shared (α × Caller)) :
    Flow Session (Except SessionError α) := fun s =>
  match s.callers.get? key with
  | none => ⟨.error .notLoaded, s, []⟩
  | some caller =>
      let r := f caller { key, catalog := s.catalog } s.shared
      ⟨.ok r.value.1, { s with shared := r.state, callers := s.callers.replace key r.value.2 },
        r.journal⟩

def deliver (key : Key) (event : Event) : Flow Session (Except SessionError event.Answer) :=
  withCaller key fun caller ctx => caller.deliver ctx event

/-- Sends a signal to one mod, or to none if it has no caller. -/
def signalTo (menu : Menu) (signal : Signal) (key : Key) : Flow Session Unit := do
  let _ ← withCaller key fun caller ctx => do
    let caller ← caller.signal ctx menu signal
    return ((), caller)
  return ()

def broadcast (menu : Menu) (signal : Signal) : Flow Session Unit := do
  let s ← Flow.get
  Flow.forEach (signalTo menu signal) s.order

/-! ## Loading and unloading -/

def logFor (name : String) (level : Level) (message : String) : Flow Session Unit :=
  Flow.log level ("[" ++ name ++ "] " ++ message)

/-- The class that hooks and stubs are taken from.  Where the holder cannot be
built the main class takes its place. -/
def resolveHolder (d : Descriptor) : Flow Session Ty :=
  match d.holder.resolve d.mainType with
  | .ok t => return t
  | .error e => do
      logFor d.displayName .error ("Failed to create settings holder: " ++ e.text)
      return d.mainType

/-- Bridges the stubs of an assembly and binds its event hooks. -/
def bindAssembly (d : Descriptor) (key : Key) (assembly : Assembly) : Flow Session Hooks := do
  let holder ← resolveHolder d
  let s ← Flow.get
  let site : Bridge.Site :=
    { modName := d.name, modType := d.mainType, holder, catalog := s.catalog,
      config := s.config.bridge }
  let installed := Bridge.install site assembly
  Flow.writeAll installed.journal
  HookTable.bind key installed.state holder

/-- The hooks of a mod: those it gives, else those of its assembly, else
none. -/
def chooseHooks (d : Descriptor) (key : Key) : Flow Session Hooks :=
  match d.hooks, d.assembly with
  | some hooks, none => return hooks
  | some hooks, some _ => do
      logFor d.displayName .warn ("Native hooks supplied, ignoring assembly; its " ++
        hookMark ++ "* methods stay unpatched")
      return hooks
  | none, some assembly => bindAssembly d key assembly
  | none, none => return Hooks.none

/-- Loads a mod: registers it, declares its settings, binds its hooks and tells
it so.  Only the registration can be refused, and then nothing has changed. -/
def load (d : Descriptor) : Flow Session (Except SessionError Key) := do
  match ← onShared (Shared.register d.name d.mainType) with
  | .error e => return .error (.registry e)
  | .ok key =>
      match ← onShared (Shared.bindCaller key) with
      | .error e => return .error (.registry e)
      | .ok () =>
          Flow.forEach (fun (name, default) => onShared (Shared.declare key name default))
            d.settings
          let hooks ← chooseHooks d key
          let caller := Caller.ofHooks key d.displayName hooks
          logFor d.displayName .debug ("Hooks: " ++ caller.capabilities.text)
          let s ← Flow.get
          let caller ← onShared (caller.signal { key, catalog := s.catalog } .absent .load)
          Flow.log .info ("Loaded settings API for " ++ d.displayName)
          Flow.modify fun s =>
            { s with callers := s.callers.insert key caller, order := s.order ++ [key] }
          return .ok key

/-- Unloads a mod: tells it so and forgets its caller, settings and
registration. -/
def unload (key : Key) : Flow Session (Except SessionError Unit) := do
  let s ← Flow.get
  match s.callers.get? key with
  | none => return .error .notLoaded
  | some caller =>
      Flow.modify fun s => { s with callers := s.callers.erase key }
      let _ ← onShared (caller.signal { key, catalog := s.catalog } .absent .unload)
      Flow.modify fun s => { s with order := s.order.filter (!· == key) }
      onShared (Shared.removeSettings key)
      let _ ← onShared (Shared.unregister key)
      Flow.log .info ("Unloaded settings API for " ++ caller.displayName)
      return .ok ()

/-- Unloads a mod while everything is shut down; one that cannot be unloaded is
left behind with a warning. -/
def unloadOrWarn (key : Key) : Flow Session Unit := do
  match ← unload key with
  | .ok () => return ()
  | .error e => Flow.log .warn ("Failed to unload mod during shutdown: " ++ e.text)

/-- Unloads all mods, the last loaded first, and clears the registry. -/
def shutdown : Flow Session Unit := do
  let s ← Flow.get
  Flow.forEach unloadOrWarn s.order.reverse
  onShared Shared.clearRegistry
  Flow.modify fun s => { s with menuBuilt := false, isOpen := false }
  Flow.log .info "Settings API shut down"

/-! ## The settings menu and the world -/

def openMenu (menu : Menu) : Flow Session Unit := do
  let s ← Flow.get
  if !s.menuBuilt then
    broadcast menu .menuCreate
    Flow.modify fun s => { s with menuBuilt := true }
  Flow.modify fun s => { s with isOpen := true }
  broadcast menu .menuOpen

/-- Closes the menu; one that is not open stays as it is. -/
def closeMenu (menu : Menu) : Flow Session Unit := do
  let s ← Flow.get
  if s.isOpen then
    Flow.modify fun s => { s with isOpen := false }
    broadcast menu .menuClose

def enterWorld (menu : Menu) : Flow Session Unit := do
  onShared (Shared.setInWorld true)
  broadcast menu .worldEnter

def exitWorld (menu : Menu) : Flow Session Unit := do
  onShared (Shared.setInWorld false)
  broadcast menu .worldExit

/-! ## Widgets -/

def pressButton (key : Key) (name : String) (index : Option UInt64) :
    Flow Session (Except SessionError Unit) :=
  deliver key (.button name index)

/-- The text and caret to keep after an edit. -/
def editInput (key : Key) (input text : String) (caret : UInt64) :
    Flow Session (Except SessionError (String × UInt64)) :=
  deliver key (.inputEdit input text caret)

/-- A caret cannot stand behind the end of its text. -/
def clampCaret (text : String) (caret : UInt64) : UInt64 :=
  UInt64.ofNat (min caret.toNat text.length)

/-- The caret and anchor to keep after a move. -/
def moveCaret (key : Key) (input text : String) (caret anchor : UInt64) :
    Flow Session (Except SessionError (UInt64 × UInt64)) :=
  deliver key (.caretMove input text (clampCaret text caret) anchor)

/-- The text beside a slider.  Only the custom display asks the mod, and only
then does the mod have to be loaded. -/
def sliderText (key : Key) (slider : SliderInfo) (value : Float) :
    Flow Session (Except SessionError String) :=
  match slider.display with
  | .custom => deliver key (.sliderText slider value)
  | display => return .ok (display.render value)

/-- Whether a setting shows.  Only the custom access asks the mod. -/
def isVisible (key : Key) (setting : SettingInfo) :
    Flow Session (Except SessionError Bool) := do
  let s ← Flow.get
  match setting.access.visible? s.shared.registry.inWorld with
  | some visible => return .ok visible
  | none => withCaller key fun caller ctx => caller.visible ctx setting

/-- Answers what a widget brings.  Signals are none of a widget's business. -/
def answerWidget (key : Key) : (event : Event) → Flow Session (Except SessionError event.Answer)
  | .signal _ => return .ok ()
  | .button name index => pressButton key name index
  | .inputEdit input text caret => editInput key input text caret
  | .caretMove input text caret anchor => moveCaret key input text caret anchor
  | .sliderText slider value => sliderText key slider value
  | .visibility setting _ => isVisible key setting

end Session

end ModSettings
