/-
Late-bound calls of stubs from the hooks of a mod.

Stubs are found and patched on the class that a mod keeps its hooks on.  A
late-bound call goes by the class of its receiver, and instance hooks are given
one that stands for that class: an object of it or, where the class derives from
`Mod`, the handle of the mod.  Late binding reads a handle of a mod as the mod's
main class, whatever class the hooks are on.  And what it finds is entered as any
method is: an assembly may declare the classes of the API, but their methods are
the catalog's.  `callVirtual_receiver` says what comes of that: a call of a patched
stub runs its adapter unless the hooks are on a mod class other than the main class
and the main class has a method of its own for the stub, or the stub is declared on
a class of the API.
-/
import ModSettings.Proofs.Bridge.Handles
import ModSettings.Proofs.Session.Loading

namespace ModSettings

/-! ## What the hooks of a mod run -/

namespace Descriptor

/-- The class that the hooks and stubs of a mod are taken from. -/
def home (d : Descriptor) : Ty :=
  match d.holder.resolve d.mainType with
  | .ok t => t
  | .error _ => d.mainType

def site (d : Descriptor) (s : Session) : Bridge.Site :=
  { modName := d.name, modType := d.mainType, holder := d.home, catalog := s.catalog,
    config := s.config.bridge }

/-- The bound methods of an assembly whose bridges are installed. -/
def table (d : Descriptor) (key : Key) (assembly : Assembly) (s : Session) : HookTable :=
  .ofHolder key (Bridge.install (d.site s) assembly).state d.home

end Descriptor

namespace Session

variable {s : Session} {d : Descriptor} {key : Key} {assembly : Assembly}

theorem value_chooseHooks (given : d.hooks = none) (brought : d.assembly = some assembly)
    (s : Session) : (chooseHooks d key s).value = (d.table key assembly s).hooks := by
  have home : (resolveHolder d s).value = d.home ∧ (resolveHolder d s).state = s := by
    unfold resolveHolder Descriptor.home
    cases d.holder.resolve d.mainType <;> exact ⟨rfl, rfl⟩
  have bound : (bindAssembly d key assembly s).value =
      (HookTable.ofHolder key (Bridge.install
        { d.site (resolveHolder d s).state with holder := (resolveHolder d s).value }
        assembly).state (resolveHolder d s).value).hooks := rfl
  rw [chooseHooks, given, brought]
  show (bindAssembly d key assembly s).value = _
  rw [bound, home.1, home.2]
  rfl

theorem value_prepare (given : d.hooks = none) (brought : d.assembly = some assembly)
    (s : Session) : (prepare d key s).value = (d.table key assembly s).hooks := by
  have declared := (declares_settings key d.settings s).state.1
  show (chooseHooks d key (Flow.forEach _ d.settings s).state).value = _
  rw [value_chooseHooks given brought, declared]
  rfl

/-- The event caller of a loaded mod runs these methods. -/
theorem exists_caller_load (given : d.hooks = none) (brought : d.assembly = some assembly)
    (sound : s.shared.registry.Sound) {opened : Registry}
    (accepted : s.shared.registry.register d.name d.mainType = .ok (key, opened)) :
    (load d s).value = .ok key ∧
      ∃ caller : Caller, (load d s).state.callers = s.callers.insert key caller ∧
        caller.hooks.handle = (d.table key assembly s).handle := by
  obtain ⟨bound, binds, _, _⟩ := Registry.exists_opened sound accepted
  have loaded := load_eq accepted binds
  have value : (prepare d key { s with shared := { s.shared with registry := bound } }).value =
      (d.table key assembly s).hooks := value_prepare given brought _
  have same :=
    (declares_prepare d key { s with shared := { s.shared with registry := bound } }).state.1
  revert loaded value same
  generalize prepare d key _ = ready
  intro loaded value same
  have callers : ready.state.callers = s.callers := by rw [same]
  rw [loaded]
  refine ⟨rfl, _, congrArg (fun t : Attachments Caller => t.insert key _) callers, ?_⟩
  rw [(Caller.kept_signal _ _ _ _).handle, Caller.ofHooks, value]
  rfl

end Session

/-! ## Late-bound calls on the receiver -/

/-- Where a call may still be opened, a late-bound call of the method on the
receiver of the hooks does this, and the body goes on with what it leaves. -/
def HookTable.CallDoes (t : HookTable) (catalog : Catalog) (c : Signature)
    (does : (room : Nat) → List Value → Exec Value) (now : Shared) : Prop :=
  ∀ (room : Nat) (method : Signature) (given : Array Value) (rest : List Instruction)
    (args below : List Value), args.length = c.params.length →
    let resume := Machine.runCode t.assembly
      ((Machine.mk t.assembly catalog).invokeWithin (room + 1)) method given
    resume (.callVirtual c :: rest) (args.reverse ++ t.receiver :: below) now =
      (does room (t.receiver :: args) >>= fun result =>
        resume rest (if c.result.isVoid then below else result :: below)) now

/-- The call runs that code as the method's body. -/
def HookTable.CallRuns (t : HookTable) (catalog : Catalog) (c : Signature)
    (code : List Instruction) (now : Shared) : Prop :=
  t.CallDoes catalog c (fun room args =>
    (Machine.runCode t.assembly ((Machine.mk t.assembly catalog).invokeWithin room) c
      args.toArray code []).mapError (·.within c)) now

/-- The call runs the catalog's method of that signature, if there is one. -/
def HookTable.CallAsks (t : HookTable) (catalog : Catalog) (c : Signature) (now : Shared) : Prop :=
  t.CallDoes catalog c (fun _ => catalog.perform c) now

section

variable {t : HookTable} {c : Signature} {now : Shared} (catalog : Catalog)
  (isInstance : c.isStatic = false)
  (found : ∀ args, Machine.resolve t.assembly now.registry c (t.receiver :: args) = c)
include isInstance found

/-- Once it is known what a late-bound call finds, it does what entering that
method does. -/
theorem HookTable.callDoes {does : (room : Nat) → List Value → Exec Value}
    (enters : ∀ room args, args.length = c.arity →
      (Machine.mk t.assembly catalog).invokeWithin (room + 1) c args = does room args) :
    t.CallDoes catalog c does now := by
  intro room method given rest args below count resume
  let stack := args.reverse ++ t.receiver :: below
  have arity : c.arity = args.reverse.length + 1 := by
    rw [Signature.arity, isInstance, List.length_reverse, count]
    rfl
  have enough : ¬stack.length < c.arity := by
    rw [arity, List.length_append, List.length_cons]
    omega
  have passed : (stack.take c.arity).reverse = t.receiver :: args := by
    rw [arity, List.take_length_add_append]
    simp
  have left : stack.drop c.arity = below := by
    rw [arity, List.drop_length_add_append]
    rfl
  have all : (t.receiver :: args).length = c.arity := by
    rw [arity, List.length_reverse, List.length_cons]
  have asks : (Run.get : Exec Shared) now = ⟨.ok now, now, []⟩ := rfl
  show Machine.runCode t.assembly _ method given (.callVirtual c :: rest) stack now = _
  rw [Machine.runCode_callVirtual, if_neg enough, Run.bind_still asks, passed, found,
    Machine.passOn, passed, left, enters room _ all]

theorem HookTable.callRuns {code : List Instruction} (foreign : c.isApi = false)
    (body : (t.assembly.method? c).map Method.body = some (.code code)) :
    t.CallRuns catalog c code now :=
  callDoes catalog isInstance found fun room _ all =>
    Machine.invokeWithin_code all foreign body room

theorem HookTable.callAsks (api : c.isApi = true) : t.CallAsks catalog c now :=
  callDoes catalog isInstance found fun room _ all => Machine.invokeWithin_api all api room

end

section

variable {site : Bridge.Site} {a : Assembly} {c : Signature} {b : Binding} {key : Key}

/-- Late binding on the receiver of the hooks keeps to a patched stub unless the
receiver stands for another class and that class has another method for it. -/
theorem resolve_receiver (patched : Bridge.Patched site a c b) (isInstance : c.isStatic = false)
    {r : Registry} {main : Ty} (registered : r.mainType? key = some main) (args : List Value) :
    let t := HookTable.ofHolder key (Bridge.install site a).state site.holder
    Machine.resolve t.assembly r c (t.receiver :: args) = c ↔
      (site.holder.isModHandle = true → site.holder ≠ main →
        ∀ found, a.resolveVirtual? main c = some found → found = c) := by
  intro t
  have late (runtime : Ty) : t.assembly.resolveVirtual? runtime c = a.resolveVirtual? runtime c :=
    Assembly.resolveVirtual?_congr (Bridge.outline_install site a) runtime c
  have found := patched.resolveVirtual? isInstance
  have dynamic : ¬c.isStatic = true := by rw [isInstance]; exact Bool.false_ne_true
  rw [Machine.resolve, if_neg dynamic, List.head?_cons, Option.bind_some]
  by_cases handle : site.holder.isModHandle = true
  · have receiver : t.receiver = .mod key := if_pos handle
    rw [receiver, Machine.runtimeClass?, registered, Option.bind_some, late]
    by_cases own : site.holder = main
    · rw [← own, found]
      exact ⟨fun _ _ other => absurd rfl other, fun _ => rfl⟩
    · cases bound : a.resolveVirtual? main c with
      | none => exact ⟨fun _ _ _ m none => (Option.some_ne_none m none.symm).elim, fun _ => rfl⟩
      | some m =>
        refine ⟨fun same _ _ _ equal => ?_, fun only => only handle own m rfl⟩
        cases equal
        exact same
  · have receiver : t.receiver = .object site.holder := if_neg handle
    rw [receiver, Machine.runtimeClass?, Option.bind_some, late, found]
    exact ⟨fun _ isMod => absurd isMod handle, fun _ => rfl⟩

end

namespace Session

/-- While a mod that was loaded with an assembly is not removed, a late-bound call
of a patched stub on the receiver of the mod's hooks finds the stub itself, and
then it runs the adapter, or asks the catalog where the stub is declared on a class
of the API.  It may find another method only if the hooks are on a class that
derives from `Mod` and is not the mod's main class: the receiver is the handle of
the mod then, and the main class has the first say. -/
theorem callVirtual_receiver {s : Session} {d : Descriptor} {assembly : Assembly}
    (given : d.hooks = none) (brought : d.assembly = some assembly)
    (enabled : s.config.bridge.enabled = true) (past : s.shared.registry.Reached)
    {key : Key} {opened : Registry}
    (accepted : s.shared.registry.register d.name d.mainType = .ok (key, opened))
    (now : Shared) (stays : opened.Retains key now.registry) {c : Signature} {b : Binding}
    (patched : Bridge.Patched (d.site s) assembly c b) (isInstance : c.isStatic = false) :
    let t := d.table key assembly s
    let keeps := t.holder.isModHandle = true → t.holder ≠ d.mainType →
      ∀ found, assembly.resolveVirtual? d.mainType c = some found → found = c
    ((load d s).value = .ok key ∧
      ∃ caller : Caller, (load d s).state.callers = s.callers.insert key caller ∧
        caller.hooks.handle = t.handle) ∧
    (∀ args, Machine.resolve t.assembly now.registry c (t.receiver :: args) = c ↔ keeps) ∧
    (keeps → ∃ code, Bridge.synthesize b d.mainType = .ok code ∧
      ∀ catalog,
        (c.isApi = false → t.CallRuns catalog c
          (code.map (Bridge.promoteInstruction (Bridge.promoted (d.site s) assembly))) now) ∧
        (c.isApi = true → t.CallAsks catalog c now)) := by
  intro t keeps
  have resolves (args : List Value) :
      Machine.resolve t.assembly now.registry c (t.receiver :: args) = c ↔ keeps :=
    resolve_receiver patched isInstance (stays.mainType?_eq past.sound accepted) args
  refine ⟨exists_caller_load given brought past.sound accepted, resolves, fun keeps => ?_⟩
  obtain ⟨code, synthesized, body⟩ := patched.body_install isInstance enabled
  have found (args : List Value) := (resolves args).mpr keeps
  exact ⟨code, synthesized, fun catalog =>
    ⟨fun foreign => HookTable.callRuns catalog isInstance found foreign body,
      HookTable.callAsks catalog isInstance found⟩⟩

open Bridge (inWorldOn inWorldBinding sampleHome sampleHeir sampleHeirs patched_sampleHeirs)

def sampleHeirsMod (holder : Holder) : Descriptor where
  name := "Heirs"
  displayName := "Heirs"
  mainType := sampleHeir
  assembly := some sampleHeirs
  holder := holder

/-- With its hooks on the main class, the mod reaches the adapter. -/
theorem callVirtual_receiver_sample : let s : Session := { config := {}, catalog := .standard }
    let t := (sampleHeirsMod .mainClass).table (.entry 1 1) sampleHeirs s
    ∃ opened, s.shared.registry.register "Heirs" sampleHeir = .ok (.entry 1 1, opened) ∧
      Machine.resolve t.assembly opened (inWorldOn sampleHeir) [t.receiver] =
        inWorldOn sampleHeir ∧
      t.CallRuns .standard (inWorldOn sampleHeir)
        [.call (inWorldBinding sampleHeir).target, .ret] { registry := opened } := by
  intro s t
  obtain ⟨opened, accepted⟩ :
      ∃ opened, s.shared.registry.register "Heirs" sampleHeir = .ok (.entry 1 1, opened) :=
    ⟨_, rfl⟩
  obtain ⟨_, resolves, runs⟩ := callVirtual_receiver (d := sampleHeirsMod .mainClass) (s := s) rfl
    rfl rfl .empty accepted { registry := opened } .refl (patched_sampleHeirs _ rfl (.inr rfl)) rfl
  have own : (sampleHeirsMod .mainClass).home = sampleHeir := rfl
  obtain ⟨code, synthesized, run⟩ := runs fun _ other => absurd own other
  obtain rfl : [.call (inWorldBinding sampleHeir).target, .ret] = code :=
    Except.ok.inj synthesized
  exact ⟨opened, accepted, (resolves []).mpr fun _ other => absurd own other,
    (run .standard).1 rfl⟩

/-- With its hooks on the class above the main class, the mod reaches the stub of
the main class instead of the patched one. -/
theorem resolve_sampleHeirs {opened : Registry}
    (accepted : Registry.register {} "Heirs" sampleHeir = .ok (.entry 1 1, opened)) :
    let t := (sampleHeirsMod (.instanceOf sampleHome)).table (.entry 1 1) sampleHeirs
      { config := {}, catalog := .standard }
    Machine.resolve t.assembly opened (inWorldOn sampleHome) [t.receiver] =
      inWorldOn sampleHeir := by
  intro t
  have registered : opened.mainType? (.entry 1 1) = some sampleHeir :=
    Registry.Retains.mainType?_eq Registry.sound_empty accepted .refl
  have outline : t.assembly.outline = sampleHeirs.outline := Bridge.outline_install _ _
  have dynamic : ¬(inWorldOn sampleHome).isStatic = true := Bool.false_ne_true
  have receiver : t.receiver = .mod (.entry 1 1) := rfl
  rw [Machine.resolve_congr outline, Machine.resolve, if_neg dynamic, receiver,
    List.head?_cons, Option.bind_some, Machine.runtimeClass?, registered]
  rfl

def sampleListener : Ty := .cls "Listener" (some .eventCaller) [] .concrete true

/-- The stub is declared on a class of the API. -/
def sampleListeners : Assembly :=
  { name := "Listeners"
    classes := [
      { type := .eventCaller
        declarations := [{ name := hookMark ++ "IsInWorld", result := .bool }] },
      { type := sampleListener, declarations := [] }] }

def sampleListenersMod : Descriptor where
  name := "Listeners"
  displayName := "Listeners"
  mainType := sampleHome
  assembly := some sampleListeners
  holder := .instanceOf sampleListener

theorem patched_sampleListeners (site : Bridge.Site) (catalog : site.catalog = .standard)
    (h : site.holder = sampleListener) :
    Bridge.Patched site sampleListeners (inWorldOn .eventCaller) (inWorldBinding .eventCaller) := by
  have declared : (sampleListeners.hierarchy sampleListener).flatMap (·.methods) =
      [{ signature := inWorldOn .eventCaller, body := .missing }] := rfl
  have only : sampleListeners.stubs site.holder =
      [{ holder := site.holder, method := inWorldOn .eventCaller }] := by
    rw [h, Assembly.stubs, declared]
    simp [Assembly.addStub, Bridge.isStubName_inWorld, inWorldOn]
  exact Bridge.patched_inWorldOn site catalog only rfl

/-- With its hooks on a class that derives from `EventCaller`, the mod reaches the
patched stub, but the call is the catalog's, which has no such method. -/
theorem callDoes_sampleListeners (now : Shared) :
    let t := sampleListenersMod.table (.entry 1 1) sampleListeners
      { config := {}, catalog := .standard }
    Machine.resolve t.assembly now.registry (inWorldOn .eventCaller) [t.receiver] =
        inWorldOn .eventCaller ∧
      t.CallDoes .standard (inWorldOn .eventCaller)
        (fun _ _ => .fail (.unresolvedMethod (inWorldOn .eventCaller).text)) now := by
  intro t
  have found (args : List Value) : Machine.resolve t.assembly now.registry
      (inWorldOn .eventCaller) (t.receiver :: args) = inWorldOn .eventCaller := by
    have outline : t.assembly.outline = sampleListeners.outline := Bridge.outline_install _ _
    rw [Machine.resolve_congr outline]
    rfl
  exact ⟨found [], HookTable.callAsks .standard rfl found rfl⟩

/-- A late-bound call of a patched stub can miss the adapter in two ways: it finds
another method, or what it finds is the catalog's. -/
theorem callVirtual_astray : let s : Session := { config := {}, catalog := .standard }
    (let d := sampleHeirsMod (.instanceOf sampleHome)
      let t := d.table (.entry 1 1) sampleHeirs s
      (load d s).value = .ok (.entry 1 1) ∧
        Bridge.Patched (d.site s) sampleHeirs (inWorldOn sampleHome)
          (inWorldBinding sampleHome) ∧
        ∃ opened, s.shared.registry.register d.name d.mainType = .ok (.entry 1 1, opened) ∧
          Machine.resolve t.assembly opened (inWorldOn sampleHome) [t.receiver] =
            inWorldOn sampleHeir ∧
          inWorldOn sampleHeir ≠ inWorldOn sampleHome) ∧
    let d := sampleListenersMod
    let t := d.table (.entry 1 1) sampleListeners s
    (load d s).value = .ok (.entry 1 1) ∧
      Bridge.Patched (d.site s) sampleListeners (inWorldOn .eventCaller)
        (inWorldBinding .eventCaller) ∧
      ∃ opened, s.shared.registry.register d.name d.mainType = .ok (.entry 1 1, opened) ∧
        Machine.resolve t.assembly opened (inWorldOn .eventCaller) [t.receiver] =
          inWorldOn .eventCaller ∧
        t.CallDoes .standard (inWorldOn .eventCaller)
          (fun _ _ => .fail (.unresolvedMethod (inWorldOn .eventCaller).text))
          { registry := opened } := by
  intro s
  have other : inWorldOn sampleHeir ≠ inWorldOn sampleHome := fun same =>
    absurd (congrArg (·.owner.text) same : sampleHeir.text = sampleHome.text) (by decide)
  refine ⟨?_, ?_⟩
  · intro d t
    obtain ⟨opened, accepted⟩ :
        ∃ opened, s.shared.registry.register d.name d.mainType = .ok (.entry 1 1, opened) :=
      ⟨_, rfl⟩
    have loaded := (exists_caller_load rfl rfl Registry.sound_empty accepted).1
    exact ⟨loaded, patched_sampleHeirs (d.site s) rfl (.inl rfl), opened, accepted,
      resolve_sampleHeirs accepted, other⟩
  · intro d t
    obtain ⟨opened, accepted⟩ :
        ∃ opened, s.shared.registry.register d.name d.mainType = .ok (.entry 1 1, opened) :=
      ⟨_, rfl⟩
    have loaded := (exists_caller_load rfl rfl Registry.sound_empty accepted).1
    exact ⟨loaded, patched_sampleListeners (d.site s) rfl rfl, opened, accepted,
      callDoes_sampleListeners { registry := opened }⟩

end Session

end ModSettings
