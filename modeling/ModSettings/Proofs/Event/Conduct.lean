/-
Hooks that obey, and the callers that run them.

Hooks obey a conduct when handling any event they do what is allowed, given a
catalog that does.  The hooks of an assembly do so if the native bodies of the
assembly do.  A caller then does what is allowed as well, and it is the caller
that writes when a hook began and what the hook could see.
-/
import ModSettings.Event.AssemblyHooks
import ModSettings.Event.Caller
import ModSettings.Event.Script
import ModSettings.Proofs.Exec.Conduct

namespace ModSettings

/-- What a hook may do at its desk: anything to its own memory. -/
def Conduct.onDesk (c : Conduct Shared) : Conduct Desk where
  allows d d' := c.allows d.shared d'.shared
  writes d e := c.writes d.shared e
  refl d := c.refl d.shared
  trans h h' := c.trans h h'
  writes_trans h h' := c.writes_trans h h'

/-- Next to a catalog that obeys the hooks do what is allowed. -/
def Hooks.Obeys (c : Conduct Shared) (h : Hooks) : Prop :=
  ∀ ctx : Context, ctx.catalog.Obeys c → ∀ event, Flow.Obeys c.onDesk (h.handle ctx event)

variable {c : Conduct Shared}

theorem Flow.obeys_asHook {α : Type} {m : Flow Shared α} (h : m.Obeys c) :
    Flow.Obeys c.onDesk m.asHook := fun desk => ⟨(h desk.shared).state, (h desk.shared).journal⟩

theorem Exec.obeys_asHook {α : Type} {m : Exec α} (h : Flow.Obeys c m) :
    Flow.Obeys c.onDesk m.asHook := fun desk => ⟨(h desk.shared).state, (h desk.shared).journal⟩

/-! ## Ways to make hooks -/

namespace Hooks

theorem obeys_idle (capabilities : Capabilities) : (idle capabilities).Obeys c :=
  fun _ _ _ => Flow.obeys_pure _

end Hooks

namespace HookTable

theorem answer_logs (method : Signature) (result : Value) (event : Event) :
    ∀ e ∈ (answer method result event).2, ∃ level message, e = .log level message := by
  intro e member
  unfold answer at member
  cases event with
  | visibility setting inWorld =>
    dsimp only at member
    split at member
    · exact nomatch member
    · exact ⟨_, _, List.mem_singleton.mp member⟩
  | inputEdit input text caret =>
    dsimp only at member
    split at member
    · exact nomatch member
    · exact ⟨_, _, List.mem_singleton.mp member⟩
  | _ => exact nomatch member

theorem obeys_hooks (lenient : c.Lenient) {t : HookTable} (h : t.assembly.Obeys c) :
    t.hooks.Obeys c := by
  intro ctx catalog event
  show Flow.Obeys c.onDesk (t.handle ctx event)
  unfold handle
  cases t.call? event with
  | none => exact Flow.obeys_pure _
  | some call =>
    have invoked : Flow.Obeys c ((Machine.mk t.assembly ctx.catalog).invoke call.1
        (t.withReceiver call.1 call.2)) := Machine.obeys_invokeWithin h catalog _ _ _
    refine Run.obeys_bind (Exec.obeys_asHook invoked) fun result => ?_
    refine Run.obeys_bind (Run.obeys_ofFlow fun desk => ⟨c.refl _, fun e member => ?_⟩) fun _ =>
      Flow.obeys_pure _
    obtain ⟨level, message, rfl⟩ := answer_logs _ _ _ e member
    exact lenient.logs _ level message

end HookTable

theorem Assembly.obeys_empty (name : String) : (Assembly.empty name).Obeys c := nofun

theorem Action.obeys_run (lenient : c.Lenient) (action : Action) {ctx : Context}
    (catalog : ctx.catalog.Obeys c) (event : Event) :
    Flow.Obeys c.onDesk (action.run ctx event) := by
  have note (line : String) : Flow.Obeys c.onDesk (Run.note line : HookRun Unit) :=
    Run.obeys_ofFlow (Flow.obeys_write fun desk => lenient.notes desk.shared line)
  cases action with
  | leave => exact Flow.obeys_pure _
  | reply r => exact Flow.obeys_pure _
  | fail e => exact Flow.obeys_pure _
  | abort p => exact Flow.obeys_pure _
  | assign name value =>
    exact Run.obeys_bind (Flow.obeys_asHook (Native.obeys_setSetting lenient _ _ _)) fun _ =>
      Run.obeys_bind (Run.obeys_ofExcept _) fun _ => Flow.obeys_pure _
  | call method args =>
    have invoked : Flow.Obeys c ((Machine.mk (.empty "") ctx.catalog).invoke method args) :=
      Machine.obeys_invokeWithin (Assembly.obeys_empty "") catalog _ _ _
    exact Run.obeys_bind (Exec.obeys_asHook invoked) fun _ =>
      Run.obeys_bind (note _) fun _ => Flow.obeys_pure _

theorem Hooks.obeys_scripted (lenient : c.Lenient) (capabilities : Capabilities)
    (script : EventKind → Action) : (Hooks.scripted capabilities script).Obeys c := by
  intro ctx catalog event
  refine Run.obeys_bind Run.obeys_get fun desk => Run.obeys_bind ?_ fun _ =>
    Action.obeys_run lenient _ catalog event
  exact Run.obeys_ofFlow (Flow.obeys_write fun desk => lenient.notes desk.shared _)

/-! ## Callers -/

/-- The signals that do not tell a mod of its loading or unloading. -/
def Signal.isPassing : Signal → Bool
  | .load | .unload => false
  | _ => true

/-- What the caller of a mod may do to the shared state: what its hooks may do,
and write when they began. -/
def Conduct.ofCaller (c : Conduct Shared) (key : Key) : Conduct Shared where
  allows := c.allows
  writes s e := c.writes s e ∨
    ∀ k event seen, e = .entered k event seen → k = key ∧ c.allows s seen
  refl := c.refl
  trans := c.trans
  writes_trans h h' := h'.imp (c.writes_trans h) fun began k event seen same =>
    ⟨(began k event seen same).1, c.trans h (began k event seen same).2⟩

/-- The caller after it handled an event: it may remember something new. -/
structure Caller.Kept (a b : Caller) : Prop where
  key : b.key = a.key
  handle : b.hooks.handle = a.hooks.handle

namespace Caller

variable {a : Caller}

theorem Kept.refl (a : Caller) : a.Kept a := ⟨rfl, rfl⟩

theorem Kept.obeys {a b : Caller} (h : a.Kept b) (obeys : a.hooks.Obeys c) : b.hooks.Obeys c := by
  intro ctx catalog event
  rw [h.handle]
  exact obeys ctx catalog event

section

variable {ctx : Context} (obeys : a.hooks.Obeys c) (catalog : ctx.catalog.Obeys c)

theorem writes_of_ne {s : Shared} {key : Key} {e : Entry}
    (h : ∀ k event seen, e ≠ .entered k event seen) : (c.ofCaller key).writes s e :=
  Or.inr fun k event seen same => absurd same (h k event seen)

include obeys catalog in
theorem obeys_runHook (event : Event) : (a.runHook ctx event).Obeys (c.ofCaller a.key) := by
  intro s
  have ran := obeys ctx catalog event { shared := s, memory := a.hooks.memory }
  have began : (c.ofCaller a.key).writes s (.entered a.key event s) := by
    refine Or.inr fun k _ seen same => ?_
    cases same
    exact ⟨rfl, c.refl s⟩
  have inner : ∀ e ∈ (a.hooks.handle ctx event { shared := s, memory := a.hooks.memory }).journal,
      (c.ofCaller a.key).writes s e := fun e member => Or.inl (ran.journal e member)
  have logged (level : Level) (message : String) :
      (c.ofCaller a.key).writes s (.log level message) := writes_of_ne nofun
  unfold runHook
  dsimp only
  split
  · exact ⟨ran.state, List.forall_mem_cons.mpr ⟨began, inner⟩⟩
  · exact ⟨ran.state, List.forall_mem_cons.mpr ⟨began, List.forall_mem_append.mpr
      ⟨inner, List.forall_mem_singleton.mpr (logged _ _)⟩⟩⟩
  · exact ⟨ran.state, List.forall_mem_cons.mpr ⟨began, List.forall_mem_append.mpr
      ⟨inner, List.forall_mem_singleton.mpr (logged _ _)⟩⟩⟩

theorem kept_runHook (ctx : Context) (event : Event) (s : Shared) :
    a.Kept (a.runHook ctx event s).value.2 := by
  unfold runHook
  dsimp only
  split <;> exact ⟨rfl, rfl⟩

include obeys catalog in
theorem obeys_answer (event : Event) : (a.answer ctx event).Obeys (c.ofCaller a.key) := by
  unfold answer
  split
  · exact Flow.obeys_bind (obeys_runHook obeys catalog event) fun _ => Flow.obeys_pure _
  · cases unboundMessage? event with
    | none => exact Flow.obeys_pure _
    | some message =>
      exact Flow.obeys_bind (Flow.obeys_write fun _ => writes_of_ne nofun) fun _ =>
        Flow.obeys_pure _

theorem kept_answer (ctx : Context) (event : Event) (s : Shared) :
    a.Kept (a.answer ctx event s).value.2 := by
  unfold answer
  split
  · exact kept_runHook ctx event s
  · cases unboundMessage? event <;> exact .refl a

include obeys catalog in
theorem obeys_deliver (event : Event) : (a.deliver ctx event).Obeys (c.ofCaller a.key) :=
  Flow.obeys_bind (Flow.obeys_write fun _ => writes_of_ne nofun) fun _ =>
    obeys_answer obeys catalog event

theorem kept_deliver (ctx : Context) (event : Event) (s : Shared) :
    a.Kept (a.deliver ctx event s).value.2 := kept_answer ctx event s

include obeys catalog in
theorem obeys_visible (setting : SettingInfo) :
    (a.visible ctx setting).Obeys (c.ofCaller a.key) :=
  Flow.obeys_bind Flow.obeys_get fun _ => obeys_deliver obeys catalog _

theorem kept_visible (ctx : Context) (setting : SettingInfo) (s : Shared) :
    a.Kept (a.visible ctx setting s).value.2 := kept_deliver ctx _ s

include obeys catalog in
theorem obeys_signal (menu : Menu) {signal : Signal} (passing : signal.isPassing = true) :
    (a.signal ctx menu signal).Obeys (c.ofCaller a.key) := by
  have prepared : (a.prepare menu signal).Obeys (c.ofCaller a.key) := by
    cases signal with
    | load => exact absurd passing Bool.false_ne_true
    | unload => exact absurd passing Bool.false_ne_true
    | menuCreate => cases menu <;> first
        | exact Flow.obeys_write fun _ => writes_of_ne nofun
        | exact Flow.obeys_pure ()
    | menuOpen => cases menu <;> first
        | exact Flow.obeys_write fun _ => writes_of_ne nofun
        | exact Flow.obeys_pure ()
    | _ => exact Flow.obeys_pure ()
  exact Flow.obeys_bind (Flow.obeys_write fun _ => writes_of_ne nofun) fun _ =>
    Flow.obeys_bind prepared fun _ =>
      Flow.obeys_bind (obeys_answer obeys catalog _) fun _ => Flow.obeys_pure _

include obeys catalog in
/-- A signal whose preparation leads to a state does what is allowed from
there. -/
theorem allowed_signal {menu : Menu} {sent : Signal} {s opened : Shared}
    (prepared : a.prepare menu sent s = ⟨(), opened, []⟩) :
    (a.signal ctx menu sent s).Allowed (c.ofCaller a.key) opened := by
  have answered := obeys_answer obeys catalog (.signal sent) opened
  have ran : a.signal ctx menu sent s =
      ⟨(a.answer ctx (.signal sent) opened).value.2, (a.answer ctx (.signal sent) opened).state,
        .delivered a.key sent.kind :: (a.answer ctx (.signal sent) opened).journal⟩ := by
    simp only [signal, Bind.bind, Flow.bind, Flow.write, prepared, Pure.pure, Flow.pure,
      List.append_nil, List.nil_append, List.singleton_append]
  rw [ran]
  exact ⟨answered.state, List.forall_mem_cons.mpr ⟨writes_of_ne nofun, answered.journal⟩⟩

theorem kept_signal (ctx : Context) (menu : Menu) (signal : Signal) (s : Shared) :
    a.Kept (a.signal ctx menu signal s).value := kept_answer ctx (.signal signal) _

end

end Caller

end ModSettings
