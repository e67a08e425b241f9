/-
What sessions keep between loading and unloading.

A session is ruled by a conduct when its catalog and the hooks of its callers
obey.  Then every operation but loading, unloading and shutting down leaves the
catalog, the callers' keys and the order of the mods alone, changes the shared
state only as the conduct allows and runs hooks of loaded mods only.  These are
allowed things of a conduct of its own, so what is said of one hook carries over
to broadcasts and to operations.
-/
import ModSettings.Proofs.Registry.Attachments
import ModSettings.Proofs.Session.Run

namespace ModSettings

variable {c : Conduct Shared}

namespace Session

/-- The code that the session can run obeys, and callers are stored under their
own keys. -/
structure Ruled (c : Conduct Shared) (s : Session) : Prop where
  catalog : s.catalog.Obeys c
  hooks : ∀ k caller, s.callers.get? k = some caller → caller.hooks.Obeys c
  own : ∀ k caller, s.callers.get? k = some caller → caller.key = k

/-- No mod was loaded or unloaded, and the shared state changed as allowed. -/
structure Calm (c : Conduct Shared) (s s' : Session) : Prop where
  shared : c.allows s.shared s'.shared
  catalog : s'.catalog = s.catalog
  order : s'.order = s.order
  keys : s'.callers.keys = s.callers.keys

theorem Calm.refl (s : Session) : s.Calm c s := ⟨c.refl s.shared, rfl, rfl, rfl⟩

theorem Calm.trans {s s' s'' : Session} (h : s.Calm c s') (h' : s'.Calm c s'') : s.Calm c s'' where
  shared := c.trans h.shared h'.shared
  catalog := h'.catalog.trans h.catalog
  order := h'.order.trans h.order
  keys := h'.keys.trans h.keys

/-- An entry tells of no hook unless a loaded mod's, which saw an allowed
state. -/
def Tells (c : Conduct Shared) (s : Session) (e : Entry) : Prop :=
  c.writes s.shared e ∨
    ∀ k event seen, e = .entered k event seen → k ∈ s.callers.keys ∧ c.allows s.shared seen

theorem Tells.of_calm {s s' : Session} {e : Entry} (calm : s.Calm c s') (h : s'.Tells c e) :
    s.Tells c e :=
  h.imp (c.writes_trans calm.shared) fun began k event seen same =>
    ⟨calm.keys ▸ (began k event seen same).1, c.trans calm.shared (began k event seen same).2⟩

end Session

/-- What a ruled session may do while no mod is loaded or unloaded. -/
def Conduct.onSession (c : Conduct Shared) : Conduct Session where
  allows s s' := s.Ruled c → s.Calm c s' ∧ s'.Ruled c
  writes s e := s.Ruled c → s.Tells c e
  refl s ruled := ⟨.refl s, ruled⟩
  trans h h' ruled :=
    have first := h ruled
    have second := h' first.2
    ⟨first.1.trans second.1, second.2⟩
  writes_trans h h' ruled :=
    have first := h ruled
    (h' first.2).of_calm first.1

namespace Session

variable {α : Type}

theorem obeys_modify {f : Session → Session} (shared : ∀ s, (f s).shared = s.shared)
    (catalog : ∀ s, (f s).catalog = s.catalog) (order : ∀ s, (f s).order = s.order)
    (callers : ∀ s, (f s).callers = s.callers) : (Flow.modify f).Obeys c.onSession := by
  refine fun s => ⟨fun ruled => ⟨⟨?_, catalog s, order s, ?_⟩, ?_, ?_, ?_⟩, nofun⟩
  · show c.allows s.shared (f s).shared
    rw [shared]
    exact c.refl s.shared
  · show (f s).callers.keys = _
    rw [callers]
  · show (f s).catalog.Obeys c
    rw [catalog]
    exact ruled.catalog
  · show ∀ k caller, (f s).callers.get? k = some caller → _
    rw [callers]
    exact ruled.hooks
  · show ∀ k caller, (f s).callers.get? k = some caller → _
    rw [callers]
    exact ruled.own

theorem obeys_onShared {m : Flow Shared α} (h : m.Obeys c) : (onShared m).Obeys c.onSession := by
  intro s
  refine ⟨fun ruled => ?_, fun e member _ => Or.inl ((h s.shared).journal e member)⟩
  exact ⟨⟨(h s.shared).state, rfl, rfl, rfl⟩, ruled.catalog, ruled.hooks, ruled.own⟩

/-- What a caller may do its session may do. -/
theorem obeys_withCaller {f : Caller → Context → Flow Shared (α × Caller)} (key : Key)
    (obeys : ∀ caller ctx, caller.hooks.Obeys c → ctx.catalog.Obeys c →
      (f caller ctx).Obeys (c.ofCaller caller.key))
    (kept : ∀ (caller : Caller) ctx s, caller.Kept (f caller ctx s).value.2) :
    (withCaller key f).Obeys c.onSession := by
  intro s
  unfold withCaller
  cases found : s.callers.get? key with
  | none => exact ⟨fun ruled => ⟨.refl s, ruled⟩, nofun⟩
  | some caller =>
    let ctx : Context := { key, catalog := s.catalog }
    have ran (ruled : s.Ruled c) := obeys caller ctx (ruled.hooks key caller found)
      ruled.catalog s.shared
    have stays := kept caller ctx s.shared
    have replaced (k : Key) (caller' : Caller)
        (h : (s.callers.replace key (f caller ctx s.shared).value.2).get? k = some caller') :
        ∃ old, s.callers.get? k = some old ∧ old.Kept caller' := by
      rw [Attachments.get?_replace] at h
      by_cases here : k = key
      · rw [if_pos here, here, found] at h
        cases h
        exact ⟨caller, here ▸ found, stays⟩
      · rw [if_neg here] at h
        exact ⟨caller', h, .refl caller'⟩
    refine ⟨fun ruled => ⟨⟨(ran ruled).state, rfl, rfl, ?_⟩, ruled.catalog, ?_, ?_⟩, ?_⟩
    · exact Attachments.keys_replace _ _ _
    · intro k caller' h
      obtain ⟨old, before, same⟩ := replaced k caller' h
      exact same.obeys (ruled.hooks k old before)
    · intro k caller' h
      obtain ⟨old, before, same⟩ := replaced k caller' h
      exact same.key.trans (ruled.own k old before)
    · intro e member ruled
      refine ((ran ruled).journal e member).imp id fun began k event seen same => ?_
      obtain ⟨rfl, allowed⟩ := began k event seen same
      refine ⟨Attachments.mem_keys.mpr ⟨caller, ?_⟩, allowed⟩
      rw [ruled.own key caller found]
      exact found

theorem obeys_deliver (key : Key) (event : Event) : (deliver key event).Obeys c.onSession :=
  obeys_withCaller key (fun _ _ hooks catalog => Caller.obeys_deliver hooks catalog event)
    fun _ ctx s => Caller.kept_deliver ctx event s

theorem obeys_signalTo (menu : Menu) {signal : Signal} (passing : signal.isPassing = true)
    (key : Key) : (signalTo menu signal key).Obeys c.onSession := by
  refine Flow.obeys_bind (obeys_withCaller key (fun caller ctx hooks catalog => ?_)
    fun _ ctx s => Caller.kept_signal ctx menu signal s) fun _ => Flow.obeys_pure _
  exact Flow.obeys_bind (Caller.obeys_signal hooks catalog menu passing) fun _ =>
    Flow.obeys_pure _

theorem obeys_broadcast (menu : Menu) {signal : Signal} (passing : signal.isPassing = true) :
    (broadcast menu signal).Obeys c.onSession :=
  Flow.obeys_bind Flow.obeys_get fun s =>
    Flow.obeys_forEach (obeys_signalTo menu passing) s.order

/-! ## Operations that load nothing -/

theorem obeys_answerWidget {C : Conduct Session} (key : Key) (event : Event)
    (delivers : ∀ event, (deliver key event).Obeys C)
    (asks : ∀ setting, (withCaller key fun caller ctx => caller.visible ctx setting).Obeys C) :
    (answerWidget key event).Obeys C := by
  cases event with
  | signal s => exact Flow.obeys_pure _
  | button name index => exact delivers _
  | inputEdit input text caret => exact delivers _
  | caretMove input text caret anchor => exact delivers _
  | sliderText slider value =>
    show (sliderText key slider value).Obeys C
    unfold sliderText
    cases slider.display with
    | custom => exact delivers _
    | _ => exact Flow.obeys_pure _
  | visibility setting inWorld =>
    refine Flow.obeys_bind Flow.obeys_get fun s => ?_
    cases setting.access.visible? s.shared.registry.inWorld with
    | some visible => exact Flow.obeys_pure _
    | none => exact asks setting

end Session

def Operation.isLoad : Operation → Bool
  | load _ => true
  | _ => false

/-- The operation brings no mod in and takes none out. -/
def Operation.isPassing : Operation → Bool
  | load _ | unload _ | shutdown => false
  | _ => true

/-- What operations are made of that bring no mod in and take none out. -/
structure Session.Parts (C : Conduct Session) : Prop where
  menu : ∀ f : Session → Session,
    (∀ s, f s = { s with menuBuilt := (f s).menuBuilt, isOpen := (f s).isOpen }) →
      (Flow.modify f).Obeys C
  world : ∀ inWorld, (Session.onShared (Shared.setInWorld inWorld)).Obeys C
  signals : ∀ menu sent key, sent.isPassing = true → (Session.signalTo menu sent key).Obeys C
  delivers : ∀ key event, (Session.deliver key event).Obeys C
  asks : ∀ key setting,
    (Session.withCaller key fun caller ctx => caller.visible ctx setting).Obeys C

theorem Session.Parts.obeys_perform {C : Conduct Session} (parts : Session.Parts C)
    {op : Operation} (h : op.isPassing = true) : op.perform.Obeys C := by
  have all (menu : Menu) {sent : Signal} (passing : sent.isPassing = true) :
      (Session.broadcast menu sent).Obeys C :=
    Flow.obeys_bind Flow.obeys_get fun s =>
      Flow.obeys_forEach (fun key => parts.signals menu sent key passing) s.order
  cases op with
  | openMenu menu =>
    have opens : (do
        Flow.modify fun s : Session => { s with isOpen := true }
        Session.broadcast menu .menuOpen : Flow Session Unit).Obeys C :=
      Flow.obeys_bind (parts.menu _ fun _ => rfl) fun _ => all menu rfl
    refine Flow.obeys_bind Flow.obeys_get fun s => ?_
    cases s.menuBuilt with
    | true => exact opens
    | false =>
      exact Flow.obeys_bind (all menu rfl) fun _ =>
        Flow.obeys_bind (parts.menu _ fun _ => rfl) fun _ => opens
  | closeMenu menu =>
    refine Flow.obeys_bind Flow.obeys_get fun s => ?_
    cases s.isOpen with
    | false => exact Flow.obeys_pure _
    | true => exact Flow.obeys_bind (parts.menu _ fun _ => rfl) fun _ => all menu rfl
  | enterWorld menu => exact Flow.obeys_bind (parts.world true) fun _ => all menu rfl
  | exitWorld menu => exact Flow.obeys_bind (parts.world false) fun _ => all menu rfl
  | widget key event =>
    exact Session.obeys_answerWidget key event (parts.delivers key) (parts.asks key)
  | _ => exact absurd h Bool.false_ne_true

theorem Operation.obeys_perform (lenient : c.Lenient) {op : Operation} (h : op.isPassing = true) :
    op.perform.Obeys c.onSession := by
  refine Session.Parts.obeys_perform ?_ h
  exact
    { menu := fun f rest => Session.obeys_modify (fun s => by rw [rest]) (fun s => by rw [rest])
        (fun s => by rw [rest]) fun s => by rw [rest]
      world := fun inWorld => Session.obeys_onShared (Native.obeys_setInWorld lenient inWorld)
      signals := fun menu _ key passing => Session.obeys_signalTo menu passing key
      delivers := Session.obeys_deliver
      asks := fun key setting => Session.obeys_withCaller key
        (fun _ _ hooks catalog => Caller.obeys_visible hooks catalog setting)
        fun _ ctx s => Caller.kept_visible ctx setting s }

end ModSettings
