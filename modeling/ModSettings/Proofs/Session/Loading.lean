/-
What loading, unloading and shutting down do.

Between the first and the last change of a loading the mod's hook for it runs,
when the mod is registered, bound and flagged but not yet in the order of the
mods.  `Loads` tells what was done before, in the state called `opened`, and
after.  `Unloads` does so for unloading, where the hook runs when the caller has
been taken out and the flag cleared.  Shutting down is unloading all mods and
clearing the registry.
-/
import ModSettings.Proofs.Bridge.Install
import ModSettings.Proofs.Registry.History
import ModSettings.Proofs.Session.Conduct

namespace ModSettings

/-- The state stays, and messages are all that is written. -/
def Conduct.still (σ : Type) : Conduct σ where
  allows s s' := s' = s
  writes _ e := ∃ level message, e = .log level message
  refl _ := rfl
  trans h h' := h'.trans h
  writes_trans _ h := h

/-- Settings of the mod are declared, and messages are written. -/
def Conduct.declares (key : Key) : Conduct Session where
  allows s s' := s' = { s with shared := { s.shared with store := s'.shared.store } } ∧
    ∀ x ∈ s'.shared.store.settings,
      x.owner = key ∨ ∃ y ∈ s.shared.store.settings, y.owner = x.owner
  writes _ e := ∃ level message, e = .log level message
  refl _ := ⟨rfl, fun x member => Or.inr ⟨x, member, rfl⟩⟩
  trans := by
    rintro s s' s'' ⟨same, owners⟩ ⟨same', owners'⟩
    refine ⟨?_, fun x member => ?_⟩
    · rw [same', same]
    · rcases owners' x member with new | ⟨y, old, owner⟩
      · exact Or.inl new
      · rw [← owner]
        exact owners y old
  writes_trans _ h := h

namespace Session

variable {c : Conduct Shared} {s s' : Session} {d : Descriptor} {key : Key}

/-! ## Choosing hooks -/

theorem still_logFor (name : String) (level : Level) (message : String) :
    (logFor name level message).Obeys (.still Session) :=
  Flow.obeys_write fun _ => ⟨level, _, rfl⟩

theorem still_chooseHooks (d : Descriptor) (key : Key) :
    (chooseHooks d key).Obeys (.still Session) := by
  have holder : (resolveHolder d).Obeys (.still Session) := by
    unfold resolveHolder
    cases d.holder.resolve d.mainType with
    | ok t => exact Flow.obeys_pure t
    | error e => exact Flow.obeys_bind (still_logFor _ _ _) fun _ => Flow.obeys_pure _
  have bound (assembly : Assembly) : (bindAssembly d key assembly).Obeys (.still Session) := by
    refine Flow.obeys_bind holder fun t => Flow.obeys_bind Flow.obeys_get fun s => ?_
    refine Flow.obeys_bind (fun s => ⟨rfl, Bridge.logs_install _ _⟩) fun _ => ?_
    exact Flow.obeys_bind (Flow.obeys_write fun _ => ⟨_, _, rfl⟩) fun _ => Flow.obeys_pure _
  unfold chooseHooks
  cases d.hooks with
  | none =>
    cases d.assembly with
    | none => exact Flow.obeys_pure _
    | some assembly => exact bound assembly
  | some hooks =>
    cases d.assembly with
    | none => exact Flow.obeys_pure _
    | some assembly => exact Flow.obeys_bind (still_logFor _ _ _) fun _ => Flow.obeys_pure _

theorem obeys_chooseHooks (lenient : c.Lenient) (h : d.Obeys c) (key : Key) (s : Session) :
    (chooseHooks d key s).value.Obeys c := by
  unfold chooseHooks
  cases given : d.hooks with
  | none =>
    cases brought : d.assembly with
    | none => exact Hooks.obeys_idle _
    | some assembly =>
      exact HookTable.obeys_hooks lenient (Bridge.obeys_install (h.assembly assembly brought) _)
  | some hooks => cases d.assembly <;> exact h.hooks hooks given

/-! ## Loading -/

theorem declares_declare (key : Key) (name : String) (default : SettingValue) :
    (onShared (Shared.declare key name default)).Obeys (.declares key) := by
  intro s
  refine ⟨⟨rfl, fun x member => ?_⟩, List.forall_mem_singleton.mpr ⟨_, _, rfl⟩⟩
  rcases List.mem_append.mp member with old | new
  · exact Or.inr ⟨x, (List.mem_filter.mp old).1, rfl⟩
  · rw [List.mem_singleton.mp new]
    exact Or.inl rfl

theorem load_of_error {e : RegistryError}
    (h : s.shared.registry.register d.name d.mainType = .error e) :
    load d s = ⟨.error (.registry e), s, []⟩ := by
  simp only [load, Bind.bind, Flow.bind, onShared, Flow.zoom, Shared.register, h]
  rfl

theorem load_of_unbound {r : Registry} {e : RegistryError}
    (h : s.shared.registry.register d.name d.mainType = .ok (key, r))
    (unbound : r.bindCaller key = .error e) :
    load d s = ⟨.error (.registry e), { s with shared := { s.shared with registry := r } },
      [.log .debug ("Registered mod '" ++ d.name ++ "' as " ++ key.text)]⟩ := by
  simp only [load, Bind.bind, Flow.bind, onShared, Flow.zoom, Shared.register, h, Shared.bindCaller,
    unbound]
  rfl

/-- The part of loading between the binding of the caller and its first
message. -/
def prepare (d : Descriptor) (key : Key) : Flow Session Hooks := do
  Flow.forEach (fun (name, default) => onShared (Shared.declare key name default)) d.settings
  chooseHooks d key

theorem declares_settings (key : Key) (settings : List (String × SettingValue)) :
    (Flow.forEach (fun (name, default) => onShared (Shared.declare key name default))
      settings).Obeys (.declares key) :=
  Flow.obeys_forEach (fun (name, default) => declares_declare key name default) settings

theorem declares_prepare (d : Descriptor) (key : Key) :
    (prepare d key).Obeys (.declares key) := by
  refine Flow.obeys_bind (declares_settings key d.settings) fun _ s => ?_
  have still := still_chooseHooks d key s
  refine ⟨?_, still.journal⟩
  rw [show (chooseHooks d key s).state = s from still.state]
  exact (Conduct.declares key).refl s

theorem obeys_prepare (lenient : c.Lenient) (h : d.Obeys c) (key : Key) (s : Session) :
    (prepare d key s).value.Obeys c := obeys_chooseHooks lenient h key _

/-- A mod that is registered is bound and prepared, its hook is told, and at last
it joins the others. -/
theorem load_eq {r r' : Registry}
    (h : s.shared.registry.register d.name d.mainType = .ok (key, r))
    (bound : r.bindCaller key = .ok r') :
    let ready := prepare d key { s with shared := { s.shared with registry := r' } }
    let caller := Caller.ofHooks key d.displayName ready.value
    let told := caller.signal { key, catalog := ready.state.catalog } .absent .load
      ready.state.shared
    load d s = ⟨.ok key,
      { ready.state with
        shared := told.state
        callers := ready.state.callers.insert key told.value
        order := ready.state.order ++ [key] },
      [.log .debug ("Registered mod '" ++ d.name ++ "' as " ++ key.text)] ++ ready.journal ++
        [.log .debug ("[" ++ d.displayName ++ "] " ++ ("Hooks: " ++ caller.capabilities.text))] ++
        told.journal ++ [.log .info ("Loaded settings API for " ++ d.displayName)]⟩ := by
  simp only [load, Bind.bind, Flow.bind, onShared, Flow.zoom, Shared.register, h, Shared.bindCaller,
    bound, prepare, List.append_assoc]
  rfl

/-- Only a mod that is registered is loaded. -/
theorem exists_register_of_load (sound : s.shared.registry.Sound)
    (loaded : (load d s).value = .ok key) :
    ∃ r, s.shared.registry.register d.name d.mainType = .ok (key, r) := by
  cases registered : s.shared.registry.register d.name d.mainType with
  | error e =>
    rw [load_of_error registered] at loaded
    exact nomatch loaded
  | ok result =>
    obtain ⟨_, binds, _⟩ := Registry.exists_opened sound registered
    rw [load_eq registered binds] at loaded
    cases loaded
    exact ⟨_, rfl⟩

/-- What loading a mod under a key does.  The hook for it can see `opened` and
what it makes of that. -/
structure Loads (c : Conduct Shared) (d : Descriptor) (s : Session) (key : Key) (opened : Shared)
    (step : Step Session (Except SessionError Key)) : Prop where
  value : step.value = .ok key
  /-- The slot of the key was not in use. -/
  unused : ∀ k, s.shared.registry.contains k = true → k.sameSlot key = false
  proper : key ≠ .null
  sound : opened.registry.Sound
  given : s.shared.registry.Becomes [key] opened.registry
  mods : ∀ k, opened.registry.mods.get? k =
    if k = key then
      some { name := d.name, mainType := d.mainType, apiLoaded := true, callerBound := true }
    else s.shared.registry.mods.get? k
  owners : ∀ x ∈ opened.store.settings,
    x.owner = key ∨ ∃ y ∈ s.shared.store.settings, y.owner = x.owner
  shared : c.allows opened step.state.shared
  catalog : step.state.catalog = s.catalog
  order : step.state.order = s.order ++ [key]
  callers : ∃ caller : Caller, step.state.callers = s.callers.insert key caller ∧
    caller.key = key ∧ caller.hooks.Obeys c
  journal : ∀ e ∈ step.journal, (c.ofCaller key).writes opened e

/-- Loading is refused and changes nothing, or it is done. -/
theorem load_cases (lenient : c.Lenient) (ruled : s.Ruled c) (sound : s.shared.registry.Sound)
    (obeys : d.Obeys c) :
    (∃ e, load d s = ⟨.error e, s, []⟩) ∨ ∃ key opened, Loads c d s key opened (load d s) := by
  cases registered : s.shared.registry.register d.name d.mainType with
  | error e => exact Or.inl ⟨.registry e, load_of_error registered⟩
  | ok result =>
    obtain ⟨key, r⟩ := result
    obtain ⟨r', bound, opens, mods⟩ := Registry.exists_opened sound registered
    have loaded := load_eq registered bound
    have ready := declares_prepare d key { s with shared := { s.shared with registry := r' } }
    have hooks := obeys_prepare lenient obeys key
      { s with shared := { s.shared with registry := r' } }
    revert loaded ready hooks
    generalize prepare d key _ = ready
    rintro loaded ⟨⟨same, owners⟩, declared⟩ hooks
    have catalog : ready.state.catalog = s.catalog := by rw [same]
    have order : ready.state.order = s.order := by rw [same]
    have callers : ready.state.callers = s.callers := by rw [same]
    let opened : Shared :=
      { ready.state.shared with registry := ready.state.shared.registry.setApiLoaded key true }
    have registry : opened.registry = r'.setApiLoaded key true := by
      show ready.state.shared.registry.setApiLoaded key true = _
      rw [same]
    let caller := Caller.ofHooks key d.displayName ready.value
    let ctx : Context := { key, catalog := ready.state.catalog }
    have offers : ctx.catalog.Obeys c := by
      show ready.state.catalog.Obeys c
      rw [catalog]
      exact ruled.catalog
    have flags : caller.prepare .absent .load ready.state.shared = ⟨(), opened, []⟩ := rfl
    have told := Caller.allowed_signal (a := caller) hooks offers flags
    have kept := Caller.kept_signal (a := caller) ctx .absent .load ready.state.shared
    have logged {e : Entry} (h : ∃ level message, e = .log level message) :
        (c.ofCaller key).writes opened e := by
      obtain ⟨level, message, rfl⟩ := h
      exact Caller.writes_of_ne nofun
    refine Or.inr ⟨key, opened, ?_⟩
    rw [loaded]
    refine
      { value := rfl
        unused := fun k live => Registry.sameSlot_register sound registered live
        proper := Registry.ne_null_of_register registered
        sound := by rw [registry]; exact opens
        given := by
          rw [registry]
          exact (Registry.Becomes.of_register registered).trans
            (.of_flagged (.setApiLoaded (.bindCaller .refl bound) key true))
        mods := by rw [registry]; exact mods
        owners := owners
        shared := told.state
        catalog := catalog
        order := congrArg (· ++ [key]) order
        callers := ⟨_, by rw [callers], kept.key, kept.obeys hooks⟩
        journal := ?_ }
    refine List.forall_mem_append.mpr ⟨List.forall_mem_append.mpr ⟨List.forall_mem_append.mpr
      ⟨List.forall_mem_append.mpr ⟨?_, ?_⟩, ?_⟩, ?_⟩, ?_⟩
    · exact List.forall_mem_singleton.mpr (logged ⟨_, _, rfl⟩)
    · exact fun e member => logged (declared e member)
    · exact List.forall_mem_singleton.mpr (logged ⟨_, _, rfl⟩)
    · exact told.journal
    · exact List.forall_mem_singleton.mpr (logged ⟨_, _, rfl⟩)

theorem Loads.mem_keys {opened : Shared} {step : Step Session (Except SessionError Key)}
    (loads : Loads c d s key opened step) {k : Key} (there : k ∈ step.state.callers.keys) :
    k = key ∨ k ∈ s.callers.keys := by
  obtain ⟨caller, callers, _, _⟩ := loads.callers
  rw [callers] at there
  exact Attachments.mem_keys_of_insert there

theorem Ruled.of_loads (h : s.Ruled c) {opened : Shared}
    {step : Step Session (Except SessionError Key)} (loads : Loads c d s key opened step) :
    step.state.Ruled c := by
  obtain ⟨caller, callers, own, obeys⟩ := loads.callers
  have found (k : Key) (caller' : Caller) (there : step.state.callers.get? k = some caller') :
      k = key ∧ caller' = caller ∨ s.callers.get? k = some caller' := by
    rw [callers] at there
    exact Attachments.get?_of_insert there
  refine ⟨?_, fun k caller' there => ?_, fun k caller' there => ?_⟩
  · rw [loads.catalog]
    exact h.catalog
  · rcases found k caller' there with ⟨_, rfl⟩ | old
    · exact obeys
    · exact h.hooks k caller' old
  · rcases found k caller' there with ⟨rfl, rfl⟩ | old
    · exact own
    · exact h.own k caller' old

/-! ## Unloading -/

/-- What unloading the mod of a key does.  The hook for it can see the shared
state with the mod no longer flagged, which it turns into `told`. -/
structure Unloads (c : Conduct Shared) (s : Session) (key : Key) (told : Shared)
    (step : Step Session (Except SessionError Unit)) : Prop where
  loaded : key ∈ s.callers.keys
  heard : c.allows { s.shared with registry := s.shared.registry.setApiLoaded key false } told
  registry : step.state.shared.registry = told.registry.unregister key
  store : step.state.shared.store = told.store.removeMod key
  catalog : step.state.catalog = s.catalog
  order : step.state.order = s.order.filter (!· == key)
  callers : step.state.callers = s.callers.erase key
  journal : ∀ e ∈ step.journal, (c.ofCaller key).writes
    { s.shared with registry := s.shared.registry.setApiLoaded key false } e

/-- Removing a mod that is not there changes nothing. -/
theorem state_unregister (key : Key) (s : Shared) : (Shared.unregister key s).state =
    { s with registry := s.registry.unregister key } := by
  unfold Shared.unregister
  cases found : s.registry.modName? key with
  | some name => rfl
  | none =>
    have absent : s.registry.mods.get? key = none := Option.map_eq_none_iff.mp found
    show s = { s with registry := s.registry.unregister key }
    rw [Registry.unregister, absent]

theorem logs_unregister (key : Key) (s : Shared) :
    Bridge.Logs (Shared.unregister key s).journal := by
  unfold Shared.unregister
  split
  · exact Bridge.logs_nil
  · exact Bridge.logs_log _ _

theorem unload_of_none (absent : s.callers.get? key = none) :
    unload key s = ⟨.error .notLoaded, s, []⟩ := by
  simp only [unload, Bind.bind, Flow.bind, Flow.get, absent]
  rfl

theorem unload_eq {caller : Caller} (found : s.callers.get? key = some caller) :
    let told := caller.signal { key, catalog := s.catalog } .absent .unload s.shared
    let gone := Shared.unregister key
      { told.state with store := told.state.store.removeMod key }
    unload key s = ⟨.ok (),
      { s with
        shared := gone.state
        callers := s.callers.erase key
        order := s.order.filter (!· == key) },
      told.journal ++ gone.journal ++
        [.log .info ("Unloaded settings API for " ++ caller.displayName)]⟩ := by
  simp only [unload, Bind.bind, Flow.bind, Flow.get, found, Flow.modify, onShared, Flow.zoom,
    Shared.removeSettings, Shared.onStore, List.nil_append, List.append_assoc]
  rfl

/-- Unloading is refused and changes nothing, or it is done. -/
theorem unload_cases (ruled : s.Ruled c) (key : Key) :
    key ∉ s.callers.keys ∧ unload key s = ⟨.error .notLoaded, s, []⟩ ∨
      ∃ told, Unloads c s key told (unload key s) := by
  cases found : s.callers.get? key with
  | none =>
    exact Or.inl ⟨Attachments.not_mem_keys found, unload_of_none found⟩
  | some caller =>
    obtain rfl : caller.key = key := ruled.own key caller found
    let ctx : Context := { key := caller.key, catalog := s.catalog }
    have offers : ctx.catalog.Obeys c := ruled.catalog
    have flags : caller.prepare .absent .unload s.shared = ⟨(), { s.shared with
        registry := s.shared.registry.setApiLoaded caller.key false }, []⟩ := rfl
    have told := Caller.allowed_signal (ruled.hooks _ caller found) offers flags
    refine Or.inr ⟨(caller.signal ctx .absent .unload s.shared).state, ?_⟩
    rw [unload_eq found]
    refine
      { loaded := Attachments.mem_keys.mpr ⟨caller, found⟩
        heard := told.state
        registry := by rw [state_unregister]
        store := by rw [state_unregister]
        catalog := rfl
        order := rfl
        callers := rfl
        journal := ?_ }
    have logged {e : Entry} (h : ∃ level message, e = .log level message) :
        (c.ofCaller caller.key).writes
          { s.shared with registry := s.shared.registry.setApiLoaded caller.key false } e := by
      obtain ⟨level, message, rfl⟩ := h
      exact Caller.writes_of_ne nofun
    refine List.forall_mem_append.mpr ⟨List.forall_mem_append.mpr ⟨told.journal, ?_⟩, ?_⟩
    · exact fun e member => logged (logs_unregister _ _ e member)
    · exact List.forall_mem_singleton.mpr (logged ⟨_, _, rfl⟩)

theorem Ruled.of_unloads (h : s.Ruled c) {told : Shared}
    {step : Step Session (Except SessionError Unit)} (unloads : Unloads c s key told step) :
    step.state.Ruled c := by
  have found (k : Key) (caller : Caller) (there : step.state.callers.get? k = some caller) :
      s.callers.get? k = some caller := by
    rw [unloads.callers, Attachments.get?_erase] at there
    by_cases gone : k = key
    · rw [if_pos gone] at there
      exact nomatch there
    · rwa [if_neg gone] at there
  refine ⟨?_, fun k caller there => h.hooks k caller (found k caller there),
    fun k caller there => h.own k caller (found k caller there)⟩
  rw [unloads.catalog]
  exact h.catalog

/-! ## Shutting down -/

theorem state_unloadOrWarn (key : Key) (s : Session) :
    (unloadOrWarn key s).state = (unload key s).state := by
  unfold unloadOrWarn
  simp only [Bind.bind, Flow.bind]
  cases (unload key s).value <;> rfl

theorem journal_unloadOrWarn (key : Key) (s : Session) :
    ∃ j, (unloadOrWarn key s).journal = (unload key s).journal ++ j ∧ Bridge.Logs j := by
  unfold unloadOrWarn
  simp only [Bind.bind, Flow.bind]
  cases (unload key s).value with
  | ok _ => exact ⟨_, rfl, Bridge.logs_nil⟩
  | error e => exact ⟨_, rfl, Bridge.logs_log _ _⟩

theorem shutdown_eq (s : Session) :
    let unloaded := Flow.forEach unloadOrWarn s.order.reverse s
    shutdown s = ⟨(),
      { unloaded.state with
        shared := { unloaded.state.shared with registry := unloaded.state.shared.registry.clear }
        menuBuilt := false
        isOpen := false },
      unloaded.journal ++ [.log .debug "Registry cleared", .log .info "Settings API shut down"]⟩ :=
  rfl

/-! ## The order and the callers -/

section

variable (key : Key) (s : Session)

theorem callers_unload (k : Key) : (unload key s).state.callers.get? k =
    if k = key then none else s.callers.get? k := by
  cases found : s.callers.get? key with
  | none =>
    rw [unload_of_none found]
    by_cases here : k = key
    · rw [if_pos here, here, found]
    · rw [if_neg here]
  | some caller =>
    rw [unload_eq found]
    exact Attachments.get?_erase s.callers key k

theorem order_unload : (unload key s).state.order =
    s.order.filter fun k => !(k == key) || (s.callers.get? k).isNone := by
  cases found : s.callers.get? key with
  | none =>
    rw [unload_of_none found]
    refine (List.filter_eq_self.mpr fun k _ => ?_).symm
    by_cases here : k = key
    · simp [here, found]
    · simp [here]
  | some caller =>
    rw [unload_eq found]
    refine List.filter_congr fun k _ => ?_
    by_cases here : k = key
    · simp [here, found]
    · simp [here]

end

/-- Of the keys that were to be unloaded those stay in the order that had no
caller. -/
theorem forEach_unload (keys : List Key) (s : Session) :
    let gone := (Flow.forEach unloadOrWarn keys s).state
    (∀ k, gone.callers.get? k = if k ∈ keys then none else s.callers.get? k) ∧
      gone.order = s.order.filter fun k => !keys.contains k || (s.callers.get? k).isNone := by
  induction keys generalizing s with
  | nil => simp [Flow.forEach, Flow.pure]
  | cons key rest ih =>
    obtain ⟨callers, order⟩ := ih (unload key s).state
    have next : (Flow.forEach unloadOrWarn (key :: rest) s).state =
        (Flow.forEach unloadOrWarn rest (unload key s).state).state := by
      rw [← state_unloadOrWarn]
      rfl
    rw [next]
    refine ⟨fun k => ?_, ?_⟩
    · rw [callers, callers_unload]
      by_cases here : k = key <;> simp [here]
    · rw [order, order_unload, List.filter_filter]
      refine List.filter_congr fun k _ => ?_
      rw [callers_unload]
      by_cases here : k = key <;> simp [here]

end Session
end ModSettings
