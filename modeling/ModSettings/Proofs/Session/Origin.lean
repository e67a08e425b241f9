/-
Where the callers of a session come from.

A caller is made when a mod is loaded, of the hooks that are chosen for the mod then.
`made_after` says that nothing changes about it later except what its hooks remember:
under a key that has a caller there is the caller of the mod that was last loaded
under this key.  Hooks may do anything, and so may the owner of the session with the
registry and the store.
-/
import ModSettings.Proofs.Event.Gate
import ModSettings.Proofs.Session.Isolation
import ModSettings.Proofs.Session.Steady

namespace ModSettings

/-! ## What is left of a caller -/

/-- The second caller is the first one, though it may remember something else. -/
def Caller.Recalls (a b : Caller) : Prop := ∃ memory, b = a.remembering memory

namespace Caller

variable {α : Type} {a b d : Caller} {ctx : Context} {event : Event}

theorem Recalls.refl (a : Caller) : a.Recalls a := ⟨a.hooks.memory, rfl⟩

theorem Recalls.trans (h : a.Recalls b) (h' : b.Recalls d) : a.Recalls d := by
  obtain ⟨_, rfl⟩ := h
  obtain ⟨memory, rfl⟩ := h'
  exact ⟨memory, rfl⟩

theorem Gated.recalls {bound : Capabilities} {read : event.Answer → α} {otherwise : α}
    {ready : Shared} {before : Journal} {r : Step Shared (α × Caller)}
    (h : a.Gated ctx event bound read otherwise ready before r) : a.Recalls r.value.2 := by
  unfold Gated at h
  by_cases hears : bound.handles event.kind = true
  · rw [if_pos hears] at h
    exact ⟨_, h.caller⟩
  · rw [if_neg hears] at h
    rw [h.caller]
    exact .refl a

theorem recalls_deliver (a : Caller) (ctx : Context) (event : Event) (s : Shared) :
    a.Recalls (a.deliver ctx event s).value.2 := (gated_deliver a ctx event s).recalls

theorem recalls_visible (a : Caller) (ctx : Context) (setting : SettingInfo) (s : Shared) :
    a.Recalls (a.visible ctx setting s).value.2 := recalls_deliver a ctx _ s

theorem recalls_signal (a : Caller) (ctx : Context) (menu : Menu) (sent : Signal) (s : Shared) :
    a.Recalls (a.signal ctx menu sent s).value := by
  have prepared : a.prepare menu sent s =
      ⟨(), (a.prepare menu sent s).state, (a.prepare menu sent s).journal⟩ := rfl
  exact (gated_signal prepared).recalls

end Caller

namespace Session

/-- Callers are where they were and at most remember something else. -/
structure Recalls (s s' : Session) : Prop where
  config : s'.config = s.config
  catalog : s'.catalog = s.catalog
  keys : s'.callers.keys = s.callers.keys
  callers : ∀ k b, s'.callers.get? k = some b → ∃ a, s.callers.get? k = some a ∧ a.Recalls b

end Session

def Conduct.recalls : Conduct Session where
  allows := Session.Recalls
  writes _ _ := True
  refl s := ⟨rfl, rfl, rfl, fun _ b found => ⟨b, found, .refl b⟩⟩
  trans h h' := by
    refine ⟨h'.config.trans h.config, h'.catalog.trans h.catalog, h'.keys.trans h.keys, ?_⟩
    intro k d found
    obtain ⟨b, there, later⟩ := h'.callers k d found
    obtain ⟨a, first, before⟩ := h.callers k b there
    exact ⟨a, first, before.trans later⟩
  writes_trans _ _ := trivial

namespace Session

open Conduct

variable {α : Type}

theorem recalls_of_callers {s s' : Session} (config : s'.config = s.config)
    (catalog : s'.catalog = s.catalog) (callers : s'.callers = s.callers) : s.Recalls s' :=
  ⟨config, catalog, by rw [callers], fun _ b found => ⟨b, callers ▸ found, .refl b⟩⟩

theorem recalls_onShared (m : Flow Shared α) : (onShared m).Obeys recalls := fun _ =>
  ⟨recalls_of_callers rfl rfl rfl, fun _ _ => trivial⟩

theorem recalls_withCaller {f : Caller → Context → Flow Shared (α × Caller)} (key : Key)
    (kept : ∀ (a : Caller) ctx s, a.Recalls (f a ctx s).value.2) : (withCaller key f).Obeys recalls := by
  intro s
  unfold withCaller
  cases found : s.callers.get? key with
  | none => exact ⟨recalls.refl s, fun _ _ => trivial⟩
  | some a =>
    refine ⟨⟨rfl, rfl, Attachments.keys_replace _ _ _, fun k b there => ?_⟩, fun _ _ => trivial⟩
    rw [Attachments.get?_replace] at there
    by_cases here : k = key
    · subst here
      rw [if_pos rfl, found] at there
      cases there
      exact ⟨a, found, kept a _ _⟩
    · rw [if_neg here] at there
      exact ⟨b, there, .refl b⟩

theorem parts_recalls : Parts recalls where
  menu f rest s := by
    refine ⟨recalls_of_callers ?_ ?_ ?_, fun _ _ => trivial⟩ <;>
      · show _ = _
        simp only [Flow.modify]
        rw [rest s]
  world inWorld := recalls_onShared _
  signals menu sent key _ := by
    refine Flow.obeys_bind (recalls_withCaller key fun a ctx s => ?_) fun _ => Flow.obeys_pure _
    exact Caller.recalls_signal a ctx menu sent s
  delivers key event := recalls_withCaller key fun a ctx s => Caller.recalls_deliver a ctx event s
  asks key setting := recalls_withCaller key fun a ctx s => Caller.recalls_visible a ctx setting s

end Session

/-! ## What is loaded in a run -/

def Act.loads? (s : Session) (key : Key) : Act → Option Descriptor
  | operation op => op.loads? s key
  | direct _ => none

/-- What was last loaded under a key, whatever else was done. -/
def Session.lastLoaded? (s : Session) (key : Key) : List Act → Option Descriptor
  | [] => none
  | act :: rest => ((act.perform s).state.lastLoaded? key rest).or (act.loads? s key)

/-- The caller that loading a mod under a key makes. -/
def Descriptor.caller (d : Descriptor) (key : Key) (config : Config) (catalog : Catalog) : Caller :=
  .ofHooks key d.displayName (Session.chooseHooks d key { config, catalog }).value

namespace Session

/-- Callers are those of the mods that were loaded under their keys. -/
structure Made (config : Config) (catalog : Catalog) (main : Key → Option Descriptor)
    (s : Session) : Prop where
  settled : s.config = config
  offers : s.catalog = catalog
  slots : s.callers.keys.Pairwise fun k k' => k.sameSlot k' = false
  callers : ∀ key c, s.callers.get? key = some c →
    ∃ d, main key = some d ∧ (d.caller key config catalog).Recalls c

section

variable {config : Config} {catalog : Catalog} {main : Key → Option Descriptor} {s s' : Session}
  {key : Key}

theorem made_fresh (config : Config) (catalog : Catalog) :
    Made config catalog (fun _ => none) { config, catalog } :=
  ⟨rfl, rfl, .nil, nofun⟩

theorem Made.of_recalls (h : Made config catalog main s) (recalls : s.Recalls s') :
    Made config catalog main s' where
  settled := recalls.config.trans h.settled
  offers := recalls.catalog.trans h.offers
  slots := recalls.keys ▸ h.slots
  callers k b found := by
    obtain ⟨a, before, same⟩ := recalls.callers k b found
    obtain ⟨d, loaded, made⟩ := h.callers k a before
    exact ⟨d, loaded, made.trans same⟩

theorem Made.unload (h : Made config catalog main s) (key : Key) :
    Made config catalog main (unload key s).state := by
  cases found : s.callers.get? key with
  | none =>
    rw [unload_of_none found]
    exact h
  | some caller =>
    rw [unload_eq found]
    refine ⟨h.settled, h.offers, ?_, fun k c there => ?_⟩
    · rw [Attachments.keys_erase]
      exact h.slots.filter _
    · rw [Attachments.get?_erase] at there
      by_cases gone : k = key
      · rw [if_pos gone] at there
        exact nomatch there
      · rw [if_neg gone] at there
        exact h.callers k c there

theorem Made.shutdown (h : Made config catalog main s) :
    Made config catalog main (shutdown s).state := by
  have unloaded (keys : List Key) :
      ∀ {s}, Made config catalog main s →
        Made config catalog main (Flow.forEach unloadOrWarn keys s).state := by
    induction keys with
    | nil => exact id
    | cons key rest ih =>
      intro s h
      refine ih ?_
      rw [state_unloadOrWarn]
      exact h.unload key
  rw [shutdown_eq]
  exact (unloaded _ h).of_recalls (recalls_of_callers rfl rfl rfl)

/-- The caller goes where its key leads, unless the slot already has a newer one. -/
theorem Made.insert (h : Made config catalog main s) {d : Descriptor} {c : Caller}
    (proper : key ≠ .null) (made : (d.caller key config catalog).Recalls c)
    (callers : s'.callers = s.callers.insert key c) (settled : s'.config = s.config)
    (offers : s'.catalog = s.catalog) :
    Made config catalog (fun k => (if key = k then some d else none).or (main k)) s' := by
  refine ⟨settled.trans h.settled, offers.trans h.offers, ?_, fun k b found => ?_⟩
  · rw [callers]
    cases taken : s.callers.takes key with
    | false =>
      rw [Attachments.insert_of_not_takes taken]
      exact h.slots
    | true =>
      rw [Attachments.keys_insert_of_takes taken]
      refine List.pairwise_append.mpr ⟨h.slots.filter _, List.pairwise_singleton _ _, ?_⟩
      intro k member k' last
      rw [List.mem_singleton.mp last]
      simpa using (List.mem_filter.mp member).2
  · rw [callers] at found
    by_cases here : key = k
    · subst here
      rw [if_pos rfl, Option.some_or]
      rcases Attachments.get?_of_insert found with ⟨_, rfl⟩ | old
      · exact ⟨d, rfl, made⟩
      · -- the slot had the key already, so it takes it again
        have taken : s.callers.takes key = true := by
          refine Bool.of_not_eq_false fun stale => ?_
          rw [Attachments.get?_of_not_takes h.slots proper stale] at old
          exact nomatch old
        rw [Attachments.get?_insert_of_takes taken, if_pos rfl] at found
        cases found
        exact ⟨d, rfl, made⟩
    · rw [if_neg here, Option.none_or]
      rcases Attachments.get?_of_insert found with ⟨same, _⟩ | old
      · exact absurd same.symm here
      · exact h.callers k b old

theorem Made.load (h : Made config catalog main s) (d : Descriptor) :
    Made config catalog (fun k => ((Operation.load d).loads? s k).or (main k))
      (load d s).state := by
  cases registered : s.shared.registry.register d.name d.mainType with
  | error e =>
    simp only [Operation.loads?, load_of_error registered, Option.none_or]
    exact h
  | ok result =>
    obtain ⟨key, r⟩ := result
    cases binds : r.bindCaller key with
    | error e =>
      simp only [Operation.loads?, load_of_unbound registered binds, Option.none_or]
      exact h.of_recalls (recalls_of_callers rfl rfl rfl)
    | ok bound =>
      let start : Session := { s with shared := { s.shared with registry := bound } }
      have loaded := load_eq registered binds
      have same := (declares_prepare d key start).state.1
      have hooks : (prepare d key start).value =
          (chooseHooks d key { config, catalog }).value := by
        rw [value_prepare_eq, ← h.settled, ← h.offers]
      revert loaded same hooks
      generalize prepare d key _ = ready
      intro loaded same hooks
      simp only [Operation.loads?, loaded]
      have callers : ready.state.callers = s.callers := by rw [same]
      have settled : ready.state.config = s.config := by rw [same]
      have offers : ready.state.catalog = s.catalog := by rw [same]
      refine h.insert (Registry.ne_null_of_register registered) ?_
        (congrArg (fun t : Attachments Caller => t.insert key _) callers) settled offers
      rw [Descriptor.caller, ← hooks]
      exact Caller.recalls_signal _ _ _ _ _

theorem Made.act (h : Made config catalog main s) (act : Act) :
    Made config catalog (fun k => (act.loads? s k).or (main k)) (act.perform s).state := by
  cases act with
  | direct m => exact h.of_recalls (recalls_onShared m s).state
  | operation op =>
    have passes (passing : op.isPassing = true) :
        Made config catalog main (op.perform s).state :=
      h.of_recalls (parts_recalls.obeys_perform passing s).state
    cases op with
    | load d => exact h.load d
    | unload key => exact h.unload key
    | shutdown => exact h.shutdown
    | _ => exact passes rfl

theorem Made.after (h : Made config catalog main s) (run : List Act) :
    Made config catalog (fun k => (s.lastLoaded? k run).or (main k)) (s.afterActs run) := by
  induction run generalizing s main with
  | nil => exact h
  | cons first rest ih =>
    have later := ih (h.act first)
    simp only [lastLoaded?, Option.or_assoc]
    exact later

end

/-- At the end of any run the caller under a key is that of the mod which was last
loaded under the key, with something that its hooks remember. -/
theorem made_after (config : Config) (catalog : Catalog) (run : List Act) :
    let fresh : Session := { config, catalog }
    Made config catalog (fun key => fresh.lastLoaded? key run) (fresh.afterActs run) := by
  have made := (made_fresh config catalog).after run
  simpa only [Option.or_none] using made

end Session
end ModSettings
