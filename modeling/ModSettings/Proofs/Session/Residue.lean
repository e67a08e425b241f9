/-
What a mod leaves behind.

A mod that minds its own business leaves nothing: once it is loaded, used and
unloaded, the session is as it was, and the mod can be loaded again.  That is
`leaves_no_residue`.  In between the session is a host: it has the mod in each of
its tables and differs in nothing else, see `Hosts`, which loading brings about,
what widgets ask keeps and unloading ends.

Nothing is said of a caller that was left in the slot of the mod's key when another
mod was removed behind the session's back: the new caller takes its place.
-/
import ModSettings.Proofs.Event.Minding
import ModSettings.Proofs.Session.Origin
import ModSettings.Proofs.Session.Past
import ModSettings.Proofs.Session.Shutdown

namespace ModSettings

open Conduct

/-! ## Declared settings -/

/-- The default that a setting of the mod has, which is the last one given for its
name. -/
def Descriptor.default? (d : Descriptor) (name : String) : Option SettingValue :=
  (d.settings.reverse.find? (·.1 == name)).map (·.2)

namespace Store

def declareAll (st : Store) (owner : Key) (settings : List (String × SettingValue)) : Store :=
  settings.foldl (fun st x => st.declare owner x.1 x.2) st

theorem find?_declareAll (st : Store) (owner : Key) (settings : List (String × SettingValue))
    (key : Key) (name : String) : (st.declareAll owner settings).find? key name =
      if owner = key then
        ((settings.reverse.find? (·.1 == name)).map fun x => declared key name x.2).or
          (st.find? key name)
      else st.find? key name := by
  induction settings using List.reverseRecOn with
  | nil => simp [declareAll]
  | append_singleton settings x ih =>
    have last : st.declareAll owner (settings ++ [x]) =
        (st.declareAll owner settings).declare owner x.1 x.2 := List.foldl_concat ..
    rw [last, find?_declare, ih, List.reverse_append, List.reverse_singleton, List.singleton_append,
      List.find?_cons]
    by_cases mine : owner = key
    · cases named : x.1 == name with
      | true => simp [mine, eq_of_beq named, declared]
      | false => simp [mine, ne_of_beq_false named]
    · simp [mine]

end Store

namespace Session

variable {s x : Session} {d : Descriptor} {key : Key} {t : Ty} {r : Registry}

theorem state_declares (key : Key) (settings : List (String × SettingValue)) (s : Session) :
    (Flow.forEach (fun (name, default) => onShared (Shared.declare key name default))
      settings s).state =
        { s with shared := { s.shared with store := s.shared.store.declareAll key settings } } := by
  induction settings generalizing s with
  | nil => rfl
  | cons x rest ih => exact ih _

theorem state_prepare (d : Descriptor) (key : Key) (s : Session) : (prepare d key s).state =
    { s with shared := { s.shared with store := s.shared.store.declareAll key d.settings } } := by
  show (chooseHooks d key (Flow.forEach _ d.settings s).state).state = _
  rw [(still_chooseHooks d key _).state, state_declares]

/-! ## Loading and unloading around a turn of the hooks -/

/-- Loading registers the mod and declares its settings, then the hooks have their
turn, and the mod joins the others. -/
theorem exists_told_load (registered : s.shared.registry.register d.name d.mainType = .ok (key, r))
    {bound : Registry} (binds : r.bindCaller key = .ok bound) :
    let ready : Shared :=
      { registry := bound.setApiLoaded key true
        store := s.shared.store.declareAll key d.settings }
    let c := d.caller key s.config s.catalog
    ∃ told : Step Shared (Unit × Caller),
      c.Gated { key, catalog := s.catalog } (.signal .load) c.capabilities id () ready
        [.delivered key .load] told ∧
      (load d s).value = .ok key ∧ (load d s).state =
        { s with
          shared := told.state
          callers := s.callers.insert key told.value.2
          order := s.order ++ [key] } := by
  intro ready c
  let start : Session := { s with shared := { s.shared with registry := bound } }
  have loaded := load_eq registered binds
  have value := value_prepare_eq d key start
  have state := state_prepare d key start
  revert loaded value state
  generalize prepare d key _ = prepared
  intro loaded value state
  obtain ⟨hooks, after, journal⟩ := prepared
  obtain rfl : hooks = _ := value
  obtain rfl : after = _ := state
  have prepares : c.prepare .absent .load { ready with registry := bound } = ⟨(), ready, []⟩ := rfl
  exact ⟨_, Caller.gated_signal prepares, by rw [loaded], by rw [loaded]; rfl⟩

/-- The hooks have their turn, and what is left of the mod is taken out. -/
theorem exists_told_unload {c : Caller} (found : s.callers.get? key = some c) (own : c.key = key) :
    ∃ told : Step Shared (Unit × Caller),
      c.Gated { key, catalog := s.catalog } (.signal .unload) c.capabilities id ()
        { s.shared with registry := s.shared.registry.setApiLoaded key false }
        [.delivered key .unload] told ∧
      (unload key s).value = .ok () ∧ (unload key s).state =
        { s with
          shared :=
            { registry := told.state.registry.unregister key
              store := told.state.store.removeMod key }
          callers := s.callers.erase key
          order := s.order.filter (!· == key) } := by
  subst own
  have prepares : c.prepare .absent .unload s.shared =
      ⟨(), { s.shared with registry := s.shared.registry.setApiLoaded c.key false }, []⟩ := rfl
  refine ⟨_, Caller.gated_signal prepares, by rw [unload_eq found], ?_⟩
  rw [unload_eq found]
  simp only [state_unregister]
  rfl

/-! ## A session with a guest -/

/-- The session `x` is `s` with the mod of the key besides. -/
structure Hosts (key : Key) (t : Ty) (r : Registry) (s x : Session) : Prop where
  rest : x = { s with shared := x.shared, callers := x.callers, order := s.order ++ [key] }
  callers : ∀ k, k.sameSlot key = false → x.callers.get? k = s.callers.get? k
  known : ∀ k c, x.callers.get? k = some c → k = key ∨ s.callers.get? k = some c
  guest : ∃ c, x.callers.get? key = some c ∧ c.key = key ∧ c.hooks.Minds key t s.catalog
  registry : x.shared.registry = r
  settings : x.shared.store.Agree (· ≠ key) s.shared.store

theorem hosts_load (sound : s.shared.registry.Sound)
    (registered : s.shared.registry.register d.name d.mainType = .ok (key, r))
    {bound : Registry} (binds : r.bindCaller key = .ok bound) (takes : s.callers.takes key = true)
    (minds : (d.caller key s.config s.catalog).hooks.Minds key d.mainType s.catalog) :
    Hosts key d.mainType (bound.setApiLoaded key true) s (load d s).state := by
  obtain ⟨told, gated, _, loaded⟩ := exists_told_load registered binds
  obtain ⟨opens, stands⟩ := Registry.stands_opened sound registered binds
  have minded := Caller.minded_of_gated rfl minds opens stands gated
  rw [loaded]
  have proper := Registry.ne_null_of_register registered
  refine
    { rest := rfl
      callers := fun k other => ?_
      known := fun k c found => ?_
      guest := ⟨told.value.2, ?_, minded.own, minded.hooks⟩
      registry := minded.minding.1
      settings := fun k other name => ?_ }
  · rw [Attachments.get?_insert_of_takes takes, if_neg (Key.ne_of_sameSlot other proper), other]
    rfl
  · exact (Attachments.get?_of_insert found).imp_left And.left
  · rw [Attachments.get?_insert_of_takes takes, if_pos rfl]
  · rw [minded.minding.2 k other name, Store.find?_declareAll, if_neg other.symm]

namespace Hosts

section

variable (sound : r.Sound) (stands : r.Stands key t)
include sound stands

theorem obeys_withCaller {α : Type} {f : Caller → Context → Flow Shared (α × Caller)}
    (minded : ∀ c shared, c.key = key → c.hooks.Minds key t s.catalog →
      shared.registry.Sound → shared.registry.Stands key t →
        let r := f c { key, catalog := s.catalog } shared
        Caller.Minded key t s.catalog shared r.state r.value.2) :
    (withCaller key f).Obeys (.invariant (Hosts key t r s) fun _ => True) := by
  intro x
  refine ⟨fun h => ?_, fun _ _ _ => trivial⟩
  obtain ⟨c, found, own, minds⟩ := h.guest
  have catalog : x.catalog = s.catalog := by rw [h.rest]
  have proper : key ≠ .null := by
    rintro rfl
    obtain ⟨_, none, _⟩ := stands
    exact nomatch none
  have turn := minded c x.shared own minds (h.registry ▸ sound) (h.registry ▸ stands)
  rw [← catalog] at turn
  rw [withCaller, found]
  dsimp only
  refine
    { rest := by rw [h.rest]
      callers := fun k other => ?_
      known := fun k c' there => ?_
      guest := ⟨_, ?_, turn.own, catalog ▸ turn.hooks⟩
      registry := turn.minding.1.trans h.registry
      settings := fun k other name => (turn.minding.2 k other name).trans (h.settings k other name) }
  · rw [Attachments.get?_replace, if_neg (Key.ne_of_sameSlot other proper)]
    exact h.callers k other
  · rw [Attachments.get?_replace] at there
    split at there
    case isTrue here => exact Or.inl here
    case isFalse => exact h.known k c' there
  · rw [Attachments.get?_replace, if_pos rfl, found]
    rfl

/-- Whatever a widget asks of the guest, the session remains its host. -/
theorem answerWidget (h : Hosts key t r s x) (event : Event) :
    Hosts key t r s (answerWidget key event x).state := by
  have minded (event : Event) (c : Caller) (shared : Shared) (own : c.key = key)
      (minds : c.hooks.Minds key t s.catalog) (sound : shared.registry.Sound)
      (stands : shared.registry.Stands key t) :
      let r := c.deliver { key, catalog := s.catalog } event shared
      Caller.Minded key t s.catalog shared r.state r.value.2 :=
    Caller.minded_of_gated own minds sound stands (Caller.gated_deliver c _ event shared)
  have asked := obeys_answerWidget key event
    (fun event => obeys_withCaller (s := s) sound stands (minded event))
    fun setting => obeys_withCaller sound stands fun c shared => minded _ c shared
  exact (asked x).state h

end

end Hosts

/-- What the widgets of a mod ask, one after the other. -/
def askAll (key : Key) (events : List Event) (s : Session) : Session :=
  events.foldl (fun s event => (answerWidget key event s).state) s

theorem Hosts.askAll (h : Hosts key t r s x) (sound : r.Sound) (stands : r.Stands key t)
    (events : List Event) : Hosts key t r s (x.askAll key events) := by
  induction events generalizing x with
  | nil => exact h
  | cons event rest ih => exact ih (h.answerWidget sound stands event)

/-! ## After the guest has gone -/

/-- What others can tell of the session is as it was before the mod of the key came,
and the mod itself has left nothing. -/
structure Restored (key : Key) (s s' : Session) : Prop where
  order : s'.order = s.order
  callers : ∀ k, k.sameSlot key = false → s'.callers.get? k = s.callers.get? k
  known : ∀ k c, s'.callers.get? k = some c → s.callers.get? k = some c
  noCaller : s'.callers.get? key = none
  mods : ∀ k, s'.shared.registry.mods.get? k = s.shared.registry.mods.get? k
  classes : ∀ t, s'.shared.registry.modForType t = s.shared.registry.modForType t
  inWorld : s'.shared.registry.inWorld = s.shared.registry.inWorld
  settings : ∀ k, k ≠ key → ∀ name, s'.shared.store.find? k name = s.shared.store.find? k name
  noSetting : ∀ name, s'.shared.store.find? key name = none
  menuBuilt : s'.menuBuilt = s.menuBuilt
  isOpen : s'.isOpen = s.isOpen

/-- The mod can be loaded, and its settings have their defaults when its hooks have
their turn at it. -/
def LoadsAfresh (d : Descriptor) (s : Session) : Prop :=
  ∃ key ready, (load d s).value = .ok key ∧
    (∀ name v, d.default? name = some v →
      ready.store.find? key name = some (Store.declared key name v)) ∧
    let c := d.caller key s.config s.catalog
    (load d s).state.shared = if c.handles .load then
      (c.turn { key, catalog := s.catalog } (.signal .load) ready).state.shared else ready

theorem loads_afresh (sound : s.shared.registry.Sound)
    (registered : s.shared.registry.register d.name d.mainType = .ok (key, r)) :
    s.LoadsAfresh d := by
  obtain ⟨bound, binds, _⟩ := Registry.exists_opened sound registered
  obtain ⟨told, gated, value, state⟩ := exists_told_load registered binds
  let ready : Shared :=
    { registry := bound.setApiLoaded key true
      store := s.shared.store.declareAll key d.settings }
  refine ⟨key, ready, value, fun name v given => ?_, ?_⟩
  · obtain ⟨x, found, rfl⟩ := Option.map_eq_some_iff.mp given
    rw [Store.find?_declareAll, if_pos rfl, found]
    rfl
  · rw [state]
    exact gated.state_eq

/-- Unloading its guest makes the host what it was. -/
theorem Hosts.unload {bound : Registry} (h : Hosts key d.mainType (bound.setApiLoaded key true) s x)
    (sound : s.shared.registry.Sound)
    (registered : s.shared.registry.register d.name d.mainType = .ok (key, r))
    (binds : r.bindCaller key = .ok bound) (fresh : key ∉ s.order) :
    let gone := Session.unload key x
    gone.value = .ok () ∧ s.Restored key gone.state ∧
      s.shared.registry.Becomes [key] gone.state.shared.registry := by
  intro gone
  obtain ⟨c, found, own, minds⟩ := h.guest
  obtain ⟨told, gated, value, state⟩ := exists_told_unload found own
  have catalog : x.catalog = s.catalog := by rw [h.rest]
  rw [catalog, h.registry] at gated
  let flags := (bound.setApiLoaded key true).setApiLoaded key false
  have cleared : (bound.setApiLoaded key true).Flagged flags := .setApiLoaded .refl key false
  obtain ⟨opens, stands⟩ := Registry.stands_opened sound registered binds
  have minded := Caller.minded_of_gated own minds (cleared.sound opens)
    (stands.of_flagged cleared) gated
  obtain ⟨mods, classes, inWorld⟩ := Registry.unregister_opened sound registered binds
  have proper := Registry.ne_null_of_register registered
  have order : x.order = s.order ++ [key] := by rw [h.rest]
  have others : ∀ k ∈ s.order, (!k == key) = true := by
    intro k member
    have other : k ≠ key := fun same => fresh (same ▸ member)
    simpa using other
  refine ⟨value, ?_, ?_⟩
  · rw [show gone.state = _ from state]
    refine
      { order := ?_
        callers := fun k other => ?_
        known := fun k c there => ?_
        noCaller := ?_
        mods := fun k => by rw [minded.minding.1, mods]
        classes := fun t => by rw [minded.minding.1, Registry.modForType, classes]; rfl
        inWorld := by rw [minded.minding.1, inWorld]
        settings := fun k other name => ?_
        noSetting := fun name => ?_
        menuBuilt := by rw [h.rest]
        isOpen := by rw [h.rest] }
    · dsimp only
      rw [order, List.filter_append, List.filter_eq_self.mpr others]
      simp
    · rw [Attachments.get?_erase, if_neg (Key.ne_of_sameSlot other proper)]
      exact h.callers k other
    · rw [Attachments.get?_erase] at there
      split at there
      case isTrue => cases there
      case isFalse other => exact (h.known k c there).resolve_left other
    · rw [Attachments.get?_erase, if_pos rfl]
    · rw [Store.find?_removeMod, if_neg other.symm, minded.minding.2 k other name]
      exact h.settings k other name
    · rw [Store.find?_removeMod, if_pos rfl]
  · have flagged : r.Flagged flags :=
      .setApiLoaded (.setApiLoaded (.bindCaller .refl binds) key true) key false
    rw [show gone.state = _ from state, minded.minding.1]
    exact ((Registry.Becomes.of_register registered).trans (.of_flagged flagged)).change
      (c := .unregister key) rfl

/-- Whatever has been done with a session and its handles: a mod that is loaded and
minds its own business has left nothing once its widgets have asked what they like
and it is unloaded, its key is dead from then on, and it can be loaded again with its
settings at their defaults.  All it takes is room in the slot of its key. -/
theorem leaves_no_residue (config : Config) {catalog : Catalog} (offers : catalog.Obeys free)
    {run : List Act} (mods : ∀ act ∈ run, act.Obeys free) :
    let s := afterActs { config, catalog } run
    (∃ keys, s.Past keys) ∧
      ∀ keys key d, s.Past keys → (load d s).value = .ok key →
        (d.caller key config catalog).hooks.Minds key d.mainType catalog →
        s.HasRoom keys key → ∀ events,
          let gone := unload key ((load d s).state.askAll key events)
          gone.value = .ok () ∧ s.Restored key gone.state ∧
            (∀ more r, gone.state.shared.registry.Becomes more r →
              Key.uses more key.slot < 2 ^ 31 → r.contains key = false) ∧
            gone.state.LoadsAfresh d := by
  intro s
  refine ⟨exists_past config offers mods, fun keys key d past loaded minds room events => ?_⟩
  intro gone
  have made := made_after config catalog run
  have minds : (d.caller key s.config s.catalog).hooks.Minds key d.mainType s.catalog := by
    rw [made.settled, made.offers]
    exact minds
  obtain ⟨r, registered⟩ := exists_register_of_load past.sound loaded
  obtain ⟨bound, binds, _⟩ := Registry.exists_opened past.sound registered
  obtain ⟨opens, stands⟩ := Registry.stands_opened past.sound registered binds
  have hosts := (hosts_load past.sound registered binds (past.takes registered room) minds).askAll
    opens stands events
  obtain ⟨value, restored, becomes⟩ :=
    hosts.unload past.sound registered binds (past.not_mem_order registered room)
  have dead : gone.state.shared.registry.contains key = false := by
    refine Bool.eq_false_iff.mpr fun live => ?_
    rw [Registry.contains, Slots.contains, restored.mods] at live
    exact Registry.ne_of_register past.sound registered live rfl
  refine ⟨value, restored, fun more r' later near => ?_, ?_⟩
  · exact past.stays_dead registered becomes dead later near
  · obtain ⟨⟨key', r'⟩, again⟩ := Registry.exists_register_of_mods (becomes.sound past.sound)
      past.sound restored.mods registered
    exact loads_afresh (becomes.sound past.sound) again

/-- A mod that changes its setting as soon as it is loaded, panics when a button is
pressed and fails when it is unloaded. -/
def sampleSettling : Descriptor where
  name := "Second"
  displayName := "Second"
  mainType := .cls "Second" (some .mod) [] .concrete true
  hooks := some (.scripted (.ofList EventKind.all) fun
    | .load => .assign "Shown" (.checkbox true)
    | .button => .abort ⟨none⟩
    | .unload => .fail (.failed "Not now")
    | _ => .leave)
  settings := [("Shown", .checkbox false)]

theorem minds_sampleSettling (key : Key) (config : Config) (catalog : Catalog) :
    (sampleSettling.caller key config catalog).hooks.Minds key sampleSettling.mainType catalog :=
  Hooks.minds_scripted _ fun kind _ _ => by cases kind <;> nofun

/-- The first mod was removed from the registry alone, and its slot is free again. -/
def sampleLeft : Session := afterActs { config := {}, catalog := .standard }
  [.operation (.load (sampleUnruly "First")), removal (.entry 1 1)]

theorem past_sampleLeft : sampleLeft.Past [.entry 1 1] where
  registry := ⟨[.register "First" (sampleUnruly "First").mainType, .bindCaller (.entry 1 1),
    .setApiLoaded (.entry 1 1) true, .unregister (.entry 1 1)], rfl, rfl⟩
  order _ member := member
  callers _ member := member

theorem leaves_no_residue_sample :
    let gone := unload (.entry 1 3)
      ((load sampleSettling sampleLeft).state.askAll (.entry 1 3) [.button "Press" none])
    sampleLeft.Past [.entry 1 1] ∧ (load sampleSettling sampleLeft).value = .ok (.entry 1 3) ∧
      gone.value = .ok () ∧ sampleLeft.Restored (.entry 1 3) gone.state ∧
      gone.state.LoadsAfresh sampleSettling := by
  intro gone
  have mods : ∀ act ∈ [.operation (.load (sampleUnruly "First")), removal (.entry 1 1)],
      act.Obeys free := by
    simp only [List.forall_mem_cons]
    exact ⟨obeys_sampleUnruly lenient_free _,
      fun s => ⟨(obeys_removal _ s).state.1, fun _ _ => trivial⟩, nofun⟩
  have few : Key.uses [.entry 1 1] (Key.entry 1 3).slot < 2 ^ 30 := by decide
  obtain ⟨_, leaves⟩ := leaves_no_residue {} (Catalog.obeys_standard lenient_free) mods
  obtain ⟨value, restored, _, afresh⟩ := leaves [.entry 1 1] (.entry 1 3) sampleSettling
    past_sampleLeft rfl (minds_sampleSettling _ _ _) (Or.inr few) [.button "Press" none]
  exact ⟨past_sampleLeft, rfl, value, restored, afresh⟩

/-- The caller that the first mod left is gone after the second one has come and gone,
and the second mod has its setting changed by the time it is loaded again. -/
theorem residue_sampleSettling :
    let gone := (unload (.entry 1 3) (load sampleSettling sampleLeft).state).state
    let again := load sampleSettling gone
    (sampleSettling.caller (.entry 1 3) {} .standard).hooks.Minds (.entry 1 3)
        sampleSettling.mainType .standard ∧
      (load sampleSettling sampleLeft).value = .ok (.entry 1 3) ∧
      (sampleLeft.callers.get? (.entry 1 1)).isSome = true ∧
      (gone.callers.get? (.entry 1 1)).isSome = false ∧
      again.value = .ok (.entry 1 5) ∧
      sampleSettling.default? "Shown" = some (.checkbox false) ∧
      (again.state.shared.store.find? (.entry 1 5) "Shown").map (·.current) =
        some (.checkbox true) :=
  ⟨minds_sampleSettling _ _ _, rfl, rfl, rfl, rfl, rfl, rfl⟩

end Session
end ModSettings
