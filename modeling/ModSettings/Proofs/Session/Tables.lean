/-
The tables of a session agree.

A session keeps its mods in several tables: the order in which they were loaded,
their callers, the registry with its flags, and the store with their settings.
The theorem this file exists for is `agrees_after`: as long as mods do no more
than change values of settings and the world, these tables tell of the same mods
after every operation, whatever hooks do and however they fail.
-/
import ModSettings.Proofs.Session.Orderly

namespace ModSettings

open Conduct

namespace Session

/-- All tables of the session tell of the same mods. -/
structure Agrees (s : Session) : Prop where
  nodup : s.order.Nodup
  callers : ∀ key, key ∈ s.order ↔ ∃ caller, s.callers.get? key = some caller
  own : ∀ key caller, s.callers.get? key = some caller → caller.key = key
  registered : ∀ key, key ∈ s.order ↔ s.shared.registry.contains key = true
  apiLoaded : ∀ key ∈ s.order, s.shared.registry.isApiLoaded key = true
  owned : ∀ x ∈ s.shared.store.settings, x.owner ∈ s.order

/-- The flags and the settings are those of the mods in the order. -/
structure Tidy (s : Session) : Prop where
  orderly : Orderly settingValues s
  apiLoaded : ∀ key ∈ s.order, s.shared.registry.isApiLoaded key = true
  owned : ∀ x ∈ s.shared.store.settings, x.owner ∈ s.order

theorem Tidy.agrees {s : Session} (h : s.Tidy) : s.Agrees where
  nodup := h.orderly.nodup
  callers key := by rw [← h.orderly.keys, Attachments.mem_keys]
  own := h.orderly.ruled.own
  registered key := (h.orderly.registered key).symm
  apiLoaded := h.apiLoaded
  owned := h.owned

section

variable {s s' : Session} {shared shared' : Shared} {d : Descriptor} {key : Key}

/-- Where settings change their values and no more, flags stay as they are. -/
theorem isApiLoaded_eq (h : settingValues.allows shared shared') (key : Key) :
    shared'.registry.isApiLoaded key = shared.registry.isApiLoaded key := by
  rw [Registry.isApiLoaded, Registry.isApiLoaded, h.1]
  rfl

/-- Where settings change their values and no more, they keep their owners. -/
theorem exists_owner (h : settingValues.allows shared shared') {x : Setting}
    (member : x ∈ shared'.store.settings) : ∃ y ∈ shared.store.settings, y.owner = x.owner := by
  have there : (shared'.store.find? x.owner x.name).isSome = true :=
    Store.find?_isSome.mpr ⟨x, member, rfl, rfl⟩
  rw [h.2] at there
  obtain ⟨y, old, owner, _⟩ := Store.find?_isSome.mp there
  exact ⟨y, old, owner⟩

theorem Tidy.of_calm (h : s.Tidy) (calm : s.Calm settingValues s')
    (ruled : s'.Ruled settingValues) : s'.Tidy where
  orderly := h.orderly.of_calm lenient_sameMods.values calm ruled
  apiLoaded k member := by
    rw [isApiLoaded_eq calm.shared]
    exact h.apiLoaded k (calm.order ▸ member)
  owned x member := by
    obtain ⟨y, old, owner⟩ := exists_owner calm.shared member
    rw [calm.order, ← owner]
    exact h.owned y old

theorem Tidy.of_loads (h : s.Tidy) {opened : Shared}
    {step : Step Session (Except SessionError Key)}
    (loads : Loads settingValues d s key opened step) : step.state.Tidy where
  orderly := h.orderly.of_loads lenient_sameMods.values loads
  apiLoaded k member := by
    rw [isApiLoaded_eq loads.shared, Registry.isApiLoaded, loads.mods]
    by_cases new : k = key
    · rw [if_pos new]
      rfl
    · rw [if_neg new]
      rw [loads.order, List.mem_append, List.mem_singleton] at member
      exact h.apiLoaded k (member.resolve_right new)
  owned x member := by
    obtain ⟨y, before, owner⟩ := exists_owner loads.shared member
    rw [loads.order, List.mem_append, List.mem_singleton, ← owner]
    rcases loads.owners y before with new | ⟨z, old, same⟩
    · exact Or.inr new
    · exact Or.inl (same ▸ h.owned z old)

theorem Tidy.of_unloads (h : s.Tidy) {told : Shared}
    {step : Step Session (Except SessionError Unit)}
    (unloads : Unloads settingValues s key told step) : step.state.Tidy where
  orderly := h.orderly.of_unloads lenient_sameMods.values unloads
  apiLoaded k member := by
    rw [unloads.order, List.mem_filter] at member
    have other : k ≠ key := fun same => by simp [same] at member
    rw [unloads.registry, Registry.isApiLoaded, Registry.get?_unregister, if_neg other,
      unloads.heard.1]
    show (((s.shared.registry.mods.update key _).get? k).map (·.apiLoaded)).getD false = true
    rw [Slots.get?_update, if_neg other]
    exact h.apiLoaded k member.1
  owned x member := by
    rw [unloads.store] at member
    obtain ⟨stays, other⟩ := List.mem_filter.mp member
    obtain ⟨y, old, owner⟩ := exists_owner unloads.heard stays
    rw [unloads.order, List.mem_filter]
    exact ⟨owner ▸ h.owned y old, other⟩

theorem Tidy.of_cleared (h : s.Tidy) (none : s.order = []) : Tidy
    { s with
      shared := { s.shared with registry := s.shared.registry.clear }
      menuBuilt := false
      isOpen := false } where
  orderly := h.orderly.of_cleared none
  apiLoaded k member := by
    rw [show k ∈ s.order ↔ k ∈ [] by rw [none]] at member
    exact nomatch member
  owned := h.owned

end

/-! ## Runs -/

theorem stable_tidy : Stable settingValues Tidy fun _ => True where
  orderly h := h.orderly
  logs _ _ := trivial
  calm h := h.of_calm
  tells _ _ := trivial
  unloads h unloads := ⟨h.of_unloads unloads, fun _ _ => trivial⟩
  cleared h := h.of_cleared

theorem tidy_perform {s : Session} (h : s.Tidy) {op : Operation} (obeys : op.Obeys settingValues) :
    (op.perform s).state.Tidy := by
  cases op with
  | load d =>
    show (load d s).state.Tidy
    rcases load_cases lenient_settingValues h.orderly.ruled h.orderly.sound obeys with
      ⟨e, refused⟩ | ⟨key, opened, loads⟩
    · rw [refused]
      exact h
    · exact h.of_loads loads
  | _ => exact (stable_tidy.obeys_perform lenient_settingValues rfl s).state h

/-- Starting fresh and with code that changes no more than values of settings and
the world, the tables of a session agree after every run. -/
theorem agrees_after (config : Config) {catalog : Catalog} (offers : catalog.Obeys settingValues)
    {run : List Operation} (mods : ∀ op ∈ run, op.Obeys settingValues) :
    (Session.after { config, catalog } run).Agrees := by
  suffices tidy : ∀ s : Session, s.Tidy → (s.after run).Tidy by
    exact (tidy _ ⟨orderly_fresh offers, nofun, nofun⟩).agrees
  induction run with
  | nil => exact fun _ start => start
  | cons op rest ih =>
    intro s start
    obtain ⟨first, rest⟩ := List.forall_mem_cons.mp mods
    exact ih rest _ (tidy_perform start first)

/-- A mod whose hooks panic, change a setting and fail. -/
def sampleUnruly (name : String) : Descriptor where
  name := name
  displayName := name
  mainType := .cls name (some .mod) [] .concrete true
  hooks := some (.scripted (.ofList EventKind.all) fun
    | .load => .abort ⟨none⟩
    | .menuOpen => .assign "Shown" (.checkbox true)
    | .unload => .fail (.failed "Not now")
    | _ => .leave)
  settings := [("Shown", .checkbox false)]

/-- The second mod of one name is refused, and the last mod takes the slot of the
first one. -/
def sampleRun : List Operation :=
  [.load (sampleUnruly "First"), .load (sampleUnruly "Second"), .load (sampleUnruly "First"),
    .openMenu .shown, .unload (.entry 1 1), .load (sampleUnruly "Third"), .enterWorld .shown]

theorem obeys_sampleUnruly {c : Conduct Shared} (lenient : c.Lenient) (name : String) :
    (sampleUnruly name).Obeys c := by
  refine ⟨fun h given => ?_, nofun⟩
  cases given
  exact Hooks.obeys_scripted lenient _ _

theorem obeys_sampleRun {c : Conduct Shared} (lenient : c.Lenient) :
    ∀ op ∈ sampleRun, op.Obeys c := by
  have unruly (name : String) := obeys_sampleUnruly lenient name
  simp only [sampleRun, List.forall_mem_cons]
  exact ⟨unruly _, unruly _, unruly _, trivial, trivial, unruly _, trivial, nofun⟩

theorem agrees_after_sample :
    let s : Session := .after { config := {}, catalog := .standard } sampleRun
    s.Agrees ∧ s.order = [.entry 2 1, .entry 1 3] :=
  ⟨agrees_after {} (Catalog.obeys_standard lenient_settingValues)
    (obeys_sampleRun lenient_settingValues), rfl⟩

end Session
end ModSettings
