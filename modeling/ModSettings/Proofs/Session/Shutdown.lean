/-
What shutting down leaves behind.

Shutting down unloads every mod in the order of the loaded ones.  A mod that was
removed from the registry directly stays in that order, and when a later mod takes
over its slot it loses its caller to that mod.  Then it can no longer be unloaded:
`leaves_shutdown` says that such mods, the stranded ones, stay in the order with
whatever settings they have, and that nothing else stays.  So a session comes out
as new exactly if no mod was stranded.
-/
import ModSettings.Proofs.Session.Steady
import ModSettings.Proofs.Session.Tables

namespace ModSettings

open Conduct

/-- The session's callers are bound, and so is the caller of every mod that it
loads. -/
def Registry.isBound (r : Registry) (key : Key) : Bool :=
  ((r.mods.get? key).map (·.callerBound)).getD false

namespace Conduct

/-- The registry goes through its own operations, but no caller gets bound, and
settings are declared for mods whose caller is. -/
def tenants : Conduct Shared where
  allows s s' := free.allows s s' ∧
    (∀ key, s'.registry.isBound key = true → s.registry.isBound key = true) ∧
    ∀ x ∈ s'.store.settings,
      s.registry.isBound x.owner = true ∨ ∃ y ∈ s.store.settings, y.owner = x.owner
  writes _ _ := True
  refl s := ⟨free.refl s, fun _ => id, fun x member => Or.inr ⟨x, member, rfl⟩⟩
  trans := by
    rintro s s' s'' ⟨allowed, bound, owners⟩ ⟨allowed', bound', owners'⟩
    refine ⟨free.trans allowed allowed', fun key there => bound key (bound' key there), ?_⟩
    intro x member
    rcases owners' x member with there | ⟨y, between, same⟩
    · exact Or.inl (bound x.owner there)
    · rw [← same]
      exact owners y between
  writes_trans _ _ := trivial

theorem sound_of_tenants {s s' : Shared} (h : tenants.allows s s') :
    s.registry.Sound → s'.registry.Sound := sound_of_free h.1

theorem lenient_tenants : tenants.Lenient := by
  refine ⟨fun h => ⟨lenient_free.values h, fun key there => ?_, fun x member => ?_⟩,
    fun _ _ _ => trivial, fun _ _ => trivial⟩
  · rw [h.1] at there
    exact there
  · exact Or.inr (Session.exists_owner h member)

end Conduct

namespace Session

/-- What a session still has when it was shut down and these mods were
stranded. -/
structure Leaves (gone : Session) (stranded : List Key) : Prop where
  order : gone.order = stranded
  callers : ∀ key, gone.callers.get? key = none
  mods : ∀ key, gone.shared.registry.contains key = false
  inWorld : gone.shared.registry.inWorld = false
  /-- The next opening will create all mods. -/
  unbuilt : gone.menuBuilt = false
  closed : gone.isOpen = false

/-! ## Runs -/

/-- Every caller is that of a mod in the order. -/
structure Listed (s : Session) : Prop where
  steady : Steady free s
  callers : ∀ key ∈ s.callers.keys, key ∈ s.order

theorem enduring_listed : Enduring free Listed where
  steady h := h.steady
  calm h calm ruled :=
    { steady := (enduring_steady sound_of_free).calm h.steady calm ruled
      callers := by
        rw [calm.keys, calm.order]
        exact h.callers }
  loads h loads :=
    { steady := (enduring_steady sound_of_free).loads h.steady loads
      callers := fun k member => by
        rw [loads.order, List.mem_append, List.mem_singleton]
        rcases loads.mem_keys member with new | old
        · exact Or.inr new
        · exact Or.inl (h.callers k old) }
  unloads h unloads :=
    { steady := (enduring_steady sound_of_free).unloads h.steady unloads
      callers := fun k member => by
        rw [unloads.callers, Attachments.keys_erase, List.mem_filter] at member
        rw [unloads.order, List.mem_filter]
        exact ⟨h.callers k member.1, member.2⟩ }
  cleared h := ⟨(enduring_steady sound_of_free).cleared h.steady, h.callers⟩

/-- Every caller that the registry has bound and every setting is that of a mod in
the order. -/
structure Housed (s : Session) : Prop where
  steady : Steady tenants s
  bound : ∀ key, s.shared.registry.isBound key = true → key ∈ s.order
  owned : ∀ x ∈ s.shared.store.settings, x.owner ∈ s.order

theorem Housed.of_loads {s : Session} (h : s.Housed) {d : Descriptor} {key : Key} {opened : Shared}
    {step : Step Session (Except SessionError Key)} (loads : Loads tenants d s key opened step) :
    step.state.Housed := by
  obtain ⟨_, bound, owners⟩ := loads.shared
  have housed (k : Key) (there : opened.registry.isBound k = true) : k ∈ step.state.order := by
    rw [loads.order, List.mem_append, List.mem_singleton]
    rw [Registry.isBound, loads.mods] at there
    by_cases new : k = key
    · exact Or.inr new
    · rw [if_neg new] at there
      exact Or.inl (h.bound k there)
  refine ⟨(enduring_steady sound_of_tenants).loads h.steady loads,
    fun k there => housed k (bound k there), fun x member => ?_⟩
  rcases owners x member with there | ⟨y, before, same⟩
  · exact housed x.owner there
  · rw [← same, loads.order, List.mem_append, List.mem_singleton]
    rcases loads.owners y before with new | ⟨z, old, same'⟩
    · exact Or.inr new
    · exact Or.inl (same' ▸ h.owned z old)

theorem Housed.of_unloads {s : Session} (h : s.Housed) {key : Key} {told : Shared}
    {step : Step Session (Except SessionError Unit)} (unloads : Unloads tenants s key told step) :
    step.state.Housed := by
  obtain ⟨_, bound, owners⟩ := unloads.heard
  have housed (k : Key) (there : (s.shared.registry.setApiLoaded key false).isBound k = true) :
      k ∈ s.order := by
    refine h.bound k ?_
    rw [Registry.isBound, Registry.setApiLoaded, Slots.get?_update] at there
    by_cases here : k = key
    · rwa [if_pos here, Option.map_map] at there
    · rwa [if_neg here] at there
  refine ⟨(enduring_steady sound_of_tenants).unloads h.steady unloads, fun k there => ?_,
    fun x member => ?_⟩
  · rw [unloads.registry, Registry.isBound, Registry.get?_unregister] at there
    rw [unloads.order, List.mem_filter]
    by_cases gone : k = key
    · rw [if_pos gone] at there
      cases there
    · rw [if_neg gone] at there
      exact ⟨housed k (bound k there), by simpa using gone⟩
  · rw [unloads.store] at member
    obtain ⟨stays, other⟩ := List.mem_filter.mp member
    rw [unloads.order, List.mem_filter]
    rcases owners x stays with there | ⟨y, old, same⟩
    · exact ⟨housed x.owner there, other⟩
    · exact ⟨same ▸ h.owned y old, other⟩

theorem housed_fresh {config : Config} {catalog : Catalog} (offers : catalog.Obeys tenants) :
    Housed { config, catalog } where
  steady := steady_fresh offers
  bound key there := by
    have absent : ({} : Registry).mods.get? key = none := Slots.get?_clear {} key
    rw [Registry.isBound, absent] at there
    exact nomatch there
  owned := nofun

theorem enduring_housed : Enduring tenants Housed where
  steady h := h.steady
  calm h calm ruled :=
    { steady := (enduring_steady sound_of_tenants).calm h.steady calm ruled
      bound := fun key there => by
        rw [calm.order]
        exact h.bound key (calm.shared.2.1 key there)
      owned := fun x member => by
        rw [calm.order]
        rcases calm.shared.2.2 x member with there | ⟨y, old, same⟩
        · exact h.bound x.owner there
        · exact same ▸ h.owned y old }
  loads h loads := h.of_loads loads
  unloads h unloads := h.of_unloads unloads
  cleared h :=
    { steady := (enduring_steady sound_of_tenants).cleared h.steady
      bound := fun key there => by
        rw [Registry.isBound, Registry.get?_clear] at there
        exact nomatch there
      owned := h.owned }

/-! ## Shutting down -/

/-- The mods that can no longer be unloaded. -/
def stranded (s : Session) : List Key := s.order.filter fun key => (s.callers.get? key).isNone

theorem leaves_of_callers {s : Session} (listed : ∀ key ∈ s.callers.keys, key ∈ s.order) :
    (shutdown s).state.Leaves s.stranded := by
  obtain ⟨callers, order⟩ := forEach_unload s.order.reverse s
  rw [shutdown_eq]
  refine
    { order := ?_
      callers := fun key => ?_
      mods := fun key => ?_
      inWorld := rfl
      unbuilt := rfl
      closed := rfl }
  · rw [order]
    refine List.filter_congr fun k member => ?_
    rw [List.contains_iff_mem.mpr (List.mem_reverse.mpr member)]
    rfl
  · rw [callers]
    by_cases there : key ∈ s.order.reverse
    · rw [if_pos there]
    · rw [if_neg there]
      by_contra found
      obtain ⟨caller, found⟩ := Option.ne_none_iff_exists'.mp found
      exact there (List.mem_reverse.mpr (listed key (Attachments.mem_keys.mpr ⟨caller, found⟩)))
  · refine Bool.eq_false_iff.mpr fun live => ?_
    obtain ⟨_, found⟩ := Registry.contains_iff.mp live
    rw [Registry.get?_clear] at found
    exact nomatch found

/-- No mod of an orderly session is stranded, so shutting it down leaves
nothing. -/
theorem Orderly.leaves_nothing {c : Conduct Shared} {s : Session} (h : Orderly c s) :
    (shutdown s).state.Leaves [] := by
  have none : s.stranded = [] := by
    refine List.filter_eq_nil_iff.mpr fun key member => ?_
    obtain ⟨caller, found⟩ := Attachments.mem_keys.mp (h.keys ▸ member)
    rw [found]
    exact Bool.false_ne_true
  rw [← none]
  exact leaves_of_callers fun key member => h.keys ▸ member

/-- Whatever hooks do and whatever is done with the registry between two
operations, shutting a session down leaves its stranded mods in the order and
nothing else of its mods.  The settings that it leaves are theirs as well, if
settings were declared for the session's mods only. -/
theorem leaves_shutdown (config : Config) {catalog : Catalog} (offers : catalog.Obeys free)
    {run : List Act} (mods : ∀ act ∈ run, act.Obeys free) :
    let s := afterActs { config, catalog } run
    (shutdown s).state.Leaves s.stranded ∧
      (catalog.Obeys tenants → (∀ act ∈ run, act.Obeys tenants) →
        ∀ x ∈ (shutdown s).state.shared.store.settings, x.owner ∈ s.stranded) := by
  intro s
  have listed : s.Listed :=
    enduring_listed.after lenient_free
      ⟨steady_fresh offers, fun _ member => absurd member List.not_mem_nil⟩ mods
  have leaves := leaves_of_callers listed.callers
  refine ⟨leaves, fun offers mods x member => ?_⟩
  have housed : s.Housed :=
    enduring_housed.after lenient_tenants (housed_fresh offers) mods
  have gone : (Operation.shutdown.perform s).state.Housed :=
    enduring_housed.perform lenient_tenants housed trivial
  rw [← leaves.order]
  exact gone.owned x member

/-- The mod of a key is removed from the registry alone. -/
def removal (key : Key) : Act := .direct do
  let _ ← Shared.unregister key
  return ()

theorem obeys_removal (key : Key) : (removal key).Obeys tenants := by
  refine Flow.obeys_bind (fun s => ⟨?_, fun _ _ => trivial⟩) fun _ => Flow.obeys_pure ()
  rw [state_unregister]
  refine ⟨⟨[], (Registry.Becomes.refl _).change (c := .unregister key) rfl⟩, fun k there => ?_,
    fun x member => Or.inr ⟨x, member, rfl⟩⟩
  rw [Registry.isBound, Registry.get?_unregister] at there
  by_cases gone : k = key
  · rw [if_pos gone] at there
    exact nomatch there
  · rwa [if_neg gone] at there

/-- The first mod is removed from the registry and the second one takes its slot.
When all is shut down the first one is still loaded and has its setting. -/
def sampleStranding : List Act :=
  [.operation (.load (sampleUnruly "First")), removal (.entry 1 1),
    .operation (.load (sampleUnruly "Second"))]

theorem leaves_shutdown_sample :
    let s := afterActs { config := {}, catalog := .standard } sampleStranding
    s.order = [.entry 1 1, .entry 1 3] ∧ (shutdown s).state.Leaves [.entry 1 1] ∧
      (∀ x ∈ (shutdown s).state.shared.store.settings, x.owner ∈ [Key.entry 1 1]) ∧
      (shutdown s).state.shared.store.settings.length = 1 := by
  intro s
  have mods : ∀ act ∈ sampleStranding, act.Obeys tenants := by
    simp only [sampleStranding, List.forall_mem_cons]
    exact ⟨obeys_sampleUnruly lenient_tenants _, obeys_removal _,
      obeys_sampleUnruly lenient_tenants _, nofun⟩
  have mods' : ∀ act ∈ sampleStranding, act.Obeys free := by
    simp only [sampleStranding, List.forall_mem_cons]
    exact ⟨obeys_sampleUnruly lenient_free _,
      fun s => ⟨(obeys_removal _ s).state.1, fun _ _ => trivial⟩,
      obeys_sampleUnruly lenient_free _, nofun⟩
  obtain ⟨leaves, owned⟩ := leaves_shutdown {} (Catalog.obeys_standard lenient_free) mods'
  have stranded : s.stranded = [.entry 1 1] := rfl
  rw [← stranded]
  exact ⟨rfl, leaves, owned (Catalog.obeys_standard lenient_tenants) mods, rfl⟩

end Session
end ModSettings
