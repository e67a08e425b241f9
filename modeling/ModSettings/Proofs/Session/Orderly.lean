/-
The order of the loaded mods.

In an orderly session the callers, the order and the registry tell of the same
mods, each of them once.  That holds after every operation, though not at every
moment inside of one: while a mod's hook for its loading or unloading runs, the
mod is in some of these tables only.

An invariant together with what it lets operations write is a conduct, so that
broadcasts and shutdowns keep it if their parts do.
-/
import ModSettings.Proofs.Session.Loading

namespace ModSettings

/-- What holds of a session goes on to hold, and then only some entries are
written. -/
def Conduct.invariant (I : Session → Prop) (W : Entry → Prop) : Conduct Session where
  allows s s' := I s → I s'
  writes s e := I s → W e
  refl _ := id
  trans h h' start := h' (h start)
  writes_trans h h' start := h' (h start)

namespace Session

structure Orderly (c : Conduct Shared) (s : Session) : Prop where
  ruled : s.Ruled c
  sound : s.shared.registry.Sound
  keys : s.callers.keys = s.order
  nodup : s.order.Nodup
  registered : ∀ k, s.shared.registry.contains k = true ↔ k ∈ s.order

variable {c : Conduct Shared} {s s' : Session} {d : Descriptor} {key : Key}

theorem orderly_fresh {config : Config} {catalog : Catalog} (h : catalog.Obeys c) :
    Orderly c { config, catalog } where
  ruled := ⟨h, nofun, nofun⟩
  sound := Registry.sound_empty
  keys := rfl
  nodup := .nil
  registered k := by
    refine ⟨fun live => ?_, nofun⟩
    obtain ⟨_, found⟩ := Registry.contains_iff.mp live
    obtain ⟨_, _, none, _⟩ := Slots.get?_eq_some.mp found
    exact nomatch none

namespace Orderly

section

variable (keeps : ∀ {s s'}, c.allows s s' → s.registry.Flagged s'.registry)
include keeps

theorem of_calm (h : Orderly c s) (calm : s.Calm c s') (ruled : s'.Ruled c) : Orderly c s' where
  ruled := ruled
  sound := (keeps calm.shared).sound h.sound
  keys := by rw [calm.keys, calm.order, h.keys]
  nodup := by rw [calm.order]; exact h.nodup
  registered k := by rw [calm.order, (keeps calm.shared).contains_eq, h.registered]

theorem of_loads (h : Orderly c s) {opened : Shared} {step : Step Session (Except SessionError Key)}
    (loads : Loads c d s key opened step) : Orderly c step.state := by
  have unused : ∀ k ∈ s.callers.keys, k.sameSlot key = false := by
    intro k member
    rw [h.keys] at member
    exact loads.unused k ((h.registered k).mpr member)
  have fresh : key ∉ s.order := by
    intro member
    exact Key.ne_of_sameSlot (unused key (h.keys ▸ member)) loads.proper rfl
  obtain ⟨caller, callers, _, _⟩ := loads.callers
  refine ⟨h.ruled.of_loads loads, ?_, ?_, ?_, fun k => ?_⟩
  · exact (keeps loads.shared).sound loads.sound
  · rw [callers, Attachments.keys_insert unused loads.proper, h.keys, loads.order]
  · rw [loads.order]
    exact List.nodup_append.mpr ⟨h.nodup, List.pairwise_singleton _ _, fun k old k' new same =>
      fresh (List.mem_singleton.mp new ▸ same ▸ old)⟩
  · rw [(keeps loads.shared).contains_eq, loads.order, List.mem_append, List.mem_singleton,
      ← h.registered, Registry.contains_iff, Registry.contains_iff, loads.mods]
    by_cases new : k = key
    · rw [if_pos new]
      exact ⟨fun _ => Or.inr new, fun _ => ⟨_, rfl⟩⟩
    · rw [if_neg new]
      exact ⟨Or.inl, fun either => either.resolve_right new⟩

theorem flagged_of_unloads {told : Shared} {step : Step Session (Except SessionError Unit)}
    (unloads : Unloads c s key told step) : s.shared.registry.Flagged told.registry :=
  .trans (.setApiLoaded .refl key false) (keeps unloads.heard)

theorem of_unloads (h : Orderly c s) {told : Shared}
    {step : Step Session (Except SessionError Unit)} (unloads : Unloads c s key told step) :
    Orderly c step.state := by
  have flagged := flagged_of_unloads keeps unloads
  refine ⟨h.ruled.of_unloads unloads, ?_, ?_, ?_, fun k => ?_⟩
  · rw [unloads.registry]
    exact Registry.sound_unregister (flagged.sound h.sound) key
  · rw [unloads.callers, Attachments.keys_erase, h.keys, unloads.order]
  · rw [unloads.order]
    exact h.nodup.filter _
  · rw [unloads.registry, unloads.order, List.mem_filter, ← h.registered, ← flagged.contains_eq,
      Registry.contains_iff, Registry.contains_iff, Registry.get?_unregister]
    by_cases gone : k = key
    · rw [if_pos gone, gone]
      simp
    · rw [if_neg gone]
      simp [gone]

end

theorem of_cleared (h : Orderly c s) (none : s.order = []) : Orderly c
    { s with
      shared := { s.shared with registry := s.shared.registry.clear }
      menuBuilt := false
      isOpen := false } where
  ruled := ⟨h.ruled.catalog, h.ruled.hooks, h.ruled.own⟩
  sound := Registry.sound_clear h.sound
  keys := h.keys
  nodup := h.nodup
  registered k := by
    show Registry.contains (Registry.clear _) k = true ↔ k ∈ s.order
    rw [none, Registry.contains_iff]
    refine ⟨fun ⟨_, found⟩ => ?_, nofun⟩
    rw [Registry.get?_clear] at found
    exact nomatch found

/-- Unloading takes the mod out of the order, if it was there at all. -/
theorem order_unload (h : Orderly c s) (key : Key) :
    (unload key s).state.order = s.order.filter (!· == key) := by
  rcases unload_cases h.ruled key with ⟨absent, refused⟩ | ⟨told, unloads⟩
  · rw [refused]
    rw [h.keys] at absent
    refine (List.filter_eq_self.mpr fun k member => ?_).symm
    have other : k ≠ key := fun same => absent (same ▸ member)
    simp [other]
  · exact unloads.order

end Orderly

/-! ## Invariants -/

/-- What an invariant `I` has to withstand, and entries `W` to allow for, so that
unloading, shutting down and whatever leaves the mods alone keeps to them. -/
structure Stable (c : Conduct Shared) (I : Session → Prop) (W : Entry → Prop) : Prop where
  orderly : ∀ {s}, I s → Orderly c s
  logs : ∀ level message, W (.log level message)
  calm : ∀ {s s'}, I s → s.Calm c s' → s'.Ruled c → I s'
  tells : ∀ {s e}, I s → s.Tells c e → W e
  unloads : ∀ {s key told step}, I s → Unloads c s key told step →
    I step.state ∧ ∀ e ∈ step.journal, W e
  cleared : ∀ {s}, I s → s.order = [] → I
    { s with
      shared := { s.shared with registry := s.shared.registry.clear }
      menuBuilt := false
      isOpen := false }

namespace Stable

variable {I : Session → Prop} {W : Entry → Prop} (h : Stable c I W)
include h

theorem obeys_unload (key : Key) : (unload key).Obeys (.invariant I W) := by
  intro s
  refine ⟨fun start => ?_, fun e member start => ?_⟩
  · rcases unload_cases (h.orderly start).ruled key with ⟨_, refused⟩ | ⟨told, unloads⟩
    · rw [refused]
      exact start
    · exact (h.unloads start unloads).1
  · rcases unload_cases (h.orderly start).ruled key with ⟨_, refused⟩ | ⟨told, unloads⟩
    · rw [refused] at member
      exact nomatch member
    · exact (h.unloads start unloads).2 e member

theorem obeys_unloadOrWarn (key : Key) : (unloadOrWarn key).Obeys (.invariant I W) := by
  intro s
  obtain ⟨j, written, warns⟩ := journal_unloadOrWarn key s
  refine ⟨?_, ?_⟩
  · rw [state_unloadOrWarn]
    exact (h.obeys_unload key s).state
  · rw [written]
    refine List.forall_mem_append.mpr ⟨(h.obeys_unload key s).journal, fun e member _ => ?_⟩
    obtain ⟨level, message, rfl⟩ := warns e member
    exact h.logs level message

theorem order_forEach_unload (start : I s) (keys : List Key) :
    ∀ k ∈ (Flow.forEach unloadOrWarn keys s).state.order, k ∈ s.order ∧ k ∉ keys := by
  induction keys generalizing s with
  | nil => exact fun k member => ⟨member, List.not_mem_nil⟩
  | cons key rest ih =>
    intro k member
    have left := ih ((h.obeys_unloadOrWarn key s).state start) k member
    rw [state_unloadOrWarn, (h.orderly start).order_unload key, List.mem_filter] at left
    obtain ⟨⟨old, other⟩, outside⟩ := left
    refine ⟨old, List.not_mem_cons_of_ne_of_not_mem (fun same => ?_) outside⟩
    simp [same] at other

/-- When all mods were unloaded none is left. -/
theorem order_unloaded (start : I s) :
    (Flow.forEach unloadOrWarn s.order.reverse s).state.order = [] := by
  refine List.eq_nil_iff_forall_not_mem.mpr fun k member => ?_
  obtain ⟨old, outside⟩ := h.order_forEach_unload start _ k member
  exact outside (List.mem_reverse.mpr old)

theorem obeys_shutdown : shutdown.Obeys (.invariant I W) := by
  intro s
  have all := Flow.obeys_forEach h.obeys_unloadOrWarn s.order.reverse s
  rw [shutdown_eq]
  refine ⟨fun start => h.cleared (all.state start) (h.order_unloaded start), ?_⟩
  refine List.forall_mem_append.mpr ⟨all.journal, ?_⟩
  exact List.forall_mem_cons.mpr ⟨fun _ => h.logs _ _,
    List.forall_mem_singleton.mpr fun _ => h.logs _ _⟩

theorem obeys_perform (lenient : c.Lenient) {op : Operation} (other : op.isLoad = false) :
    op.perform.Obeys (.invariant I W) := by
  have passes (passing : op.isPassing = true) : op.perform.Obeys (.invariant I W) := by
    intro s
    have done := Operation.obeys_perform lenient passing s
    refine ⟨fun start => ?_, fun e member start => ?_⟩
    · obtain ⟨calm, ruled⟩ := done.state (h.orderly start).ruled
      exact h.calm start calm ruled
    · exact h.tells start (done.journal e member (h.orderly start).ruled)
  cases op with
  | load d => exact absurd other (Ne.symm Bool.false_ne_true)
  | unload key => exact h.obeys_unload key
  | shutdown => exact h.obeys_shutdown
  | _ => exact passes rfl

end Stable

end Session
end ModSettings
