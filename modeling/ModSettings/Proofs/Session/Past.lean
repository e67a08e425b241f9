/-
The keys in a session's past.

All keys that a session still has were given by its registry at some time, also
those of mods that were removed behind the session's back.  `exists_past` says so of
every run.  A new mod that finds room in its slot has a newer key than whatever was
left there: the order of the mods does not have it yet, and the table of callers
takes it.  Once the mod is removed its key stays dead until the versions of the slot
come round, see `Past.stays_dead`.
-/
import ModSettings.Proofs.Session.Keys

namespace ModSettings

open Conduct

namespace Session

/-- The registry has given these keys since it was empty, and the session has no
others. -/
structure Past (keys : List Key) (s : Session) : Prop where
  registry : ({} : Registry).Becomes keys s.shared.registry
  order : ∀ k ∈ s.order, k ∈ keys
  callers : ∀ k ∈ s.callers.keys, k ∈ keys

/-- A new mod finds room in the slot: nothing was left there, or the versions of the slot
have not come half way round, so that whatever was left is older. -/
def HasRoom (keys : List Key) (key : Key) (s : Session) : Prop :=
  (∀ k, k ∈ s.order ∨ k ∈ s.callers.keys → k.sameSlot key = false) ∨
    Key.uses keys key.slot < 2 ^ 30

variable {keys more : List Key} {s s' : Session} {key : Key}

theorem past_fresh (config : Config) (catalog : Catalog) : Past [] { config, catalog } :=
  ⟨.refl _, nofun, nofun⟩

namespace Past

/-- What was given since joins the past. -/
theorem later (h : s.Past keys) (becomes : s.shared.registry.Becomes more s'.shared.registry)
    (order : ∀ k ∈ s'.order, k ∈ s.order ∨ k ∈ more)
    (callers : ∀ k ∈ s'.callers.keys, k ∈ s.callers.keys ∨ k ∈ more) :
    s'.Past (keys ++ more) where
  registry := h.registry.trans becomes
  order k member := List.mem_append.mpr ((order k member).imp_left (h.order k))
  callers k member := List.mem_append.mpr ((callers k member).imp_left (h.callers k))

theorem sound (h : s.Past keys) : s.shared.registry.Sound := h.registry.sound Registry.sound_empty

theorem issued (h : s.Past keys) : s.shared.registry.mods.Issued keys :=
  h.registry.issued Slots.issued_empty Registry.sound_empty

end Past

theorem enduring_past : Enduring free fun s => Steady free s ∧ ∃ keys, s.Past keys where
  steady h := h.1
  calm := by
    rintro s s' ⟨steady, keys, past⟩ calm ruled
    obtain ⟨more, becomes⟩ := calm.shared
    refine ⟨(enduring_steady sound_of_free).calm steady calm ruled, _,
      past.later becomes (fun k member => ?_) fun k member => ?_⟩
    · exact Or.inl (calm.order ▸ member)
    · exact Or.inl (calm.keys ▸ member)
  loads := by
    rintro s d key opened step ⟨steady, keys, past⟩ loads
    obtain ⟨more, becomes⟩ := loads.shared
    refine ⟨(enduring_steady sound_of_free).loads steady loads, _,
      past.later (loads.given.trans becomes) (fun k member => ?_) fun k member => ?_⟩
    · rw [loads.order, List.mem_append, List.mem_singleton] at member
      exact member.imp_right fun new => List.mem_append_left more (List.mem_singleton.mpr new)
    · rcases loads.mem_keys member with new | old
      · exact Or.inr (List.mem_append_left more (List.mem_singleton.mpr new))
      · exact Or.inl old
  unloads := by
    rintro s key told step ⟨steady, keys, past⟩ unloads
    obtain ⟨more, becomes⟩ := unloads.heard
    have cleared : s.shared.registry.Becomes [] (s.shared.registry.setApiLoaded key false) :=
      (Registry.Becomes.refl _).change (c := .setApiLoaded key false) rfl
    have removed : s.shared.registry.Becomes ([] ++ more) step.state.shared.registry := by
      rw [unloads.registry]
      exact (cleared.trans becomes).change (c := .unregister key) rfl
    refine ⟨(enduring_steady sound_of_free).unloads steady unloads, _,
      past.later removed (fun k member => ?_) fun k member => ?_⟩
    · rw [unloads.order] at member
      exact Or.inl (List.mem_filter.mp member).1
    · rw [unloads.callers, Attachments.keys_erase] at member
      exact Or.inl (List.mem_filter.mp member).1
  cleared := by
    rintro s ⟨steady, keys, past⟩
    exact ⟨(enduring_steady sound_of_free).cleared steady, _,
      { past with registry := past.registry.change (c := .clear) rfl }⟩

/-- Whatever was done with a session and its handles, it has a past. -/
theorem exists_past (config : Config) {catalog : Catalog} (offers : catalog.Obeys free)
    {run : List Act} (mods : ∀ act ∈ run, act.Obeys free) :
    ∃ keys, (afterActs { config, catalog } run).Past keys :=
  (enduring_past.after lenient_free ⟨steady_fresh offers, [], past_fresh config catalog⟩ mods).2

/-! ## The key of a new mod -/

namespace Past

variable {name : String} {t : Ty} {r r' : Registry} (h : s.Past keys)
  (registered : s.shared.registry.register name t = .ok (key, r))
include h registered

theorem key_eq : ∃ position,
    key = .entry (position + 1) (Slots.versionOf (Key.uses keys (position + 1))) := by
  obtain ⟨position, given, _⟩ := h.issued.exists_filled h.sound.slots { name, mainType := t }
  exact ⟨position, (Registry.register_eq_ok registered).2.1.trans given⟩

theorem not_mem (unwrapped : Key.Unwrapped (keys ++ [key])) : key ∉ keys := by
  obtain ⟨_, given, _⟩ := Registry.register_eq_ok registered
  rw [given] at unwrapped ⊢
  exact h.issued.fresh h.sound.slots _ unwrapped

/-- What was left in the slot of the key has an older version. -/
theorem older {k : Key} (given : k ∈ keys) (same : k.sameSlot key = true) :
    ∃ position n, k = .entry (position + 1) (Slots.versionOf n) ∧
      key = .entry (position + 1) (Slots.versionOf (Key.uses keys key.slot)) ∧
      n < Key.uses keys key.slot := by
  obtain ⟨p, rfl⟩ := h.key_eq registered
  obtain ⟨position, n, rfl, less, _⟩ := h.issued.earlier k given
  obtain rfl : position = p := Nat.succ.inj (eq_of_beq same)
  exact ⟨position, n, rfl, rfl, less⟩

theorem not_mem_order (room : s.HasRoom keys key) : key ∉ s.order := by
  have proper := Registry.ne_null_of_register registered
  intro member
  rcases room with unused | few
  · exact Key.ne_of_sameSlot (unused key (Or.inl member)) proper rfl
  · have slot : key.sameSlot key = true :=
      Bool.of_not_eq_false fun other => Key.ne_of_sameSlot other proper rfl
    obtain ⟨position, n, same, this, less⟩ := h.older registered (h.order key member) slot
    have version := (Key.entry.inj (same.symm.trans this)).2
    exact Slots.versionOf_ne less (by omega) version

theorem takes (room : s.HasRoom keys key) : s.callers.takes key = true := by
  have proper := Registry.ne_null_of_register registered
  rcases room with unused | few
  · exact Attachments.takes_of_unused (fun k member => unused k (Or.inr member)) proper
  have newest : s.callers.keys.any key.isOlderThan = false := by
    refine List.any_eq_false.mpr fun k member older => ?_
    have slot := Key.sameSlot_of_isOlderThan older
    rw [Key.sameSlot_comm] at slot
    obtain ⟨position, n, rfl, same, less⟩ := h.older registered (h.callers k member) slot
    rw [same] at older
    have version := (Bool.and_eq_true_iff.mp older).2
    rw [Slots.isOlder_versionOf (Nat.le_of_lt less) (by omega)] at version
    exact nomatch version
  rw [Attachments.takes, newest, Bool.or_false, beq_eq_false_iff_ne.mpr proper]
  rfl

/-- Once the mod is gone its key stays dead as long as the versions of its slot have
not come round to it. -/
theorem stays_dead {gone : Registry} (becomes : s.shared.registry.Becomes [key] gone)
    (dead : gone.contains key = false) (later : gone.Becomes more r')
    (near : Key.uses more key.slot < 2 ^ 31) : r'.contains key = false := by
  have one := Key.uses_singleton key
  obtain ⟨position, rfl⟩ := h.key_eq registered
  simp only [Key.slot] at one near
  refine later.contains_eq_false (becomes.issued h.issued h.sound) (becomes.sound h.sound) ?_ dead
    ?_
  · rw [Key.uses_append, one]
    exact Nat.lt_succ_self _
  · rw [Key.uses_append, Key.uses_append, one]
    omega

end Past

/-- As long as the versions of no slot have come round, every key is new to the order. -/
theorem givesAnew_of_unwrapped {run : List Operation}
    (near : ∀ past d later key, run = past ++ .load d :: later →
      (load d (s.after past)).value = .ok key →
        ∃ keys, (s.after past).Past keys ∧ Key.Unwrapped (keys ++ [key])) :
    s.GivesAnew run := by
  intro past op later key split given
  obtain ⟨d, rfl, loaded⟩ := load_of_gives? given
  obtain ⟨keys, before, unwrapped⟩ := near past d later key split loaded
  obtain ⟨r, registered⟩ := exists_register_of_load before.sound loaded
  exact fun member => before.not_mem registered unwrapped (before.order key member)

/-- As long as mods come and go with the session there is room in every slot. -/
theorem Orderly.hasRoom {c : Conduct Shared} (h : Orderly c s) {name : String} {t : Ty}
    {r : Registry} (registered : s.shared.registry.register name t = .ok (key, r))
    (keys : List Key) : s.HasRoom keys key := by
  refine Or.inl fun k left => Registry.sameSlot_register h.sound registered ?_
  rw [h.registered, ← or_self (k ∈ s.order)]
  exact left.imp_right fun member => h.keys ▸ member

end Session
end ModSettings
