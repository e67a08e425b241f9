/-
The keys that a session gives.

What a session and the hooks of its mods do to the registry comes to a run of
changes of the registry, in which a registration that succeeds is a loading that
gives the same key.  So what is known of the keys that a registry gives is known
of those of a session: none is given twice unless the versions of a slot come
round.
-/
import ModSettings.Proofs.Registry.History
import ModSettings.Proofs.Session.Dispatch

namespace ModSettings

open Conduct

namespace Session

/-- All keys that a run gives, the first one in front. -/
def keysOf (s : Session) : List Operation → List Key
  | [] => []
  | op :: rest => (op.gives? s).toList ++ (op.perform s).state.keysOf rest

theorem keysOf_append (s : Session) (run later : List Operation) :
    s.keysOf (run ++ later) = s.keysOf run ++ (s.after run).keysOf later := by
  induction run generalizing s with
  | nil => rfl
  | cons first rest ih =>
    rw [List.cons_append, keysOf, keysOf, ih, List.append_assoc]
    rfl

theorem keysOf_concat (s : Session) (run : List Operation) (op : Operation) :
    s.keysOf (run ++ [op]) = s.keysOf run ++ (op.gives? (s.after run)).toList := by
  rw [keysOf_append, keysOf, keysOf, List.append_nil]

/-- No mod is given a key that the order still has.  A key that it has comes again only
when its mod was removed behind the session's back and the versions of its slot have
come round since. -/
def GivesAnew (s : Session) (run : List Operation) : Prop :=
  ∀ past op later key, run = past ++ op :: later → op.gives? (s.after past) = some key →
    key ∉ (s.after past).order

variable {s : Session} {run : List Operation} {op : Operation} {key : Key}

theorem givesAnew_concat : s.GivesAnew (run ++ [op]) ↔ s.GivesAnew run ∧
    ∀ key, op.gives? (s.after run) = some key → key ∉ (s.after run).order := by
  constructor
  · intro anew
    refine ⟨fun past op' later key split => ?_, fun key => anew run op [] key rfl⟩
    exact anew past op' (later ++ [op]) key (by rw [split, List.append_assoc, List.cons_append])
  · rintro ⟨earlier, last⟩ past op' later key split
    rcases concat_eq_append_cons.mp split with ⟨_, rfl, rfl⟩ | ⟨later, _, before⟩
    · exact last key
    · exact earlier past op' later key before

/-- However a session came about, it goes on to be enrolled. -/
theorem Enrolled.after {c : Conduct Shared} (discreet : c.Discreet) (h : Enrolled c s)
    (mods : ∀ op ∈ run, op.Obeys c) (anew : s.GivesAnew run) : Enrolled c (s.after run) := by
  induction run using List.reverseRecOn with
  | nil => exact h
  | append_singleton run op ih =>
    obtain ⟨before, last⟩ := List.forall_mem_append.mp mods
    obtain ⟨earlier, new⟩ := givesAnew_concat.mp anew
    rw [after_concat]
    exact (ih before earlier).perform discreet.sound discreet.lenient
      (List.forall_mem_singleton.mp last) new

theorem Orderly.not_mem_order {c : Conduct Shared} (orderly : Orderly c s)
    (given : op.gives? s = some key) : key ∉ s.order := by
  obtain ⟨d, rfl, loaded⟩ := load_of_gives? given
  obtain ⟨r, registered⟩ := exists_register_of_load orderly.sound loaded
  intro member
  have live := (orderly.registered key).mpr member
  exact Registry.ne_of_register orderly.sound registered live rfl

theorem becomes_load (orderly : Orderly guests s) {d : Descriptor} (obeys : d.Obeys guests) :
    s.shared.registry.Becomes ((Operation.load d).gives? s).toList
      (load d s).state.shared.registry := by
  rw [Operation.gives?]
  rcases load_cases lenient_guests orderly.ruled orderly.sound obeys with
    ⟨e, refused⟩ | ⟨key, opened, loads⟩
  · rw [refused]
    exact .refl _
  · rw [loads.value]
    exact loads.given.trans (.of_flagged loads.shared)

/-- Starting from a registry, only unnamed changes were made to it. -/
theorem stable_becomes (r : Registry) :
    Stable guests (fun s => Orderly guests s ∧ r.Becomes [] s.shared.registry) fun _ => True where
  orderly h := h.1
  logs _ _ := trivial
  calm h calm ruled := ⟨h.1.of_calm id calm ruled, h.2.trans (.of_flagged calm.shared)⟩
  tells _ _ := trivial
  unloads h unloads := by
    refine ⟨⟨h.1.of_unloads id unloads, ?_⟩, fun _ _ => trivial⟩
    rw [unloads.registry]
    have told := h.2.trans (.of_flagged (Orderly.flagged_of_unloads id unloads))
    exact told.change (c := .unregister _) rfl
  cleared h none := ⟨h.1.of_cleared none, h.2.change (c := .clear) rfl⟩

theorem becomes_perform (orderly : Orderly guests s) (obeys : op.Obeys guests) :
    s.shared.registry.Becomes (op.gives? s).toList (op.perform s).state.shared.registry := by
  have others (other : op.isLoad = false) :
      s.shared.registry.Becomes [] (op.perform s).state.shared.registry :=
    (((stable_becomes s.shared.registry).obeys_perform lenient_guests other s).state
      ⟨orderly, .refl _⟩).2
  cases op with
  | load d => exact becomes_load orderly obeys
  | _ => exact others rfl

/-! ## Runs -/

section

variable (orderly : Orderly guests s) (mods : ∀ op ∈ run, op.Obeys guests)
include orderly mods

theorem orderly_after : Orderly guests (s.after run) := by
  induction run using List.reverseRecOn with
  | nil => exact orderly
  | append_singleton run op ih =>
    obtain ⟨before, last⟩ := List.forall_mem_append.mp mods
    rw [after_concat]
    exact orderly_perform (ih before) (List.forall_mem_singleton.mp last)

/-- As long as mods come and go with the session, every key is new to the order. -/
theorem givesAnew_of_orderly : s.GivesAnew run := by
  intro past op later key split
  have before : ∀ op ∈ past, op.Obeys guests := fun op member =>
    mods op (split ▸ List.mem_append_left _ member)
  exact (orderly_after orderly before).not_mem_order

theorem becomes_after :
    s.shared.registry.Becomes (s.keysOf run) (s.after run).shared.registry := by
  induction run using List.reverseRecOn with
  | nil => exact .refl _
  | append_singleton run op ih =>
    obtain ⟨before, last⟩ := List.forall_mem_append.mp mods
    rw [after_concat, keysOf_concat]
    exact (ih before).trans
      (becomes_perform (orderly_after orderly before) (List.forall_mem_singleton.mp last))

/-- Started with an empty registry, a session gives no key twice unless the
versions of a slot come round. -/
theorem nodup_keysOf (empty : s.shared.registry = {}) (unwrapped : Key.Unwrapped (s.keysOf run)) :
    (s.keysOf run).Nodup := by
  obtain ⟨changes, _, keys⟩ := becomes_after orderly mods
  rw [empty] at keys
  rw [← keys] at unwrapped ⊢
  exact Registry.nodup_keysOf unwrapped

end

end Session

end ModSettings
