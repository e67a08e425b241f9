/-
Who hears of what goes to all.

A mod that is removed behind the session's back stays in the order, and when the next
mod in its slot is loaded it loses its caller: it is in the order for nothing then.
What goes to all mods goes to those of the order that have a caller, and a session is
enrolled if each caller is that of a mod which the order has once.  That is kept by
every operation, whatever hooks do to the registry, as long as no mod is given a key
that the order still has.
-/
import Mathlib.Data.List.Nodup
import ModSettings.Proofs.Session.Steady

namespace ModSettings

/-- The key that a loading gives. -/
def Operation.gives? (s : Session) : Operation → Option Key
  | load d =>
      match (Session.load d s).value with
      | .ok key => some key
      | .error _ => none
  | _ => none

namespace Session

/-- The mods that hear of what goes to all. -/
def listeners (s : Session) : List Key := s.order.filter (· ∈ s.callers.keys)

/-- The session in the eyes of its listeners. -/
def attended (s : Session) : Session := { s with order := s.listeners }

/-- Every caller is that of a mod which the order has once. -/
structure Enrolled (c : Conduct Shared) (s : Session) : Prop where
  steady : Steady c s
  once : ∀ k ∈ s.callers.keys, s.order.count k = 1

variable {c : Conduct Shared} {s s' : Session} {d : Descriptor} {key : Key} {op : Operation}

theorem Calm.listeners_eq (calm : s.Calm c s') : s'.listeners = s.listeners := by
  rw [listeners, listeners, calm.order, calm.keys]

/-- A key is given by a load that is accepted. -/
theorem load_of_gives? (given : op.gives? s = some key) :
    ∃ d, op = .load d ∧ (load d s).value = .ok key := by
  cases op with
  | load d =>
    refine ⟨d, rfl, ?_⟩
    rw [Operation.gives?] at given
    cases value : (load d s).value with
    | error e =>
      rw [value] at given
      cases given
    | ok k =>
      rw [value] at given
      cases given
      rfl
  | _ => cases given

/-- Loading does not look at the order. -/
theorem gives?_attended (op : Operation) (s : Session) : op.gives? s.attended = op.gives? s := by
  cases op with
  | load d =>
    have same : (load d s.attended).value = (load d s).value := by
      cases registered : s.shared.registry.register d.name d.mainType with
      | error e => rw [load_of_error registered, load_of_error (s := s.attended) registered]
      | ok result =>
        cases bound : result.2.bindCaller result.1 with
        | error e =>
          rw [load_of_unbound registered bound, load_of_unbound (s := s.attended) registered bound]
        | ok r => rw [load_eq registered bound, load_eq (s := s.attended) registered bound]
    rw [Operation.gives?, Operation.gives?, same]
  | _ => rfl

theorem Orderly.attended_eq (h : Orderly c s) : s.attended = s := by
  have all : s.listeners = s.order :=
    List.filter_eq_self.mpr fun _ member => decide_eq_true (h.keys ▸ member)
  rw [attended, all]

theorem Orderly.enrolled (h : Orderly c s) : Enrolled c s where
  steady := ⟨h.ruled, h.sound⟩
  once _ member := List.count_eq_one_of_mem h.nodup (h.keys ▸ member)

theorem mem_keys_unload {k : Key} :
    k ∈ (unload key s).state.callers.keys ↔ k ∈ s.callers.keys ∧ k ≠ key := by
  rw [Attachments.mem_keys, Attachments.mem_keys, callers_unload]
  by_cases here : k = key <;> simp [here]

namespace Enrolled

theorem mem_listeners (h : Enrolled c s) : key ∈ s.listeners ↔ key ∈ s.callers.keys := by
  rw [listeners, List.mem_filter, decide_eq_true_iff, and_iff_right_iff_imp]
  intro there
  exact List.one_le_count_iff.mp (Nat.le_of_eq (h.once key there).symm)

theorem nodup_listeners (h : Enrolled c s) : s.listeners.Nodup := by
  refine List.nodup_iff_count_le_one.mpr fun k => ?_
  by_cases there : k ∈ s.callers.keys
  · rw [listeners, List.count_filter (p := (· ∈ s.callers.keys)) (decide_eq_true there)]
    exact Nat.le_of_eq (h.once k there)
  · have absent : k ∉ s.listeners := fun member => there (h.mem_listeners.mp member)
    rw [List.count_eq_zero_of_not_mem absent]
    exact Nat.zero_le 1

/-! ## Operations -/

section

variable (keeps : ∀ {s s'}, c.allows s s' → s.registry.Sound → s'.registry.Sound)
include keeps

theorem of_loads (h : Enrolled c s) {opened : Shared}
    {step : Step Session (Except SessionError Key)} (loads : Loads c d s key opened step)
    (new : key ∉ s.order) : Enrolled c step.state where
  steady := (enduring_steady keeps).loads h.steady loads
  once k there := by
    rw [loads.order, List.count_append]
    by_cases here : k = key
    · rw [here, List.count_eq_zero_of_not_mem new, List.count_singleton_self]
    · have old : k ∈ s.callers.keys := (loads.mem_keys there).resolve_left here
      rw [h.once k old, List.count_eq_zero_of_not_mem]
      exact fun last => here (List.mem_singleton.mp last)

theorem withstands : Withstands c (Enrolled c) where
  steady h := h.steady
  calm h calm ruled :=
    { steady := (enduring_steady keeps).calm h.steady calm ruled
      once := by
        rw [calm.keys, calm.order]
        exact h.once }
  unloads h unloads :=
    { steady := (enduring_steady keeps).unloads h.steady unloads
      once := fun k member => by
        rw [unloads.callers, Attachments.keys_erase, List.mem_filter] at member
        rw [unloads.order, List.count_filter (p := (!· == _)) member.2]
        exact h.once k member.1 }
  cleared h := ⟨(enduring_steady keeps).cleared h.steady, h.once⟩

/-- A mod that is loaded joins the others unless the order has its key already. -/
theorem perform (lenient : c.Lenient) (h : Enrolled c s) (obeys : op.Obeys c)
    (new : ∀ key, op.gives? s = some key → key ∉ s.order) : Enrolled c (op.perform s).state := by
  cases op with
  | load d =>
    show Enrolled c (load d s).state
    rcases load_cases lenient h.steady.ruled h.steady.sound obeys with
      ⟨e, refused⟩ | ⟨key, opened, loads⟩
    · rw [refused]
      exact h
    · refine h.of_loads keeps loads (new key ?_)
      rw [Operation.gives?, loads.value]
  | _ => exact (withstands keeps).perform lenient h rfl

end

end Enrolled
end Session
end ModSettings
