/-
What a session refuses.

Loading is refused to a class that is no mod and to one that a registered mod has,
unloading to a key under which no caller is stored, and a refusal changes nothing
at all.  `refusals_after` says so for every run, whatever hooks do and whatever is
done with the registry and the store between two operations: a mod whose holder
cannot be built, whose stubs match nothing or whose hook for its loading fails is
loaded all the same.
-/
import ModSettings.Proofs.Session.Steady
import ModSettings.Proofs.Session.Tables

namespace ModSettings

open Conduct

namespace Session

variable {s : Session} {d : Descriptor} {key : Key}

theorem load_refused_iff (sound : s.shared.registry.Sound) :
    (∃ e, (load d s).value = .error e) ↔
      ∃ e, s.shared.registry.register d.name d.mainType = .error e := by
  cases registered : s.shared.registry.register d.name d.mainType with
  | error e =>
    rw [load_of_error registered]
    exact ⟨fun _ => ⟨e, rfl⟩, fun _ => ⟨_, rfl⟩⟩
  | ok result =>
    obtain ⟨r', bound, _, _⟩ := Registry.exists_opened sound registered
    rw [load_eq registered bound]
    exact ⟨nofun, nofun⟩

theorem load_eq_of_refused (sound : s.shared.registry.Sound) {e : SessionError}
    (refused : (load d s).value = .error e) : load d s = ⟨.error e, s, []⟩ := by
  obtain ⟨cause, registered⟩ := (load_refused_iff sound).mp ⟨e, refused⟩
  have loaded := load_of_error registered
  rw [loaded] at refused
  cases refused
  exact loaded

theorem unload_refused_iff :
    (∃ e, (unload key s).value = .error e) ↔ s.callers.get? key = none := by
  cases found : s.callers.get? key with
  | none =>
    rw [unload_of_none found]
    exact ⟨fun _ => rfl, fun _ => ⟨_, rfl⟩⟩
  | some caller =>
    rw [unload_eq found]
    exact ⟨nofun, nofun⟩

theorem unload_eq_of_refused {e : SessionError} (refused : (unload key s).value = .error e) :
    unload key s = ⟨.error e, s, []⟩ := by
  have unloaded := unload_of_none (unload_refused_iff.mp ⟨e, refused⟩)
  rw [unloaded] at refused
  cases refused
  exact unloaded

/-- In every session, whatever was done with it, loading is refused exactly to a
class that is no mod and to one that a registered mod has, and unloading exactly
to a key that no caller is stored under.  A refusal leaves the session as it was
and writes nothing, so it runs no hook and does not call the menu. -/
theorem refusals_after (config : Config) {catalog : Catalog} (offers : catalog.Obeys free)
    {run : List Act} (mods : ∀ act ∈ run, act.Obeys free) (d : Descriptor) (key : Key) :
    let s := afterActs { config, catalog } run
    ((∃ e, (load d s).value = .error e) ↔ Ty.mod.accepts d.mainType = false ∨
        ∃ k main, s.shared.registry.mainType? k = some main ∧ (main == d.mainType) = true) ∧
      (∀ e, (load d s).value = .error e → load d s = ⟨.error e, s, []⟩) ∧
      ((∃ e, (unload key s).value = .error e) ↔ s.callers.get? key = none) ∧
      ∀ e, (unload key s).value = .error e → unload key s = ⟨.error e, s, []⟩ := by
  intro s
  have sound : s.shared.registry.Sound :=
    ((enduring_steady sound_of_free).after lenient_free (steady_fresh offers) mods).sound
  refine ⟨?_, fun e => load_eq_of_refused sound, unload_refused_iff,
    fun e => unload_eq_of_refused⟩
  rw [load_refused_iff sound, Registry.register_eq_error sound]
  refine or_congr Iff.rfl (exists_congr fun k => ?_)
  constructor
  · rintro ⟨m, found, same⟩
    exact ⟨m.mainType, by rw [Registry.mainType?, found]; rfl, same⟩
  · rintro ⟨main, known, same⟩
    obtain ⟨m, found, rfl⟩ := Option.map_eq_some_iff.mp known
    exact ⟨m, found, same⟩

/-- A mod whose hook for its loading panicked is loaded, and its class is taken from
then on.  The next version of its slot is not in use. -/
theorem refusals_after_sample :
    let only := sampleUnruly "Only"
    let s := afterActs { config := {}, catalog := .standard } [.operation (.load only)]
    s.order = [.entry 1 1] ∧ (∃ e, load only s = ⟨.error e, s, []⟩) ∧
      ∃ e, unload (.entry 1 3) s = ⟨.error e, s, []⟩ := by
  intro only s
  have mods : ∀ act ∈ [Act.operation (.load only)], act.Obeys free :=
    List.forall_mem_singleton.mpr (obeys_sampleUnruly lenient_free "Only")
  obtain ⟨refused, unchanged, absent, unchanged'⟩ :=
    refusals_after {} (Catalog.obeys_standard lenient_free) mods only (.entry 1 3)
  have taken : (s.shared.registry.mainType? (.entry 1 1)).any (· == only.mainType) = true := by
    decide +kernel
  obtain ⟨main, known, same⟩ := (Option.any_eq_true _ _).mp taken
  obtain ⟨e, again⟩ := refused.mpr (Or.inr ⟨.entry 1 1, main, known, same⟩)
  obtain ⟨e', stale⟩ := absent.mpr rfl
  exact ⟨rfl, ⟨e, unchanged e again⟩, e', unchanged' e' stale⟩

end Session
end ModSettings
