/-
Sessions whose registry and store others reach.

A session gives out handles of its registry and its store, and so does every hook
context.  So between two operations, and inside of hooks, mods may be registered
and removed behind the session's back, and then its tables no longer tell of the
same mods.  What is left is little: the registry is sound, since only its own
operations change it, and every caller is stored under its own key.  `Enduring`
says what else an invariant has to withstand to hold after every run.
-/
import ModSettings.Proofs.Session.Orderly

namespace ModSettings

/-- What the owner of a session does: an operation, or something with the handles
of the registry and the store. -/
inductive Act where
  | operation (op : Operation)
  | direct (m : Flow Shared Unit)

namespace Act

def perform : Act → Flow Session Unit
  | operation op => do
      let _ ← op.perform
      return ()
  | direct m => Session.onShared m

def Obeys (c : Conduct Shared) : Act → Prop
  | operation op => op.Obeys c
  | direct m => m.Obeys c

end Act

def Session.afterActs (s : Session) (run : List Act) : Session :=
  run.foldl (fun s act => (act.perform s).state) s

/-- The registry goes through its own operations. -/
def Conduct.free : Conduct Shared where
  allows s s' := ∃ keys, s.registry.Becomes keys s'.registry
  writes _ _ := True
  refl s := ⟨[], .refl s.registry⟩
  trans := fun ⟨_, h⟩ ⟨_, h'⟩ => ⟨_, h.trans h'⟩
  writes_trans _ _ := trivial

theorem Conduct.lenient_free : free.Lenient :=
  ⟨fun h => ⟨[], .of_flagged (.of_inWorld h.1)⟩, fun _ _ _ => trivial, fun _ _ => trivial⟩

theorem Conduct.sound_of_free {s s' : Shared} (h : free.allows s s') (sound : s.registry.Sound) :
    s'.registry.Sound := by
  obtain ⟨_, becomes⟩ := h
  exact becomes.sound sound

namespace Session

structure Steady (c : Conduct Shared) (s : Session) : Prop where
  ruled : s.Ruled c
  sound : s.shared.registry.Sound

/-- What an invariant has to withstand besides loading. -/
structure Withstands (c : Conduct Shared) (I : Session → Prop) : Prop where
  steady : ∀ {s}, I s → Steady c s
  calm : ∀ {s s'}, I s → s.Calm c s' → s'.Ruled c → I s'
  unloads : ∀ {s key told step}, I s → Unloads c s key told step → I step.state
  cleared : ∀ {s}, I s → I
    { s with
      shared := { s.shared with registry := s.shared.registry.clear }
      menuBuilt := false
      isOpen := false }

/-- What an invariant has to withstand. -/
structure Enduring (c : Conduct Shared) (I : Session → Prop) : Prop extends Withstands c I where
  loads : ∀ {s d key opened step}, I s → Loads c d s key opened step → I step.state

variable {c : Conduct Shared} {I : Session → Prop} {s : Session}

namespace Withstands

variable (h : Withstands c I)
include h

theorem unload (start : I s) (key : Key) : I (unload key s).state := by
  rcases unload_cases (h.steady start).ruled key with ⟨_, refused⟩ | ⟨told, unloads⟩
  · rw [refused]
    exact start
  · exact h.unloads start unloads

theorem forEach_unload (start : I s) (keys : List Key) :
    I (Flow.forEach unloadOrWarn keys s).state := by
  induction keys generalizing s with
  | nil => exact start
  | cons key rest ih =>
    refine ih ?_
    rw [state_unloadOrWarn]
    exact h.unload start key

theorem perform (lenient : c.Lenient) (start : I s) {op : Operation} (other : op.isLoad = false) :
    I (op.perform s).state := by
  have passes (passing : op.isPassing = true) : I (op.perform s).state := by
    obtain ⟨calm, ruled⟩ :=
      (Operation.obeys_perform lenient passing s).state (h.steady start).ruled
    exact h.calm start calm ruled
  cases op with
  | load d => exact absurd other (Ne.symm Bool.false_ne_true)
  | unload key => exact h.unload start key
  | shutdown =>
    show I (shutdown s).state
    rw [shutdown_eq]
    exact h.cleared (h.forEach_unload start _)
  | _ => exact passes rfl

end Withstands

namespace Enduring

variable (h : Enduring c I)
include h

theorem perform (lenient : c.Lenient) (start : I s) {op : Operation} (obeys : op.Obeys c) :
    I (op.perform s).state := by
  cases op with
  | load d =>
    show I (load d s).state
    have steady := h.steady start
    rcases load_cases lenient steady.ruled steady.sound obeys with ⟨e, refused⟩ | ⟨_, _, loads⟩
    · rw [refused]
      exact start
    · exact h.loads start loads
  | _ => exact h.toWithstands.perform lenient start rfl

theorem act (lenient : c.Lenient) (start : I s) {act : Act} (obeys : act.Obeys c) :
    I (act.perform s).state := by
  cases act with
  | operation op => exact h.perform lenient start obeys
  | direct m =>
    obtain ⟨calm, ruled⟩ := (obeys_onShared obeys s).state (h.steady start).ruled
    exact h.calm start calm ruled

theorem after (lenient : c.Lenient) (start : I s) {run : List Act}
    (obeys : ∀ act ∈ run, act.Obeys c) : I (s.afterActs run) := by
  induction run generalizing s with
  | nil => exact start
  | cons first rest ih =>
    obtain ⟨here, later⟩ := List.forall_mem_cons.mp obeys
    exact ih (h.act lenient start here) later

end Enduring

/-! ## Steady sessions -/

theorem steady_fresh {config : Config} {catalog : Catalog} (offers : catalog.Obeys c) :
    Steady c { config, catalog } :=
  ⟨⟨offers, nofun, nofun⟩, Registry.sound_empty⟩

/-- Steadiness endures whatever keeps the registry sound. -/
theorem enduring_steady (keeps : ∀ {s s'}, c.allows s s' → s.registry.Sound → s'.registry.Sound) :
    Enduring c (Steady c) where
  steady := id
  calm h calm ruled := ⟨ruled, keeps calm.shared h.sound⟩
  loads h loads := ⟨h.ruled.of_loads loads, keeps loads.shared loads.sound⟩
  unloads h unloads := by
    refine ⟨h.ruled.of_unloads unloads, ?_⟩
    rw [unloads.registry]
    refine Registry.sound_unregister (keeps unloads.heard ?_) _
    exact Registry.Flagged.sound (.setApiLoaded .refl _ false) h.sound
  cleared h := ⟨⟨h.ruled.catalog, h.ruled.hooks, h.ruled.own⟩, Registry.sound_clear h.sound⟩

end Session
end ModSettings
