/-
What running code may do to the state it runs on.

A conduct tells which changes of a state are allowed and what may be written to
the journal, and doing one allowed thing after another is allowed as well.  Code
obeys a conduct when it does allowed things only, whether it ends well or not.
For programs this comes down to the native functions among them: a machine obeys
every conduct that the native bodies of its assembly and the methods of its
catalog obey.

Two conducts matter to a session.  Under `settingValues` settings get new values
and the player enters or leaves a world.  Under `sameMods` only the coming and
going of mods is ruled out.
-/
import ModSettings.Proofs.Exec.Call
import ModSettings.Proofs.Registry.Mods
import ModSettings.Proofs.Settings.Agreement

namespace ModSettings

structure Conduct (σ : Type) where
  allows : σ → σ → Prop
  /-- What may be written by code that started in the state. -/
  writes : σ → Entry → Prop
  refl : ∀ s, allows s s
  trans : ∀ {s s' s''}, allows s s' → allows s' s'' → allows s s''
  writes_trans : ∀ {s s' e}, allows s s' → writes s' e → writes s e

/-- What a step that began in the state did is allowed. -/
structure Step.Allowed {σ α : Type} (c : Conduct σ) (s : σ) (step : Step σ α) : Prop where
  state : c.allows s step.state
  journal : ∀ e ∈ step.journal, c.writes s e

def Flow.Obeys {σ α : Type} (c : Conduct σ) (m : Flow σ α) : Prop := ∀ s, (m s).Allowed c s

section

variable {σ ε ε' α β : Type} {c : Conduct σ}

/-- What a step does in the state where another one ended is allowed from where
that one began. -/
theorem Step.Allowed.append {s : σ} {first : Step σ α} {second : Step σ β}
    (h : first.Allowed c s) (h' : second.Allowed c first.state) {γ : Type} (value : γ) :
    Step.Allowed c s ⟨value, second.state, first.journal ++ second.journal⟩ where
  state := c.trans h.state h'.state
  journal := List.forall_mem_append.mpr
    ⟨h.journal, fun e member => c.writes_trans h.state (h'.journal e member)⟩

namespace Flow

theorem obeys_pure (a : α) : Obeys c (Flow.pure a) := fun s => ⟨c.refl s, nofun⟩

theorem obeys_get : Obeys c (Flow.get (σ := σ)) := fun s => ⟨c.refl s, nofun⟩

theorem obeys_write {e : Entry} (h : ∀ s, c.writes s e) : Obeys c (Flow.write e) := fun s =>
  ⟨c.refl s, fun _ member => List.mem_singleton.mp member ▸ h s⟩

theorem obeys_bind {m : Flow σ α} {f : α → Flow σ β} (hm : m.Obeys c) (hf : ∀ a, (f a).Obeys c) :
    Obeys c (m >>= f) := fun s => (hm s).append (hf _ _) _

theorem obeys_forEach {f : α → Flow σ Unit} (h : ∀ a, (f a).Obeys c) (l : List α) :
    Obeys c (Flow.forEach f l) := by
  induction l with
  | nil => exact obeys_pure ()
  | cons a rest ih => exact obeys_bind (h a) fun _ => ih

end Flow

namespace Run

/-- A run stops where it fails, and what it did before was allowed. -/
theorem obeys_bind {m : Run σ ε α} {f : α → Run σ ε β} (hm : Flow.Obeys c m)
    (hf : ∀ a, Flow.Obeys c (f a)) : Flow.Obeys c (m >>= f : Run σ ε β) := by
  intro s
  show (bind m f s).Allowed c s
  cases ends : (m s).value with
  | ok a =>
    rw [bind_of_ok ends]
    exact (hm s).append (hf a _) _
  | error e =>
    rw [bind_of_error ends]
    exact ⟨(hm s).state, (hm s).journal⟩
  | panic p =>
    rw [bind_of_panic ends]
    exact ⟨(hm s).state, (hm s).journal⟩

theorem obeys_get : Flow.Obeys c (Run.get : Run σ ε σ) := fun s => ⟨c.refl s, nofun⟩

theorem obeys_ofExcept (e : Except ε α) : Flow.Obeys c (Run.ofExcept e : Run σ ε α) :=
  Flow.obeys_pure _

theorem obeys_ofFlow {m : Flow σ α} (h : m.Obeys c) : Flow.Obeys c (Run.ofFlow m : Run σ ε α) :=
  fun s => ⟨(h s).state, (h s).journal⟩

theorem obeys_mapError {m : Run σ ε α} (h : Flow.Obeys c m) (f : ε → ε') :
    Flow.Obeys c (m.mapError f) := fun s => ⟨(h s).state, (h s).journal⟩

end Run

end

/-! ## Native functions, catalogs and assemblies -/

def Native.Obeys (c : Conduct Shared) (run : Native) : Prop := ∀ args, Flow.Obeys c (run args)

def Catalog.Obeys (c : Conduct Shared) (catalog : Catalog) : Prop :=
  ∀ o ∈ catalog.others, Native.Obeys c o.run

def Assembly.Obeys (c : Conduct Shared) (a : Assembly) : Prop :=
  ∀ m ∈ a.methods, ∀ run, m.body = .native run → Native.Obeys c run

section

variable {α : Type} {c : Conduct Shared}

theorem Native.obeys_registryCheck (check : Registry → Except RegistryError α) :
    Flow.Obeys c (registryCheck check) := Run.obeys_bind Run.obeys_get fun _ => Run.obeys_ofExcept _

theorem Native.obeys_storeCheck (check : Store → Except SettingsError α) :
    Flow.Obeys c (storeCheck check) := Run.obeys_bind Run.obeys_get fun _ => Run.obeys_ofExcept _

/-! ### Conversions between handles -/

theorem Native.obeys_conversion {β : Type} (read : Except ExecError α)
    (check : α → Registry → Except RegistryError β) (result : α → β → Value) :
    Flow.Obeys c (show Exec Value from do
      let a ← .ofExcept read
      let b ← registryCheck (check a)
      .pure (result a b)) :=
  Run.obeys_bind (Run.obeys_ofExcept read) fun a =>
    Run.obeys_bind (obeys_registryCheck (check a)) fun _ => Flow.obeys_pure _

theorem Offer.obeys_getMod : getMod.run.Obeys c := fun _ => Native.obeys_conversion _ _ _

theorem Offer.obeys_getCaller : getCaller.run.Obeys c := fun _ => Native.obeys_conversion _ _ _

theorem Offer.obeys_getParent : getParent.run.Obeys c := fun _ => Native.obeys_conversion _ _ _

/-- The conversions only look, so a catalog obeys as far as its other methods
do. -/
theorem Catalog.obeys_perform {catalog : Catalog} (h : catalog.Obeys c) (m : Signature) :
    Native.Obeys c (catalog.perform m) := by
  intro args
  have every : ∀ o ∈ catalog.entries ++ [Offer.getParent], o.run.Obeys c := by
    simp only [entries, List.cons_append, List.forall_mem_cons, List.forall_mem_append]
    exact ⟨Offer.obeys_getMod, Offer.obeys_getCaller, h, Offer.obeys_getParent, nofun⟩
  rcases catalog.perform_eq_or m with ⟨o, member, runs⟩ | none
  · rw [runs]
    exact every o member args
  · rw [none]
    exact Flow.obeys_pure _

/-! ## Programs -/

namespace Machine

theorem obeys_leave (m : Signature) (stack : List Value) : Flow.Obeys c (leave m stack) := by
  unfold leave
  split
  · exact Flow.obeys_pure _
  · cases stack <;> exact Flow.obeys_pure _

section

variable {a : Assembly} {invoke : Signature → List Value → Exec Value}
  (calls : ∀ m args, Flow.Obeys c (invoke m args))
include calls

theorem obeys_passOn (target found : Signature) (stack : List Value)
    {resume : List Value → Exec Value} (goesOn : ∀ stack, Flow.Obeys c (resume stack)) :
    Flow.Obeys c (passOn invoke target found stack resume) :=
  Run.obeys_bind (calls found _) fun _ => goesOn _

/-- Of all instructions only calls can change the state. -/
theorem obeys_runCode (m : Signature) (args : Array Value) (code : List Instruction)
    (stack : List Value) : Flow.Obeys c (runCode a invoke m args code stack) := by
  induction code generalizing stack with
  | nil => exact obeys_leave m stack
  | cons i rest ih =>
    cases i with
    | ret => exact obeys_leave m stack
    | loadArg index =>
      rw [runCode]
      split
      · exact ih _
      · exact Flow.obeys_pure _
    | loadInt n => exact ih _
    | loadString s => exact ih _
    | loadType t => exact ih _
    | call target =>
      rw [runCode_call]
      split
      · exact Flow.obeys_pure _
      · exact obeys_passOn calls target target stack ih
    | callVirtual target =>
      rw [runCode_callVirtual]
      split
      · exact Flow.obeys_pure _
      · exact Run.obeys_bind Run.obeys_get fun s => obeys_passOn calls target _ stack ih

end

/-- A machine obeys what its native functions obey. -/
theorem obeys_invokeWithin {vm : Machine} (assembly : vm.assembly.Obeys c)
    (catalog : vm.catalog.Obeys c) (room : Nat) (m : Signature) (args : List Value) :
    Flow.Obeys c (vm.invokeWithin room m args) := by
  induction room generalizing m args with
  | zero => exact Flow.obeys_pure _
  | succ room ih =>
    cases vm.entered m args with
    | refused e _ comesTo => rw [comesTo]; exact Flow.obeys_pure _
    | api _ comesTo => rw [comesTo]; exact Catalog.obeys_perform catalog m args
    | native d run _ found body comesTo =>
      rw [comesTo]
      exact Run.obeys_mapError (assembly d (Assembly.mem_of_method? found) run body args) _
    | code d code _ _ _ comesTo =>
      rw [comesTo]
      exact Run.obeys_mapError (obeys_runCode ih m _ _ _) _

end Machine

end

/-! ## Conducts for mods -/

namespace Conduct

/-- The mods stay with all that the registry knows of them, and so do the
settings, except for their values. -/
def settingValues : Conduct Shared where
  allows s s' := s'.registry = s.registry.setInWorld s'.registry.inWorld ∧
    ∀ owner name, (s'.store.find? owner name).isSome = (s.store.find? owner name).isSome
  writes _ _ := True
  refl _ := ⟨rfl, fun _ _ => rfl⟩
  trans h h' := ⟨by rw [h'.1, h.1]; rfl,
    fun owner name => (h'.2 owner name).trans (h.2 owner name)⟩
  writes_trans _ _ := trivial

/-- No mod is registered or removed.  That a hook began is for its caller to
write and for nobody else. -/
def sameMods : Conduct Shared where
  allows s s' := s.registry.Flagged s'.registry
  writes _ e := ∀ key event seen, e ≠ .entered key event seen
  refl _ := .refl
  trans h h' := h.trans h'
  writes_trans _ h := h

/-- Settings may get new values, the player may enter and leave a world, and
messages and notes may be written. -/
structure Lenient (c : Conduct Shared) : Prop where
  values : ∀ {s s'}, settingValues.allows s s' → c.allows s s'
  logs : ∀ s level message, c.writes s (.log level message)
  notes : ∀ s line, c.writes s (.note line)

theorem lenient_settingValues : settingValues.Lenient :=
  ⟨id, fun _ _ _ => trivial, fun _ _ => trivial⟩

theorem lenient_sameMods : sameMods.Lenient :=
  ⟨fun h => .of_inWorld h.1, fun _ _ _ => nofun, fun _ _ => nofun⟩

end Conduct

/-! ## The settings API -/

section

variable {c : Conduct Shared} (lenient : c.Lenient)
include lenient

namespace Native

theorem obeys_setInWorld (inWorld : Bool) : (Shared.setInWorld inWorld).Obeys c := fun _ =>
  ⟨lenient.values ⟨rfl, fun _ _ => rfl⟩, nofun⟩

theorem allows_mapSettings {s : Shared} {f : Setting → Setting}
    {keeps : ∀ s : Setting, (f s).owner = s.owner ∧ (f s).name = s.name} :
    c.allows s { s with store := s.store.mapSettings f keeps } := by
  refine lenient.values ⟨rfl, fun owner name => ?_⟩
  rw [Store.find?_mapSettings, Option.isSome_map]

theorem obeys_setSetting (key : Key) (name : String) (value : SettingValue) :
    (Shared.setSetting key name value).Obeys c := by
  intro s
  unfold Shared.setSetting Store.set
  cases s.store.find? key name with
  | none => exact ⟨c.refl s, nofun⟩
  | some old =>
    dsimp only
    cases old.assign? value with
    | none => exact ⟨c.refl s, nofun⟩
    | some new => exact ⟨allows_mapSettings lenient, nofun⟩

theorem obeys_resetAll (key : Key) : (Shared.resetAll key).Obeys c := fun s =>
  ⟨allows_mapSettings lenient, fun _ member => List.mem_singleton.mp member ▸ lenient.logs s _ _⟩

omit lenient in
theorem obeys_reader {α : Type} (look : Store → Key → String → Except SettingsError α)
    (wrap : α → Value) : (reader look wrap).Obeys c := fun _ =>
  Run.obeys_bind (Run.obeys_ofExcept _) fun _ => Run.obeys_bind (Run.obeys_ofExcept _) fun _ =>
    Run.obeys_bind (obeys_storeCheck _) fun _ => Flow.obeys_pure _

theorem obeys_writer (read : Value → Except ExecError SettingValue) : (writer read).Obeys c :=
  fun _ => Run.obeys_bind (Run.obeys_ofExcept _) fun key =>
    Run.obeys_bind (Run.obeys_ofExcept _) fun value =>
      Run.obeys_bind (Run.obeys_ofExcept _) fun name =>
        Run.obeys_bind (Run.obeys_ofFlow (obeys_setSetting lenient key name value)) fun _ =>
          Run.obeys_ofExcept _

theorem obeys_resetter (read : Value → Except ExecError Key) : (resetter read).Obeys c := fun _ =>
  Run.obeys_bind (Run.obeys_ofExcept _) fun key =>
    Run.obeys_bind (Run.obeys_ofFlow (obeys_resetAll lenient key)) fun _ => Flow.obeys_pure _

end Native

/-- The settings API changes values of settings and nothing else. -/
theorem Catalog.obeys_standard : standard.Obeys c := by
  have inWorld : Native.inWorld.Obeys c := fun _ =>
    Run.obeys_bind Run.obeys_get fun _ => Flow.obeys_pure _
  unfold Obeys standard
  simp only [List.forall_mem_cons]
  refine ⟨inWorld, fun _ => ?loaded, ?_, ?_, ?_, ?_, ?_, ?_, ?_, ?_, ?_, ?_, ?_, ?_, nofun⟩
  case loaded =>
    exact Run.obeys_bind (Run.obeys_ofExcept _) fun _ =>
      Run.obeys_bind Run.obeys_get fun _ => Flow.obeys_pure _
  all_goals first
    | exact Native.obeys_reader _ _
    | exact Native.obeys_writer lenient _
    | exact Native.obeys_resetter lenient _

end

end ModSettings
