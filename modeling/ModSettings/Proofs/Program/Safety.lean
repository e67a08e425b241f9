/-
Safe calls of the settings API.

A run is safe when it ends with a value that is good for its purpose or with an
error of the registry or of the store.  No other error and no panic is safe.
Called with values that inhabit its parameter types, every method of the
standard catalog is safe and returns a value that inhabits its result type.

Values inhabit types by what they are and not by how they were made: a type with
values of its own has these, a class that stands for mods has their handles, and
a class that stands for event callers has theirs.  Of the remaining types
nothing is asked.
-/
import Mathlib.Data.List.Forall2
import ModSettings.Proofs.Exec.Call
import ModSettings.Proofs.Exec.Run
import ModSettings.Proofs.Types.Assignability

namespace ModSettings

/-- A value that may be passed where the type is declared. -/
def Value.Inhabits (v : Value) : Ty → Prop
  | .bool => ∃ b, v = .bool b
  | .int => ∃ n, v = .int n
  | .float => ∃ x, v = .float x
  | .string => ∃ s, v = .str s
  | .type => ∃ t, v = .type t
  | t => (t.isModHandle = true → ∃ key, v = .mod key) ∧
      (t.isCallerHandle = true → ∃ key, v = .caller key)

/-- A good value, or an error of the registry or of the store behind any number
of frames. -/
def Outcome.Safe {α : Type} (good : α → Prop) : Outcome ExecError α → Prop
  | .ok a => good a
  | .error e => (∃ cause, e.root = .registry cause) ∨ ∃ cause, e.root = .settings cause
  | .panic _ => False

namespace Outcome

variable {α : Type} {good weaker : α → Prop} {o : Outcome ExecError α}

theorem Safe.mono (h : o.Safe good) (implies : ∀ a, good a → weaker a) : o.Safe weaker := by
  cases o with
  | ok a => exact implies a h
  | error e => exact h
  | panic p => exact h

/-- A frame around an error does not change its cause. -/
theorem Safe.within (h : o.Safe good) (method : Signature) :
    (o.mapError (·.within method)).Safe good := by
  cases o with
  | ok a => exact h
  | error e => exact h
  | panic p => exact h

end Outcome

namespace Run

/-- Wherever it starts, the run ends safely. -/
def Safe {α : Type} (m : Exec α) (good : α → Prop) : Prop := ∀ s, (m s).value.Safe good

variable {α β : Type} {m : Exec α} {good : α → Prop}

theorem safe_pure {a : α} (h : good a) : Safe (Run.pure a) good := fun _ => h

theorem safe_bind {next : β → Prop} {f : α → Exec β} (hm : Safe m good)
    (hf : ∀ a, good a → Safe (f a) next) : Safe (m >>= f) next := by
  intro s
  have first := hm s
  show (Run.bind m f s).value.Safe next
  cases ends : (m s).value with
  | ok a =>
    rw [ends] at first
    rw [bind_of_ok ends]
    exact hf a first _
  | error e =>
    rw [ends] at first
    rw [bind_of_error ends]
    exact first
  | panic p =>
    rw [ends] at first
    exact first.elim

end Run

namespace Native

open Run

variable {α : Type}

theorem safe_registryCheck (check : Registry → Except RegistryError α) :
    Safe (registryCheck check) fun _ => True := by
  intro s
  show (Outcome.ofExcept ((check s.registry).mapError .registry)).Safe _
  cases check s.registry with
  | ok a => trivial
  | error e => exact Or.inl ⟨e, rfl⟩

theorem safe_storeCheck (check : Store → Except SettingsError α) :
    Safe (storeCheck check) fun _ => True := by
  intro s
  show (Outcome.ofExcept ((check s.store).mapError .settings)).Safe _
  cases check s.store with
  | ok a => trivial
  | error e => exact Or.inr ⟨e, rfl⟩

theorem safe_reader {look : Store → Key → String → Except SettingsError α} {wrap : α → Value}
    {result : Ty} (h : ∀ a, (wrap a).Inhabits result) (key : Key) (name : String) :
    Safe (reader look wrap [.mod key, .str name]) (·.Inhabits result) := by
  show Safe (storeCheck (fun st => look st key name) >>= fun a => Run.pure (wrap a)) _
  exact safe_bind (safe_storeCheck fun st => look st key name) fun a _ => safe_pure (h a)

theorem safe_writer {read : Value → Except ExecError SettingValue} {v : Value}
    {value : SettingValue} (h : read v = .ok value) (key : Key) (name : String) {result : Ty}
    (returns : Value.unit.Inhabits result) :
    Safe (writer read [.mod key, .str name, v]) (·.Inhabits result) := by
  have reads : (argument [Value.mod key, .str name, v] 2 >>= read) = .ok value := h
  intro s
  show (Run.bind (Run.ofExcept (argument [.mod key, .str name, v] 2 >>= read)) _ s).value.Safe _
  rw [reads]
  show (Outcome.ofExcept (((Shared.setSetting key name value s).value.map fun _ =>
    Value.unit).mapError .settings)).Safe _
  cases (Shared.setSetting key name value s).value with
  | ok done => exact returns
  | error e => exact Or.inr ⟨e, rfl⟩

theorem safe_resetter {read : Value → Except ExecError Key} {v : Value} {key : Key}
    (h : read v = .ok key) {result : Ty} (returns : Value.unit.Inhabits result) :
    Safe (resetter read [v]) (·.Inhabits result) := by
  have reads : (argument [v] 0 >>= read) = .ok key := h
  intro s
  show (Run.bind (Run.ofExcept (argument [v] 0 >>= read)) _ s).value.Safe _
  rw [reads]
  exact returns

end Native

/-! ## Handles -/

namespace Value

/-- A class that stands for mods is inhabited by their handles alone. -/
theorem exists_mod {v : Value} {t : Ty} (h : v.Inhabits t) (handle : t.isModHandle = true) :
    ∃ key, v = .mod key := by
  cases t with
  | cls _ _ _ _ _ => exact h.1 handle
  | _ => exact nomatch handle

/-- A class that stands for event callers is inhabited by their handles alone. -/
theorem exists_caller {v : Value} {t : Ty} (h : v.Inhabits t) (handle : t.isCallerHandle = true) :
    ∃ key, v = .caller key := by
  cases t with
  | cls _ _ _ _ _ => exact h.2 handle
  | _ => exact nomatch handle

theorem inhabits_getD {args : List Value} {types : List Ty}
    (h : List.Forall₂ Inhabits args types) {index : Nat} {t : Ty} (found : types[index]? = some t) :
    (args.getD index .unit).Inhabits t := by
  obtain ⟨inside, here⟩ := List.getElem?_eq_some_iff.mp found
  have inArgs : index < args.length := by
    rw [h.length_eq]
    exact inside
  rw [List.getD_eq_getElem?_getD, List.getElem?_eq_getElem inArgs, ← here]
  exact (List.forall₂_iff_get.mp h).2 index inArgs inside

theorem inhabits_void (v : Value) : v.Inhabits .void := ⟨nofun, nofun⟩

theorem inhabits_object (v : Value) : v.Inhabits .object := ⟨nofun, nofun⟩

theorem inhabits_mod (key : Key) : (mod key).Inhabits .mod :=
  ⟨fun _ => ⟨key, rfl⟩, fun h => absurd h (by decide)⟩

theorem inhabits_caller (key : Key) : (caller key).Inhabits .eventCaller :=
  ⟨fun h => absurd h (by decide), fun _ => ⟨key, rfl⟩⟩

end Value

/-! ## Safe methods -/

namespace Offer

open Run Native

/-- Given values of its parameter types, the method ends safely, and what it
returns is of its result type. -/
def Safe (o : Offer) : Prop :=
  ∀ args, List.Forall₂ Value.Inhabits args o.method.arguments →
    Run.Safe (o.run args) (·.Inhabits o.method.result)

theorem safe_getMod : getMod.Safe := by
  rintro _ (_ | ⟨⟨t, rfl⟩, _ | _⟩)
  show Run.Safe (registryCheck (·.modForType t) >>= fun key => Run.pure (Value.mod key)) _
  exact safe_bind (safe_registryCheck _) fun key _ => safe_pure (Value.inhabits_mod key)

theorem safe_getCaller : getCaller.Safe := by
  rintro _ (_ | ⟨given, _ | _⟩)
  obtain ⟨key, rfl⟩ := Value.exists_mod given rfl
  show Run.Safe (registryCheck (·.callerForMod key) >>= fun key => Run.pure (Value.caller key)) _
  exact safe_bind (safe_registryCheck _) fun key _ => safe_pure (Value.inhabits_caller key)

theorem safe_getParent : getParent.Safe := by
  rintro _ (_ | ⟨given, _ | _⟩)
  obtain ⟨key, rfl⟩ := Value.exists_caller given rfl
  show Run.Safe (registryCheck _ >>= fun _ => Run.pure (Value.mod key)) _
  exact safe_bind (safe_registryCheck _) fun _ _ => safe_pure (Value.inhabits_mod key)

section

variable (name : String) {slot result : Ty}

theorem safe_reading {α : Type} {look : Store → Key → String → Except SettingsError α}
    {wrap : α → Value} (h : ∀ a, (wrap a).Inhabits result) :
    (api name [.mod, .string] result (reader look wrap)).Safe := by
  rintro _ (_ | ⟨given, _ | ⟨⟨text, rfl⟩, _ | _⟩⟩)
  obtain ⟨key, rfl⟩ := Value.exists_mod given rfl
  exact safe_reader h key text

theorem safe_writing {read : Value → Except ExecError SettingValue}
    (h : ∀ v : Value, v.Inhabits slot → ∃ value, read v = .ok value) :
    (api name [.mod, .string, slot] .void (writer read)).Safe := by
  rintro _ (_ | ⟨given, _ | ⟨⟨text, rfl⟩, _ | ⟨third, _ | _⟩⟩⟩)
  obtain ⟨key, rfl⟩ := Value.exists_mod given rfl
  obtain ⟨value, reads⟩ := h _ third
  exact safe_writer reads key text (Value.inhabits_void .unit)

theorem safe_resetting {read : Value → Except ExecError Key}
    (h : ∀ v : Value, v.Inhabits slot → ∃ key, read v = .ok key) :
    (api name [slot] .void (resetter read)).Safe := by
  rintro _ (_ | ⟨given, _ | _⟩)
  obtain ⟨key, reads⟩ := h _ given
  exact safe_resetter reads (Value.inhabits_void .unit)

end

end Offer

namespace Catalog

open Run Native

/-- Every method of the settings API is safe. -/
theorem safe_of_mem_standard : ∀ o ∈ standard.entries, o.Safe := by
  have inWorld : (Offer.api "IsInWorld" [] .bool Native.inWorld).Safe := by
    rintro _ (_ | _) s
    exact ⟨_, rfl⟩
  have loaded : (Offer.api "IsApiLoaded" [.mod] .bool (fun args => do
      let key ← Native.modArg args 0
      let s ← Run.get
      .pure (.bool (s.registry.isApiLoaded key)))).Safe := by
    rintro _ (_ | ⟨given, _ | _⟩) s
    obtain ⟨key, rfl⟩ := Value.exists_mod given rfl
    exact ⟨_, rfl⟩
  simp only [entries, standard, List.forall_mem_cons]
  refine ⟨Offer.safe_getMod, Offer.safe_getCaller, inWorld, loaded,
    Offer.safe_reading _ fun a => ⟨a, rfl⟩, Offer.safe_writing _ ?_,
    Offer.safe_reading _ fun a => ⟨a, rfl⟩, Offer.safe_writing _ ?_,
    Offer.safe_reading _ fun a => ⟨a, rfl⟩, Offer.safe_writing _ ?_,
    Offer.safe_reading _ fun a => ⟨_, rfl⟩, Offer.safe_reading _ fun a => ⟨_, rfl⟩,
    Offer.safe_reading _ fun a => ⟨_, rfl⟩, Offer.safe_reading _ fun a => ⟨_, rfl⟩,
    Offer.safe_resetting _ ?_, Offer.safe_resetting _ ?_, nofun⟩
  · rintro _ ⟨b, rfl⟩
    exact ⟨.checkbox b, rfl⟩
  · rintro _ ⟨x, rfl⟩
    exact ⟨.slider x, rfl⟩
  · rintro _ ⟨text, rfl⟩
    exact ⟨.input text, rfl⟩
  · intro v given
    obtain ⟨key, rfl⟩ := Value.exists_mod given rfl
    exact ⟨key, rfl⟩
  · intro v given
    obtain ⟨key, rfl⟩ := Value.exists_caller given rfl
    exact ⟨key, rfl⟩

end Catalog

end ModSettings
