/-
How code gets at the handles of its own mod.

A body names its mod's main class and asks the API for the mod and its caller,
and an adapter does so for every slot that is injected.  Where the mod stands in
a sound registry, that ends with the mod's own handles, whatever else is
registered.  Only the limit on open calls can be in the way, for the two
questions are calls.
-/
import ModSettings.Proofs.Bridge.Install
import ModSettings.Proofs.Registry.Mods

namespace ModSettings

theorem Run.bind_still {σ ε α β : Type} {m : Run σ ε α} {f : α → Run σ ε β} {s : σ} {a : α}
    (h : m s = ⟨.ok a, s, []⟩) : (m >>= f) s = f a s := by
  show bind m f s = f a s
  have ends : (m s).value = .ok a := by rw [h]
  rw [bind_of_ok ends, h]
  rfl

/-! ## Asking the API -/

section

variable {catalog : Catalog} {now : Shared} {key : Key} {t : Ty}

/-- No offer comes before the conversions. -/
theorem Catalog.perform_getMod (catalog : Catalog) :
    catalog.perform Offer.getMod.method = Offer.getMod.run := rfl

theorem Catalog.perform_getCaller (catalog : Catalog) :
    catalog.perform Offer.getCaller.method = Offer.getCaller.run := rfl

theorem Offer.getMod_of_stands (stands : now.registry.Stands key t) (sound : now.registry.Sound) :
    getMod.run [.type t] now = ⟨.ok (.mod key), now, []⟩ := by
  have found : Native.registryCheck (·.modForType t) now = ⟨.ok key, now, []⟩ := by
    show Step.mk (Outcome.ofExcept ((now.registry.modForType t).mapError ExecError.registry))
      _ _ = _
    rw [stands.modForType_eq sound]
    rfl
  show (Native.registryCheck (·.modForType t) >>= fun key => Run.pure (Value.mod key)) now = _
  rw [Run.bind_still found]
  rfl

theorem Offer.getCaller_of_stands (stands : now.registry.Stands key t) :
    getCaller.run [.mod key] now = ⟨.ok (.caller key), now, []⟩ := by
  have found : Native.registryCheck (·.callerForMod key) now = ⟨.ok key, now, []⟩ := by
    show Step.mk (Outcome.ofExcept ((now.registry.callerForMod key).mapError ExecError.registry))
      _ _ = _
    rw [stands.callerForMod_eq]
    rfl
  show (Native.registryCheck (·.callerForMod key) >>= fun key => Run.pure (Value.caller key))
    now = _
  rw [Run.bind_still found]
  rfl

end

/-! ## Code that asks -/

namespace Machine

/-- Run in that state the code leaves the value on the stack, and it changes and
writes nothing. -/
def Pushes (vm : Machine) (room : Nat) (code : List Instruction) (v : Value) (now : Shared) :
    Prop :=
  ∀ method args rest stack,
    runCode vm.assembly (vm.invokeWithin room) method args (code ++ rest) stack now =
      runCode vm.assembly (vm.invokeWithin room) method args rest (v :: stack) now

/-- Run in that state the code ends the body with the error, and it changes and
writes nothing. -/
def Fails (vm : Machine) (room : Nat) (code : List Instruction) (e : ExecError) (now : Shared) :
    Prop :=
  ∀ method args rest stack,
    runCode vm.assembly (vm.invokeWithin room) method args (code ++ rest) stack now =
      ⟨.error e, now, []⟩

variable {vm : Machine} {room : Nat} {now : Shared} {key : Key} {t : Ty}

theorem Pushes.append {code code' : List Instruction} {v v' : Value}
    (h : vm.Pushes room code v now)
    (h' : ∀ method args rest stack,
      runCode vm.assembly (vm.invokeWithin room) method args (code' ++ rest) (v :: stack) now =
        runCode vm.assembly (vm.invokeWithin room) method args rest (v' :: stack) now) :
    vm.Pushes room (code ++ code') v' now := by
  intro method args rest stack
  rw [List.append_assoc, h, h']

section

variable (stands : now.registry.Stands key t)
include stands

theorem runCode_getCaller (method : Signature) (args : Array Value) (rest : List Instruction)
    (stack : List Value) :
    runCode vm.assembly (vm.invokeWithin (room + 1)) method args
      ([.call Offer.getCaller.method] ++ rest) (.mod key :: stack) now =
        runCode vm.assembly (vm.invokeWithin (room + 1)) method args rest
          (.caller key :: stack) now := by
  rw [List.singleton_append,
    Bridge.runCode_convert (Bridge.reachesCatalog vm room) rfl rfl rfl]
  refine Run.bind_still ?_
  rw [Catalog.perform_getCaller]
  exact Offer.getCaller_of_stands stands

variable (sound : now.registry.Sound)
include sound

theorem pushes_getMod :
    vm.Pushes (room + 1) [.loadType t, .call Offer.getMod.method] (.mod key) now := by
  intro method args rest stack
  show runCode _ _ method args (.call Offer.getMod.method :: rest) (.type t :: stack) now = _
  rw [Bridge.runCode_convert (Bridge.reachesCatalog vm room) rfl rfl rfl]
  refine Run.bind_still ?_
  rw [Catalog.perform_getMod]
  exact Offer.getMod_of_stands stands sound

theorem pushes_getCaller :
    vm.Pushes (room + 1) [.loadType t, .call Offer.getMod.method, .call Offer.getCaller.method]
      (.caller key) now :=
  (pushes_getMod stands sound).append (runCode_getCaller stands)

/-- An injected slot gets the handle it asks for. -/
theorem pushes_injectCode (slot : Ty) : vm.Pushes (room + 1) (Bridge.injectCode t slot)
    (if !slot.isModHandle && slot.isCallerHandle then .caller key else .mod key) now := by
  unfold Bridge.injectCode
  by_cases asksForCaller : (!slot.isModHandle && slot.isCallerHandle) = true
  · rw [if_pos asksForCaller, if_pos asksForCaller]
    exact (pushes_getMod stands sound).append (runCode_getCaller stands)
  · rw [if_neg asksForCaller, if_neg asksForCaller]
    exact pushes_getMod stands sound

end

theorem fails_getMod (vm : Machine) (t : Ty) (more : List Instruction) (now : Shared) :
    vm.Fails 0 ([.loadType t, .call Offer.getMod.method] ++ more) (.callDepthExceeded callLimit)
      now := fun _ _ _ _ => rfl

end Machine

/-! ## Injected slots of adapters -/

namespace Bridge

theorem exists_of_mapM {α : Type} {f : α → Except SynthesisError (List Instruction)} {l : List α}
    {codes : List (List Instruction)} (h : l.mapM f = .ok codes) {i : Nat} {a : α}
    (here : l[i]? = some a) :
    ∃ before code after, f a = .ok code ∧ codes = before ++ code :: after := by
  induction l generalizing codes i with
  | nil => exact nomatch here
  | cons first rest ih =>
    rw [List.mapM_cons] at h
    obtain ⟨code, hcode, h⟩ := bind_eq_ok h
    obtain ⟨codes', hcodes, h⟩ := bind_eq_ok h
    cases h
    cases i with
    | zero =>
      cases here
      exact ⟨[], code, codes', hcode, rfl⟩
    | succ i =>
      obtain ⟨before, code', after, made, rfl⟩ := ih hcodes here
      exact ⟨code :: before, code', after, made, rfl⟩

theorem map_promoteInstruction_injectCode (set : MethodSet) (t slot : Ty) :
    (injectCode t slot).map (promoteInstruction set) = injectCode t slot := by
  unfold injectCode
  split <;> rfl

/-- Promoted or not, an adapter has the code of an injected slot in it. -/
theorem exists_injectCode {b : Binding} {t : Ty} {code : List Instruction}
    (h : synthesize b t = .ok code) (set : MethodSet) {i : Nat} {slot : Ty}
    (wanted : b.target.arguments[i]? = some slot)
    (injected : b.mapping.sources[i]? = some .inject) :
    ∃ before after,
      promoteBody set (.code code) = .code (before ++ injectCode t slot ++ after) := by
  obtain ⟨_, codes, made, rfl⟩ := synthesize_eq_ok h
  have here : (b.target.arguments.zip b.mapping.sources)[i]? = some (slot, .inject) :=
    List.getElem?_zip_eq_some.mpr ⟨wanted, injected⟩
  obtain ⟨before, code, after, inject, rfl⟩ := exists_of_mapM made here
  cases inject
  refine ⟨before.flatten.map (promoteInstruction set),
    (after.flatten ++ [Instruction.call b.target, .ret]).map (promoteInstruction set), ?_⟩
  show Body.code _ = _
  rw [List.flatten_append, List.flatten_cons, List.append_assoc, List.append_assoc, List.map_append,
    List.map_append, map_promoteInstruction_injectCode, List.append_assoc]

end Bridge

end ModSettings
