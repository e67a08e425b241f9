/-
Programs are confined to the handles they hold.

A body made of instructions reaches the store through the settings API alone,
and the API goes by the key of a handle.  Handles enter a program as arguments
or through types, which the registry leads to their mods; no instruction makes
one up and no method of the API gives out another mod's.  The theorem this file
exists for is `invoke_confined`: a run changes only settings of the keys it was
granted, and what it does depends on no others.

The second part speaks of two runs, from stores that agree on these keys.
`Run.Alike` therefore says what one run keeps together with how it compares to
another, and sequencing carries both.
-/
import ModSettings.Proofs.Exec.Call
import ModSettings.Proofs.Settings.Agreement

namespace ModSettings

/-- The value leads to no mod but those of the keys: a handle to its own mod and
a type to the mod that the registry has for it. -/
def Value.Held (K : Key → Prop) (r : Registry) : Value → Prop
  | .mod key => K key
  | .caller key => K key
  | .type t => ∀ key, r.keyOfType? t = some key → K key
  | _ => True

namespace Value

variable {K : Key → Prop} {r : Registry} {v : Value}

theorem held_asMod {key : Key} (held : v.Held K r) (reads : v.asMod = .ok key) : K key := by
  cases v <;> cases reads
  exact held

theorem held_asCaller {key : Key} (held : v.Held K r) (reads : v.asCaller = .ok key) : K key := by
  cases v <;> cases reads
  exact held

theorem held_asType {t : Ty} (held : v.Held K r) (reads : v.asType = .ok t) :
    (type t).Held K r := by
  cases v <;> cases reads
  exact held

end Value

namespace Run

/-- How two runs end that start with one registry, the first of them from the
store `st`.  Both leave the registry alone, and the first changes its store
within the keys.  They end alike, with a good value if with any, and with stores
that agree on the keys. -/
structure Alike {α : Type} (K : Key → Prop) (r : Registry) (good : α → Prop) (st : Store)
    (first second : Step Shared (Outcome ExecError α)) : Prop where
  registry : first.state.registry = r
  registry' : second.state.registry = r
  store : st.ChangedWithin K first.state.store
  good : ∀ a, first.value = .ok a → good a
  value : first.value = second.value
  agree : first.state.store.Agree K second.state.store

/-- Whatever it finds under other keys, the run changes none of it and does not
depend on it.  A store agrees with itself, so this speaks of single runs too. -/
def Confined {α : Type} (K : Key → Prop) (r : Registry) (good : α → Prop) (m : Exec α) : Prop :=
  ∀ st st' : Store, st.Agree K st' → Alike K r good st (m ⟨r, st⟩) (m ⟨r, st'⟩)

section

variable {α β : Type} {K : Key → Prop} {r : Registry} {good : α → Prop} {m : Exec α}

/-- A run that only looks. -/
theorem confined_of_still (still : ∀ st, (m ⟨r, st⟩).state = ⟨r, st⟩)
    (value : ∀ st a, (m ⟨r, st⟩).value = .ok a → good a)
    (alike : ∀ st st' : Store, st.Agree K st' → (m ⟨r, st⟩).value = (m ⟨r, st'⟩).value) :
    Confined K r good m := by
  intro st st' h
  refine { registry := ?_, registry' := ?_, store := ?_, good := value st, value := alike st st' h,
           agree := ?_ }
  · rw [still]
  · rw [still]
  · rw [still]
    exact .refl st
  · rw [still, still]
    exact h

/-- A run that does not even look. -/
theorem confined_const {ends : Outcome ExecError α} (h : ∀ a, ends = .ok a → good a) :
    Confined K r good (Flow.pure ends) :=
  confined_of_still (fun _ => rfl) (fun _ => h) fun _ _ _ => rfl

theorem confined_pure {a : α} (h : good a) : Confined K r good (Run.pure a) := by
  refine confined_const fun b ends => ?_
  cases ends
  exact h

theorem confined_fail (e : ExecError) : Confined K r good (Run.fail e) :=
  confined_const fun _ ends => nomatch ends

theorem confined_ofExcept {check : Except ExecError α} (h : ∀ a, check = .ok a → good a) :
    Confined K r good (Run.ofExcept check) := by
  refine confined_const fun a ends => ?_
  cases check with
  | error e => exact nomatch ends
  | ok b =>
    cases ends
    exact h a rfl

theorem confined_bind {next : β → Prop} {f : α → Exec β} (hm : Confined K r good m)
    (hf : ∀ a, good a → Confined K r next (f a)) : Confined K r next (m >>= f) := by
  intro st st' h
  show Alike K r next st (bind m f ⟨r, st⟩) (bind m f ⟨r, st'⟩)
  have first := hm st st' h
  have after : (m ⟨r, st⟩).state = ⟨r, (m ⟨r, st⟩).state.store⟩ :=
    congrArg (Shared.mk · _) first.registry
  have after' : (m ⟨r, st'⟩).state = ⟨r, (m ⟨r, st'⟩).state.store⟩ :=
    congrArg (Shared.mk · _) first.registry'
  cases ends : (m ⟨r, st⟩).value with
  | ok a =>
    have second := hf a (first.good a ends) _ _ first.agree
    rw [bind_of_ok ends, bind_of_ok (first.value.symm.trans ends), after, after']
    exact { second with store := first.store.trans second.store }
  | error e =>
    rw [bind_of_error ends, bind_of_error (first.value.symm.trans ends)]
    exact { first with good := fun _ ok => (nomatch ok), value := rfl }
  | panic p =>
    rw [bind_of_panic ends, bind_of_panic (first.value.symm.trans ends)]
    exact { first with good := fun _ ok => (nomatch ok), value := rfl }

theorem confined_mapError (h : Confined K r good m) (f : ExecError → ExecError) :
    Confined K r good (m.mapError f) := by
  intro st st' same
  have inner := h st st' same
  refine { inner with good := fun a ok => ?_, value := congrArg (Outcome.mapError f) inner.value }
  change (m ⟨r, st⟩).value.mapError f = .ok a at ok
  cases ends : (m ⟨r, st⟩).value with
  | ok b =>
    rw [ends] at ok
    cases ok
    exact inner.good a ends
  | error e => rw [ends] at ok; exact nomatch ok
  | panic p => rw [ends] at ok; exact nomatch ok

/-- The registry that a run reads is the one it starts with. -/
theorem confined_registry {f : Registry → Exec α} (h : Confined K r good (f r)) :
    Confined K r good (do
      let s ← Run.get
      f s.registry) := by
  intro st st' same
  have inner := h st st' same
  exact { inner with }

end

end Run

/-! ## Methods of the settings API -/

namespace Native

open Run

variable {α : Type} {K : Key → Prop} {r : Registry} {args : List Value}

theorem confined_registryCheck (check : Registry → Except RegistryError α) :
    Confined K r (fun a => check r = .ok a) (registryCheck check) := by
  refine confined_of_still (fun _ => rfl) (fun st a ends => ?_) fun _ _ _ => rfl
  change Outcome.ofExcept ((check r).mapError ExecError.registry) = .ok a at ends
  cases found : check r with
  | error e => rw [found] at ends; exact nomatch ends
  | ok b =>
    rw [found] at ends
    cases ends
    rfl

theorem confined_storeCheck {look : Store → Key → String → Except SettingsError α}
    (one : Store.LooksAtOne look) {key : Key} (member : K key) (name : String) :
    Confined K r (fun _ => True) (storeCheck fun st => look st key name) := by
  refine confined_of_still (fun _ => rfl) (fun _ _ _ => trivial) fun st st' h => ?_
  show Outcome.ofExcept ((look st key name).mapError ExecError.settings) =
    Outcome.ofExcept ((look st' key name).mapError ExecError.settings)
  rw [one st st' key name (h key member name)]

theorem confined_setSetting {key : Key} (member : K key) (name : String) (value : SettingValue) :
    Confined K r (fun _ => True) (Run.ofFlow (Shared.setSetting key name value)) := by
  intro st st' h
  show Alike K r _ st
    ⟨.ok (Shared.setSetting key name value ⟨r, st⟩).value, _, _⟩
    ⟨.ok (Shared.setSetting key name value ⟨r, st'⟩).value, _, _⟩
  unfold Shared.setSetting
  rcases Store.set_agree h member name value with ⟨e, first, second⟩ | ⟨a, b, first, second, agree⟩
  · rw [first, second]
    exact ⟨rfl, rfl, .refl st, fun _ _ => trivial, rfl, h⟩
  · rw [first, second]
    exact ⟨rfl, rfl, Store.set_changedWithin member first, fun _ _ => trivial, rfl, agree⟩

/-- The number of settings that were reset is dropped. -/
theorem confined_resetAll {key : Key} (member : K key) :
    Confined K r (Value.Held K r)
      (Run.ofFlow (Shared.resetAll key) >>= fun _ => Run.pure Value.unit) := by
  intro st st' h
  have good : ∀ v, Outcome.ok (ε := ExecError) Value.unit = .ok v → v.Held K r := by
    intro v ends
    cases ends
    trivial
  exact ⟨rfl, rfl, Store.resetAll_changedWithin member st, good, rfl, Store.resetAll_agree h key⟩

section

variable (held : ∀ v ∈ args, v.Held K r)
include held

theorem confined_argument {read : Value → Except ExecError α} {good : α → Prop}
    (h : ∀ v a, v.Held K r → read v = .ok a → good a) (index : Nat) :
    Confined K r good (Run.ofExcept (argument args index >>= read)) := by
  refine confined_ofExcept fun a ends => ?_
  unfold argument at ends
  cases found : args[index]? with
  | none => rw [found] at ends; exact nomatch ends
  | some v =>
    rw [found] at ends
    exact h v a (held v (List.mem_of_getElem? found)) ends

theorem confined_modArg (index : Nat) : Confined K r K (modArg args index) :=
  confined_argument held (fun _ _ => Value.held_asMod) index

theorem confined_stringArg (index : Nat) : Confined K r (fun _ => True) (stringArg args index) :=
  confined_argument held (fun _ _ _ _ => trivial) index

theorem confined_reader {look : Store → Key → String → Except SettingsError α} {wrap : α → Value}
    (one : Store.LooksAtOne look) (h : ∀ a, (wrap a).Held K r) :
    Confined K r (Value.Held K r) (reader look wrap args) :=
  confined_bind (confined_modArg held 0) fun _ member =>
    confined_bind (confined_stringArg held 1) fun name _ =>
      confined_bind (confined_storeCheck one member name) fun a _ => confined_pure (h a)

theorem confined_writer (read : Value → Except ExecError SettingValue) :
    Confined K r (Value.Held K r) (writer read args) := by
  refine confined_bind (confined_modArg held 0) fun key member => ?_
  refine confined_bind (confined_argument held (fun _ _ _ _ => trivial) 2) fun value _ => ?_
  refine confined_bind (confined_stringArg held 1) fun name _ => ?_
  refine confined_bind (confined_setSetting member name value) fun done _ => ?_
  refine confined_ofExcept fun v ends => ?_
  cases done <;> cases ends
  trivial

theorem confined_resetter {read : Value → Except ExecError Key}
    (h : ∀ v key, v.Held K r → read v = .ok key → K key) :
    Confined K r (Value.Held K r) (resetter read args) :=
  confined_bind (confined_argument held h 0) fun _ member => confined_resetAll member

end

end Native

namespace Catalog

open Run Native

variable {K : Key → Prop} {r : Registry}

/-- Methods of the API work with what they are handed. -/
theorem confined_of_mem : ∀ o ∈ standard.entries ++ [Offer.getParent], ∀ args : List Value,
    (∀ v ∈ args, v.Held K r) → Confined K r (Value.Held K r) (o.run args) := by
  simp only [entries, standard, List.cons_append, List.nil_append, List.forall_mem_cons]
  refine ⟨?getMod, ?getCaller, ?inWorld, ?loaded, ?_, ?_, ?_, ?_, ?_, ?_, ?_, ?_, ?_, ?_,
    ?resetMod, ?resetCaller, ?getParent, nofun⟩
  case getMod =>
    intro args held
    refine confined_bind (confined_argument held (fun _ _ => Value.held_asType) 0)
      fun t granted => ?_
    exact confined_bind (confined_registryCheck _) fun key found =>
      confined_pure (granted key (Registry.modForType_eq_ok found))
  case getCaller =>
    intro args held
    refine confined_bind (confined_modArg held 0) fun key member => ?_
    refine confined_bind (confined_registryCheck _) fun found same => confined_pure ?_
    rw [Registry.callerForMod_eq_ok same]
    exact member
  case inWorld =>
    intro args held
    exact confined_registry (f := fun r => Run.pure (Value.bool r.inWorld)) (confined_pure trivial)
  case loaded =>
    intro args held
    refine confined_bind (confined_modArg held 0) fun key _ => ?_
    exact confined_registry (f := fun r => Run.pure (Value.bool (r.isApiLoaded key)))
      (confined_pure trivial)
  case resetMod => exact fun args held => confined_resetter held fun _ _ => Value.held_asMod
  case resetCaller => exact fun args held => confined_resetter held fun _ _ => Value.held_asCaller
  case getParent =>
    intro args held
    refine confined_bind (confined_argument held (fun _ _ => Value.held_asCaller) 0)
      fun key member => ?_
    exact confined_bind (confined_registryCheck _) fun _ _ => confined_pure member
  all_goals first
    | exact fun args held => confined_writer held _
    | exact fun args held => confined_reader held (Store.looksAtOne_getAs _ _) fun _ => trivial

theorem confined_perform (m : Signature) (args : List Value) (held : ∀ v ∈ args, v.Held K r) :
    Confined K r (Value.Held K r) (standard.perform m args) := by
  rcases standard.perform_eq_or m with ⟨o, member, runs⟩ | none
  · rw [runs]
    exact confined_of_mem o member args held
  · rw [none]
    exact confined_fail _

end Catalog

/-! ## Programs -/

/-- No method of the assembly has a native body. -/
def Assembly.Interpreted (a : Assembly) : Prop := ∀ m ∈ a.methods, ∀ run, m.body ≠ .native run

/-- The type is named as a value by a body of the assembly. -/
def Assembly.HasToken (a : Assembly) (t : Ty) : Prop :=
  ∃ m ∈ a.methods, ∃ code, m.body = .code code ∧ .loadType t ∈ code

/-- The keys that a run is granted: those of the handles among its arguments and
those to which the registry leads from a type, be it an argument or named by the
program. -/
def Granted (a : Assembly) (r : Registry) (args : List Value) (key : Key) : Prop :=
  .mod key ∈ args ∨ .caller key ∈ args ∨
    ∃ t, (.type t ∈ args ∨ a.HasToken t) ∧ r.keyOfType? t = some key

namespace Machine

open Run

section

variable {K : Key → Prop} {r : Registry}

theorem confined_leave (m : Signature) {stack : List Value} (held : ∀ v ∈ stack, v.Held K r) :
    Confined K r (Value.Held K r) (leave m stack) := by
  unfold leave
  split
  · exact confined_pure trivial
  · cases stack with
    | nil => exact confined_fail _
    | cons top below => exact confined_pure (held top List.mem_cons_self)

variable {a : Assembly} {invoke : Signature → List Value → Exec Value}
  (calls : ∀ m args, (∀ v ∈ args, v.Held K r) → Confined K r (Value.Held K r) (invoke m args))
include calls

theorem confined_passOn (target found : Signature) {stack : List Value}
    {resume : List Value → Exec Value} (held : ∀ v ∈ stack, v.Held K r)
    (goesOn : ∀ stack : List Value, (∀ v ∈ stack, v.Held K r) →
      Confined K r (Value.Held K r) (resume stack)) :
    Confined K r (Value.Held K r) (passOn invoke target found stack resume) := by
  have args : ∀ v ∈ (stack.take target.arity).reverse, v.Held K r := fun v hv =>
    held v (List.mem_of_mem_take (List.mem_reverse.mp hv))
  have below : ∀ v ∈ stack.drop target.arity, v.Held K r := fun v hv =>
    held v (List.mem_of_mem_drop hv)
  refine confined_bind (calls found _ args) fun result good => goesOn _ ?_
  split
  · exact below
  · exact List.forall_mem_cons.mpr ⟨good, below⟩

/-- The stack of a body holds nothing but what the run was granted. -/
theorem confined_runCode (m : Signature) {args : Array Value} {code : List Instruction}
    {stack : List Value} (given : ∀ v ∈ args, v.Held K r)
    (tokens : ∀ t, .loadType t ∈ code → (Value.type t).Held K r)
    (held : ∀ v ∈ stack, v.Held K r) :
    Confined K r (Value.Held K r) (runCode a invoke m args code stack) := by
  induction code generalizing stack with
  | nil => exact confined_leave m held
  | cons i rest ih =>
    -- what an instruction pushes is an argument, a constant, a type that the body
    -- names or what a call returned
    have goesOn (stack : List Value) (held : ∀ v ∈ stack, v.Held K r) :
        Confined K r (Value.Held K r) (runCode a invoke m args rest stack) :=
      ih (fun t ht => tokens t (List.mem_cons_of_mem _ ht)) held
    cases i with
    | ret => exact confined_leave m held
    | loadInt n => exact goesOn _ (List.forall_mem_cons.mpr ⟨trivial, held⟩)
    | loadString s => exact goesOn _ (List.forall_mem_cons.mpr ⟨trivial, held⟩)
    | loadType t =>
      exact goesOn _ (List.forall_mem_cons.mpr ⟨tokens t List.mem_cons_self, held⟩)
    | loadArg index =>
      rw [runCode]
      cases found : args[index.toNat]? with
      | none => exact confined_fail _
      | some v =>
        exact goesOn _ (List.forall_mem_cons.mpr ⟨given v (Array.mem_of_getElem? found), held⟩)
    | call target =>
      rw [runCode_call]
      by_cases short : stack.length < target.arity
      · rw [if_pos short]
        exact confined_fail _
      · rw [if_neg short]
        exact confined_passOn calls target target held goesOn
    | callVirtual target =>
      rw [runCode_callVirtual]
      by_cases short : stack.length < target.arity
      · rw [if_pos short]
        exact confined_fail _
      · rw [if_neg short]
        exact confined_registry
          (f := fun r => passOn invoke target
            (resolve a r target (stack.take target.arity).reverse) stack
            (runCode a invoke m args rest))
          (confined_passOn calls target _ held goesOn)

end

/-- Calls are confined however deep they are nested. -/
theorem confined_invokeWithin {K : Key → Prop} {r : Registry} {a : Assembly}
    (interpreted : a.Interpreted) (tokens : ∀ t, a.HasToken t → (Value.type t).Held K r)
    (room : Nat) (m : Signature) {args : List Value} (held : ∀ v ∈ args, v.Held K r) :
    Confined K r (Value.Held K r) ((Machine.mk a .standard).invokeWithin room m args) := by
  induction room generalizing m args with
  | zero => exact confined_fail _
  | succ room ih =>
    cases (Machine.mk a .standard).entered m args with
    | refused e _ comesTo => rw [comesTo]; exact confined_fail _
    | api _ comesTo => rw [comesTo]; exact Catalog.confined_perform m args held
    | native d run _ found body _ =>
      exact absurd body (interpreted d (Assembly.mem_of_method? found) run)
    | code d code _ found body comesTo =>
      have given : ∀ v ∈ args.toArray, v.Held K r := fun v hv =>
        held v (Array.mem_toList_iff.mpr hv)
      have named : ∀ t, .loadType t ∈ code → (Value.type t).Held K r := fun t ht =>
        tokens t ⟨d, Assembly.mem_of_method? found, code, body, ht⟩
      have runs := confined_runCode (a := a) (fun m args => ih m) m given named
        (List.forall_mem_nil _)
      rw [comesTo]
      exact confined_mapError runs _

/-- What a run is granted it holds. -/
theorem held_of_granted {a : Assembly} {r : Registry} {args : List Value} :
    ∀ v ∈ args, v.Held (Granted a r args) r := by
  intro v hv
  cases v with
  | mod key => exact Or.inl hv
  | caller key => exact Or.inr (Or.inl hv)
  | type t => exact fun key found => Or.inr (Or.inr ⟨t, Or.inl hv, found⟩)
  | _ => trivial

/-- Without native bodies, a run changes nothing but values of settings under
the keys that it is granted, and it ends alike, with stores that agree on these
keys, wherever it starts from stores that do. -/
theorem invoke_confined {a : Assembly} (interpreted : a.Interpreted) (m : Signature)
    (args : List Value) (r : Registry) (st : Store) :
    let run := (Machine.mk a .standard).invoke m args
    let K := Granted a r args
    ((run ⟨r, st⟩).state.registry = r ∧ st.ChangedWithin K (run ⟨r, st⟩).state.store) ∧
      ∀ st', st.Agree K st' → (run ⟨r, st⟩).value = (run ⟨r, st'⟩).value ∧
        (run ⟨r, st⟩).state.store.Agree K (run ⟨r, st'⟩).state.store := by
  intro run K
  have tokens : ∀ t, a.HasToken t → (Value.type t).Held K r := fun t token key found =>
    Or.inr (Or.inr ⟨t, Or.inr token, found⟩)
  have confined : Confined K r (Value.Held K r) run :=
    confined_invokeWithin interpreted tokens callLimit m held_of_granted
  have alone := confined st st fun _ _ _ => rfl
  refine ⟨⟨alone.registry, alone.store⟩, fun st' same => ?_⟩
  have alike := confined st st' same
  exact ⟨alike.value, alike.agree⟩

/-! ## A confined program

The program of one mod, which resets all settings of that mod. -/

def sampleMain : Ty := .cls "Sample" (some .mod) [] .concrete true

def sampleReset : Signature := { owner := sampleMain, name := "Reset", isStatic := true }

def sampleProgram : Assembly :=
  { name := "Sample"
    classes := [{
      type := sampleMain
      declarations := [{
        name := "Reset"
        isStatic := true
        body := .code [
          .loadType sampleMain,
          .call Offer.getMod.method,
          .call { owner := .api, name := "ResetAllSettings", params := [.mod], isStatic := true },
          .ret] }] }] }

/-- Beside the mod of the program another mod is registered. -/
def sampleRegistry : Registry :=
  { mods := { slots := [
      { row := some { name := "Other", mainType := .cls "Other" (some .mod) [] .concrete true } },
      { row := some { name := "Sample", mainType := sampleMain } }] }
    byType := [(sampleMain, .entry 2 1),
      (.cls "Other" (some .mod) [] .concrete true, .entry 1 1)] }

/-- The program is granted its own mod alone and resets no other's settings. -/
theorem invoke_confined_sample :
    let run := (Machine.mk sampleProgram .standard).invoke sampleReset []
    let K := Granted sampleProgram sampleRegistry []
    (∀ key, K key ↔ key = .entry 2 1) ∧ ∀ st : Store,
      st.ChangedWithin K (run ⟨sampleRegistry, st⟩).state.store := by
  have interpreted : sampleProgram.Interpreted := by
    intro m member run
    obtain rfl := List.mem_singleton.mp member
    nofun
  refine ⟨fun key => ⟨?_, ?_⟩, fun st =>
    (invoke_confined interpreted sampleReset [] sampleRegistry st).1.2⟩
  · rintro (h | h | ⟨t, h | ⟨m, member, code, body, token⟩, found⟩)
    · exact nomatch h
    · exact nomatch h
    · exact nomatch h
    · obtain rfl := List.mem_singleton.mp member
      cases body
      have named : t = sampleMain := by simpa using token
      rw [named] at found
      exact (Option.some.inj found).symm
  · rintro rfl
    exact Or.inr (Or.inr ⟨sampleMain, Or.inr ⟨_, List.mem_singleton_self _, _, rfl,
      List.mem_cons_self⟩, rfl⟩)

end Machine

end ModSettings
