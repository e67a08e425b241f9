/-
Adapters for the settings API are safe.

A stub that was bound to the settings API and patched is called with values of
its declared types.  The theorem this file exists for is `safe_invoke_patch`: the
call ends with a value of the type that the stub declares, or with an error of
the registry or of the store.  It never runs out of arguments or of calls, never
hands the API a value of the wrong kind and never panics.

Handles are bound loosely, so this rests on what matching promises: the value
for a slot is converted exactly where its type is not the slot's, and the
conversions give what the two kinds of handles ask for.  A type that stands for
both kinds at once has no values.  No argument is of such a type, but a stub may
declare it as its result, which is excluded.
-/
import ModSettings.Proofs.Bridge.Adapter
import ModSettings.Proofs.Bridge.Matching
import ModSettings.Proofs.Program.Safety

namespace ModSettings
namespace Bridge

open Run

/-! ## Slots of the settings API -/

/-- A slot for one of the two kinds of handles, or of a type that lets in no
other. -/
def Plain (slot : Ty) : Prop := slot = .mod ∨ slot = .eventCaller ∨ slot.isSole = true

/-- The settings API takes and returns nothing but handles and values of types
that let in no other. -/
theorem plain_of_mem_standard : ∀ o ∈ Catalog.standard.entries,
    (∀ slot ∈ o.method.arguments, Plain slot) ∧ Plain o.method.result := by
  have mod : Plain .mod := Or.inl rfl
  have caller : Plain .eventCaller := Or.inr (Or.inl rfl)
  have sole (t : Ty) (h : t.isSole = true) : Plain t := Or.inr (Or.inr h)
  simp [Catalog.entries, Catalog.standard, Offer.getMod, Offer.getCaller, Offer.api,
    Signature.arguments, mod, caller, sole .bool rfl, sole .int rfl, sole .float rfl,
    sole .string rfl, sole .type rfl, sole .void rfl]

theorem isApi_of_mem_standard : ∀ o ∈ Catalog.standard.entries, o.method.isApi = true := by
  have all : Catalog.standard.entries.all (·.method.isApi) = true := by decide
  exact List.all_eq_true.mp all

theorem perform_standard {o : Offer} (h : o ∈ Catalog.standard.entries) :
    Catalog.standard.perform o.method = o.run :=
  Catalog.perform_of_mem Catalog.distinct_standard (List.mem_append_left _ h)

theorem perform_getParent : Catalog.standard.perform Offer.getParent.method = Offer.getParent.run :=
  Catalog.perform_of_mem Catalog.distinct_standard (List.mem_append_right _ List.mem_cons_self)

/-- A value that the slot admits without conversion is of the slot's type. -/
theorem inhabits_of_slot_accepts {slot declared : Ty} (plain : Plain slot)
    (h : slot.accepts declared = true) {v : Value} (given : v.Inhabits declared) :
    v.Inhabits slot := by
  rcases plain with rfl | rfl | sole
  · obtain ⟨key, rfl⟩ := Value.exists_mod given h
    exact Value.inhabits_mod key
  · obtain ⟨key, rfl⟩ := Value.exists_caller given h
    exact Value.inhabits_caller key
  · exact Ty.eq_of_accepts sole h ▸ given

/-- A value that the API returns is of every type that the stub may declare for
it. -/
theorem inhabits_of_accepts_result {declared result : Ty} (plain : Plain result)
    (h : declared.accepts result = true)
    (oneKind : ¬(declared.isModHandle = true ∧ declared.isCallerHandle = true)) {v : Value}
    (returned : v.Inhabits result) : v.Inhabits declared := by
  rcases plain with rfl | rfl | sole
  · obtain ⟨key, rfl⟩ := Value.exists_mod returned rfl
    rcases Ty.accepts_top h with rfl | handle
    · exact Value.inhabits_object _
    · cases declared with
      | cls _ _ _ _ _ => exact ⟨fun _ => ⟨key, rfl⟩, fun both => absurd ⟨handle, both⟩ oneKind⟩
      | _ => exact absurd handle Bool.false_ne_true
  · obtain ⟨key, rfl⟩ := Value.exists_caller returned rfl
    rcases Ty.accepts_top h with rfl | handle
    · exact Value.inhabits_object _
    · cases declared with
      | cls _ _ _ _ _ => exact ⟨fun both => absurd ⟨both, handle⟩ oneKind, fun _ => ⟨key, rfl⟩⟩
      | _ => exact absurd handle Bool.false_ne_true
  · rcases Ty.accepts_isSole sole h with rfl | rfl
    · exact returned
    · exact Value.inhabits_object _

/-! ## Values for slots -/

theorem safe_toMod {v : Value} {t : Ty} (given : v.Inhabits t) (handle : t.isCallerHandle = true) :
    Safe (Catalog.standard.perform Offer.getParent.method [v]) (·.Inhabits .mod) := by
  obtain ⟨key, rfl⟩ := Value.exists_caller given handle
  rw [perform_getParent]
  exact Offer.safe_getParent _ (.cons (Value.inhabits_caller key) .nil)

theorem safe_toCaller {v : Value} {t : Ty} (given : v.Inhabits t) (handle : t.isModHandle = true) :
    Safe (Catalog.standard.perform Offer.getCaller.method [v]) (·.Inhabits .eventCaller) := by
  obtain ⟨key, rfl⟩ := Value.exists_mod given handle
  rw [perform_standard (List.mem_cons_of_mem _ List.mem_cons_self)]
  exact Offer.safe_getCaller _ (.cons (Value.inhabits_mod key) .nil)

theorem safe_ofType (modType : Ty) :
    Safe (Catalog.standard.perform Offer.getMod.method [.type modType]) (·.Inhabits .mod) := by
  rw [perform_standard List.mem_cons_self]
  exact Offer.safe_getMod _ (.cons ⟨modType, rfl⟩ .nil)

/-- Whatever the slot admits is converted into a value of the slot's type. -/
theorem safe_convert {slot declared : Ty} (plain : Plain slot)
    (admits : slot.admits declared = true) {v : Value} (given : v.Inhabits declared) :
    Safe (convert .standard declared slot v) (·.Inhabits slot) := by
  rw [convert]
  by_cases direct : slot.accepts declared = true
  · rw [if_pos direct]
    exact safe_pure (inhabits_of_slot_accepts plain direct given)
  rw [if_neg direct]
  -- what is not let in as it is stands for a mod, and so does the slot
  have handles : declared.isHandle = true ∧ slot.isHandle = true := by
    rw [Ty.admits, Bool.or_eq_true, Bool.and_eq_true] at admits
    exact admits.resolve_left direct
  rw [Ty.isHandle, Bool.or_eq_true] at handles
  rcases plain with rfl | rfl | sole
  · have fromCaller : declared.isCallerHandle = true := handles.1.resolve_left direct
    rw [fromCaller]
    exact safe_toMod given fromCaller
  · have fromMod : declared.isModHandle = true := handles.1.resolve_right direct
    have notForMods : Ty.eventCaller.isModHandle = false := rfl
    rw [notForMods, Bool.and_false]
    exact safe_toCaller given fromMod
  · rw [Ty.isHandle_of_isSole sole] at handles
    exact absurd handles.2 Bool.false_ne_true

section

variable {b : Binding} {modType : Ty} {args : List Value}
  (inhabit : List.Forall₂ Value.Inhabits args b.hook.arguments)
include inhabit

theorem safe_supply {slot : Ty} (plain : Plain slot) {source : Source}
    (fits : Fits b.hook slot source) :
    Safe (supply .standard b modType args slot source) (·.Inhabits slot) := by
  cases source with
  | argument index =>
    obtain ⟨declared, found, admits⟩ := fits
    have type : b.hook.arguments.getD index .void = declared := by
      rw [List.getD_eq_getElem?_getD, found, Option.getD_some]
    rw [supply, type]
    exact safe_convert plain admits (Value.inhabits_getD inhabit found)
  | inject =>
    refine safe_bind (safe_ofType modType) fun owner ofMod => ?_
    rcases plain with rfl | rfl | sole
    · exact safe_pure ofMod
    · exact safe_toCaller ofMod rfl
    · exact absurd (Ty.isHandle_of_isSole sole ▸ fits) Bool.false_ne_true

/-- The values supplied for a list of slots are of the slots' types. -/
theorem safe_supplyAll {slots : List Ty} {sources : List Source}
    (plain : ∀ slot ∈ slots, Plain slot) (fits : List.Forall₂ (Fits b.hook) slots sources) :
    Safe (supplyAll .standard b modType args (slots.zip sources))
      (List.Forall₂ Value.Inhabits · slots) := by
  induction fits with
  | nil => exact safe_pure .nil
  | cons first _ ih =>
    obtain ⟨here, plain⟩ := List.forall_mem_cons.mp plain
    refine safe_bind (safe_supply inhabit here first) fun v good => ?_
    exact safe_bind (ih plain) fun vs rest => safe_pure (.cons good rest)

/-- The call that a binding to the settings API stands for is safe. -/
theorem safe_direct {o : Offer} (member : o ∈ Catalog.standard.entries)
    (target : b.target = o.method) (mapped : mapping? b.hook b.target = some b.mapping)
    (oneKind : ¬(b.hook.result.isModHandle = true ∧ b.hook.result.isCallerHandle = true)) :
    Safe (direct .standard b modType args) fun v =>
      v.Inhabits b.hook.result ∧ (b.hook.result.isVoid = true → v = .unit) := by
  obtain ⟨slots, result⟩ := plain_of_mem_standard o member
  have agree : b.hook.result.accepts b.target.result = true :=
    (mapping?_eq_some_iff.mp mapped).1
  have fits := fits_of_mapping? mapped
  rw [target] at agree fits
  rw [direct, target, perform_standard member]
  refine safe_bind (safe_supplyAll inhabit slots fits) fun values good => ?_
  refine safe_bind (Catalog.safe_of_mem_standard o member values good) fun v returned => ?_
  cases empty : b.hook.result.isVoid with
  | true =>
    rw [Ty.eq_void_of_isVoid empty]
    exact safe_pure ⟨Value.inhabits_void .unit, fun _ => rfl⟩
  | false =>
    have good : v.Inhabits b.hook.result :=
      inhabits_of_accepts_result result agree oneKind returned
    exact safe_pure ⟨good, fun isVoid => absurd isVoid Bool.false_ne_true⟩

end

/-! ## Patched stubs -/

/-- An event caller has no override of its way back to the mod where the
assembly does not declare the class of event callers. -/
theorem resolve_caller {a : Assembly} (h : a.class? .eventCaller = none) (r : Registry)
    (target : Signature) (key : Key) : Machine.resolve a r target [.caller key] = target := by
  have bare : a.hierarchy .eventCaller = [] := by
    show List.filterMap a.class? [.eventCaller] = []
    rw [List.filterMap_cons_none h, List.filterMap_nil]
  have unbound : a.resolveVirtual? .eventCaller target = none := by
    rw [Assembly.resolveVirtual?, bare]
    rfl
  unfold Machine.resolve
  split
  · rfl
  · show (a.resolveVirtual? .eventCaller target).getD target = target
    rw [unbound]
    rfl

/-- The assembly declares what it patches, and so no method of a class that it
does not declare. -/
theorem isApi_of_patch {a patched : Assembly} {b : Binding} {modType : Ty}
    (h : patch a b modType = .ok patched) (noApi : a.class? .api = none)
    (noCaller : a.class? .eventCaller = none) : b.hook.isApi = false := by
  obtain ⟨_, _, set⟩ := patch_eq_ok h
  have declared : (a.method? b.hook).isSome = true := (Assembly.setBody?_eq_some set).1
  have owned : (a.class? b.hook.owner).isSome = true := by
    cases found : a.class? b.hook.owner with
    | none => rwa [Assembly.method?_eq_none found] at declared
    | some c => rfl
  exact Signature.isApi_of_owner owned noApi noCaller

/-- A patched stub of the settings API, called with values of its declared
types, ends with a value of the type it declares (with nothing if it declares
none) or with an error of the registry or of the store. -/
theorem safe_invoke_patch {a patched : Assembly} {stub : Stub} {b : Binding} {modType : Ty}
    {args : List Value} (noApi : a.class? .api = none) (noCaller : a.class? .eventCaller = none)
    (bound : discover stub .standard = .bound b) (hpatch : patch a b modType = .ok patched)
    (oneKind : ¬(stub.method.result.isModHandle = true ∧ stub.method.result.isCallerHandle = true))
    (inhabit : List.Forall₂ Value.Inhabits args stub.method.arguments) (s : Shared) :
    ((Machine.mk patched .standard).invoke stub.method args s).value.Safe fun v =>
      v.Inhabits stub.method.result ∧ (stub.method.result.isVoid = true → v = .unit) := by
  obtain ⟨o, member, hook, target, mapped⟩ := discover_eq_bound bound
  rw [← hook] at inhabit oneKind mapped ⊢
  rw [← target] at mapped
  have api : b.target.isApi = true := by
    rw [target]
    exact isApi_of_mem_standard o member
  have count : args.length = b.hook.arity := by
    rw [inhabit.length_eq, Signature.length_arguments]
  have keeps : KeepsParent patched b.hook args := by
    intro index declared found handle r
    obtain ⟨key, given⟩ := Value.exists_caller (Value.inhabits_getD inhabit found) handle
    rw [given, Machine.resolve_congr (outline_patch hpatch)]
    exact resolve_caller noCaller r _ key
  rw [invoke_patch_of_keepsParent mapped hpatch api (isApi_of_patch hpatch noApi noCaller) keeps
    count]
  have safe : Safe (direct .standard b modType args) _ :=
    safe_direct inhabit member target mapped oneKind
  exact (safe s).within b.hook

theorem discover_sample :
    discover { holder := sampleMain, method := sampleBinding.hook } .standard =
      .bound sampleBinding := by
  have name : Stub.bareName { holder := sampleMain, method := sampleBinding.hook } =
      "GetCheckboxState" := by decide +kernel
  refine discover_of_named
    (o := .api "GetCheckboxState" [.mod, .string] .bool (.reader Store.checkbox .bool)) ?_ rfl
  rw [name]
  simp [Catalog.named, Catalog.entries, Catalog.standard, sameIgnoringCase_eq, Offer.api,
    Offer.getMod, Offer.getCaller]

/-- The stub of the sample is safe on every event caller and every name. -/
theorem safe_invoke_patch_sample : ∃ patched,
    discover { holder := sampleMain, method := sampleBinding.hook } .standard =
        .bound sampleBinding ∧
      patch sampleAssembly sampleBinding sampleMain = .ok patched ∧ ∀ key name s,
        ((Machine.mk patched .standard).invoke sampleBinding.hook
          [.caller key, .str name] s).value.Safe fun v => ∃ on, v = .bool on := by
  obtain ⟨patched, hpatch⟩ : ∃ patched,
      patch sampleAssembly sampleBinding sampleMain = .ok patched := ⟨_, rfl⟩
  refine ⟨patched, discover_sample, hpatch, fun key name => ?_⟩
  have given : List.Forall₂ Value.Inhabits [.caller key, .str name]
      sampleBinding.hook.arguments :=
    .cons (Value.inhabits_caller key) (.cons ⟨name, rfl⟩ .nil)
  intro s
  have safe := safe_invoke_patch rfl rfl discover_sample hpatch (by decide) given s
  exact safe.mono fun v good => good.1

end Bridge
end ModSettings
