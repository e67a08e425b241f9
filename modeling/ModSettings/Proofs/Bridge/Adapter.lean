/-
Adapters do what their bindings say.

`direct` is the call that a binding stands for, told without instructions or a
stack: a value is supplied for every slot of the target, in order, then the
target runs on exactly these values.  The theorem this file exists for is
`invoke_patch`: a patched stub does what `direct` does, and an error carries the
stub as its one frame.

The proof goes slot by slot.  The code of a slot leaves the slot's value on the
stack and touches nothing below it, so the code of all slots leaves their values
in reverse, which is how a call finds its arguments.  The hypothesis on
`get_parent` is there because the adapter calls it late-bound: a class of the
assembly with a method of that shape would take its place.
-/
import ModSettings.Bridge.Adapter
import ModSettings.Proofs.Bridge.Matching
import ModSettings.Proofs.Exec.Call
import ModSettings.Proofs.Exec.Run
import ModSettings.Proofs.Types.Assignability

namespace ModSettings
namespace Bridge

/-! ## The call a binding stands for -/

/-- The value for a slot from a value of a declared type.  A handle that was
bound loosely is converted: one call leads from an event caller to its mod or
from a mod to its event caller. -/
def convert (catalog : Catalog) (declared slot : Ty) (given : Value) : Exec Value :=
  if slot.accepts declared then .pure given
  else if declared.isCallerHandle && slot.isModHandle then
    catalog.perform Offer.getParent.method [given]
  else catalog.perform Offer.getCaller.method [given]

/-- The value for one slot of the target: an argument of the stub, or the handle
of the mod whose main class is given. -/
def supply (catalog : Catalog) (b : Binding) (modType : Ty) (args : List Value) (slot : Ty) :
    Source → Exec Value
  | .inject => do
      let owner ← catalog.perform Offer.getMod.method [.type modType]
      if !slot.isModHandle && slot.isCallerHandle then
        catalog.perform Offer.getCaller.method [owner]
      else .pure owner
  | .argument index =>
      convert catalog (b.hook.arguments.getD index .void) slot (args.getD index .unit)

/-- The values for a list of slots, from left to right up to the first error. -/
def supplyAll (catalog : Catalog) (b : Binding) (modType : Ty) (args : List Value) :
    List (Ty × Source) → Exec (List Value)
  | [] => .pure []
  | (slot, source) :: rest => do
      let v ← supply catalog b modType args slot source
      let vs ← supplyAll catalog b modType args rest
      .pure (v :: vs)

/-- The target on the values supplied for its slots.  A stub that returns
nothing drops what the target returns. -/
def direct (catalog : Catalog) (b : Binding) (modType : Ty) (args : List Value) : Exec Value := do
  let values ← supplyAll catalog b modType args (b.target.arguments.zip b.mapping.sources)
  let result ← catalog.perform b.target values
  .pure (if b.hook.result.isVoid then .unit else result)

theorem length_supplyAll {catalog : Catalog} {b : Binding} {modType : Ty} {args : List Value}
    {pairs : List (Ty × Source)} {s : Shared} {values : List Value}
    (h : (supplyAll catalog b modType args pairs s).value = .ok values) :
    values.length = pairs.length := by
  induction pairs generalizing s values with
  | nil =>
    cases h
    rfl
  | cons pair rest ih =>
    obtain ⟨v, _, h⟩ := Run.bind_eq_ok h
    obtain ⟨vs, hvs, h⟩ := Run.bind_eq_ok h
    cases h
    rw [List.length_cons, List.length_cons, ih hvs]

/-! ## What synthesis and patching produce -/

theorem bind_eq_ok {ε α β : Type} {m : Except ε α} {f : α → Except ε β} {b : β}
    (h : (m >>= f) = .ok b) : ∃ a, m = .ok a ∧ f a = .ok b := by
  cases m with
  | error e => exact nomatch h
  | ok a => exact ⟨a, rfl, h⟩

theorem slotCode_eq_ok {hook : Signature} {modType slot : Ty} {index : Nat}
    {code : List Instruction}
    (h : slotCode hook hook.arguments.toArray modType slot (.argument index) = .ok code) :
    ∃ declared conversion, hook.arguments[index]? = some declared ∧ index ≤ lastOperand ∧
      convertCode? declared slot = some conversion ∧
      code = .loadArg (UInt16.ofNat index) :: conversion := by
  simp only [slotCode, List.getElem?_toArray] at h
  cases found : hook.arguments[index]? with
  | none => rw [found] at h; exact nomatch h
  | some declared =>
    rw [found] at h
    dsimp only at h
    by_cases far : lastOperand < index
    · rw [if_pos far] at h
      exact nomatch h
    · rw [if_neg far] at h
      cases conversion : convertCode? declared slot with
      | none => rw [conversion] at h; exact nomatch h
      | some conversion' =>
        rw [conversion] at h
        cases h
        exact ⟨declared, conversion', rfl, Nat.le_of_not_lt far, conversion, rfl⟩

theorem synthesize_eq {b : Binding}
    (lengths : b.mapping.sources.length = b.target.arguments.length) (modType : Ty) :
    synthesize b modType = ((b.target.arguments.zip b.mapping.sources).mapM fun pair =>
      slotCode b.hook b.hook.arguments.toArray modType pair.1 pair.2) >>= fun loads =>
        .ok (loads.flatten ++ [.call b.target, .ret]) := by
  rw [synthesize, if_neg (not_not_intro lengths)]

theorem synthesize_eq_ok {b : Binding} {modType : Ty} {code : List Instruction}
    (h : synthesize b modType = .ok code) :
    b.mapping.sources.length = b.target.arguments.length ∧ ∃ loads,
      (b.target.arguments.zip b.mapping.sources).mapM (fun pair =>
        slotCode b.hook b.hook.arguments.toArray modType pair.1 pair.2) = .ok loads ∧
      code = loads.flatten ++ [.call b.target, .ret] := by
  by_cases lengths : b.mapping.sources.length = b.target.arguments.length
  · rw [synthesize_eq lengths] at h
    obtain ⟨loads, hloads, h⟩ := bind_eq_ok h
    cases h
    exact ⟨lengths, loads, hloads, rfl⟩
  · rw [synthesize, if_pos lengths] at h
    exact nomatch h

theorem patch_eq_ok {a patched : Assembly} {b : Binding} {modType : Ty}
    (h : patch a b modType = .ok patched) :
    ∃ code, synthesize b modType = .ok code ∧ a.setBody? b.hook (.code code) = some patched := by
  obtain ⟨code, synthesized, h⟩ := bind_eq_ok h
  refine ⟨code, synthesized, ?_⟩
  cases set : a.setBody? b.hook (.code code) with
  | none => rw [set] at h; exact nomatch h
  | some a' =>
    rw [set] at h
    cases h
    rfl

/-! ## Running an adapter -/

/-- Calls of methods of the API reach the catalog. -/
def ReachesCatalog (catalog : Catalog) (invoke : Signature → List Value → Exec Value) : Prop :=
  ∀ (m : Signature) (values : List Value), m.isApi = true → values.length = m.arity →
    invoke m values = catalog.perform m values

/-- Late binding leaves every event caller among the arguments its own way back
to the mod. -/
def KeepsParent (a : Assembly) (hook : Signature) (args : List Value) : Prop :=
  ∀ (index : Nat) (declared : Ty), hook.arguments[index]? = some declared →
    declared.isCallerHandle = true → ∀ r : Registry,
      Machine.resolve a r Offer.getParent.method [args.getD index .unit] = Offer.getParent.method

section

variable {a : Assembly} {catalog : Catalog} {invoke : Signature → List Value → Exec Value}
  (reaches : ReachesCatalog catalog invoke)
include reaches

/-- A call of an API method whose arguments are on top of the stack. -/
theorem runCode_call_api {target : Signature} (api : target.isApi = true) {values : List Value}
    (arity : values.length = target.arity) (m : Signature) (args : Array Value)
    (rest : List Instruction) (below : List Value) :
    Machine.runCode a invoke m args (.call target :: rest) (values.reverse ++ below) = (do
      let result ← catalog.perform target values
      Machine.runCode a invoke m args rest
        (if target.result.isVoid then below else result :: below)) := by
  have length : values.reverse.length = target.arity := by rw [List.length_reverse, arity]
  have enough : ¬(values.reverse ++ below).length < target.arity := by
    rw [List.length_append]
    omega
  rw [Machine.runCode_call, if_neg enough, Machine.passOn, List.take_left' length,
    List.drop_left' length, List.reverse_reverse, reaches target values api arity]

/-- The call of a conversion, which takes one value and gives one. -/
theorem runCode_convert {target : Signature} (api : target.isApi = true) (unary : target.arity = 1)
    (returns : target.result.isVoid = false) (m : Signature) (args : Array Value)
    (rest : List Instruction) (v : Value) (below : List Value) :
    Machine.runCode a invoke m args (.call target :: rest) (v :: below) = (do
      let result ← catalog.perform target [v]
      Machine.runCode a invoke m args rest (result :: below)) := by
  have count : [v].length = target.arity := unary.symm
  have called := runCode_call_api (a := a) reaches api count m args rest below
  rw [returns] at called
  exact called

/-- Bound late, a conversion is called as if it were bound early, provided that
nothing takes its place. -/
theorem runCode_convertVirtual {target : Signature} (api : target.isApi = true)
    (unary : target.arity = 1) (returns : target.result.isVoid = false) (m : Signature)
    (args : Array Value) (rest : List Instruction) {v : Value}
    (stays : ∀ r : Registry, Machine.resolve a r target [v] = target) (below : List Value) :
    Machine.runCode a invoke m args (.callVirtual target :: rest) (v :: below) = (do
      let result ← catalog.perform target [v]
      Machine.runCode a invoke m args rest (result :: below)) := by
  rw [← runCode_convert reaches api unary returns, Machine.runCode_call,
    Machine.runCode_callVirtual]
  congr 1
  refine Run.get_bind_eq fun s => ?_
  have top : ((v :: below).take target.arity).reverse = [v] := by rw [unary]; rfl
  rw [top, stays]

variable {b : Binding} {modType : Ty} {args : List Value}

/-- The code of an injected slot leaves the mod's own handle on the stack. -/
theorem runCode_injectCode (slot : Ty) (rest : List Instruction) (stack : List Value) :
    Machine.runCode a invoke b.hook args.toArray (injectCode modType slot ++ rest) stack = (do
      let v ← supply catalog b modType args slot .inject
      Machine.runCode a invoke b.hook args.toArray rest (v :: stack)) := by
  rw [injectCode, supply, List.append_assoc, bind_assoc]
  have api : Offer.getMod.method.isApi = true := rfl
  refine (runCode_convert reaches api rfl rfl _ _ _ _ _).trans ?_
  congr 1
  funext owner
  cases !slot.isModHandle && slot.isCallerHandle with
  | true => exact runCode_convert reaches rfl rfl rfl _ _ _ _ _
  | false => rfl

/-- The code of a conversion turns the value on top of the stack into the value
of the slot. -/
theorem runCode_convertCode {declared slot : Ty} {given : Value} {code : List Instruction}
    (h : convertCode? declared slot = some code)
    (stays : declared.isCallerHandle = true → ∀ r : Registry,
      Machine.resolve a r Offer.getParent.method [given] = Offer.getParent.method)
    (rest : List Instruction) (below : List Value) :
    Machine.runCode a invoke b.hook args.toArray (code ++ rest) (given :: below) = (do
      let v ← convert catalog declared slot given
      Machine.runCode a invoke b.hook args.toArray rest (v :: below)) := by
  rw [convertCode?] at h
  rw [convert]
  by_cases direct : slot.accepts declared = true
  · rw [if_pos direct] at h
    cases h
    rw [if_pos direct]
    rfl
  · rw [if_neg direct] at h
    rw [if_neg direct]
    by_cases toMod : (declared.isCallerHandle && slot.isModHandle) = true
    · rw [if_pos toMod] at h
      cases h
      rw [if_pos toMod]
      exact runCode_convertVirtual reaches rfl rfl rfl _ _ _
        (stays (Bool.and_eq_true_iff.mp toMod).1) _
    · rw [if_neg toMod] at h
      rw [if_neg toMod]
      by_cases toCaller : (declared.isModHandle && slot.isCallerHandle) = true
      · rw [if_pos toCaller] at h
        cases h
        exact runCode_convert reaches rfl rfl rfl _ _ _ _ _
      · rw [if_neg toCaller] at h
        exact nomatch h

variable (keeps : KeepsParent a b.hook args) (count : args.length = b.hook.arity)
include keeps count

/-- The code of a slot leaves the value of the slot on the stack. -/
theorem runCode_slotCode {slot : Ty} {source : Source} {code : List Instruction}
    (h : slotCode b.hook b.hook.arguments.toArray modType slot source = .ok code)
    (rest : List Instruction) (stack : List Value) :
    Machine.runCode a invoke b.hook args.toArray (code ++ rest) stack = (do
      let v ← supply catalog b modType args slot source
      Machine.runCode a invoke b.hook args.toArray rest (v :: stack)) := by
  cases source with
  | inject =>
    cases h
    exact runCode_injectCode reaches slot rest stack
  | argument index =>
    obtain ⟨declared, conversion, found, near, converts, rfl⟩ := slotCode_eq_ok h
    have position : index < args.length := by
      rw [count, ← Signature.length_arguments]
      exact (List.getElem?_eq_some_iff.mp found).1
    -- synthesis refuses positions that the operand could not hold
    have operand : (UInt16.ofNat index).toNat = index := by
      rw [UInt16.toNat_ofNat']
      exact Nat.mod_eq_of_lt (Nat.lt_succ_of_le near)
    have given : args.toArray[(UInt16.ofNat index).toNat]? = some (args.getD index .unit) := by
      rw [operand, List.getElem?_toArray, List.getD_eq_getElem?_getD,
        List.getElem?_eq_getElem position, Option.getD_some]
    have type : b.hook.arguments.getD index .void = declared := by
      rw [List.getD_eq_getElem?_getD, found, Option.getD_some]
    rw [List.cons_append, Machine.runCode, given, supply, type]
    exact runCode_convertCode reaches converts (keeps index declared found) rest stack

/-- The code of all slots leaves their values on the stack, the last one on
top. -/
theorem runCode_slotCodes {pairs : List (Ty × Source)} {codes : List (List Instruction)}
    (h : pairs.mapM (fun pair =>
      slotCode b.hook b.hook.arguments.toArray modType pair.1 pair.2) = .ok codes)
    (rest : List Instruction) (stack : List Value) :
    Machine.runCode a invoke b.hook args.toArray (codes.flatten ++ rest) stack = (do
      let vs ← supplyAll catalog b modType args pairs
      Machine.runCode a invoke b.hook args.toArray rest (vs.reverse ++ stack)) := by
  induction pairs generalizing codes stack with
  | nil =>
    cases h
    rfl
  | cons pair pairs ih =>
    rw [List.mapM_cons] at h
    obtain ⟨code, hcode, h⟩ := bind_eq_ok h
    obtain ⟨codes', hcodes, h⟩ := bind_eq_ok h
    cases h
    rw [List.flatten_cons, List.append_assoc, runCode_slotCode reaches keeps count hcode,
      supplyAll, bind_assoc]
    congr 1
    funext v
    rw [ih hcodes, bind_assoc]
    congr 1
    funext vs
    rw [Run.ok_bind, List.reverse_cons, List.append_assoc]
    rfl

/-- A synthesized body does what its binding says. -/
theorem runCode_synthesize {code : List Instruction} (hcode : synthesize b modType = .ok code)
    (mapped : mapping? b.hook b.target = some b.mapping) (api : b.target.isApi = true) :
    Machine.runCode a invoke b.hook args.toArray code [] = direct catalog b modType args := by
  obtain ⟨lengths, loads, hloads, rfl⟩ := synthesize_eq_ok hcode
  rw [runCode_slotCodes reaches keeps count hloads, direct]
  refine Run.bind_congr_ok fun s values supplied => ?_
  have arity : values.length = b.target.arity := by
    rw [length_supplyAll supplied, List.length_zip, lengths, Nat.min_self,
      Signature.length_arguments]
  rw [runCode_call_api reaches api arity]
  congr 1
  funext result
  have agree : b.hook.result.isVoid = b.target.result.isVoid :=
    Ty.isVoid_of_accepts (mapping?_eq_some_iff.mp mapped).1
  rw [Machine.runCode]
  unfold Machine.leave
  rw [agree]
  cases b.target.result.isVoid <;> rfl

end

/-! ## Patched stubs -/

/-- A machine whose calls may still be nested reaches its catalog. -/
theorem reachesCatalog (vm : Machine) (room : Nat) :
    ReachesCatalog vm.catalog (vm.invokeWithin (room + 1)) :=
  fun _ _ api arity => Machine.invokeWithin_api arity api room

theorem outline_patch {a patched : Assembly} {b : Binding} {modType : Ty}
    (h : patch a b modType = .ok patched) : patched.outline = a.outline := by
  obtain ⟨_, _, set⟩ := patch_eq_ok h
  exact Assembly.outline_setBody? set

/-- A patched stub does what its binding says, wherever late binding keeps event
callers to their own way back. -/
theorem invoke_patch_of_keepsParent {a patched : Assembly} {catalog : Catalog} {b : Binding}
    {modType : Ty} {args : List Value} (mapped : mapping? b.hook b.target = some b.mapping)
    (hpatch : patch a b modType = .ok patched) (target : b.target.isApi = true)
    (hook : b.hook.isApi = false) (keeps : KeepsParent patched b.hook args)
    (count : args.length = b.hook.arity) :
    (Machine.mk patched catalog).invoke b.hook args =
      (direct catalog b modType args).mapError (·.within b.hook) := by
  obtain ⟨code, synthesized, set⟩ := patch_eq_ok hpatch
  have body := Assembly.body_setBody? set
  have reaches := reachesCatalog (Machine.mk patched catalog) 62
  rw [Machine.invoke, callLimit, Machine.invokeWithin_code count hook body,
    runCode_synthesize reaches keeps count synthesized mapped target]

/-- With no method in the assembly that could override `get_parent`, late
binding keeps to it on every receiver. -/
theorem resolve_getParent {a : Assembly}
    (h : ∀ m ∈ a.methods, m.signature.isStatic = false →
      m.signature.hasShape Offer.getParent.method.name [] = false) (r : Registry)
    (args : List Value) : Machine.resolve a r Offer.getParent.method args =
      Offer.getParent.method := by
  rcases Machine.resolve_eq_or a Offer.getParent.method r args with kept | ⟨d, hd, _, overrides⟩
  · exact kept
  · obtain ⟨isInstance, _, shape⟩ := Signature.overrides_iff.mp overrides
    exact absurd (Signature.hasShape_iff.mpr shape) (Bool.eq_false_iff.mp (h d hd isInstance))

/-- A patched stub does what its binding says: for every state it ends with the
same value, error, state and journal as the call that the binding stands for,
and an error has the stub as its outermost frame. -/
theorem invoke_patch {a patched : Assembly} {catalog : Catalog} {b : Binding} {modType : Ty}
    {args : List Value} (mapped : mapping? b.hook b.target = some b.mapping)
    (hpatch : patch a b modType = .ok patched) (target : (b.target.owner == Ty.api) = true)
    (hook : b.hook.isApi = false)
    (noParent : ∀ m ∈ a.methods, m.signature.isStatic = false →
      m.signature.hasShape "get_parent" [] = false)
    (count : args.length = b.hook.arity) (s : Shared) :
    (Machine.mk patched catalog).invoke b.hook args s =
      (direct catalog b modType args).mapError (·.within b.hook) s := by
  have api : b.target.isApi = true := by rw [Signature.isApi, target, Bool.true_or]
  have keeps : KeepsParent patched b.hook args := by
    intro index declared _ _ r
    rw [Machine.resolve_congr (outline_patch hpatch)]
    exact resolve_getParent noParent r _
  rw [invoke_patch_of_keepsParent mapped hpatch api hook keeps count]

/-! ## A patched stub

A mod with one stub, which is handed an event caller where the API asks for a
mod. -/

def sampleMain : Ty := .cls "Sample" (some .mod) [] .concrete true

def sampleStub : Declaration :=
  { name := "ExtraSettingsAPI_GetCheckboxState", params := [.eventCaller, .string],
    result := .bool, isStatic := true }

def sampleAssembly : Assembly :=
  { name := "Sample", classes := [{ type := sampleMain, declarations := [sampleStub] }] }

def sampleBinding : Binding :=
  { hook := sampleStub.signature sampleMain
    target := { owner := .api, name := "GetCheckboxState", params := [.mod, .string],
                result := .bool, isStatic := true }
    mapping := { sources := [.argument 0, .argument 1], skipCost := 0 } }

def sampleKey : Key := .entry 1 1

/-- The mod is registered and has a checkbox, which is on. -/
def sampleState : Shared :=
  { registry := {
      mods := { slots := [{ row := some { name := "Sample", mainType := sampleMain } }] }
      byType := [(sampleMain, sampleKey)] }
    store := Store.declare .empty sampleKey "fast" (.checkbox true) }

/-- The event caller is turned into its mod, whose checkbox is then read. -/
theorem invoke_patch_sample : ∃ patched,
    patch sampleAssembly sampleBinding sampleMain = .ok patched ∧
      ((Machine.mk patched .standard).invoke sampleBinding.hook
        [.caller sampleKey, .str "fast"] sampleState).value = .ok (.bool true) := by
  obtain ⟨patched, hpatch⟩ : ∃ patched,
      patch sampleAssembly sampleBinding sampleMain = .ok patched := ⟨_, rfl⟩
  refine ⟨patched, hpatch, ?_⟩
  rw [invoke_patch rfl hpatch rfl rfl (by decide) rfl]
  rfl

end Bridge
end ModSettings
