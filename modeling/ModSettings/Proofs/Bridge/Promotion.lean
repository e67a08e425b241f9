/-
Promotion keeps the meaning of a program.

A promoted call binds late and so may land elsewhere than the call it replaces.
It cannot where the assembly declares no rival: no other instance method of the
patched method's name and parameters, on whatever class.  A rival on an
unrelated class counts, for late binding does not check that a receiver's class
has anything to do with the target.  The theorem this file exists for is `invoke_promote`: without
rivals, every method runs to the same value or error, with the same frames,
state and journal, before and after promotion.

The proof compares the two machines body by body at the same room for calls.
What late binding finds is equal to the target, and equal signatures are called
alike.
-/
import ModSettings.Bridge.CallSite
import ModSettings.Proofs.Exec.Call
import ModSettings.Proofs.Exec.Run

namespace ModSettings

namespace Bridge

/-- Every instance method that an assembly declares with the name and the
parameters of a patched one is that patched method. -/
def Unrivalled (patched : MethodSet) (a : Assembly) : Prop :=
  ∀ p ∈ patched.methods, p.isStatic = false →
    ∀ m ∈ a.methods, m.signature.isStatic = false →
      m.signature.hasShape p.name p.params = true → (m.signature == p) = true

theorem outline_promote (patched : MethodSet) (a : Assembly) :
    (promote patched a).outline = a.outline :=
  Assembly.outline_mapBodies (promoteBody patched) a

theorem method?_promote (patched : MethodSet) (a : Assembly) (m : Signature) :
    ((promote patched a).method? m).map Method.body =
      ((a.method? m).map Method.body).map (promoteBody patched) := by
  rw [promote, Assembly.method?_mapBodies, Option.map_map, Option.map_map]
  rfl

theorem resolve_promote (patched : MethodSet) (a : Assembly) :
    Machine.resolve (promote patched a) = Machine.resolve a :=
  Machine.resolve_congr (outline_promote patched a)

def promoteMethod (set : MethodSet) (m : Method) : Method :=
  { m with body := promoteBody set m.body }

theorem methods_promote (set : MethodSet) (a : Assembly) :
    (promote set a).methods = a.methods.map (promoteMethod set) :=
  Assembly.methods_mapBodies (promoteBody set) a

/-! ## Promoted instructions -/

/-- Early-bound calls of the method become late-bound ones. -/
def IsLate (set : MethodSet) (target : Signature) : Prop :=
  target.isStatic = false ∧ set.contains target = true

section

variable {set : MethodSet} {i : Instruction} {target : Signature}

theorem promotable?_eq_some_iff :
    promotable? set i = some target ↔ i = .call target ∧ IsLate set target := by
  cases i with
  | call t =>
    rw [promotable?, Option.ite_none_right_eq_some, Bool.and_eq_true, Bool.not_eq_true',
      Instruction.call.injEq, Option.some.injEq]
    constructor
    · intro found
      obtain ⟨late, rfl⟩ := found
      exact ⟨rfl, late⟩
    · intro found
      obtain ⟨rfl, late⟩ := found
      exact ⟨late, rfl⟩
  | _ => exact ⟨nofun, fun found => nomatch found.1⟩

theorem promoteInstruction_of_some (h : promotable? set i = some target) :
    promoteInstruction set i = .callVirtual target := by
  rw [promoteInstruction, h]

theorem promoteInstruction_of_none (h : promotable? set i = none) :
    promoteInstruction set i = i := by
  rw [promoteInstruction, h]

theorem promoteInstruction_eq_call_iff :
    promoteInstruction set i = .call target ↔ i = .call target ∧ ¬IsLate set target := by
  cases found : promotable? set i with
  | some late =>
    obtain ⟨rfl, isLate⟩ := promotable?_eq_some_iff.mp found
    rw [promoteInstruction_of_some found]
    refine ⟨nofun, fun same => ?_⟩
    obtain ⟨same, early⟩ := same
    obtain rfl := Instruction.call.inj same
    exact absurd isLate early
  | none =>
    rw [promoteInstruction_of_none found]
    refine ⟨fun same => ⟨same, fun late => ?_⟩, And.left⟩
    rw [promotable?_eq_some_iff.mpr ⟨same, late⟩] at found
    exact nomatch found

end

/-- Without rivals a late-bound call of a patched method lands on the method
itself, whatever it is called on. -/
theorem resolve_of_unrivalled {patched : MethodSet} {a : Assembly} (h : Unrivalled patched a)
    {target : Signature} (instance_ : target.isStatic = false)
    (member : patched.contains target = true) (r : Registry) (args : List Value) :
    (Machine.resolve a r target args == target) = true := by
  rcases Machine.resolve_eq_or a target r args with kept | ⟨d, hd, same, overrides⟩
  · rw [kept]
    exact BEq.rfl
  · obtain ⟨p, hp, equal⟩ := List.any_eq_true.mp member
    have isInstance : p.isStatic = false :=
      (Signature.beq_iff.mp equal).2.2.2.2.trans instance_
    have replaces : d.signature.overrides p = true :=
      Signature.overrides_trans overrides (Signature.overrides_of_beq (BEq.symm equal) isInstance)
    obtain ⟨free, _, name, params⟩ := Signature.overrides_iff.mp replaces
    have shape := Signature.hasShape_iff.mpr ⟨name, params⟩
    rw [← same]
    exact BEq.trans (h p hp isInstance d hd free shape) equal

section

variable {patched : MethodSet} {a : Assembly} (h : Unrivalled patched a)
include h

/-- One body before and after promotion, when calls of equal signatures do the
same. -/
theorem runCode_promote {invoke : Signature → List Value → Exec Value}
    (alike : ∀ {m n : Signature}, (m == n) = true → invoke m = invoke n) (method : Signature)
    (args : Array Value) (code : List Instruction) (stack : List Value) :
    Machine.runCode (promote patched a) invoke method args
        (code.map (promoteInstruction patched)) stack =
      Machine.runCode a invoke method args code stack := by
  induction code generalizing stack with
  | nil => rfl
  | cons i rest ih =>
    rw [List.map_cons]
    cases site : promotable? patched i with
    | some target =>
      obtain ⟨rfl, instance_, member⟩ := promotable?_eq_some_iff.mp site
      rw [promoteInstruction_of_some site, Machine.runCode_call, Machine.runCode_callVirtual,
        funext ih]
      congr 1
      refine Run.get_bind_eq fun s => ?_
      -- what is found may differ from the target in the declarations its types carry
      have found := resolve_of_unrivalled h instance_ member s.registry
        (stack.take target.arity).reverse
      rw [resolve_promote, Machine.passOn, alike found, Signature.isVoid_congr found]
      rfl
    | none =>
      rw [promoteInstruction_of_none site]
      cases i with
      | callVirtual target =>
        simp only [Machine.runCode_callVirtual, funext ih, resolve_promote]
      | _ => simp only [Machine.runCode, ih]

theorem invokeWithin_promote (catalog : Catalog) (room : Nat) :
    (Machine.mk (promote patched a) catalog).invokeWithin room =
      (Machine.mk a catalog).invokeWithin room := by
  induction room with
  | zero => rfl
  | succ room ih =>
    funext method args
    have alike : ∀ {m n : Signature}, (m == n) = true →
        (Machine.mk a catalog).invokeWithin room m = (Machine.mk a catalog).invokeWithin room n :=
      fun equal => funext fun args => Machine.invokeWithin_congr equal _ room args
    simp only [Machine.invokeWithin, method?_promote]
    cases (a.method? method).map Method.body with
    | none => rfl
    | some body =>
      cases body with
      | code code => simp only [Option.map_some, promoteBody, ih, runCode_promote h alike]
      | _ => rfl

end

/-- Promotion changes no result, state or journal of any method. -/
theorem invoke_promote {patched : MethodSet} {a : Assembly} (h : Unrivalled patched a)
    (catalog : Catalog) (method : Signature) (args : List Value) (s : Shared) :
    (Machine.mk (promote patched a) catalog).invoke method args s =
      (Machine.mk a catalog).invoke method args s := by
  rw [Machine.invoke, Machine.invoke, invokeWithin_promote h]

def sampleHolder : Ty := .cls "Holder" none [] .concrete true

/-- The one patched method of the sample. -/
def sampleAnswer : Signature := { owner := sampleHolder, name := "Answer", result := .int }

/-- A class with a method that answers and a method that calls it. -/
def sampleCaller : Assembly :=
  { name := "Holder"
    classes := [{
      type := sampleHolder
      declarations := [
        { name := "Answer", result := .int, body := .code [.loadInt 42, .ret] },
        { name := "Ask", result := .int,
          body := .code [.loadArg 0, .call sampleAnswer, .ret] }] }] }

theorem invoke_promote_sample :
    ((Machine.mk (promote { methods := [sampleAnswer] } sampleCaller) .standard).invoke
      { owner := sampleHolder, name := "Ask", result := .int } [.object sampleHolder] {}).value =
        .ok (.int 42) := by
  have unrivalled : Unrivalled { methods := [sampleAnswer] } sampleCaller := by
    unfold Unrivalled
    decide
  rw [invoke_promote unrivalled]
  rfl

end Bridge

end ModSettings
