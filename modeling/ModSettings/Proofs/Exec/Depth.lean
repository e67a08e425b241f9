/-
How deep a call stands.

The same call may be made with no other call open or with many, and the deeper it
stands the fewer calls it may nest.  This is the only difference that its depth
makes: `invokeAt_of_le` says that a call which is not cut off for want of room does
the same wherever more room is left.
-/
import ModSettings.Proofs.Exec.Call

namespace ModSettings

namespace Machine

/-- The call of a method inside `depth` calls that are open already. -/
def invokeAt (vm : Machine) (depth : Nat) (m : Signature) (args : List Value) : Exec Value :=
  vm.invokeWithin (callLimit - depth) m args

theorem invokeAt_zero (vm : Machine) : vm.invokeAt 0 = vm.invoke := rfl

/-- The run ended because calls were nested too deep, in whatever frame. -/
def Cut {α : Type} (ends : Outcome ExecError α) : Prop :=
  ∃ e limit, ends = .error e ∧ e.root = .callDepthExceeded limit

/-- The second run does what the first one does, unless that is cut off. -/
def Extends {α : Type} (m m' : Exec α) : Prop := ∀ s, ¬Cut (m s).value → m' s = m s

section

variable {α β : Type} {m m' : Exec α}

theorem extends_refl (m : Exec α) : Extends m m := fun _ _ => rfl

theorem extends_bind {f f' : α → Exec β} (first : Extends m m')
    (goesOn : ∀ a, Extends (f a) (f' a)) : Extends (m >>= f) (m' >>= f') := by
  intro s whole
  change ¬Cut (Run.bind m f s).value at whole
  have kept : m' s = m s := by
    refine first s fun cut => whole ?_
    obtain ⟨e, limit, ends, root⟩ := cut
    rw [Run.bind_of_error ends]
    exact ⟨e, limit, rfl, root⟩
  show Run.bind m' f' s = Run.bind m f s
  cases ends : (m s).value with
  | ok a =>
    rw [Run.bind_of_ok ends] at whole
    rw [Run.bind_of_ok ends, Run.bind_of_ok (kept ▸ ends), kept, goesOn a _ whole]
  | error e => rw [Run.bind_of_error ends, Run.bind_of_error (kept ▸ ends), kept]
  | panic p => rw [Run.bind_of_panic ends, Run.bind_of_panic (kept ▸ ends), kept]

/-- A frame around an error hides no cut. -/
theorem extends_within (h : Extends m m') (method : Signature) :
    Extends (m.mapError (·.within method)) (m'.mapError (·.within method)) := by
  intro s whole
  have kept : m' s = m s := by
    refine h s fun cut => whole ?_
    obtain ⟨e, limit, ends, root⟩ := cut
    exact ⟨e.within method, limit, congrArg (·.mapError (·.within method)) ends, root⟩
  rw [Run.mapError, Run.mapError, kept]

end

/-! ## Bodies -/

section

variable {a : Assembly} {invoke invoke' : Signature → List Value → Exec Value}
  (calls : ∀ m args, Extends (invoke m args) (invoke' m args))
include calls

theorem extends_passOn (target found : Signature) (stack : List Value)
    {resume resume' : List Value → Exec Value}
    (goesOn : ∀ stack, Extends (resume stack) (resume' stack)) :
    Extends (passOn invoke target found stack resume) (passOn invoke' target found stack resume') :=
  extends_bind (calls found _) fun _ => goesOn _

/-- A body whose calls do the same does the same. -/
theorem extends_runCode (m : Signature) (args : Array Value) (code : List Instruction)
    (stack : List Value) :
    Extends (runCode a invoke m args code stack) (runCode a invoke' m args code stack) := by
  induction code generalizing stack with
  | nil => exact extends_refl _
  | cons i rest ih =>
    cases i with
    | ret => exact extends_refl _
    | loadArg index =>
      rw [runCode, runCode]
      cases args[index.toNat]? with
      | some v => exact ih _
      | none => exact extends_refl _
    | loadInt n => exact ih _
    | loadString s => exact ih _
    | loadType t => exact ih _
    | call target =>
      rw [runCode_call, runCode_call]
      split
      · exact extends_refl _
      · exact extends_passOn calls target target stack ih
    | callVirtual target =>
      rw [runCode_callVirtual, runCode_callVirtual]
      split
      · exact extends_refl _
      · exact extends_bind (extends_refl _) fun s => extends_passOn calls target _ stack ih

end

/-! ## Calls -/

theorem extends_invokeWithin (vm : Machine) {room room' : Nat} (h : room ≤ room')
    (m : Signature) (args : List Value) :
    Extends (vm.invokeWithin room m args) (vm.invokeWithin room' m args) := by
  induction room generalizing room' m args with
  | zero => exact fun s whole => absurd ⟨_, callLimit, rfl, rfl⟩ whole
  | succ room ih =>
    obtain ⟨room', rfl⟩ := Nat.exists_eq_add_of_le' (Nat.le_trans (Nat.succ_pos room) h)
    cases vm.entered m args with
    | refused e _ comesTo => rw [comesTo, comesTo]; exact extends_refl _
    | api _ comesTo => rw [comesTo, comesTo]; exact extends_refl _
    | native d run _ _ _ comesTo => rw [comesTo, comesTo]; exact extends_refl _
    | code d code _ _ _ comesTo =>
      have calls := fun m args => ih (Nat.le_of_succ_le_succ h) m args
      rw [comesTo, comesTo]
      exact extends_within (extends_runCode calls m _ _ _) m

/-- Where fewer calls are open, a call ends as it does where more are, with the same
value or the same error in the same frames, and leaves the same state and journal,
unless the limit cut it off there. -/
theorem invokeAt_of_le (vm : Machine) {depth depth' : Nat} (h : depth' ≤ depth) (m : Signature)
    (args : List Value) (s : Shared) (whole : ¬Cut (vm.invokeAt depth m args s).value) :
    vm.invokeAt depth' m args s = vm.invokeAt depth m args s :=
  extends_invokeWithin vm (Nat.sub_le_sub_left h callLimit) m args s whole

def sampleRelay : Assembly :=
  let owner : Ty := .cls "Relay" none [] .concrete true
  { name := "Relay"
    classes := [{
      type := owner
      declarations := [
        { name := "Answer", result := .int, isStatic := true, body := .code [.loadInt 42, .ret] },
        { name := "Ask", result := .int, isStatic := true
          body := .code [.call { owner, name := "Answer", result := .int, isStatic := true },
            .ret] }] }] }

def sampleAsk : Signature :=
  { owner := .cls "Relay" none [] .concrete true, name := "Ask", result := .int, isStatic := true }

/-- Two calls are left for the method and the one it calls; with one less it would be
cut off. -/
theorem invokeAt_of_le_sample :
    ((Machine.mk sampleRelay .basic).invoke sampleAsk [] {}).value = .ok (.int 42) ∧
      Cut ((Machine.mk sampleRelay .basic).invokeAt 63 sampleAsk [] {}).value := by
  have answered : ((Machine.mk sampleRelay .basic).invokeAt 62 sampleAsk [] {}).value =
      .ok (.int 42) := rfl
  have whole : ¬Cut ((Machine.mk sampleRelay .basic).invokeAt 62 sampleAsk [] {}).value := by
    rw [answered]
    exact fun ⟨_, _, ends, _⟩ => nomatch ends
  refine ⟨?_, _, callLimit, rfl, rfl⟩
  rw [← invokeAt_zero, invokeAt_of_le _ (Nat.zero_le 62) sampleAsk [] {} whole, answered]

end Machine

end ModSettings
