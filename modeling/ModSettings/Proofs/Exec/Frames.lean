/-
What the frames of an error tell.

An error that leaves a body takes the name of the method along, so its frames name
the calls that were open where it arose, from the inside out.  `invoke_frames` says
so for every failing call of a program whose native functions make no frames of
their own.  Each call of the path is one that the body of the call before it comes
to when it runs, with the arguments and in the state that it comes to it.
-/
import ModSettings.Proofs.Exec.Call
import ModSettings.Proofs.Exec.Run

namespace ModSettings

/-! ## Errors without frames -/

namespace Run

/-- The errors of the run carry no frames. -/
def Frameless {α : Type} (m : Exec α) : Prop := ∀ s e, (m s).value = .error e → e.frames = []

section

variable {α β : Type}

theorem frameless_pure (a : α) : Frameless (Run.pure a) := fun _ _ fails => nomatch fails

theorem frameless_fail {e : ExecError} (h : e.frames = []) :
    Frameless (Run.fail e : Exec α) := by
  intro s e' fails
  cases fails
  exact h

theorem frameless_ofExcept {check : Except ExecError α}
    (h : ∀ e, check = .error e → e.frames = []) : Frameless (Run.ofExcept check) := by
  intro s e fails
  cases check with
  | ok a => exact nomatch fails
  | error e' =>
    cases fails
    exact h e rfl

theorem frameless_bind {m : Exec α} {f : α → Exec β} (first : Frameless m)
    (goesOn : ∀ a, Frameless (f a)) : Frameless (m >>= f) := by
  intro s e fails
  rcases bind_eq_error fails with here | ⟨a, -, later⟩
  · exact first s e here
  · exact goesOn a _ e later

end

end Run

def Assembly.Frameless (a : Assembly) : Prop :=
  ∀ m ∈ a.methods, ∀ run, m.body = .native run → ∀ args, Run.Frameless (run args)

def Catalog.Frameless (c : Catalog) : Prop := ∀ o ∈ c.others, ∀ args, Run.Frameless (o.run args)

/-! ### Conversions between handles -/

theorem Value.frames_of_mismatch {α : Type} {v : Value} {expected : String} {e : ExecError}
    (h : (v.mismatch expected : Except ExecError α) = .error e) : e.frames = [] := by
  cases h
  rfl

theorem frames_of_argument {α : Type} {read : Value → Except ExecError α}
    (h : ∀ v e, read v = .error e → e.frames = []) (args : List Value) (index : Nat)
    (e : ExecError) (fails : (argument args index >>= read) = .error e) : e.frames = [] := by
  rw [argument] at fails
  cases given : args[index]? with
  | some v =>
    rw [given] at fails
    exact h v e fails
  | none =>
    rw [given] at fails
    cases fails
    rfl

theorem Native.frameless_conversion {α β : Type} {read : Value → Except ExecError α}
    (reads : ∀ v e, read v = .error e → e.frames = []) (args : List Value)
    (check : α → Registry → Except RegistryError β) (result : α → β → Value) :
    Run.Frameless (show Exec Value from do
      let a ← .ofExcept (argument args 0 >>= read)
      let b ← registryCheck (check a)
      .pure (result a b)) := by
  refine Run.frameless_bind (Run.frameless_ofExcept (frames_of_argument reads args 0)) fun a => ?_
  refine Run.frameless_bind (Run.frameless_bind (fun _ _ fails => nomatch fails) fun s => ?_)
    fun b => Run.frameless_pure _
  refine Run.frameless_ofExcept fun e fails => ?_
  cases found : check a s.registry with
  | ok b => rw [found] at fails; exact nomatch fails
  | error cause =>
    rw [found] at fails
    cases fails
    rfl

theorem Catalog.frameless_perform {catalog : Catalog} (h : catalog.Frameless) (m : Signature)
    (args : List Value) : Run.Frameless (catalog.perform m args) := by
  have type (v : Value) (e : ExecError) (fails : v.asType = .error e) : e.frames = [] := by
    cases v with
    | type _ => exact nomatch fails
    | _ => exact Value.frames_of_mismatch fails
  have mod (v : Value) (e : ExecError) (fails : v.asMod = .error e) : e.frames = [] := by
    cases v with
    | mod _ => exact nomatch fails
    | _ => exact Value.frames_of_mismatch fails
  have caller (v : Value) (e : ExecError) (fails : v.asCaller = .error e) : e.frames = [] := by
    cases v with
    | caller _ => exact nomatch fails
    | _ => exact Value.frames_of_mismatch fails
  have every : ∀ o ∈ catalog.entries ++ [Offer.getParent], ∀ args, Run.Frameless (o.run args) := by
    simp only [entries, List.cons_append, List.forall_mem_cons, List.forall_mem_append]
    exact ⟨fun args => Native.frameless_conversion type args _ _,
      fun args => Native.frameless_conversion mod args _ _, h,
      fun args => Native.frameless_conversion caller args _ _, nofun⟩
  rcases catalog.perform_eq_or m with ⟨o, member, runs⟩ | none
  · rw [runs]
    exact every o member args
  · rw [none]
    exact Run.frameless_fail rfl

namespace Machine

theorem frameless_leave (m : Signature) (stack : List Value) : Run.Frameless (leave m stack) := by
  unfold leave
  split
  · exact Run.frameless_pure _
  · cases stack with
    | nil => exact Run.frameless_fail rfl
    | cons top below => exact Run.frameless_pure _

theorem Refused.frames_eq {vm : Machine} {m : Signature} {args : List Value} {e : ExecError}
    (h : Refused vm m args e) : e.frames = [] := by
  cases h <;> rfl

/-! ## The calls of a body -/

/-- A call of a method in a state. -/
structure Call where
  method : Signature
  args : List Value
  state : Shared

/-- Code that runs from a stack and a state comes to a call: it makes the call next, or
does so after the values it loads and the calls that return before. -/
inductive Reaches (a : Assembly) (invoke : Signature → List Value → Exec Value)
    (args : Array Value) : List Instruction → List Value → Shared → Call → Prop where
  | loadArg {index rest stack s c v} : args[index.toNat]? = some v →
      Reaches a invoke args rest (v :: stack) s c →
      Reaches a invoke args (.loadArg index :: rest) stack s c
  | loadInt {n rest stack s c} : Reaches a invoke args rest (.int n :: stack) s c →
      Reaches a invoke args (.loadInt n :: rest) stack s c
  | loadString {text rest stack s c} : Reaches a invoke args rest (.str text :: stack) s c →
      Reaches a invoke args (.loadString text :: rest) stack s c
  | loadType {t rest stack s c} : Reaches a invoke args rest (.type t :: stack) s c →
      Reaches a invoke args (.loadType t :: rest) stack s c
  | call {target rest stack s} : target.arity ≤ stack.length →
      Reaches a invoke args (.call target :: rest) stack s
        ⟨target, (stack.take target.arity).reverse, s⟩
  | callVirtual {target rest stack s} : target.arity ≤ stack.length →
      Reaches a invoke args (.callVirtual target :: rest) stack s
        ⟨resolve a s.registry target (stack.take target.arity).reverse,
          (stack.take target.arity).reverse, s⟩
  | afterCall {target rest stack s c v} : target.arity ≤ stack.length →
      (invoke target (stack.take target.arity).reverse s).value = .ok v →
      Reaches a invoke args rest
        (if target.result.isVoid then stack.drop target.arity else v :: stack.drop target.arity)
        (invoke target (stack.take target.arity).reverse s).state c →
      Reaches a invoke args (.call target :: rest) stack s c
  | afterCallVirtual {target found rest stack s c v} : target.arity ≤ stack.length →
      found = resolve a s.registry target (stack.take target.arity).reverse →
      (invoke found (stack.take target.arity).reverse s).value = .ok v →
      Reaches a invoke args rest
        (if found.result.isVoid then stack.drop target.arity else v :: stack.drop target.arity)
        (invoke found (stack.take target.arity).reverse s).state c →
      Reaches a invoke args (.callVirtual target :: rest) stack s c

/-- A body that fails does so by itself or through a call that it comes to. -/
theorem runCode_eq_error {a : Assembly} {invoke : Signature → List Value → Exec Value}
    {m : Signature} {args : Array Value} {code : List Instruction} {stack : List Value}
    {s : Shared} {e : ExecError} (h : (runCode a invoke m args code stack s).value = .error e) :
    e.frames = [] ∨ ∃ c, Reaches a invoke args code stack s c ∧
      (invoke c.method c.args c.state).value = .error e := by
  induction code generalizing stack s with
  | nil => exact Or.inl (frameless_leave m stack s e h)
  | cons i rest ih =>
    -- what the rest comes to, the whole comes to after its first instruction
    have later {stack' : List Value} {s' : Shared}
        (h : (runCode a invoke m args rest stack' s').value = .error e)
        (step : ∀ {c}, Reaches a invoke args rest stack' s' c →
          Reaches a invoke args (i :: rest) stack s c) :
        e.frames = [] ∨ ∃ c, Reaches a invoke args (i :: rest) stack s c ∧
          (invoke c.method c.args c.state).value = .error e := by
      refine (ih h).imp_right fun found => ?_
      obtain ⟨c, reached, fails⟩ := found
      exact ⟨c, step reached, fails⟩
    cases i with
    | ret => exact Or.inl (frameless_leave m stack s e h)
    | loadArg index =>
      rw [runCode] at h
      cases given : args[index.toNat]? with
      | none =>
        rw [given] at h
        exact Or.inl (Run.frameless_fail rfl s e h)
      | some v =>
        rw [given] at h
        exact later h (.loadArg given)
    | loadInt n => exact later h .loadInt
    | loadString text => exact later h .loadString
    | loadType t => exact later h .loadType
    | call target =>
      rw [runCode_call] at h
      by_cases short : stack.length < target.arity
      · rw [if_pos short] at h
        exact Or.inl (Run.frameless_fail rfl s e h)
      · rw [if_neg short] at h
        have enough := Nat.le_of_not_lt short
        rcases Run.bind_eq_error h with here | ⟨v, returns, h⟩
        · exact Or.inr ⟨_, .call enough, here⟩
        · exact later h (.afterCall enough returns)
    | callVirtual target =>
      rw [runCode_callVirtual] at h
      by_cases short : stack.length < target.arity
      · rw [if_pos short] at h
        exact Or.inl (Run.frameless_fail rfl s e h)
      · rw [if_neg short] at h
        have enough := Nat.le_of_not_lt short
        rcases Run.bind_eq_error h with here | ⟨s', got, h⟩
        · cases here
        · cases got
          rcases Run.bind_eq_error h with here | ⟨v, returns, h⟩
          · exact Or.inr ⟨_, .callVirtual enough, here⟩
          · exact later h (.afterCallVirtual enough rfl returns)

/-! ## Paths of calls -/

/-- The body of the outer call comes to the inner one, which does not return. -/
structure Opens (vm : Machine) (room : Nat) (outer inner : Call) : Prop where
  foreign : outer.method.isApi = false
  body : ∃ d code, vm.assembly.method? outer.method = some d ∧ d.body = .code code ∧
    Reaches vm.assembly (vm.invokeWithin room) outer.args.toArray code [] outer.state inner
  unfinished : ∃ e, (vm.invokeWithin room inner.method inner.args inner.state).value = .error e

/-- Calls that are open inside each other, the outermost first. -/
inductive CallPath (vm : Machine) : Nat → List Call → Prop where
  | last (room : Nat) (c : Call) : CallPath vm (room + 1) [c]
  | cons {room : Nat} {outer inner : Call} {rest : List Call} : Opens vm room outer inner →
      CallPath vm room (inner :: rest) → CallPath vm (room + 1) (outer :: inner :: rest)

/-- The names of the methods of a path, from the inside out. -/
def namesOf (path : List Call) : List String := (path.map (·.method.fullName)).reverse

theorem namesOf_cons (c : Call) (path : List Call) :
    namesOf (c :: path) = namesOf path ++ [c.method.fullName] := List.reverse_cons

theorem CallPath.length_le {vm : Machine} {room : Nat} {path : List Call}
    (h : CallPath vm room path) : path.length ≤ room := by
  induction h with
  | last room c => exact Nat.succ_le_succ (Nat.zero_le room)
  | cons _ _ ih => exact Nat.succ_le_succ ih

section

variable {vm : Machine} (assembly : vm.assembly.Frameless) (catalog : vm.catalog.Frameless)
include assembly catalog

/-- An error left no body, or its frames name a path of calls that it left. -/
theorem exists_path {room : Nat} {m : Signature} {args : List Value} {s : Shared} {e : ExecError}
    (h : (vm.invokeWithin room m args s).value = .error e) :
    e.frames = [] ∨ ∃ inner, CallPath vm room (⟨m, args, s⟩ :: inner) ∧
      e.frames = namesOf (⟨m, args, s⟩ :: inner) := by
  induction room generalizing m args s e with
  | zero => exact Or.inl (Run.frameless_fail rfl s e h)
  | succ room ih =>
    -- an error that is the body's own gets the one frame of the body
    have single {e : ExecError} (own : e.frames = []) :
        ∃ inner, CallPath vm (room + 1) (⟨m, args, s⟩ :: inner) ∧
          (e.within m).frames = namesOf (⟨m, args, s⟩ :: inner) := by
      refine ⟨[], .last room _, ?_⟩
      rw [ExecError.frames_within, own]
      rfl
    cases vm.entered m args with
    | refused e' refused comesTo =>
      rw [comesTo] at h
      exact Or.inl (Run.frameless_fail refused.frames_eq s e h)
    | api _ comesTo =>
      rw [comesTo] at h
      exact Or.inl (Catalog.frameless_perform catalog m args s e h)
    | native d run _ found body comesTo =>
      rw [comesTo] at h
      obtain ⟨e', fails, rfl⟩ := Run.mapError_eq_error h
      exact Or.inr (single (assembly d (Assembly.mem_of_method? found) run body args s e' fails))
    | code d code foreign found body comesTo =>
      rw [comesTo] at h
      obtain ⟨e', fails, rfl⟩ := Run.mapError_eq_error h
      rcases runCode_eq_error fails with own | ⟨c, reached, fails⟩
      · exact Or.inr (single own)
      · rcases ih fails with none | ⟨inner, path, frames⟩
        · exact Or.inr (single none)
        · have opens : Opens vm room ⟨m, args, s⟩ c :=
            ⟨foreign, ⟨d, code, found, body, reached⟩, e', fails⟩
          refine Or.inr ⟨c :: inner, .cons opens path, ?_⟩
          rw [ExecError.frames_within, frames]
          exact (namesOf_cons ⟨m, args, s⟩ (c :: inner)).symm

end

/-- An error has no frames if no body of the assembly was entered. -/
theorem frames_eq_nil_iff {vm : Machine} (catalog : vm.catalog.Frameless) {room : Nat}
    {m : Signature} {args : List Value} {s : Shared} {e : ExecError}
    (h : (vm.invokeWithin (room + 1) m args s).value = .error e) :
    e.frames = [] ↔ Refused vm m args e ∨ m.isApi = true := by
  have left_body (foreign : m.isApi = false) (e : ExecError) :
      (e.within m).frames = [] ↔ Refused vm m args (e.within m) ∨ m.isApi = true := by
    refine ⟨fun none => absurd none ?_, fun early => ?_⟩
    · rw [ExecError.frames_within]
      exact List.append_ne_nil_of_right_ne_nil _ (List.cons_ne_nil _ _)
    · exact (early.resolve_right (Bool.eq_false_iff.mp foreign)).frames_eq
  cases vm.entered m args with
  | refused e' refused comesTo =>
    rw [comesTo] at h
    cases h
    exact ⟨fun _ => Or.inl refused, fun _ => refused.frames_eq⟩
  | api api comesTo =>
    rw [comesTo] at h
    exact ⟨fun _ => Or.inr api, fun _ => Catalog.frameless_perform catalog m args s e h⟩
  | native d run foreign _ _ comesTo =>
    rw [comesTo] at h
    obtain ⟨e', _, rfl⟩ := Run.mapError_eq_error h
    exact left_body foreign e'
  | code d code foreign _ _ comesTo =>
    rw [comesTo] at h
    obtain ⟨e', _, rfl⟩ := Run.mapError_eq_error h
    exact left_body foreign e'

/-! ## Messages -/

theorem foldl_frames (frames : List String) (text : String) :
    frames.foldl (fun out frame => out ++ "\n  at " ++ frame) text =
      "\n".intercalate (text :: frames.map ("  at " ++ ·)) := by
  induction frames generalizing text with
  | nil => rw [List.map_nil, String.intercalate_singleton]; rfl
  | cons frame rest ih =>
    have line : "\n  at " = "\n" ++ "  at " := by decide +kernel
    rw [List.foldl_cons, ih, List.map_cons, String.intercalate_cons_cons,
      String.intercalate_cons_append, String.intercalate_cons_append, line]
    simp only [String.append_assoc]

/-- What a failing call says of the way to where it failed. -/
structure TellsPath (vm : Machine) (c : Call) (e : ExecError) : Prop where
  bare : e.frames = [] ↔ Refused vm c.method c.args e ∨ c.method.isApi = true
  path : e.frames ≠ [] → ∃ inner, CallPath vm callLimit (c :: inner) ∧
    e.frames = namesOf (c :: inner)
  last : e.frames ≠ [] → e.frames.getLast? = some c.method.fullName
  length : e.frames.length ≤ callLimit
  root : e.root.frames = []
  text : e.text = e.root.text
  /-- The text is followed by one line for each frame. -/
  trace : e.trace = "\n".intercalate (e.root.text :: e.frames.map ("  at " ++ ·))

/-- The frames of an error are the path of open calls that led to it, with the call
itself at its end. -/
theorem invoke_frames {vm : Machine} (assembly : vm.assembly.Frameless)
    (catalog : vm.catalog.Frameless) {m : Signature} {args : List Value} {s : Shared}
    {e : ExecError} (h : (vm.invoke m args s).value = .error e) :
    TellsPath vm ⟨m, args, s⟩ e := by
  have found := exists_path assembly catalog h
  refine ⟨frames_eq_nil_iff catalog h, found.resolve_left, fun some => ?_, ?_,
    e.frames_root, e.text_root.symm, foldl_frames _ _⟩
  · obtain ⟨inner, -, frames⟩ := found.resolve_left some
    rw [frames, namesOf_cons, List.getLast?_concat]
  · rcases found with none | ⟨inner, path, frames⟩
    · rw [none]
      exact Nat.zero_le callLimit
    · rw [frames, namesOf, List.length_reverse, List.length_map]
      exact path.length_le

def sampleUpper : Ty := .cls "Upper" none [] .concrete true

def sampleLower : Ty := .cls "Lower" (some sampleUpper) [] .concrete true

def sampleRun : Signature := { owner := sampleLower, name := "Run" }

/-- A method that calls a method of the upper class, which the lower class
overrides with one that fails. -/
def sampleTower : Assembly :=
  { name := "Tower"
    classes := [
      { type := sampleUpper, declarations := [{ name := "Step", body := .code [.ret] }] },
      { type := sampleLower
        declarations := [
          { name := "Step", body := .native (Native.raise (.raised "stuck")) },
          { name := "Run"
            body := .code [.loadArg 0, .callVirtual { owner := sampleUpper, name := "Step" },
              .ret] }] }] }

theorem invoke_frames_sample :
    let e := ((ExecError.raised "stuck").within { owner := sampleLower, name := "Step" }).within
      sampleRun
    TellsPath (Machine.mk sampleTower .basic) ⟨sampleRun, [.object sampleLower], {}⟩ e ∧
      e.frames = ["Lower::Step", "Lower::Run"] := by
  intro e
  have assembly : sampleTower.Frameless := by
    intro m member run native args
    simp only [Assembly.methods, sampleTower, List.flatMap_cons, List.flatMap_nil] at member
    simp [Class.methods, Declaration.method] at member
    rcases member with rfl | rfl | rfl
    · cases native
    · cases native
      exact Run.frameless_fail rfl
    · cases native
  have catalog : Catalog.basic.Frameless := List.forall_mem_nil _
  have fails : ((Machine.mk sampleTower .basic).invoke sampleRun [.object sampleLower] {}).value =
      .error e := rfl
  exact ⟨invoke_frames assembly catalog fails, by decide +kernel⟩

end Machine

end ModSettings
