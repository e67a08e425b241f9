/-
What a call depends on.

A machine compares signatures and shows their texts, so equal signatures are
called with one and the same result: value, error with its frames, state and
journal.  The other lemmas say what a call comes to once the checks in front of
it have passed.
-/
import ModSettings.Exec.Machine
import ModSettings.Proofs.Program.Lookup

namespace ModSettings

namespace Catalog

/-- What calling a method of the API does. -/
def perform (c : Catalog) (m : Signature) : Native := fun args =>
  match c.native? m with
  | some run => run args
  | none => .fail (.unresolvedMethod m.text)

/-- A call of the API runs one of its methods or finds none. -/
theorem perform_eq_or (c : Catalog) (m : Signature) :
    (∃ o ∈ c.entries ++ [Offer.getParent], c.perform m = o.run) ∨
      c.perform m = fun _ => .fail (.unresolvedMethod m.text) := by
  unfold perform native?
  cases found : (c.entries ++ [Offer.getParent]).find? fun o => o.method == m with
  | none => exact Or.inr rfl
  | some o => exact Or.inl ⟨o, List.mem_of_find?_eq_some found, rfl⟩

theorem native?_congr {m n : Signature} (h : (m == n) = true) (c : Catalog) :
    c.native? m = c.native? n := by
  rw [native?, native?]
  exact congrArg (fun test => (List.find? test _).map _) (funext fun o => BEq.congr_right h)

/-- No two methods of the catalog have equal signatures. -/
def Distinct (c : Catalog) : Prop :=
  (c.entries ++ [Offer.getParent]).Pairwise fun o o' => (o.method == o'.method) = false

theorem distinct_standard : Distinct standard := by
  have signatures : ((standard.entries ++ [Offer.getParent]).map (·.method)).Pairwise
      fun m n => (m == n) = false := by decide
  exact List.pairwise_map.mp signatures

/-- Where signatures are distinct, calling an entry runs that entry. -/
theorem perform_of_mem {c : Catalog} (h : c.Distinct) {o : Offer}
    (member : o ∈ c.entries ++ [Offer.getParent]) : c.perform o.method = o.run := by
  funext args
  rw [perform, native?, find?_of_pairwise h member BEq.rfl]
  rfl

end Catalog

namespace Signature

theorem isApi_congr {m n : Signature} (h : (m == n) = true) : m.isApi = n.isApi := by
  have owners : (m.owner == n.owner) = true := (beq_iff.mp h).1
  rw [isApi, isApi, BEq.congr_left owners, BEq.congr_left owners]

/-- Where an assembly declares no class of the API, methods of the classes that it
declares are not methods of the API. -/
theorem isApi_of_owner {a : Assembly} {m : Signature} (owned : (a.class? m.owner).isSome = true)
    (noApi : a.class? .api = none) (noCaller : a.class? .eventCaller = none) :
    m.isApi = false := by
  have foreign {t : Ty} (undeclared : a.class? t = none) : (m.owner == t) = false := by
    refine Bool.eq_false_iff.mpr fun same => ?_
    rw [Assembly.class?_congr same, undeclared] at owned
    exact absurd owned Bool.false_ne_true
  rw [isApi, foreign noApi, foreign noCaller]
  rfl

end Signature

namespace Machine

/-! ## Equal signatures -/

theorem leave_congr {m n : Signature} (h : (m == n) = true) : leave m = leave n := by
  funext stack
  unfold leave
  rw [Signature.isVoid_congr h, Signature.fullName_congr h]

/-- A body reads nothing of its method but the text and whether it returns. -/
theorem runCode_congr {m n : Signature} (h : (m == n) = true) (a : Assembly)
    (invoke : Signature → List Value → Exec Value) (args : Array Value)
    (code : List Instruction) (stack : List Value) :
    runCode a invoke m args code stack = runCode a invoke n args code stack := by
  induction code generalizing stack with
  | nil => rw [runCode, runCode, leave_congr h]
  | cons i rest ih =>
    cases i with
    | ret => rw [runCode, runCode, leave_congr h]
    | _ => simp only [runCode, ih, Signature.fullName_congr h]

theorem invokeWithin_congr {m n : Signature} (h : (m == n) = true) (vm : Machine) (room : Nat)
    (args : List Value) : vm.invokeWithin room m args = vm.invokeWithin room n args := by
  cases room with
  | zero => rfl
  | succ room =>
    have framed : (fun e : ExecError => e.within m) = fun e => e.within n := by
      funext e
      rw [ExecError.within, ExecError.within, Signature.fullName_congr h]
    simp only [invokeWithin, Signature.arity_congr h, Signature.fullName_congr h,
      Signature.isApi_congr h, Catalog.native?_congr h, Signature.text_congr h,
      Assembly.method?_congr h, runCode_congr h, framed]

/-! ## Call instructions -/

section

/-- A call out of a body, once it is known which method runs: its arguments
leave the stack, and its result, if it has one, enters it. -/
def passOn (invoke : Signature → List Value → Exec Value) (target found : Signature)
    (stack : List Value) (resume : List Value → Exec Value) : Exec Value := do
  let result ← invoke found (stack.take target.arity).reverse
  let below := stack.drop target.arity
  resume (if found.result.isVoid then below else result :: below)

variable (a : Assembly) (invoke : Signature → List Value → Exec Value) (method : Signature)
  (args : Array Value) (target : Signature) (rest : List Instruction) (stack : List Value)

theorem runCode_call : runCode a invoke method args (.call target :: rest) stack =
    if stack.length < target.arity then Run.fail (.stackUnderflow method.fullName)
    else passOn invoke target target stack (runCode a invoke method args rest) := rfl

/-- Which method a late-bound call runs is read off the registry of the
moment. -/
theorem runCode_callVirtual : runCode a invoke method args (.callVirtual target :: rest) stack =
    if stack.length < target.arity then Run.fail (.stackUnderflow method.fullName)
    else (do
      let s ← Run.get
      passOn invoke target (resolve a s.registry target (stack.take target.arity).reverse) stack
        (runCode a invoke method args rest)) := rfl

theorem resolve_congr {a a' : Assembly} (h : a.outline = a'.outline) :
    resolve a = resolve a' := by
  have same : a.resolveVirtual? = a'.resolveVirtual? :=
    funext fun runtime => funext fun target => Assembly.resolveVirtual?_congr h runtime target
  unfold resolve
  rw [same]

/-- Late binding keeps to the target unless the assembly declares an override of
it. -/
theorem resolve_eq_or (r : Registry) (args : List Value) : resolve a r target args = target ∨
    ∃ m ∈ a.methods, m.signature = resolve a r target args ∧
      m.signature.overrides target = true := by
  rw [resolve]
  by_cases static : target.isStatic = true
  · rw [if_pos static]
    exact Or.inl rfl
  · rw [if_neg static]
    cases found : (args.head?.bind (runtimeClass? r)).bind (a.resolveVirtual? · target) with
    | none => exact Or.inl rfl
    | some m =>
      obtain ⟨runtime, _, bound⟩ := Option.bind_eq_some_iff.mp found
      obtain ⟨d, hd, same, overrides⟩ := Assembly.exists_of_resolveVirtual? bound
      exact Or.inr ⟨d, hd, same, same ▸ overrides⟩

end

/-! ## Entering methods -/

/-- The checks in front of a body turn the call down. -/
inductive Refused (vm : Machine) (m : Signature) (args : List Value) : ExecError → Prop where
  | arity : args.length ≠ m.arity →
      Refused vm m args (.arityMismatch m.fullName m.arity args.length)
  | unresolved : args.length = m.arity → m.isApi = false → vm.assembly.method? m = none →
      Refused vm m args (.unresolvedMethod m.text)
  | noBody {d : Method} : args.length = m.arity → m.isApi = false →
      vm.assembly.method? m = some d → d.body = .missing → Refused vm m args (.noBody m.text)

/-- What a call comes to, whatever room is left for others. -/
inductive Entered (vm : Machine) (m : Signature) (args : List Value) : Prop where
  | refused (e : ExecError) : Refused vm m args e →
      (∀ room, vm.invokeWithin (room + 1) m args = .fail e) → Entered vm m args
  | api : m.isApi = true → (∀ room, vm.invokeWithin (room + 1) m args = vm.catalog.perform m args) →
      Entered vm m args
  | native (d : Method) (run : Native) : m.isApi = false → vm.assembly.method? m = some d →
      d.body = .native run →
      (∀ room, vm.invokeWithin (room + 1) m args = (run args).mapError (·.within m)) →
      Entered vm m args
  | code (d : Method) (code : List Instruction) : m.isApi = false →
      vm.assembly.method? m = some d → d.body = .code code →
      (∀ room, vm.invokeWithin (room + 1) m args =
        (runCode vm.assembly (vm.invokeWithin room) m args.toArray code []).mapError
          (·.within m)) → Entered vm m args

theorem entered (vm : Machine) (m : Signature) (args : List Value) : Entered vm m args := by
  by_cases arity : args.length = m.arity
  · cases api : m.isApi with
    | true =>
      refine .api api fun room => ?_
      rw [invokeWithin, if_neg (not_not_intro arity), if_pos api]
      rfl
    | false =>
      have foreign : ¬m.isApi = true := by rw [api]; exact Bool.false_ne_true
      have past (room : Nat) : vm.invokeWithin (room + 1) m args = _ :=
        (if_neg (not_not_intro arity)).trans (if_neg foreign)
      cases found : vm.assembly.method? m with
      | none => exact .refused _ (.unresolved arity api found) fun room => by rw [past, found]; rfl
      | some d =>
        rw [found, Option.map_some] at past
        cases body : d.body with
        | missing => exact .refused _ (.noBody arity api found body) fun room => by rw [past, body]
        | native run => exact .native d run api found body fun room => by rw [past, body]
        | code code => exact .code d code api found body fun room => by rw [past, body]
  · exact .refused _ (.arity arity) fun room => by rw [invokeWithin, if_pos arity]

/-! ### Calls that get past the checks -/

section

variable {vm : Machine} {m : Signature} {args : List Value} (arity : args.length = m.arity)
include arity

theorem invokeWithin_api (api : m.isApi = true) (room : Nat) :
    vm.invokeWithin (room + 1) m args = vm.catalog.perform m args := by
  rw [invokeWithin, if_neg (not_not_intro arity), if_pos api]
  rfl

theorem invokeWithin_code {code : List Instruction} (api : m.isApi = false)
    (body : (vm.assembly.method? m).map Method.body = some (.code code)) (room : Nat) :
    vm.invokeWithin (room + 1) m args =
      (runCode vm.assembly (vm.invokeWithin room) m args.toArray code []).mapError
        (·.within m) := by
  rw [invokeWithin, if_neg (not_not_intro arity), if_neg (by rw [api]; exact Bool.false_ne_true),
    body]

end

end Machine

end ModSettings
