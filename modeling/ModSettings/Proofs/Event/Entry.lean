/-
Entering the hook methods of an assembly.

A hook method is found by its name and parameters, on the holder or the nearest class
above it.  When an event comes the method is looked up again, by its signature, and the
number of arguments is checked against it.  `hooks_enterable` says that neither ever
turns an event down: the method that was found is the method that runs, whether it is
static or not and whichever class declares it, so an error that left no body is that
of a method without one.
-/
import ModSettings.Event.AssemblyHooks
import ModSettings.Proofs.Exec.Call
import ModSettings.Proofs.Exec.Run
import ModSettings.Proofs.Types.Naming

namespace ModSettings

/-! ## Accepted parameters -/

/-- The parameters that a hook for the kind may take. -/
def EventKind.accepts : EventKind → List (List Ty)
  | .button => [[.string], [.string, .int]]
  | .sliderText => [[.string, .float]]
  | .visibility => [[.string, .bool], [.string]]
  | .inputEdit => [[.string, .string, .int]]
  | .caretMove => [[.string, .string, .int, .int]]
  | _ => [[]]

/-- Hooks take no objects, so their parameters are known by their names. -/
theorem EventKind.eq_of_accepts {kind : EventKind} {params given : List Ty}
    (accepted : params ∈ kind.accepts) (same : Ty.sameAll given params = true) :
    given = params := by
  have plain : Ty.classesAll params = [] := by
    cases kind <;> simp only [accepts, List.mem_cons, List.not_mem_nil, or_false] at accepted <;>
      rcases accepted with rfl | rfl <;> rfl
  refine Ty.eq_of_sameAll (fun _ _ b inside => ?_) same
  rw [plain] at inside
  exact nomatch inside

/-! ## Methods found by their shape -/

namespace Assembly

variable {a : Assembly} {t : Ty} {name : String} {params : List Ty}

theorem isSome_findInHierarchy?_iff : (a.findInHierarchy? t name params).isSome = true ↔
    ∃ c ∈ a.hierarchy t, ∃ d ∈ c.methods, d.signature.hasShape name params = true := by
  simp only [findInHierarchy?, List.findSome?_isSome_iff, Class.find?, List.find?_isSome]

/-- Looking the method up by its signature finds it again. -/
theorem method?_of_findInHierarchy? {d : Method}
    (h : a.findInHierarchy? t name params = some d) :
    (∃ c ∈ a.hierarchy t, d ∈ c.methods) ∧ d.signature.hasShape name params = true ∧
      a.method? d.signature = some d := by
  obtain ⟨c, inside, found⟩ := List.exists_of_findSome?_eq_some h
  have member : d ∈ c.methods := List.mem_of_find?_eq_some found
  have shape : d.signature.hasShape name params = true :=
    List.find?_some (p := fun m : Method => m.signature.hasShape name params) found
  exact ⟨⟨c, inside, member⟩, shape,
    method?_of_find? inside (fun _ _ same => Signature.hasShape_of_beq same) found⟩

/-- No method of such a class is a method of the API. -/
theorem isApi_of_hierarchy {c : Class} {d : Method} (inside : c ∈ a.hierarchy t)
    (member : d ∈ c.methods)
    (foreign : ∀ above ∈ t.baseChain, (above == .api) = false ∧ (above == .eventCaller) = false) :
    d.signature.isApi = false := by
  obtain ⟨above, chained, declared⟩ := List.mem_filterMap.mp inside
  have same : (c.type == above) = true :=
    List.find?_some (p := fun c : Class => c.type == above) declared
  obtain ⟨noApi, noCaller⟩ := foreign above chained
  rw [Signature.isApi, Class.owner_of_mem_methods member, BEq.congr_left same, noApi,
    BEq.congr_left same, noCaller]
  rfl

end Assembly

/-- A call that gets past the first checks and fails in no body fails for want of
one. -/
theorem Machine.error_of_found {vm : Machine} {m : Signature} {args : List Value} {d : Method}
    (arity : args.length = m.arity) (foreign : m.isApi = false)
    (found : vm.assembly.method? m = some d) {s : Shared} {e : ExecError}
    (fails : (vm.invoke m args s).value = .error e) (frameless : e.frames = []) :
    e = .noBody m.text ∧ d.body = .missing := by
  have framed {e' : ExecError} (left : e = e'.within m) : False := by
    rw [left, ExecError.frames_within] at frameless
    exact List.append_ne_nil_of_right_ne_nil _ (List.cons_ne_nil _ _) frameless
  change (vm.invokeWithin (63 + 1) m args s).value = .error e at fails
  cases vm.entered m args with
  | api api _ => rw [foreign] at api; exact nomatch api
  | native _ _ _ _ _ comesTo =>
    rw [comesTo] at fails
    obtain ⟨_, _, left⟩ := Run.mapError_eq_error fails
    exact (framed left).elim
  | code _ _ _ _ _ comesTo =>
    rw [comesTo] at fails
    obtain ⟨_, _, left⟩ := Run.mapError_eq_error fails
    exact (framed left).elim
  | refused e' refused comesTo =>
    rw [comesTo] at fails
    cases fails
    cases refused with
    | arity other => exact absurd arity other
    | unresolved _ _ absent => rw [found] at absent; exact nomatch absent
    | noBody _ _ there body =>
      rw [found] at there
      cases there
      exact ⟨rfl, body⟩

/-! ## Bound methods -/

namespace HookTable

variable {t : HookTable} {event : Event} {method : Signature} {args : List Value}

theorem handles_capabilities (t : HookTable) (kind : EventKind) :
    t.capabilities.handles kind = t.binds kind := by
  rw [capabilities, Capabilities.handles_ofList, Bool.eq_iff_iff, List.contains_iff_mem,
    List.mem_filter, and_iff_right kind.mem_all]

/-- A kind is bound through any of its parameter lists. -/
theorem binds_iff (t : HookTable) (kind : EventKind) :
    t.binds kind = true ↔ ∃ params ∈ kind.accepts, (t.find? kind params).isSome = true := by
  cases kind <;> simp [binds, EventKind.accepts, signal?, Signal.kind, button?, indexedButton?,
    sliderText?, visibility?, visibilityByName?, inputEdit?, caretMove?]

theorem isSome_find?_iff (kind : EventKind) (params : List Ty) :
    (t.find? kind params).isSome = true ↔ ∃ c ∈ t.assembly.hierarchy t.holder, ∃ d ∈ c.methods,
      d.signature.hasShape kind.hookName params = true := by
  rw [find?, Option.isSome_map, Assembly.isSome_findInHierarchy?_iff]

/-- An event comes with as many arguments as its method has parameters. -/
theorem find?_of_call? (h : t.call? event = some (method, args)) :
    ∃ params ∈ event.kind.accepts, t.find? event.kind params = some method ∧
      args.length = params.length := by
  have only {found : Option Signature} {given : List Value} {params : List Ty}
      (accepted : params ∈ event.kind.accepts) (same : t.find? event.kind params = found)
      (count : given.length = params.length)
      (h : found.map (·, given) = some (method, args)) :
      ∃ params ∈ event.kind.accepts, t.find? event.kind params = some method ∧
        args.length = params.length := by
    obtain ⟨m, rfl, equal⟩ := Option.map_eq_some_iff.mp h
    cases equal
    exact ⟨params, accepted, same, count⟩
  cases event with
  | signal s => cases s <;> exact only List.mem_cons_self rfl rfl h
  | button name index =>
    cases index with
    | none => exact only List.mem_cons_self rfl rfl h
    | some index => exact only (List.mem_cons_of_mem _ List.mem_cons_self) rfl rfl h
  | sliderText slider value => exact only List.mem_cons_self rfl rfl h
  | inputEdit input text caret => exact only List.mem_cons_self rfl rfl h
  | caretMove input text caret anchor => exact only List.mem_cons_self rfl rfl h
  | visibility setting inWorld =>
    rcases Option.or_eq_some_iff.mp h with full | ⟨-, short⟩
    · exact only List.mem_cons_self rfl rfl full
    · exact only (List.mem_cons_of_mem _ List.mem_cons_self) rfl rfl short

/-- The receiver makes up for the argument that instance methods take besides their
parameters. -/
theorem length_withReceiver (t : HookTable) (count : args.length = method.params.length) :
    (t.withReceiver method args).length = method.arity := by
  rw [withReceiver, Signature.arity]
  by_cases static : method.isStatic = true
  · rw [if_pos static, if_pos static, count]
    rfl
  · rw [if_neg static, if_neg static, List.length_cons, count]

/-- What a bound method comes to is the answer, once it is read as one. -/
theorem value_handle (called : t.call? event = some (method, args)) (ctx : Context)
    (desk : Desk) :
    (t.handle ctx event desk).value =
      (((Machine.mk t.assembly ctx.catalog).invoke method (t.withReceiver method args)
        desk.shared).value.mapError .exec).map fun result => (answer method result event).1 := by
  let called' : HookRun Value :=
    ((Machine.mk t.assembly ctx.catalog).invoke method (t.withReceiver method args)).asHook
  have ran : (called' desk).value =
      ((Machine.mk t.assembly ctx.catalog).invoke method (t.withReceiver method args)
        desk.shared).value.mapError .exec := rfl
  rw [← ran]
  unfold handle
  rw [called]
  show (Run.bind called' _ desk).value = _
  cases ends : (called' desk).value with
  | ok result => rw [Run.bind_of_ok ends]; rfl
  | error e => rw [Run.bind_of_error ends]; rfl
  | panic p => rw [Run.bind_of_panic ends]; rfl

/-- Nothing but the method changes the shared state. -/
theorem state_handle (called : t.call? event = some (method, args)) (ctx : Context)
    (desk : Desk) :
    (t.handle ctx event desk).state = { desk with shared :=
      ((Machine.mk t.assembly ctx.catalog).invoke method (t.withReceiver method args)
        desk.shared).state } := by
  let called' : HookRun Value :=
    ((Machine.mk t.assembly ctx.catalog).invoke method (t.withReceiver method args)).asHook
  have ran : (called' desk).state = { desk with shared :=
      ((Machine.mk t.assembly ctx.catalog).invoke method (t.withReceiver method args)
        desk.shared).state } := rfl
  rw [← ran]
  unfold handle
  rw [called]
  show (Run.bind called' _ desk).state = _
  cases ends : (called' desk).value with
  | ok result => rw [Run.bind_of_ok ends]; rfl
  | error e => rw [Run.bind_of_error ends]
  | panic p => rw [Run.bind_of_panic ends]

/-- The methods found on a holder that is no class of the API can always be entered.
An event's kind is handled just if some class on the holder's base chain declares a
method with the hook's name and parameters.  Where an event runs a method this is
such a method; it is the one that its signature finds; it gets the arguments that it
takes; what the hook comes to is what calling the method comes to, its result read as
an answer; and an error of the hook without frames says that the method has no body.
An event that runs no method is left alone. -/
theorem hooks_enterable (key : Key) (a : Assembly) (holder : Ty)
    (foreign : ∀ above ∈ holder.baseChain,
      (above == .api) = false ∧ (above == .eventCaller) = false) :
    let t := ofHolder key a holder
    (∀ kind, t.capabilities.handles kind = true ↔
      ∃ c ∈ a.hierarchy holder, ∃ d ∈ c.methods,
        d.signature.name = kind.hookName ∧ d.signature.params ∈ kind.accepts) ∧
    ∀ event, (t.call? event = none ∧ ∀ ctx, t.handle ctx event = .pure event.defaultAnswer) ∨
      ∃ d args, t.call? event = some (d.signature, args) ∧
        (∃ c ∈ a.hierarchy holder, d ∈ c.methods) ∧
        d.signature.name = event.kind.hookName ∧ d.signature.params ∈ event.kind.accepts ∧
        a.method? d.signature = some d ∧
        (t.withReceiver d.signature args).length = d.signature.arity ∧
        (∀ ctx desk,
          let called := (Machine.mk a ctx.catalog).invoke d.signature
            (t.withReceiver d.signature args) desk.shared
          (t.handle ctx event desk).value = (called.value.mapError .exec).map (fun result =>
              (answer d.signature result event).1) ∧
            (t.handle ctx event desk).state = { desk with shared := called.state }) ∧
        ∀ ctx desk e, (t.handle ctx event desk).value = .error e →
          ∃ cause, e = .exec cause ∧
            (cause.frames = [] → cause = .noBody d.signature.text ∧ d.body = .missing) := by
  intro t
  have shaped {d : Method} {kind : EventKind} {params : List Ty} (accepted : params ∈ kind.accepts)
      (shape : d.signature.hasShape kind.hookName params = true) :
      d.signature.name = kind.hookName ∧ d.signature.params = params := by
    obtain ⟨name, same⟩ := Signature.hasShape_iff.mp shape
    exact ⟨name, EventKind.eq_of_accepts accepted same⟩
  refine ⟨fun kind => ?_, fun event => ?_⟩
  · rw [handles_capabilities, binds_iff]
    constructor
    · rintro ⟨params, accepted, found⟩
      obtain ⟨c, inside, d, member, shape⟩ := (isSome_find?_iff kind params).mp found
      obtain ⟨name, same⟩ := shaped accepted shape
      exact ⟨c, inside, d, member, name, same ▸ accepted⟩
    · rintro ⟨c, inside, d, member, name, accepted⟩
      have shape := Signature.hasShape_iff.mpr ⟨name, Ty.sameAll_refl d.signature.params⟩
      exact ⟨_, accepted, (isSome_find?_iff kind _).mpr ⟨c, inside, d, member, shape⟩⟩
  · cases called : t.call? event with
    | none =>
      refine Or.inl ⟨rfl, fun ctx => ?_⟩
      rw [handle, called]
    | some call =>
      obtain ⟨method, args⟩ := call
      obtain ⟨params, accepted, found, count⟩ := find?_of_call? called
      obtain ⟨d, nearest, rfl⟩ := Option.map_eq_some_iff.mp found
      obtain ⟨⟨c, inside, member⟩, shape, again⟩ := Assembly.method?_of_findInHierarchy? nearest
      obtain ⟨name, same⟩ := shaped accepted shape
      have arity := t.length_withReceiver (count.trans (congrArg List.length same.symm))
      refine Or.inr ⟨d, args, rfl, ⟨c, inside, member⟩, name, same ▸ accepted, again, arity,
        fun ctx desk => ⟨value_handle called ctx desk, state_handle called ctx desk⟩, ?_⟩
      intro ctx desk e fails
      rw [value_handle called] at fails
      cases ends : ((Machine.mk t.assembly ctx.catalog).invoke d.signature
          (t.withReceiver d.signature args) desk.shared).value with
      | ok v => rw [ends] at fails; exact nomatch fails
      | panic p => rw [ends] at fails; exact nomatch fails
      | error cause =>
        rw [ends] at fails
        cases fails
        exact ⟨cause, rfl, Machine.error_of_found arity
          (Assembly.isApi_of_hierarchy inside member foreign) again ends⟩

end HookTable

def Ty.samplePanel : Ty := .cls "Panel" (some .mod) [] .concrete true

def Ty.samplePage : Ty := .cls "Page" (some .samplePanel) [] .concrete true

/-- A hook for buttons and, on the class above, one that gives back the caret and
anchor it is given. -/
def Assembly.samplePages : Assembly :=
  { name := "Pages"
    classes := [
      { type := .samplePanel
        declarations := [
          { name := EventKind.caretMove.hookName, params := [.string, .string, .int, .int]
            result := .tuple [.int, .int]
            body := .native fun args => .pure (.tuple (args.drop 3)) }] },
      { type := .samplePage
        declarations := [
          { name := EventKind.button.hookName, params := [.string, .int], isStatic := true }] }] }

/-- The inherited instance method gets its receiver, the static one does without. -/
theorem HookTable.hooks_enterable_sample :
    let t := ofHolder (.entry 1 1) .samplePages .samplePage
    t.capabilities.handles .caretMove = true ∧
      ∀ event, t.call? event = none ∨ ∃ method args, t.call? event = some (method, args) ∧
        (t.withReceiver method args).length = method.arity := by
  obtain ⟨handled, runs⟩ := hooks_enterable (.entry 1 1) .samplePages .samplePage (by decide)
  refine ⟨(handled .caretMove).mpr ?_, fun event => ?_⟩
  · exact ⟨_, List.mem_cons_of_mem _ List.mem_cons_self, _, List.mem_singleton_self _, rfl,
      List.mem_singleton_self _⟩
  · rcases runs event with ⟨absent, _⟩ | ⟨d, args, called, _, _, _, _, arity, _⟩
    · exact Or.inl absent
    · exact Or.inr ⟨d.signature, args, called, arity⟩

end ModSettings
