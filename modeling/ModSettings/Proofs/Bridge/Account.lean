/-
What an installation changes, in full.

Stubs are patched one after the other in one assembly and looked up by signature,
and at last all bodies are rewritten at once.  `accounts_install` says what comes
of it: every stub is counted by a fate that its own signature decides, a patched
stub has its adapter, every other method has the body it had, and on top of this
the calls of patched instance stubs, and nothing else, are bound late.

Bodies are compared place by place, because a signature may be declared twice and
only its first declaration is ever patched.
-/
import ModSettings.Proofs.Bridge.EarlyCalls
import ModSettings.Proofs.Bridge.Sites
import ModSettings.Proofs.Program.Places
import ModSettings.Proofs.Types.Naming

namespace ModSettings

namespace Bridge

/-! ## Bodies that differ in late-bound calls -/

/-- One instruction before and after the calls of some methods are bound late. -/
inductive Rebinds (late : Signature → Prop) : Instruction → Instruction → Prop where
  | call {target : Signature} : late target → Rebinds late (.call target) (.callVirtual target)
  | same {i : Instruction} : (∀ target, i = .call target → ¬late target) → Rebinds late i i

inductive Rebound (late : Signature → Prop) : Body → Body → Prop where
  | code {code code' : List Instruction} :
      List.Forall₂ (Rebinds late) code code' → Rebound late (.code code) (.code code')
  | native (run : List Value → Exec Value) : Rebound late (.native run) (.native run)
  | missing : Rebound late .missing .missing

theorem Rebound.eq_of_none {late : Signature → Prop} {body body' : Body}
    (none : ∀ target, ¬late target) (h : Rebound late body body') : body' = body := by
  cases h with
  | code all =>
    refine congrArg Body.code (List.forall₂_eq_eq_eq ▸ all.imp fun i i' rebinds => ?_).symm
    cases rebinds with
    | call late => exact absurd late (none _)
    | same _ => rfl
  | _ => rfl

theorem rebinds_promoteInstruction {set : MethodSet} {late : Signature → Prop}
    (same : ∀ target, IsLate set target ↔ late target) (i : Instruction) :
    Rebinds late i (promoteInstruction set i) := by
  cases found : promotable? set i with
  | some target =>
    obtain ⟨rfl, isLate⟩ := promotable?_eq_some_iff.mp found
    rw [promoteInstruction_of_some found]
    exact .call ((same target).mp isLate)
  | none =>
    rw [promoteInstruction_of_none found]
    refine .same fun target call isLate => ?_
    rw [promotable?_eq_some_iff.mpr ⟨call, (same target).mpr isLate⟩] at found
    exact nomatch found

theorem rebound_promoteBody {set : MethodSet} {late : Signature → Prop}
    (same : ∀ target, IsLate set target ↔ late target) (body : Body) :
    Rebound late body (promoteBody set body) := by
  cases body with
  | code code =>
    refine .code (List.forall₂_map_right_iff.mpr (List.forall₂_same.mpr fun i _ => ?_))
    exact rebinds_promoteInstruction same i
  | native run => exact .native run
  | missing => exact .missing

/-! ## Counting fates -/

variable {site : Site} {a : Assembly} {stub : Stub}

theorem countP_fates (test : Fate → Bool) (site : Site) (a : Assembly) :
    (fates site a).countP (fun entry => test entry.2) =
      (a.stubs site.holder).countP fun s => test (fateOf site s) := by
  rw [fates_eq, List.countP_map]
  rfl

/-- Every fate is counted once. -/
theorem sum_countP (fates : List Fate) : fates.countP (·.isPatched) +
    fates.countP (·.isUnmatched) + fates.countP (·.isFailed) = fates.length := by
  induction fates with
  | nil => rfl
  | cons fate rest ih =>
    have once : (if fate.isPatched = true then 1 else 0) +
        (if fate.isUnmatched = true then 1 else 0) + (if fate.isFailed = true then 1 else 0) = 1 := by
      cases fate <;> rfl
    rw [List.countP_cons, List.countP_cons, List.countP_cons, List.length_cons]
    omega

/-! ## Which calls are bound late -/

/-- The method is an instance method and a patched stub, and promotion is on. -/
structure Redirected (site : Site) (a : Assembly) (target : Signature) : Prop where
  promotes : site.config.promoteCallSites = true
  isInstance : target.isStatic = false
  patched : ∃ s ∈ a.stubs site.holder,
    (fateOf site s).isPatched = true ∧ (s.method == target) = true

theorem isPatched_iff {fate : Fate} : fate.isPatched = true ↔ ∃ b, fate = .patched b := by
  cases fate with
  | patched b => exact ⟨fun _ => ⟨b, rfl⟩, fun _ => rfl⟩
  | _ => exact ⟨nofun, fun ⟨_, same⟩ => nomatch same⟩

theorem isLate_promoted (site : Site) (a : Assembly) (target : Signature) :
    IsLate (promoted site a) target ↔ Redirected site a target := by
  have patched : (patchedSet (fates site a)).contains target = true ↔
      ∃ s ∈ a.stubs site.holder,
        (fateOf site s).isPatched = true ∧ (s.method == target) = true := by
    rw [contains_patchedSet]
    constructor
    · intro found
      obtain ⟨_, b, ⟨s, member, rfl⟩, same⟩ := found
      obtain ⟨isStub, fate⟩ := mem_fates.mp member
      exact ⟨s, isStub, isPatched_iff.mpr ⟨b, fate⟩, same⟩
    · intro found
      obtain ⟨s, isStub, fate, same⟩ := found
      obtain ⟨b, fate⟩ := isPatched_iff.mp fate
      exact ⟨s.method, b, ⟨s, mem_fates.mpr ⟨isStub, fate⟩, rfl⟩, same⟩
  unfold IsLate promoted
  by_cases promotes : site.config.promoteCallSites = true
  · rw [if_pos promotes, patched]
    exact ⟨fun late => ⟨promotes, late.1, late.2⟩, fun late => ⟨late.isInstance, late.patched⟩⟩
  · rw [if_neg promotes]
    exact ⟨fun late => (nomatch late.2), fun late => absurd late.promotes promotes⟩

/-! ## One stub for one place -/

/-- Classes of one name are declared alike wherever a method of the assembly names
them. -/
def Uniform (a : Assembly) : Prop := Ty.Consistent (a.methods.flatMap (·.signature.types))

theorem classes_of_mem_stubs (h : stub ∈ a.stubs site.holder) :
    Ty.classesAll stub.method.types ⊆ Ty.classesAll (a.methods.flatMap (·.signature.types)) := by
  obtain ⟨-, -, m, declared, same⟩ := Assembly.declared_of_mem_stubs h
  obtain ⟨c, above, inside⟩ := List.mem_flatMap.mp declared
  obtain ⟨_, -, here⟩ := List.mem_filterMap.mp above
  refine Ty.classesAll_subset fun t named => ?_
  rw [← same] at named
  exact List.mem_flatMap.mpr ⟨m, Assembly.mem_methods here inside, named⟩

theorem alone_of_uniform (uniform : Uniform a) (h : stub ∈ a.stubs site.holder) :
    ∀ s ∈ a.stubs site.holder, a.place? s.method = a.place? stub.method → s = stub := by
  intro s isStub same
  have equal := Assembly.beq_of_place?_eq (Assembly.isSome_method?_of_mem_stubs h) same
  have methods : s.method = stub.method := Signature.eq_of_agree
    (uniform.mono (classes_of_mem_stubs isStub) (classes_of_mem_stubs h)) equal
  have holders : s.holder = stub.holder :=
    (Assembly.declared_of_mem_stubs isStub).1.trans (Assembly.declared_of_mem_stubs h).1.symm
  cases s
  cases stub
  rw [Stub.mk.injEq]
  exact ⟨holders, methods⟩

/-! ## The whole installation -/

theorem value_install (enabled : site.config.enabled = true) (a : Assembly) :
    (install site a).value =
      reportOf (fates site a) (promotionReport (promoted site a) (settled site a)) := by
  unfold install
  rw [enabled]
  rfl

theorem getElem?_install (enabled : site.config.enabled = true) (i : Nat) :
    (install site a).state.methods[i]? =
      (settled site a).methods[i]?.map (promoteMethod (promoted site a)) := by
  rw [state_install, if_pos enabled, methods_promote, List.getElem?_map]

theorem name_settled (site : Site) (a : Assembly) : (settled site a).name = a.name := by
  refine settleAll_induction (I := fun a' => a'.name = a.name) (fun same patched => ?_) rfl _
  obtain ⟨_, -, set⟩ := patch_eq_ok patched
  rw [(Assembly.setBody?_eq_some set).2]
  exact same

/-- Where no patched stub stands, only calls change. -/
theorem others_install (enabled : site.config.enabled = true) {i : Nat} {m : Method}
    (here : a.methods[i]? = some m) (free : ∀ s ∈ a.stubs site.holder,
      (fateOf site s).isPatched = true → a.place? s.method ≠ some i) :
    ∃ m', (install site a).state.methods[i]? = some m' ∧ m'.signature = m.signature ∧
      Rebound (Redirected site a) m.body m'.body := by
  refine ⟨promoteMethod (promoted site a) m, ?_, rfl,
    rebound_promoteBody (isLate_promoted site a) m.body⟩
  have settled := getElem?_settleAll site i (a.stubs site.holder) fun _ =>
    Assembly.isSome_method?_of_mem_stubs
  rcases settled with ⟨-, kept⟩ | ⟨s, isStub, code, adapter, place, -⟩
  · rw [getElem?_install enabled, show (settled site a).methods[i]? = _ from kept, here]
    rfl
  · have patched : (fateOf site s).isPatched = true := by rw [isPatched_fateOf, adapter]; rfl
    exact absurd place (free s isStub patched)

/-- A patched stub has its adapter. -/
theorem adapter_install (enabled : site.config.enabled = true) (uniform : Uniform a)
    (h : stub ∈ a.stubs site.holder) {code : List Instruction}
    (adapter : adapter? site stub = some code) :
    ∃ m, (install site a).state.method? stub.method = some m ∧
      Rebound (Redirected site a) (.code code) m.body := by
  have body : ((install site a).state.method? stub.method).map Method.body =
      some (promoteBody (promoted site a) (.code code)) := by
    rw [state_install, if_pos enabled, method?_promote,
      body_settled h (alone_of_uniform uniform h) adapter, Option.map_some]
  obtain ⟨m, found, same⟩ := Option.map_eq_some_iff.mp body
  refine ⟨m, found, ?_⟩
  rw [same]
  exact rebound_promoteBody (isLate_promoted site a) (.code code)

/-- A stub that is not patched keeps its body. -/
theorem spared_install (enabled : site.config.enabled = true) (uniform : Uniform a)
    (h : stub ∈ a.stubs site.holder) (spared : (fateOf site stub).isPatched = false) :
    ∃ m m', a.method? stub.method = some m ∧
      (install site a).state.method? stub.method = some m' ∧
      Rebound (Redirected site a) m.body m'.body := by
  obtain ⟨i, m, place, here, found⟩ :=
    Assembly.exists_place? (Assembly.isSome_method?_of_mem_stubs h)
  have free : ∀ s ∈ a.stubs site.holder, (fateOf site s).isPatched = true →
      a.place? s.method ≠ some i := by
    intro s isStub patched place'
    obtain rfl := alone_of_uniform uniform h s isStub (place'.trans place.symm)
    rw [spared] at patched
    exact nomatch patched
  obtain ⟨m', here', -, body⟩ := others_install enabled here free
  refine ⟨m, m', found, ?_, body⟩
  have placed := (Assembly.place?_congr (outline_install site a) stub.method).trans place
  rw [Assembly.method?_of_place? placed, here']

/-- What an enabled installation reports and leaves. -/
structure Accounts (site : Site) (a : Assembly) (report : BridgeReport) (done : Assembly) :
    Prop where
  name : done.name = a.name
  /-- The classes, their order and all signatures. -/
  outline : done.outline = a.outline
  candidates : report.candidates = (a.stubs site.holder).length
  patched : report.patched =
    (a.stubs site.holder).countP fun s => (fateOf site s).isPatched
  unmatched : report.unmatched =
    (a.stubs site.holder).countP fun s => (fateOf site s).isUnmatched
  failed : report.failed = (a.stubs site.holder).countP fun s => (fateOf site s).isFailed
  sum : report.candidates = report.patched + report.unmatched + report.failed
  adapters : ∀ s ∈ a.stubs site.holder, ∀ b, fateOf site s = .patched b →
    b.hook = s.method ∧ ∃ code m, synthesize b site.modType = .ok code ∧
      done.method? s.method = some m ∧ Rebound (Redirected site a) (.code code) m.body
  /-- A place is told by the lookup, so of two methods of one signature it is the
  first that a stub stands for. -/
  others : ∀ i m, a.methods[i]? = some m →
    (∀ s ∈ a.stubs site.holder, (fateOf site s).isPatched = true → a.place? s.method ≠ some i) →
      ∃ m', done.methods[i]? = some m' ∧ m'.signature = m.signature ∧
        Rebound (Redirected site a) m.body m'.body
  spared : ∀ s ∈ a.stubs site.holder, (fateOf site s).isPatched = false →
    ∃ m m', a.method? s.method = some m ∧ done.method? s.method = some m' ∧
      Rebound (Redirected site a) m.body m'.body
  unpromoted : site.config.promoteCallSites = false →
    ∀ body body', Rebound (Redirected site a) body body' → body' = body

theorem accounts_of_enabled (enabled : site.config.enabled = true) (uniform : Uniform a) :
    Accounts site a (install site a).value (install site a).state where
  name := by
    rw [state_install, if_pos enabled]
    exact name_settled site a
  outline := outline_install site a
  candidates := by
    rw [value_install enabled, reportOf, fates_eq]
    exact List.length_map _
  patched := by
    rw [value_install enabled]
    exact countP_fates Fate.isPatched site a
  unmatched := by
    rw [value_install enabled]
    exact countP_fates Fate.isUnmatched site a
  failed := by
    rw [value_install enabled]
    exact countP_fates Fate.isFailed site a
  sum := by
    have sum := sum_countP ((fates site a).map (·.2))
    rw [List.countP_map, List.countP_map, List.countP_map, List.length_map] at sum
    rw [value_install enabled]
    exact sum.symm
  adapters s isStub b fate := by
    obtain ⟨bound, code, made⟩ := fateOf_eq_patched.mp fate
    obtain ⟨m, found, body⟩ :=
      adapter_install enabled uniform isStub (adapter?_of_patched fate made)
    exact ⟨hook_of_discover bound, code, m, made, found, body⟩
  others i m := others_install enabled
  spared s isStub := spared_install enabled uniform isStub
  unpromoted off body body' := Rebound.eq_of_none fun target late =>
    Bool.false_ne_true (off.symm.trans late.promotes)

/-- An installation changes nothing but what it reports, and nothing at all when
bridges are disabled. -/
theorem accounts_install (site : Site) (a : Assembly) (uniform : Uniform a) :
    (site.config.enabled = false → (install site a).value = {} ∧ (install site a).state = a) ∧
      (site.config.enabled = true →
        Accounts site a (install site a).value (install site a).state) := by
  refine ⟨fun disabled => ?_, fun enabled => accounts_of_enabled enabled uniform⟩
  unfold install
  rw [disabled]
  exact ⟨rfl, rfl⟩

/-- In the sample the stub of the upper class is patched, and the call of it in the
lower class is bound late. -/
theorem accounts_install_sample :
    let site : Site := { sampleSite with holder := sampleHome }
    Uniform sampleHeirs ∧
      Accounts site sampleHeirs (install site sampleHeirs).value
        (install site sampleHeirs).state ∧
      Redirected site sampleHeirs (inWorldOn sampleHome) := by
  intro site
  have uniform : Uniform sampleHeirs := by
    have named : Ty.classesAll (sampleHeirs.methods.flatMap (·.signature.types)) =
        [sampleHome, .mod, sampleHeir, sampleHome, .mod, sampleHeir, sampleHome, .mod] := rfl
    have among : Ty.classesAll (sampleHeirs.methods.flatMap (·.signature.types)) ⊆
        [sampleHome, sampleHeir, .mod] := by simp [named]
    exact Ty.consistent_of_pairwise among (by decide)
  refine ⟨uniform, (accounts_install site sampleHeirs uniform).2 rfl, rfl, rfl, ?_⟩
  refine ⟨{ holder := sampleHome, method := inWorldOn sampleHome }, ?_, ?_, BEq.rfl⟩
  · rw [stubs_sampleHeirs (Or.inl rfl)]
    exact List.mem_singleton_self _
  · rw [isPatched_fateOf, adapter?, show discover _ site.catalog = _ from discover_inWorldOn _ _]
    rfl

end Bridge

end ModSettings
