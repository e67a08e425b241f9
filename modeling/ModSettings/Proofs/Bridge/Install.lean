/-
What an installation leaves of an assembly.

An installation exchanges bodies and nothing else: patched stubs get their
adapters, and then calls of patched instance stubs are bound late.  What becomes of
a stub does not depend on the stubs patched before it, and an adapter that is in its
place stays there unless another stub has that place too, which no two instance stubs
do.
-/
import ModSettings.Bridge.Install
import ModSettings.Proofs.Bridge.Adapter
import ModSettings.Proofs.Bridge.Matching
import ModSettings.Proofs.Bridge.Promotion
import ModSettings.Proofs.Bridge.Stubs
import ModSettings.Proofs.Exec.Conduct
import ModSettings.Proofs.Program.Places

namespace ModSettings

namespace MethodSet

theorem contains_congr (s : MethodSet) {m n : Signature} (h : (m == n) = true) :
    s.contains m = s.contains n := by
  rw [contains, contains]
  exact congrArg s.methods.any (funext fun x => BEq.congr_right h)

theorem contains_insert (s : MethodSet) (m n : Signature) :
    (s.insert m).contains n = (s.contains n || m == n) := by
  rw [insert]
  cases old : s.contains m with
  | false =>
    rw [if_neg Bool.false_ne_true]
    simp [contains]
  | true =>
    rw [if_pos rfl]
    cases same : m == n with
    | false => rw [Bool.or_false]
    | true =>
      rw [← s.contains_congr same, old]
      rfl

theorem contains_ofList (methods : List Signature) (n : Signature) :
    (ofList methods).contains n = methods.any (· == n) := by
  suffices all : ∀ s : MethodSet, (methods.foldl insert s).contains n =
      (s.contains n || methods.any (· == n)) by
    rw [ofList, all]
    exact Bool.false_or _
  induction methods with
  | nil => exact fun s => (Bool.or_false _).symm
  | cons m rest ih =>
    intro s
    rw [List.foldl_cons, ih, contains_insert, List.any_cons, Bool.or_assoc]

end MethodSet

namespace Bridge

variable {site : Site} {a : Assembly} {stub : Stub} {b : Binding}

def fates (site : Site) (a : Assembly) : List (Stub × Fate) :=
  (settleAll site a (discoverAll a site.holder site.catalog)).1

/-- The assembly with the adapters in their places and all calls as they
were. -/
def settled (site : Site) (a : Assembly) : Assembly :=
  (settleAll site a (discoverAll a site.holder site.catalog)).2

/-- The methods whose early-bound calls are bound late. -/
def promoted (site : Site) (a : Assembly) : MethodSet :=
  if site.config.promoteCallSites then patchedSet (fates site a) else {}

theorem state_install (site : Site) (a : Assembly) : (install site a).state =
    if site.config.enabled then promote (promoted site a) (settled site a) else a := by
  unfold install
  cases site.config.enabled <;> rfl

theorem hook_of_discover {catalog : Catalog} (h : discover stub catalog = .bound b) :
    b.hook = stub.method := by
  obtain ⟨_, _, hook, _⟩ := discover_eq_bound h
  exact hook

/-! ## Settling stubs -/

/-- A stub is settled by its adapter or changes nothing. -/
theorem settle_cases (site : Site) (a : Assembly) (d : Discovery) :
    (∃ b a', d = .bound b ∧ patch a b site.modType = .ok a' ∧
      settle site a d = (.patched b, a')) ∨
    ∃ fate, settle site a d = (fate, a) ∧ fate.hook? = none := by
  cases d with
  | noName => exact Or.inr ⟨_, rfl, rfl⟩
  | noSignature signatures => exact Or.inr ⟨_, rfl, rfl⟩
  | bound b =>
    rw [settle]
    cases patched : patch a b site.modType with
    | ok a' => exact Or.inl ⟨b, a', rfl, patched, rfl⟩
    | error cause => exact Or.inr ⟨_, rfl, rfl⟩

theorem settleAll_cons (site : Site) (a : Assembly) (stub : Stub) (d : Discovery)
    (rest : List (Stub × Discovery)) : settleAll site a ((stub, d) :: rest) =
      ((stub, (settle site a d).1) :: (settleAll site (settle site a d).2 rest).1,
        (settleAll site (settle site a d).2 rest).2) := rfl

/-- What every patch keeps, settling all stubs keeps. -/
theorem settleAll_induction {I : Assembly → Prop}
    (step : ∀ {a a' b}, I a → patch a b site.modType = .ok a' → I a') (start : I a)
    (found : List (Stub × Discovery)) : I (settleAll site a found).2 := by
  induction found generalizing a with
  | nil => exact start
  | cons entry rest ih =>
    obtain ⟨stub, d⟩ := entry
    rw [settleAll_cons]
    rcases settle_cases site a d with ⟨b, a', _, patched, done⟩ | ⟨fate, done, _⟩
    · rw [done]
      exact ih (step start patched)
    · rw [done]
      exact ih start

theorem outline_settled (site : Site) (a : Assembly) : (settled site a).outline = a.outline :=
  settleAll_induction (I := fun a' => a'.outline = a.outline)
    (fun same patched => (outline_patch patched).trans same) rfl _

theorem outline_install (site : Site) (a : Assembly) :
    (install site a).state.outline = a.outline := by
  rw [state_install]
  split
  · rw [outline_promote, outline_settled]
  · rfl

/-- A body in the settled assembly is an adapter or was there before. -/
theorem mem_methods_settled {m : Method} (h : m ∈ (settled site a).methods) :
    m ∈ a.methods ∨ ∃ b code, synthesize b site.modType = .ok code ∧ m.body = .code code := by
  have all : ∀ m ∈ (settled site a).methods,
      m ∈ a.methods ∨ ∃ b code, synthesize b site.modType = .ok code ∧ m.body = .code code := by
    refine settleAll_induction (I := fun a' => ∀ m ∈ a'.methods, m ∈ a.methods ∨
      ∃ b code, synthesize b site.modType = .ok code ∧ m.body = .code code)
      (fun {a a' b} before patched m member => ?_) (fun _ => Or.inl) _
    obtain ⟨code, synthesized, set⟩ := patch_eq_ok patched
    rcases Assembly.mem_methods_setBody? set member with old | ⟨new, _⟩
    · exact before m old
    · exact Or.inr ⟨b, code, synthesized, new⟩
  exact all m h

/-- Bridges bring no native code into an assembly. -/
theorem obeys_install {c : Conduct Shared} (h : a.Obeys c) (site : Site) :
    (install site a).state.Obeys c := by
  rw [state_install]
  split
  · intro m member run native
    rw [promote, Assembly.methods_mapBodies] at member
    obtain ⟨m, settled, rfl⟩ := List.mem_map.mp member
    rcases mem_methods_settled settled with old | ⟨b, code, _, body⟩
    · have untouched : m.body = .native run := by
        cases body : m.body with
        | code instructions => rw [body] at native; cases native
        | native run' => rw [body] at native; exact native
        | missing => rw [body] at native; cases native
      exact h m old run untouched
    · rw [body] at native
      cases native
  · exact h

/-! ## Fates -/

/-- What becomes of a stub, told from the stub alone. -/
def fateOf (site : Site) (stub : Stub) : Fate :=
  match discover stub site.catalog with
  | .bound b =>
      match synthesize b site.modType with
      | .ok _ => .patched b
      | .error cause => .failed cause
  | .noName => .noName
  | .noSignature signatures => .noSignature signatures

/-- The body that a stub is given, if it is patched. -/
def adapter? (site : Site) (stub : Stub) : Option (List Instruction) :=
  match discover stub site.catalog with
  | .bound b => (synthesize b site.modType).toOption
  | _ => none

theorem fateOf_eq_patched {b : Binding} : fateOf site stub = .patched b ↔
    discover stub site.catalog = .bound b ∧ ∃ code, synthesize b site.modType = .ok code := by
  unfold fateOf
  cases discover stub site.catalog with
  | bound b' =>
    dsimp only
    cases made : synthesize b' site.modType with
    | ok code =>
      refine ⟨fun same => ?_, fun same => ?_⟩
      · obtain rfl := Fate.patched.inj same
        exact ⟨rfl, code, made⟩
      · rw [Discovery.bound.inj same.1]
    | error cause =>
      refine ⟨nofun, fun same => ?_⟩
      obtain ⟨same, code, made'⟩ := same
      rw [Discovery.bound.inj same, made'] at made
      exact nomatch made
  | _ => exact ⟨nofun, fun same => nomatch same.1⟩

theorem adapter?_of_patched {b : Binding} {code : List Instruction}
    (fate : fateOf site stub = .patched b) (made : synthesize b site.modType = .ok code) :
    adapter? site stub = some code := by
  rw [adapter?, (fateOf_eq_patched.mp fate).1]
  exact congrArg Except.toOption made

theorem isPatched_fateOf (site : Site) (stub : Stub) :
    (fateOf site stub).isPatched = (adapter? site stub).isSome := by
  unfold fateOf adapter?
  cases discover stub site.catalog with
  | bound b =>
    dsimp only
    cases synthesize b site.modType <;> rfl
  | _ => rfl

theorem fateOf_eq_failed {cause : SynthesisError} : fateOf site stub = .failed cause ↔
    ∃ b, discover stub site.catalog = .bound b ∧ synthesize b site.modType = .error cause := by
  unfold fateOf
  cases discover stub site.catalog with
  | bound b' =>
    simp only [Discovery.bound.injEq, exists_eq_left']
    cases synthesize b' site.modType with
    | ok code => exact ⟨nofun, nofun⟩
    | error cause' => simp only [Fate.failed.injEq, Except.error.injEq]
  | _ =>
    refine ⟨nofun, fun failed => ?_⟩
    obtain ⟨_, found, -⟩ := failed
    exact nomatch found

/-- A declared stub is settled as its fate says, whatever was done before to the
stubs in front of it. -/
theorem settle_discover (site : Site) (declared : (a.method? stub.method).isSome = true) :
    (∃ code a', adapter? site stub = some code ∧ a.setBody? stub.method (.code code) = some a' ∧
      settle site a (discover stub site.catalog) = (fateOf site stub, a')) ∨
    adapter? site stub = none ∧
      settle site a (discover stub site.catalog) = (fateOf site stub, a) := by
  unfold fateOf adapter?
  cases found : discover stub site.catalog with
  | bound b =>
    dsimp only
    rw [settle, patch, ← hook_of_discover found]
    cases synthesize b site.modType with
    | error cause => exact Or.inr ⟨rfl, rfl⟩
    | ok code =>
      have set : (a.setBody? b.hook (.code code)).isSome = true := by
        rw [Assembly.setBody?, hook_of_discover found, if_pos declared]
        rfl
      obtain ⟨a', set⟩ := Option.isSome_iff_exists.mp set
      refine Or.inl ⟨code, a', rfl, set, ?_⟩
      simp only [Bind.bind, Except.bind, set]
  | _ => exact Or.inr ⟨rfl, rfl⟩

theorem fates_settleAll (stubs : List Stub)
    (declared : ∀ s ∈ stubs, (a.method? s.method).isSome = true) :
    (settleAll site a (stubs.map fun s => (s, discover s site.catalog))).1 =
      stubs.map fun s => (s, fateOf site s) := by
  induction stubs generalizing a with
  | nil => rfl
  | cons s rest ih =>
    obtain ⟨here, later⟩ := List.forall_mem_cons.mp declared
    rw [List.map_cons, settleAll_cons, List.map_cons]
    rcases settle_discover site here with ⟨code, a', -, set, done⟩ | ⟨-, done⟩
    · rw [done, ih fun s member => ?_]
      rw [Assembly.isSome_method?_congr (Assembly.outline_setBody? set)]
      exact later s member
    · rw [done, ih later]

/-- A place is as it was and no stub that is patched stands there, or it has the
adapter of one that does. -/
theorem getElem?_settleAll (site : Site) (i : Nat) (stubs : List Stub)
    (declared : ∀ s ∈ stubs, (a.method? s.method).isSome = true) :
    ((∀ s ∈ stubs, (adapter? site s).isSome = true → a.place? s.method ≠ some i) ∧
      (settleAll site a (stubs.map fun s => (s, discover s site.catalog))).2.methods[i]? =
        a.methods[i]?) ∨
    ∃ s ∈ stubs, ∃ code, adapter? site s = some code ∧ a.place? s.method = some i ∧
      (settleAll site a (stubs.map fun s => (s, discover s site.catalog))).2.methods[i]? =
        a.methods[i]?.map fun d => { d with body := .code code } := by
  induction stubs generalizing a with
  | nil => exact Or.inl ⟨nofun, rfl⟩
  | cons s rest ih =>
    obtain ⟨here, later⟩ := List.forall_mem_cons.mp declared
    rw [List.map_cons, settleAll_cons]
    rcases settle_discover site here with ⟨code, a', adapter, set, done⟩ | ⟨none, done⟩
    · rw [done]
      have outline := Assembly.outline_setBody? set
      have places (m : Signature) : a'.place? m = a.place? m := Assembly.place?_congr outline m
      have later : ∀ s ∈ rest, (a'.method? s.method).isSome = true := fun s member => by
        rw [Assembly.isSome_method?_congr outline]
        exact later s member
      have changed := Assembly.getElem?_setBody? set i
      rcases ih later with ⟨free, kept⟩ | ⟨s', member, code', adapter', place, given⟩
      · simp only [places] at free
        rw [changed] at kept
        by_cases place : a.place? s.method = some i
        · rw [if_pos place] at kept
          exact Or.inr ⟨s, List.mem_cons_self, code, adapter, place, kept⟩
        · rw [if_neg place] at kept
          exact Or.inl ⟨List.forall_mem_cons.mpr ⟨fun _ => place, free⟩, kept⟩
      · rw [places] at place
        refine Or.inr ⟨s', List.mem_cons_of_mem _ member, code', adapter', place, ?_⟩
        rw [given, changed]
        split
        · rw [Option.map_map]
          rfl
        · rfl
    · rw [done]
      rcases ih later with ⟨free, kept⟩ | ⟨s', member, rest⟩
      · refine Or.inl ⟨List.forall_mem_cons.mpr ⟨fun some => ?_, free⟩, kept⟩
        rw [none] at some
        exact nomatch some
      · exact Or.inr ⟨s', List.mem_cons_of_mem _ member, rest⟩

theorem fates_eq (site : Site) (a : Assembly) :
    fates site a = (a.stubs site.holder).map fun s => (s, fateOf site s) :=
  fates_settleAll _ fun _ => Assembly.isSome_method?_of_mem_stubs

theorem mem_fates {fate : Fate} :
    (stub, fate) ∈ fates site a ↔ stub ∈ a.stubs site.holder ∧ fateOf site stub = fate := by
  rw [fates_eq, List.mem_map]
  constructor
  · intro listed
    obtain ⟨s, member, same⟩ := listed
    obtain ⟨rfl, fate⟩ := Prod.mk.inj same
    exact ⟨member, fate⟩
  · exact fun same => ⟨stub, same.1, congrArg _ same.2⟩

/-! ## Patched stubs -/

/-- The stub found a target, and its adapter is in its place. -/
def Patched (site : Site) (a : Assembly) (p : Signature) (b : Binding) : Prop :=
  ∃ stub, (stub, Fate.patched b) ∈ fates site a ∧ stub.method = p

/-- A stub that is alone in its place has its adapter there. -/
theorem body_settled (h : stub ∈ a.stubs site.holder) (alone : ∀ s ∈ a.stubs site.holder,
    a.place? s.method = a.place? stub.method → s = stub) {code : List Instruction}
    (adapter : adapter? site stub = some code) :
    ((settled site a).method? stub.method).map Method.body = some (.code code) := by
  obtain ⟨i, d, place, here, -⟩ := Assembly.exists_place? (Assembly.isSome_method?_of_mem_stubs h)
  have placed := (Assembly.place?_congr (outline_settled site a) stub.method).trans place
  rw [Assembly.method?_of_place? placed]
  have there := getElem?_settleAll site i (a.stubs site.holder) fun _ =>
    Assembly.isSome_method?_of_mem_stubs
  rcases there with ⟨free, -⟩ | ⟨s, isStub, code', adapter', place', given⟩
  · exact absurd place (free stub h (by rw [adapter]; rfl))
  · obtain rfl := alone s isStub (place'.trans place.symm)
    obtain rfl := Option.some.inj (adapter.symm.trans adapter')
    rw [show (settled site a).methods[i]? = _ from given, here]
    rfl

theorem alone_of_instance (h : stub ∈ a.stubs site.holder)
    (isInstance : stub.method.isStatic = false) :
    ∀ s ∈ a.stubs site.holder, a.place? s.method = a.place? stub.method → s = stub := by
  intro s isStub same
  have equal := Assembly.beq_of_place?_eq (Assembly.isSome_method?_of_mem_stubs h) same
  exact Assembly.stubs_unique isStub h (Signature.overrides_of_beq equal isInstance)

namespace Patched

variable {p q : Signature}

theorem mem_stubs (h : Patched site a p b) : ∃ stub ∈ a.stubs site.holder, stub.method = p ∧
    discover stub site.catalog = .bound b := by
  obtain ⟨stub, member, rfl⟩ := h
  obtain ⟨isStub, fate⟩ := mem_fates.mp member
  exact ⟨stub, isStub, rfl, (fateOf_eq_patched.mp fate).1⟩

theorem hook_eq (h : Patched site a p b) : b.hook = p := by
  obtain ⟨stub, _, rfl, bound⟩ := h.mem_stubs
  exact hook_of_discover bound

/-- Bound late on the holder, a patched instance stub is found. -/
theorem resolveVirtual? (h : Patched site a p b) (isInstance : p.isStatic = false) :
    a.resolveVirtual? site.holder p = some p := by
  obtain ⟨stub, isStub, rfl, _⟩ := h.mem_stubs
  exact Assembly.resolveVirtual?_stub isStub isInstance

theorem unique {b' : Binding} (h : Patched site a p b) (h' : Patched site a q b')
    (overrides : p.overrides q = true) : p = q := by
  obtain ⟨stub, isStub, rfl, _⟩ := h.mem_stubs
  obtain ⟨stub', isStub', rfl, _⟩ := h'.mem_stubs
  rw [Assembly.stubs_unique isStub isStub' overrides]

/-- The body of a patched instance stub is its adapter, with calls of patched
stubs bound late. -/
theorem body_install (h : Patched site a p b) (isInstance : p.isStatic = false)
    (enabled : site.config.enabled = true) : ∃ code, synthesize b site.modType = .ok code ∧
      ((install site a).state.method? p).map Method.body =
        some (promoteBody (promoted site a) (.code code)) := by
  obtain ⟨stub, member, rfl⟩ := h
  obtain ⟨isStub, fate⟩ := mem_fates.mp member
  obtain ⟨-, code, synthesized⟩ := fateOf_eq_patched.mp fate
  refine ⟨code, synthesized, ?_⟩
  have body := body_settled isStub (alone_of_instance isStub isInstance)
    (adapter?_of_patched fate synthesized)
  rw [state_install, if_pos enabled, method?_promote, body, Option.map_some]

end Patched

/-! ## The promoted methods -/

theorem contains_patchedSet (site : Site) (a : Assembly) (q : Signature) :
    (patchedSet (fates site a)).contains q = true ↔
      ∃ p b, Patched site a p b ∧ (p == q) = true := by
  rw [patchedSet, MethodSet.contains_ofList, List.any_eq_true]
  constructor
  · rintro ⟨p, member, same⟩
    obtain ⟨⟨stub, fate⟩, inFates, hook⟩ := List.mem_filterMap.mp member
    cases fate with
    | patched b =>
      cases hook
      have patched : Patched site a stub.method b := ⟨stub, inFates, rfl⟩
      exact ⟨stub.method, b, patched, patched.hook_eq ▸ same⟩
    | _ => exact nomatch hook
  · rintro ⟨p, b, ⟨stub, member, rfl⟩, same⟩
    have patched : Patched site a stub.method b := ⟨stub, member, rfl⟩
    exact ⟨b.hook, List.mem_filterMap.mpr ⟨_, member, rfl⟩, patched.hook_eq ▸ same⟩

/-! ## Messages -/

def Logs (j : Journal) : Prop := ∀ e ∈ j, ∃ level message, e = .log level message

theorem logs_nil : Logs [] := nofun

theorem logs_log (level : Level) (message : String) : Logs [.log level message] :=
  List.forall_mem_singleton.mpr ⟨level, message, rfl⟩

theorem logs_append {j j' : Journal} (h : Logs j) (h' : Logs j') : Logs (j ++ j') :=
  List.forall_mem_append.mpr ⟨h, h'⟩

theorem logs_ite {p : Prop} [Decidable p] {level : Level} {message : String} :
    Logs (if p then [] else [.log level message]) := by
  split
  · exact logs_nil
  · exact logs_log _ _

theorem logs_flatMap {α : Type} {f : α → Journal} (h : ∀ x, Logs (f x)) (l : List α) :
    Logs (l.flatMap f) := by
  intro e member
  obtain ⟨x, _, member⟩ := List.mem_flatMap.mp member
  exact h x e member

theorem logs_matchJournal (caller target : Signature) : Logs (matchJournal caller target) := by
  unfold matchJournal
  dsimp only
  split
  · exact logs_log _ _
  · refine logs_append (fun e member => ?_) ?_
    · obtain ⟨move, _, shown⟩ := List.mem_filterMap.mp member
      unfold Move.message? at shown
      split at shown
      · split at shown
        · exact nomatch shown
        · exact ⟨_, _, (Option.some.inj shown).symm⟩
      · exact nomatch shown
    · split
      · exact logs_nil
      · exact logs_log _ _

theorem logs_discoverJournal (stub : Stub) (catalog : Catalog) :
    Logs (discoverJournal stub catalog) := by
  refine logs_flatMap (fun o => logs_append (logs_matchJournal _ _) ?_) _
  split
  · exact logs_log _ _
  · exact logs_nil

theorem logs_fateJournal (site : Site) (stub : Stub) (fate : Fate) :
    Logs (fateJournal site stub fate) := by
  unfold fateJournal
  cases fate with
  | patched b => exact logs_log _ _
  | failed cause => exact logs_log _ _
  | noName =>
    dsimp only
    split
    · exact logs_log _ _
    · exact logs_nil
  | noSignature signatures =>
    dsimp only
    split
    · exact logs_log _ _
    · exact logs_nil

theorem logs_promotionJournal (set : MethodSet) (a : Assembly) :
    Logs (promotionJournal set a) := by
  unfold promotionJournal
  split
  · exact logs_nil
  · refine logs_append (logs_flatMap (fun m e member => ?_) _) (logs_log _ _)
    obtain ⟨i, _, shown⟩ := List.mem_filterMap.mp member
    obtain ⟨_, _, rfl⟩ := Option.map_eq_some_iff.mp shown
    exact ⟨_, _, rfl⟩

theorem logs_install (site : Site) (a : Assembly) : Logs (install site a).journal := by
  unfold install
  split
  · exact logs_log _ _
  · refine logs_append (logs_append (logs_append (logs_append (logs_log _ _) ?_) ?_) ?_) ?_
    · exact logs_flatMap (fun stub => logs_discoverJournal stub _) _
    · exact logs_flatMap (fun entry : Stub × Fate => logs_fateJournal site entry.1 entry.2) _
    · exact logs_promotionJournal _ _
    · exact logs_ite

/-! ## Classes for samples

Their stub takes nothing, so a class can declare it whatever it derives from. -/

def inWorldOn (owner : Ty) : Signature :=
  { owner, name := hookMark ++ "IsInWorld", result := .bool }

def inWorldBinding (owner : Ty) : Binding where
  hook := inWorldOn owner
  target := (Offer.api "IsInWorld" [] .bool Native.inWorld).method
  mapping := { sources := [], skipCost := 0 }

theorem isStubName_inWorld : isStubName (hookMark ++ "IsInWorld") = true := by decide +kernel

theorem discover_inWorldOn (holder owner : Ty) :
    discover { holder, method := inWorldOn owner } .standard = .bound (inWorldBinding owner) := by
  have name : Stub.bareName { holder, method := inWorldOn owner } = "IsInWorld" := by
    show bareName (hookMark ++ "IsInWorld") = _
    decide +kernel
  refine discover_of_named (o := .api "IsInWorld" [] .bool Native.inWorld) ?_ rfl
  rw [name]
  simp [Catalog.named, Catalog.entries, Catalog.standard, sameIgnoringCase_eq, Offer.api,
    Offer.getMod, Offer.getCaller]

theorem settleAll_inWorldOn (site : Site) {owner : Ty} {a' : Assembly}
    (catalog : site.catalog = .standard)
    (only : a.stubs site.holder = [{ holder := site.holder, method := inWorldOn owner }])
    (set : a.setBody? (inWorldOn owner) (.code [.call (inWorldBinding owner).target, .ret]) =
      some a') : settleAll site a (discoverAll a site.holder site.catalog) =
        ([({ holder := site.holder, method := inWorldOn owner },
          .patched (inWorldBinding owner))], a') := by
  have patched : patch a (inWorldBinding owner) site.modType = .ok a' := by
    have code : synthesize (inWorldBinding owner) site.modType =
        .ok [.call (inWorldBinding owner).target, .ret] := rfl
    have set : a.setBody? (inWorldBinding owner).hook
        (.code [.call (inWorldBinding owner).target, .ret]) = some a' := set
    simp only [patch, code, Bind.bind, Except.bind, set]
  rw [discoverAll, only, List.map_singleton, catalog, discover_inWorldOn, settleAll_cons, settle,
    patched]
  rfl

theorem patched_inWorldOn (site : Site) {owner : Ty} {a' : Assembly}
    (catalog : site.catalog = .standard)
    (only : a.stubs site.holder = [{ holder := site.holder, method := inWorldOn owner }])
    (set : a.setBody? (inWorldOn owner) (.code [.call (inWorldBinding owner).target, .ret]) =
      some a') : Patched site a (inWorldOn owner) (inWorldBinding owner) := by
  refine ⟨{ holder := site.holder, method := inWorldOn owner }, ?_, rfl⟩
  rw [fates, settleAll_inWorldOn site catalog only set]
  exact List.mem_singleton_self _

def sampleHome : Ty := .cls "Home" (some .mod) [] .concrete true

def sampleHeir : Ty := .cls "Heir" (some sampleHome) [] .concrete true

/-- Two classes declare one stub, and a method of the lower one calls it by the
name of the upper one. -/
def sampleHeirs : Assembly :=
  { name := "Heirs"
    classes := [
      { type := sampleHome
        declarations := [{ name := hookMark ++ "IsInWorld", result := .bool }] },
      { type := sampleHeir
        declarations := [
          { name := hookMark ++ "IsInWorld", result := .bool },
          { name := "Ask", result := .bool
            body := .code [.loadArg 0, .call (inWorldOn sampleHome), .ret] }] }] }

theorem stubs_sampleHeirs {t : Ty} (h : t = sampleHome ∨ t = sampleHeir) :
    sampleHeirs.stubs t = [{ holder := t, method := inWorldOn t }] := by
  have other : isStubName "Ask" = false := by decide +kernel
  have home : (sampleHeirs.hierarchy sampleHome).flatMap (·.methods) =
      [{ signature := inWorldOn sampleHome, body := .missing }] := rfl
  have heir : (sampleHeirs.hierarchy sampleHeir).flatMap (·.methods) = [
      { signature := inWorldOn sampleHeir, body := .missing },
      { signature := { owner := sampleHeir, name := "Ask", result := .bool }
        body := .code [.loadArg 0, .call (inWorldOn sampleHome), .ret] },
      { signature := inWorldOn sampleHome, body := .missing }] := rfl
  rcases h with rfl | rfl
  · rw [Assembly.stubs, home]
    simp [Assembly.addStub, isStubName_inWorld, inWorldOn]
  · rw [Assembly.stubs, heir]
    simp [Assembly.addStub, isStubName_inWorld, other, inWorldOn, Signature.overrides,
      Signature.hasShape, Ty.sameAll]

/-- Either class has its own stub patched, and only that. -/
theorem settleAll_sampleHeirs (site : Site) (catalog : site.catalog = .standard)
    (h : site.holder = sampleHome ∨ site.holder = sampleHeir) :
    ∃ a', sampleHeirs.setBody? (inWorldOn site.holder)
        (.code [.call (inWorldBinding site.holder).target, .ret]) = some a' ∧
      settleAll site sampleHeirs (discoverAll sampleHeirs site.holder site.catalog) =
        ([({ holder := site.holder, method := inWorldOn site.holder },
          .patched (inWorldBinding site.holder))], a') := by
  have set : ∃ a', sampleHeirs.setBody? (inWorldOn site.holder)
      (.code [.call (inWorldBinding site.holder).target, .ret]) = some a' := by
    rcases h with holder | holder <;> (rw [holder]; exact ⟨_, rfl⟩)
  obtain ⟨a', set⟩ := set
  exact ⟨a', set, settleAll_inWorldOn site catalog (stubs_sampleHeirs h) set⟩

theorem patched_sampleHeirs (site : Site) (catalog : site.catalog = .standard)
    (h : site.holder = sampleHome ∨ site.holder = sampleHeir) :
    Patched site sampleHeirs (inWorldOn site.holder) (inWorldBinding site.holder) := by
  obtain ⟨_, set, _⟩ := settleAll_sampleHeirs site catalog h
  exact patched_inWorldOn site catalog (stubs_sampleHeirs h) set

end Bridge

end ModSettings
