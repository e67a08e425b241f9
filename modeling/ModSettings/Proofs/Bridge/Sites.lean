/-
Call sites as they are listed and as they are rewritten.

One walk over an assembly lists the call sites of a set of methods, and another
rewrites instructions and counts what it did.  `promote_callSites` says that the
two see the same: an instruction changes where the list has a site and nowhere
else, the counts are those of the list, and nothing is left for a second pass.
-/
import Mathlib.Data.List.Forall2
import ModSettings.Proofs.Bridge.Promotion

namespace ModSettings

namespace Bridge

variable {set : MethodSet} {m : Method} {a : Assembly}

/-! ## What is listed -/

theorem sitesIn_of_code {code : List Instruction} (body : m.body = .code code) :
    sitesIn set m = code.zipIdx.filterMap fun x => (promotable? set x.1).map fun target =>
      { caller := m.signature, offset := x.2, target } := by
  rw [sitesIn, body]
  rfl

theorem sitesIn_of_none (body : m.body.instructions? = none) : sitesIn set m = [] := by
  rw [sitesIn, body]

theorem exists_code (m : Method) :
    m.body.instructions? = none ∨ ∃ code, m.body = .code code := by
  cases m.body with
  | code code => exact Or.inr ⟨code, rfl⟩
  | _ => exact Or.inl rfl

/-- The sites of a method are the early-bound calls in its body of instance methods
of the set. -/
theorem mem_sitesIn {site : CallSite} : site ∈ sitesIn set m ↔ site.caller = m.signature ∧
    ∃ code, m.body = .code code ∧ code[site.offset]? = some (.call site.target) ∧
      IsLate set site.target := by
  rcases exists_code m with none | ⟨code, body⟩
  · rw [sitesIn_of_none none]
    refine ⟨nofun, ?_⟩
    rintro ⟨-, code, body, -⟩
    rw [body] at none
    exact nomatch none
  · rw [sitesIn_of_code body, List.mem_filterMap]
    constructor
    · rintro ⟨⟨i, offset⟩, here, listed⟩
      obtain ⟨target, found, rfl⟩ := Option.map_eq_some_iff.mp listed
      obtain ⟨rfl, late⟩ := promotable?_eq_some_iff.mp found
      exact ⟨rfl, code, body, List.mem_zipIdx_iff_getElem?.mp here, late⟩
    · rintro ⟨caller, code', body', here, late⟩
      obtain rfl := Body.code.inj (body.symm.trans body')
      refine ⟨(.call site.target, site.offset), List.mem_zipIdx_iff_getElem?.mpr here, ?_⟩
      rw [promotable?_eq_some_iff.mpr ⟨rfl, late⟩, ← caller]
      rfl

/-- The sites of a method are listed in the order of its instructions. -/
theorem pairwise_sitesIn (set : MethodSet) (m : Method) :
    (sitesIn set m).Pairwise fun site site' => site.offset < site'.offset := by
  rcases exists_code m with none | ⟨code, body⟩
  · rw [sitesIn_of_none none]
    exact .nil
  · have offsets : code.zipIdx.Pairwise fun x y => x.2 < y.2 := by
      rw [← List.pairwise_map (f := Prod.snd) (R := (· < ·)), List.zipIdx_map_snd]
      exact List.pairwise_lt_range' 1
    rw [sitesIn_of_code body, List.pairwise_filterMap]
    refine offsets.imp fun before site listed site' listed' => ?_
    obtain ⟨_, _, rfl⟩ := Option.map_eq_some_iff.mp listed
    obtain ⟨_, _, rfl⟩ := Option.map_eq_some_iff.mp listed'
    exact before

theorem length_sitesIn (set : MethodSet) {code : List Instruction} (body : m.body = .code code) :
    (sitesIn set m).length = code.countP fun i => (promotable? set i).isSome := by
  rw [sitesIn_of_code body, List.length_filterMap_eq_countP]
  conv_rhs => rw [← List.zipIdx_map_fst 0 code, List.countP_map]
  exact List.countP_congr fun x _ => by rw [Option.isSome_map]; rfl

/-! ## What is rewritten -/

/-- The second method is the first with the calls at the sites bound late, and with
all its other instructions. -/
structure ChangedAt (sites : List CallSite) (m m' : Method) : Prop where
  signature : m'.signature = m.signature
  /-- A body that is native or missing stays what it is. -/
  other : m.body.instructions? = none → m'.body = m.body
  code : ∀ code, m.body = .code code → ∃ code', m'.body = .code code' ∧
    code'.length = code.length ∧
    (∀ site ∈ sites, code[site.offset]? = some (.call site.target) ∧
      code'[site.offset]? = some (.callVirtual site.target)) ∧
    ∀ k, (∀ site ∈ sites, site.offset ≠ k) → code'[k]? = code[k]?

theorem promoteBody_of_none {body : Body} (h : body.instructions? = none) :
    promoteBody set body = body := by
  cases body with
  | code code => exact nomatch h
  | _ => rfl

theorem changedAt_promoteMethod (set : MethodSet) (m : Method) :
    ChangedAt (sitesIn set m) m (promoteMethod set m) where
  signature := rfl
  other none := promoteBody_of_none none
  code code body := by
    refine ⟨code.map (promoteInstruction set), congrArg (promoteBody set) body, List.length_map _,
      fun site member => ?_, fun k free => ?_⟩
    · obtain ⟨-, code', body', here, late⟩ := mem_sitesIn.mp member
      obtain rfl := Body.code.inj (body.symm.trans body')
      rw [List.getElem?_map, here, Option.map_some,
        promoteInstruction_of_some (promotable?_eq_some_iff.mpr ⟨rfl, late⟩)]
      exact ⟨rfl, rfl⟩
    · rw [List.getElem?_map]
      cases here : code[k]? with
      | none => rfl
      | some i =>
        have unlisted : promotable? set i = none := by
          refine Option.eq_none_iff_forall_ne_some.mpr fun target found => ?_
          obtain ⟨rfl, late⟩ := promotable?_eq_some_iff.mp found
          exact free ⟨m.signature, k, target⟩ (mem_sitesIn.mpr ⟨rfl, code, body, here, late⟩) rfl
        rw [Option.map_some, promoteInstruction_of_none unlisted]

/-! ## What is counted -/

theorem countMethod_of_code {code : List Instruction} (body : m.body = .code code)
    (report : PromotionReport) : countMethod set report m =
      { scanned := report.scanned + 1
        rewritten := report.rewritten + if !(sitesIn set m).isEmpty then 1 else 0
        promoted := report.promoted + (sitesIn set m).length } := by
  have count := length_sitesIn set body
  rw [countMethod, body]
  simp only [Body.instructions?, ← count]
  cases sitesIn set m <;> rfl

theorem countMethod_of_none (body : m.body.instructions? = none) (report : PromotionReport) :
    countMethod set report m = report := by
  rw [countMethod, body]

/-- Counted one after the other, methods add up to what their list of sites says. -/
theorem foldl_countMethod (set : MethodSet) (methods : List Method) (report : PromotionReport) :
    methods.foldl (countMethod set) report =
      { scanned := report.scanned + methods.countP fun m => m.body.instructions?.isSome
        rewritten := report.rewritten + methods.countP fun m => !(sitesIn set m).isEmpty
        promoted := report.promoted + (methods.flatMap (sitesIn set)).length } := by
  induction methods generalizing report with
  | nil => rfl
  | cons m rest ih =>
    rw [List.foldl_cons, ih, List.countP_cons, List.countP_cons, List.flatMap_cons,
      List.length_append]
    rcases exists_code m with none | ⟨code, body⟩
    · rw [countMethod_of_none none, none, sitesIn_of_none none, List.length_nil, Nat.zero_add]
      rfl
    · have scanned : m.body.instructions?.isSome = true := by rw [body]; rfl
      rw [countMethod_of_code body, if_pos scanned, PromotionReport.mk.injEq]
      dsimp only
      omega

theorem promotionReport_eq (h : set.isEmpty = false) (a : Assembly) : promotionReport set a =
    { scanned := a.methods.countP fun m => m.body.instructions?.isSome
      rewritten := a.methods.countP fun m => !(sitesIn set m).isEmpty
      promoted := (callSites a set).length } := by
  rw [promotionReport, h, if_neg Bool.false_ne_true, foldl_countMethod]
  simp only [Nat.zero_add, callSites]

/-! ## What is left -/

theorem promotable?_promoteInstruction (set : MethodSet) (i : Instruction) :
    promotable? set (promoteInstruction set i) = none := by
  cases found : promotable? set i with
  | none => rw [promoteInstruction_of_none found, found]
  | some target =>
    rw [promoteInstruction_of_some found]
    rfl

theorem promoteBody_promoteBody (set : MethodSet) (body : Body) :
    promoteBody set (promoteBody set body) = promoteBody set body := by
  cases body with
  | code code =>
    rw [promoteBody, promoteBody, List.map_map]
    refine congrArg Body.code (List.map_congr_left fun i _ => ?_)
    exact promoteInstruction_of_none (promotable?_promoteInstruction set i)
  | _ => rfl

theorem sitesIn_promoteMethod (set : MethodSet) (m : Method) :
    sitesIn set (promoteMethod set m) = [] := by
  refine List.eq_nil_iff_forall_not_mem.mpr fun site member => ?_
  obtain ⟨-, code', body', here, late⟩ := mem_sitesIn.mp member
  rcases exists_code m with none | ⟨code, body⟩
  · rw [promoteMethod, promoteBody_of_none none] at body'
    rw [body'] at none
    exact nomatch none
  · have mapped : code.map (promoteInstruction set) = code' :=
      Body.code.inj ((congrArg (promoteBody set) body).symm.trans body')
    rw [← mapped, List.getElem?_map] at here
    obtain ⟨i, -, promoted⟩ := Option.map_eq_some_iff.mp here
    have settled := promotable?_promoteInstruction set i
    rw [promoted, promotable?_eq_some_iff.mpr ⟨rfl, late⟩] at settled
    exact nomatch settled

theorem sitesIn_promoted {m : Method} (h : m ∈ (promote set a).methods) : sitesIn set m = [] := by
  rw [methods_promote] at h
  obtain ⟨before, -, rfl⟩ := List.mem_map.mp h
  exact sitesIn_promoteMethod set before

theorem promote_promote (set : MethodSet) (a : Assembly) :
    promote set (promote set a) = promote set a := by
  rw [promote, promote, Assembly.mapBodies_mapBodies]
  exact congrArg a.mapBodies (funext (promoteBody_promoteBody set))

/-! ## A pass for no methods -/

theorem promotable?_of_isEmpty (h : set.isEmpty = true) (i : Instruction) :
    promotable? set i = none := by
  refine Option.eq_none_iff_forall_ne_some.mpr fun target found => ?_
  obtain ⟨-, -, member⟩ := promotable?_eq_some_iff.mp found
  rw [MethodSet.contains, List.isEmpty_iff.mp h] at member
  exact nomatch member

theorem sitesIn_of_isEmpty (h : set.isEmpty = true) (m : Method) : sitesIn set m = [] := by
  refine List.eq_nil_iff_forall_not_mem.mpr fun site member => ?_
  obtain ⟨-, -, -, -, late⟩ := mem_sitesIn.mp member
  have none := promotable?_of_isEmpty h (.call site.target)
  rw [promotable?_eq_some_iff.mpr ⟨rfl, late⟩] at none
  exact nomatch none

theorem promote_of_isEmpty (h : set.isEmpty = true) (a : Assembly) : promote set a = a := by
  have same : promoteBody set = id := by
    funext body
    cases body with
    | code code =>
      rw [promoteBody, List.map_congr_left fun i _ =>
        promoteInstruction_of_none (promotable?_of_isEmpty h i), List.map_id']
      rfl
    | _ => rfl
  rw [promote, same, Assembly.mapBodies_id]

/-! ## The list and the pass -/

/-- What a pass does to an assembly is what the list of its call sites says. -/
structure AgreesWithSites (set : MethodSet) (a : Assembly) : Prop where
  listed : callSites a set = a.methods.flatMap (sitesIn set)
  /-- The sites of a method are the calls that are to be bound late, and no others. -/
  sites : ∀ m site, site ∈ sitesIn set m ↔ site.caller = m.signature ∧
    ∃ code, m.body = .code code ∧ code[site.offset]? = some (.call site.target) ∧
      IsLate set site.target
  ordered : ∀ m, (sitesIn set m).Pairwise fun site site' => site.offset < site'.offset
  outline : (promote set a).outline = a.outline
  changed : List.Forall₂ (fun m m' => ChangedAt (sitesIn set m) m m') a.methods
    (promote set a).methods
  scanned : (promotionReport set a).scanned = a.methods.countP fun m => m.body.instructions?.isSome
  rewritten : (promotionReport set a).rewritten =
    a.methods.countP fun m => !(sitesIn set m).isEmpty
  promoted : (promotionReport set a).promoted = (callSites a set).length
  left : callSites (promote set a) set = []
  again : promote set (promote set a) = promote set a
  /-- The report on a second pass: it looks at the same bodies and changes none. -/
  second : promotionReport set (promote set a) =
    { scanned := (promotionReport set a).scanned, rewritten := 0, promoted := 0 }

/-- Call sites are rewritten where they are listed and nowhere else, and they are
counted as they are listed.  A pass for no methods finds and changes nothing. -/
theorem promote_callSites (set : MethodSet) (a : Assembly) :
    (set.isEmpty = false → AgreesWithSites set a) ∧
      (set.isEmpty = true →
        callSites a set = [] ∧ promote set a = a ∧ promotionReport set a = {}) := by
  have left : callSites (promote set a) set = [] :=
    List.flatMap_eq_nil_iff.mpr fun m => sitesIn_promoted
  constructor
  · intro some
    have report := promotionReport_eq some a
    refine ⟨rfl, fun m site => mem_sitesIn, pairwise_sitesIn set, outline_promote set a, ?_,
      congrArg _ report, congrArg _ report, congrArg _ report, left, promote_promote set a, ?_⟩
    · rw [methods_promote, List.forall₂_map_right_iff, List.forall₂_same]
      exact fun m _ => changedAt_promoteMethod set m
    · have unchanged : (promote set a).methods.countP (fun m => !(sitesIn set m).isEmpty) = 0 := by
        refine List.countP_eq_zero.mpr fun m member => ?_
        rw [sitesIn_promoted member]
        exact Bool.false_ne_true
      have bodies : (promote set a).methods.countP (fun m => m.body.instructions?.isSome) =
          a.methods.countP fun m => m.body.instructions?.isSome := by
        rw [methods_promote, List.countP_map]
        refine List.countP_congr fun m _ => ?_
        rw [Function.comp_apply, promoteMethod]
        cases m.body <;> rfl
      rw [promotionReport_eq some, promotionReport_eq some, unchanged, bodies, left]
      rfl
  · intro none
    refine ⟨?_, promote_of_isEmpty none a, ?_⟩
    · exact List.flatMap_eq_nil_iff.mpr fun m _ => sitesIn_of_isEmpty none m
    · rw [promotionReport, if_pos none]

/-! ## A sample -/

def sampleStatic : Signature := { sampleAnswer with name := "Shared", isStatic := true }

def sampleStubs : MethodSet := { methods := [sampleAnswer, sampleStatic] }

/-- Beside two call sites a body calls a static method of the set and, late-bound
already, an instance method of it. -/
def sampleMixed : Assembly :=
  { name := "Mixed"
    classes := [{
      type := sampleHolder
      declarations := [
        { name := "Answer", result := .int, body := .code [.loadInt 42, .ret] },
        { name := "Shared", result := .int, isStatic := true, body := .native Native.count },
        { name := "Ask", result := .int
          body := .code [.loadArg 0, .call sampleAnswer, .call sampleStatic, .loadArg 0,
            .callVirtual sampleAnswer, .loadArg 0, .call sampleAnswer, .ret] }] }] }

theorem promote_callSites_sample : sampleStubs.isEmpty = false ∧
    AgreesWithSites sampleStubs sampleMixed ∧
    (callSites sampleMixed sampleStubs).map (fun site => (site.caller.name, site.offset)) =
      [("Ask", 1), ("Ask", 6)] :=
  ⟨rfl, (promote_callSites sampleStubs sampleMixed).1 rfl, rfl⟩

end Bridge

end ModSettings
