/-
Which mappings have an adapter.

Matching lets any handle stand for any other, but an adapter can only lead from an
event caller to its mod and back.  And an instruction has two bytes for the
position of an argument.  `synthesize_mapping?` says that nothing else comes
between a mapping and its adapter, and what is reported where something does.
-/
import ModSettings.Proofs.Bridge.Install

namespace ModSettings

/-- The binding whose adapter the stub was given. -/
def Fate.binding? : Fate → Option Binding
  | .patched b => some b
  | _ => none

namespace Bridge

/-- The two types are handles of one kind, and only of that kind, and the slot
does not let the declared type in. -/
def Clash (declared slot : Ty) : Prop :=
  slot.accepts declared = false ∧
    ((declared.isModHandle = true ∧ declared.isCallerHandle = false ∧
        slot.isModHandle = true ∧ slot.isCallerHandle = false) ∨
      (declared.isCallerHandle = true ∧ declared.isModHandle = false ∧
        slot.isCallerHandle = true ∧ slot.isModHandle = false))

/-- Why the value of a slot cannot be loaded. -/
inductive Offends (hook : Signature) (slot : Ty) : Source → SynthesisError → Prop
  | far {index : Nat} (beyond : lastOperand < index) :
      Offends hook slot (.argument index) (.argumentOutOfRange hook.fullName index)
  | clash {index : Nat} {declared : Ty} (near : index ≤ lastOperand)
      (given : hook.arguments[index]? = some declared) (clash : Clash declared slot) :
      Offends hook slot (.argument index) (.incompatibleArgument index declared.text slot.text)

/-- The error is that of the first slot whose value cannot be loaded. -/
def FirstOffence (hook : Signature) (pairs : List (Ty × Source)) (e : SynthesisError) : Prop :=
  ∃ before slot source after, pairs = before ++ (slot, source) :: after ∧
    (∀ pair ∈ before, ∀ e', ¬Offends hook pair.1 pair.2 e') ∧ Offends hook slot source e

/-- Every argument that the mapping uses is near enough for an instruction, and
none clashes with its slot. -/
structure Adaptable (hook target : Signature) (m : Mapping) : Prop where
  near {index : Nat} : .argument index ∈ m.sources → index ≤ lastOperand
  converts {slot declared : Ty} {index : Nat} :
    (slot, .argument index) ∈ target.arguments.zip m.sources →
      hook.arguments[index]? = some declared → ¬Clash declared slot

/-! ## One slot -/

theorem convertCode?_eq_none_iff {declared slot : Ty} (admits : slot.admits declared = true) :
    convertCode? declared slot = none ↔ Clash declared slot := by
  unfold convertCode? Clash
  cases accepts : slot.accepts declared with
  | true => simp
  | false =>
    rw [Ty.admits, accepts, Bool.false_or, Bool.and_eq_true, Ty.isHandle, Ty.isHandle] at admits
    revert admits
    cases declared.isModHandle <;> cases declared.isCallerHandle <;> cases slot.isModHandle <;>
      cases slot.isCallerHandle <;> simp

/-- The error that a computation ends with, if it does. -/
def failure? {ε α : Type} : Except ε α → Option ε
  | .ok _ => none
  | .error e => some e

section

variable {ε α : Type} {result : Except ε α} {e : ε}

theorem failure?_eq_some_iff : failure? result = some e ↔ result = .error e := by
  cases result <;> simp [failure?]

theorem failure?_eq_none_iff : failure? result = none ↔ ∃ a, result = .ok a := by
  cases result <;> simp [failure?]

end

theorem failure?_slotCode {hook : Signature} {slot : Ty} {source : Source}
    (fits : Fits hook slot source) (modType : Ty) (e : SynthesisError) :
    failure? (slotCode hook hook.arguments.toArray modType slot source) = some e ↔
      Offends hook slot source e := by
  rw [failure?_eq_some_iff]
  cases source with
  | inject => exact ⟨nofun, nofun⟩
  | argument index =>
    obtain ⟨declared, given, admits⟩ := fits
    have converts := convertCode?_eq_none_iff admits
    simp only [slotCode, List.getElem?_toArray, given]
    by_cases beyond : lastOperand < index
    · rw [if_pos beyond]
      constructor
      · rintro ⟨⟩
        exact .far beyond
      · rintro (⟨-⟩ | ⟨near, -, -⟩)
        · rfl
        · exact absurd beyond (Nat.not_lt.mpr near)
    · rw [if_neg beyond]
      constructor
      · intro failed
        cases conversion : convertCode? declared slot with
        | none =>
          rw [conversion] at failed
          cases failed
          exact .clash (Nat.le_of_not_lt beyond) given (converts.mp conversion)
        | some code =>
          rw [conversion] at failed
          cases failed
      · rintro (⟨far⟩ | ⟨-, given', clash⟩)
        · exact absurd far beyond
        · obtain rfl := Option.some.inj (given.symm.trans given')
          rw [converts.mpr clash]

/-! ## All slots -/

/-- A list is worked off up to the first element that fails. -/
theorem failure?_mapM {ε α β : Type} (f : α → Except ε β) (l : List α) :
    failure? (l.mapM f) = l.findSome? (failure? ∘ f) := by
  induction l with
  | nil => rfl
  | cons a rest ih =>
    rw [List.mapM_cons, List.findSome?_cons, ← ih]
    cases here : f a with
    | error e => simp only [Function.comp_apply, here]; rfl
    | ok b =>
      simp only [Function.comp_apply, here, failure?]
      cases rest.mapM f <;> rfl

/-- Once there is a source for every slot, only a slot can keep the adapter from being
made. -/
theorem failure?_synthesize {b : Binding}
    (lengths : b.mapping.sources.length = b.target.arguments.length) (modType : Ty) :
    failure? (synthesize b modType) = (b.target.arguments.zip b.mapping.sources).findSome?
      fun pair => failure? (slotCode b.hook b.hook.arguments.toArray modType pair.1 pair.2) := by
  refine Eq.trans ?_ (failure?_mapM _ _)
  rw [synthesize_eq lengths]
  cases (b.target.arguments.zip b.mapping.sources).mapM fun pair =>
    slotCode b.hook b.hook.arguments.toArray modType pair.1 pair.2 <;> rfl

section

variable {hook target : Signature} {m : Mapping} (h : mapping? hook target = some m)
include h

theorem fits_of_mem_zip {slot : Ty} {source : Source}
    (member : (slot, source) ∈ target.arguments.zip m.sources) : Fits hook slot source :=
  (List.forall₂_iff_zip.mp (fits_of_mapping? h)).2 member

theorem failure?_of_mem_zip {pair : Ty × Source} (member : pair ∈ target.arguments.zip m.sources)
    (modType : Ty) (e : SynthesisError) :
    failure? (slotCode hook hook.arguments.toArray modType pair.1 pair.2) = some e ↔
      Offends hook pair.1 pair.2 e :=
  failure?_slotCode (fits_of_mem_zip h member) modType e

theorem failure?_of_mem_zip_eq_none {pair : Ty × Source}
    (member : pair ∈ target.arguments.zip m.sources) (modType : Ty) :
    failure? (slotCode hook hook.arguments.toArray modType pair.1 pair.2) = none ↔
      ∀ e, ¬Offends hook pair.1 pair.2 e := by
  rw [Option.eq_none_iff_forall_ne_some]
  exact forall_congr' fun e => not_congr (failure?_of_mem_zip h member modType e)

theorem synthesize_eq_error_iff (modType : Ty) (e : SynthesisError) :
    synthesize { hook, target, mapping := m } modType = .error e ↔
      FirstOffence hook (target.arguments.zip m.sources) e := by
  rw [← failure?_eq_some_iff, failure?_synthesize (fits_of_mapping? h).length_eq.symm,
    List.findSome?_eq_some_iff]
  constructor
  · rintro ⟨before, ⟨slot, source⟩, after, split, failed, good⟩
    refine ⟨before, slot, source, after, split, fun pair member => ?_, ?_⟩
    · exact (failure?_of_mem_zip_eq_none h (by rw [split]; simp [member]) modType).mp
        (good pair member)
    · exact (failure?_of_mem_zip h (by rw [split]; simp) modType e).mp failed
  · rintro ⟨before, slot, source, after, split, good, offends⟩
    refine ⟨before, (slot, source), after, split, ?_, fun pair member => ?_⟩
    · exact (failure?_of_mem_zip h (by rw [split]; simp) modType e).mpr offends
    · exact (failure?_of_mem_zip_eq_none h (by rw [split]; simp [member]) modType).mpr
        (good pair member)

theorem exists_synthesize_eq_ok_iff (modType : Ty) :
    (∃ code, synthesize { hook, target, mapping := m } modType = .ok code) ↔
      ∀ pair ∈ target.arguments.zip m.sources, ∀ e, ¬Offends hook pair.1 pair.2 e := by
  rw [← failure?_eq_none_iff, failure?_synthesize (fits_of_mapping? h).length_eq.symm,
    List.findSome?_eq_none_iff]
  exact forall₂_congr fun pair member => failure?_of_mem_zip_eq_none h member modType

theorem mem_sources_iff {source : Source} :
    source ∈ m.sources ↔ ∃ slot, (slot, source) ∈ target.arguments.zip m.sources := by
  have seconds : (target.arguments.zip m.sources).map Prod.snd = m.sources :=
    List.map_snd_zip (Nat.le_of_eq (fits_of_mapping? h).length_eq.symm)
  conv_lhs => rw [← seconds, List.mem_map]
  simp

theorem adaptable_iff : Adaptable hook target m ↔
    ∀ pair ∈ target.arguments.zip m.sources, ∀ e, ¬Offends hook pair.1 pair.2 e := by
  constructor
  · rintro adaptable ⟨slot, source⟩ member e (beyond | ⟨-, given, clash⟩)
    · exact absurd beyond
        (Nat.not_lt.mpr (adaptable.near ((mem_sources_iff h).mpr ⟨slot, member⟩)))
    · exact adaptable.converts member given clash
  · intro good
    refine ⟨fun used => ?_, fun member given clash => ?_⟩
    · obtain ⟨slot, member⟩ := (mem_sources_iff h).mp used
      exact Nat.le_of_not_lt fun beyond => good _ member _ (.far beyond)
    · rcases Nat.lt_or_ge lastOperand _ with beyond | near
      · exact good _ member _ (.far beyond)
      · exact good _ member _ (.clash near given clash)

end

/-! ## Failed stubs -/

theorem hookNotFound_notMem_fates (site : Site) (a : Assembly) (stub : Stub) (name : String) :
    (stub, .failed (.hookNotFound name)) ∉ fates site a := by
  intro failed
  obtain ⟨b, found, synthesized⟩ := fateOf_eq_failed.mp (mem_fates.mp failed).2
  obtain ⟨o, -, hook, target, mapped⟩ := discover_eq_bound found
  rw [← hook, ← target] at mapped
  obtain ⟨_, _, _, _, _, _, offends⟩ := (synthesize_eq_error_iff mapped _ _).mp synthesized
  exact nomatch offends

/-- Stubs that are not patched leave no trace: the patched ones alone make of an
assembly what settling all of them does. -/
theorem foldlM_patch_settleAll (site : Site) (a : Assembly) (found : List (Stub × Discovery)) :
    ((settleAll site a found).1.filterMap fun entry => entry.2.binding?).foldlM
      (fun now b => patch now b site.modType) a = .ok (settleAll site a found).2 := by
  induction found generalizing a with
  | nil => rfl
  | cons entry rest ih =>
    obtain ⟨stub, d⟩ := entry
    rw [settleAll_cons]
    rcases settle_cases site a d with ⟨b, a', -, patched, done⟩ | ⟨fate, done, unpatched⟩
    · rw [done]
      show (patch a b site.modType >>= fun now => List.foldlM _ now _) = _
      rw [patched]
      exact ih a'
    · have none : fate.binding? = none := by
        cases fate with
        | patched b => exact nomatch unpatched
        | _ => rfl
      rw [done]
      simp only [List.filterMap_cons, none]
      exact ih a

/-! ## The gap between matching and adapting -/

/-- A mapping has an adapter exactly if it is adaptable, and otherwise the first
slot that offends is reported.  Stubs of an assembly fail for no other reason,
and those that fail leave the assembly as it is. -/
theorem synthesize_mapping? :
    (∀ {hook target : Signature} {m : Mapping}, mapping? hook target = some m → ∀ modType : Ty,
      ((∃ code, synthesize { hook, target, mapping := m } modType = .ok code) ↔
        Adaptable hook target m) ∧
      (∀ e, synthesize { hook, target, mapping := m } modType = .error e ↔
        FirstOffence hook (target.arguments.zip m.sources) e) ∧
      ∀ name expected found, synthesize { hook, target, mapping := m } modType ≠
        .error (.mappingLength name expected found)) ∧
    ∀ (site : Site) (a : Assembly),
      (∀ stub name, (stub, Fate.failed (.hookNotFound name)) ∉ fates site a) ∧
      (∀ b cause, patch a b site.modType = .error cause →
        settle site a (.bound b) = (.failed cause, a)) ∧
      ((fates site a).filterMap fun entry => entry.2.binding?).foldlM
        (fun now b => patch now b site.modType) a = .ok (settled site a) := by
  refine ⟨fun h modType => ⟨?_, synthesize_eq_error_iff h modType, fun _ _ _ failed => ?_⟩,
    fun site a => ⟨hookNotFound_notMem_fates site a, fun b cause failed => ?_, ?_⟩⟩
  · rw [exists_synthesize_eq_ok_iff h, adaptable_iff h]
  · obtain ⟨_, _, _, _, _, _, offends⟩ := (synthesize_eq_error_iff h _ _).mp failed
    exact nomatch offends
  · rw [settle, failed]
  · exact foldlM_patch_settleAll site a _

/-- A stub that has a mod of any kind to give to a method that wants one of its
own. -/
def sampleLoose : Signature :=
  { owner := sampleMain, name := hookMark ++ "Own", params := [.mod], result := .void
    isStatic := true }

def sampleOwn : Signature := (Offer.api "Own" [sampleMain] .void Native.inWorld).method

theorem synthesize_mapping?_sample :
    mapping? sampleLoose sampleOwn = some { sources := [.argument 0], skipCost := 0 } ∧
      ¬Adaptable sampleLoose sampleOwn { sources := [.argument 0], skipCost := 0 } ∧
      FirstOffence sampleLoose [(sampleMain, .argument 0)]
        (.incompatibleArgument 0 "Mod" "Sample") := by
  have mapped : mapping? sampleLoose sampleOwn =
      some { sources := [.argument 0], skipCost := 0 } := by decide
  have failed : synthesize ⟨sampleLoose, sampleOwn, { sources := [.argument 0], skipCost := 0 }⟩
      sampleMain = .error (.incompatibleArgument 0 "Mod" "Sample") := rfl
  obtain ⟨succeeds, fails, -⟩ := synthesize_mapping?.1 mapped sampleMain
  refine ⟨mapped, fun adaptable => ?_, (fails _).mp failed⟩
  obtain ⟨code, done⟩ := succeeds.mpr adaptable
  rw [failed] at done
  exact nomatch done

end Bridge
end ModSettings
