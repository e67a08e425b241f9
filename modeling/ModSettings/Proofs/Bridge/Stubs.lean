/-
The stubs of a holder.

They are gathered from the holder's class upwards, and a method is passed over
when a stub found before overrides it.  So no two stubs override each other, and
an instance stub is what late binding finds for it on the holder.  `selected_stubs`
says this of all stubs at once: gathering them is one walk, late binding another,
and the two agree.
-/
import Mathlib.Data.List.Pairwise
import ModSettings.Bridge.Discovery
import ModSettings.Proofs.Program.Lookup

namespace ModSettings

namespace Assembly

/-- What the stubs found among the methods seen so far have to do with them. -/
structure Gathered (seen : List Method) (found : List Stub) : Prop where
  /-- No method in front of an instance stub overrides it. -/
  first : ∀ s ∈ found, s.method.isStatic = false →
    (seen.find? fun m => m.signature.overrides s.method).map (·.signature) = some s.method
  covered : ∀ m ∈ seen, isStubName m.signature.name = true → m.signature.isStatic = false →
    ∃ s ∈ found, s.method.overrides m.signature = true
  apart : found.Pairwise fun s s' => s.method.overrides s'.method = false

namespace Gathered

variable {seen : List Method} {found : List Stub}

theorem addStub (h : Gathered seen found) (holder : Ty) (m : Method) :
    Gathered (seen ++ [m]) (addStub holder found m) := by
  unfold Assembly.addStub
  have first : ∀ s ∈ found, s.method.isStatic = false →
      ((seen ++ [m]).find? fun m => m.signature.overrides s.method).map (·.signature) =
        some s.method := by
    intro s member isInstance
    have before := h.first s member isInstance
    obtain ⟨m', found, same⟩ := Option.map_eq_some_iff.mp before
    rw [List.find?_append, found, Option.some_or, Option.map_some, same]
  by_cases new : (isStubName m.signature.name &&
      !found.any (·.method.overrides m.signature)) = true
  · rw [if_pos new]
    obtain ⟨name, unseen⟩ := Bool.and_eq_true_iff.mp new
    rw [Bool.not_eq_true', List.any_eq_false] at unseen
    have free : ∀ s ∈ found, s.method.overrides m.signature = false := fun s member =>
      Bool.eq_false_iff.mpr (unseen s member)
    refine ⟨?_, ?_, ?_⟩
    · refine List.forall_mem_append.mpr ⟨first, List.forall_mem_singleton.mpr fun isInstance => ?_⟩
      -- a method that overrides the new stub would be covered by an older one
      have none : seen.find? (fun m' => m'.signature.overrides m.signature) = none := by
        refine List.find?_eq_none.mpr fun m' member overrides => ?_
        obtain ⟨left, _, same, _⟩ := Signature.overrides_iff.mp overrides
        obtain ⟨s, old, covers⟩ := h.covered m' member (same ▸ name) left
        have both := Signature.overrides_trans covers overrides
        rw [free s old] at both
        exact Bool.false_ne_true both
      have here : [m].find? (fun m' => m'.signature.overrides m.signature) = some m :=
        List.find?_cons_of_pos (Signature.overrides_self isInstance)
      rw [List.find?_append, none, Option.none_or, here]
      rfl
    · refine List.forall_mem_append.mpr ⟨fun m' member name' isInstance => ?_,
        List.forall_mem_singleton.mpr fun _ isInstance => ?_⟩
      · obtain ⟨s, old, covers⟩ := h.covered m' member name' isInstance
        exact ⟨s, List.mem_append_left _ old, covers⟩
      · exact ⟨_, List.mem_append_right _ (List.mem_singleton_self _),
          Signature.overrides_self isInstance⟩
    · refine List.pairwise_append.mpr
        ⟨h.apart, List.pairwise_singleton _ _, fun s old s' last => ?_⟩
      obtain rfl := List.mem_singleton.mp last
      exact free s old
  · rw [if_neg new]
    refine ⟨first, ?_, h.apart⟩
    refine List.forall_mem_append.mpr ⟨h.covered, List.forall_mem_singleton.mpr fun name _ => ?_⟩
    rw [name, Bool.true_and, Bool.not_eq_true', Bool.not_eq_false, List.any_eq_true] at new
    exact new

theorem foldl (h : Gathered seen found) (holder : Ty) (rest : List Method) :
    Gathered (seen ++ rest) (rest.foldl (Assembly.addStub holder) found) := by
  induction rest generalizing seen found with
  | nil =>
    rw [List.append_nil]
    exact h
  | cons m rest ih =>
    rw [List.append_cons, List.foldl_cons]
    exact ih (h.addStub holder m)

end Gathered

variable {a : Assembly} {holder : Ty} {s s' : Stub}

theorem gathered_stubs (a : Assembly) (holder : Ty) :
    Gathered ((a.hierarchy holder).flatMap (·.methods)) (a.stubs holder) := by
  have start : Gathered [] [] := ⟨nofun, nofun, .nil⟩
  exact start.foldl holder _

/-- Late binding on the holder as a search of all methods that its classes
declare. -/
theorem resolveVirtual?_eq_find? (a : Assembly) (runtime : Ty) (target : Signature) :
    a.resolveVirtual? runtime target =
      (((a.hierarchy runtime).flatMap (·.methods)).find? fun m =>
        m.signature.overrides target).map (·.signature) := by
  rw [resolveVirtual?, List.find?_flatMap]
  rfl

theorem resolveVirtual?_stub (h : s ∈ a.stubs holder) (isInstance : s.method.isStatic = false) :
    a.resolveVirtual? holder s.method = some s.method := by
  rw [resolveVirtual?_eq_find?]
  exact (gathered_stubs a holder).first s h isInstance

theorem stubs_unique (h : s ∈ a.stubs holder) (h' : s' ∈ a.stubs holder)
    (overrides : s.method.overrides s'.method = true) : s = s' := by
  by_contra differ
  have symmetric : Std.Symm fun s s' : Stub => s.method.overrides s'.method = false := by
    refine ⟨fun s s' apart => Bool.eq_false_iff.mpr fun back => ?_⟩
    rw [Signature.overrides_symm back] at apart
    exact absurd apart nofun
  have apart := (gathered_stubs a holder).apart.forall h h' differ
  rw [apart] at overrides
  exact Bool.false_ne_true overrides

/-! ## What late binding selects -/

/-- The name starts with the mark and is not that of an event hook. -/
def Marked (name : String) : Prop :=
  name.startsWith hookMark = true ∧ ∀ kind : EventKind, name ≠ kind.hookName

theorem isStubName_iff {name : String} : isStubName name = true ↔ Marked name := by
  rw [Marked, isStubName, Bool.and_eq_true, Option.isNone_iff_eq_none, EventKind.ofHookName?,
    List.find?_eq_none]
  refine and_congr_right' ⟨fun none kind same => ?_, fun none kind _ => ?_⟩
  · exact none kind kind.mem_all (beq_iff_eq.mpr same.symm)
  · exact fun same => none kind (beq_iff_eq.mp same).symm

theorem mem_addStub {found : List Stub} {m : Method} : s ∈ addStub holder found m ↔ s ∈ found ∨
    s = { holder, method := m.signature } ∧ isStubName m.signature.name = true ∧
      ∀ s' ∈ found, s'.method.overrides m.signature = false := by
  have test : (isStubName m.signature.name && !found.any (·.method.overrides m.signature)) = true ↔
      isStubName m.signature.name = true ∧
        ∀ s' ∈ found, s'.method.overrides m.signature = false := by
    simp
  rw [addStub, ← test]
  by_cases new : (isStubName m.signature.name && !found.any (·.method.overrides m.signature)) = true
  · rw [if_pos new, List.mem_append, List.mem_singleton, and_iff_left new]
  · rw [if_neg new]
    exact (or_iff_left fun added => new added.2).symm

/-- A stub carries the mark and is declared on the base chain of its holder. -/
theorem declared_of_mem_stubs (h : s ∈ a.stubs holder) : s.holder = holder ∧
    isStubName s.method.name = true ∧
      ∃ m ∈ (a.hierarchy holder).flatMap (·.methods), m.signature = s.method := by
  suffices all : ∀ (rest : List Method) (found : List Stub), s ∈ rest.foldl (addStub holder) found →
      s ∈ found ∨ s.holder = holder ∧ isStubName s.method.name = true ∧
        ∃ m ∈ rest, m.signature = s.method from
    (all _ _ h).resolve_left List.not_mem_nil
  intro rest
  induction rest with
  | nil => exact fun found old => Or.inl old
  | cons m rest ih =>
    intro found added
    rcases ih _ added with here | ⟨same, name, m', member, declared⟩
    · refine (mem_addStub.mp here).imp_right ?_
      rintro ⟨rfl, name, _⟩
      exact ⟨rfl, name, m, List.mem_cons_self, rfl⟩
    · exact Or.inr ⟨same, name, m', List.mem_cons_of_mem _ member, declared⟩

theorem isSome_method?_of_mem_stubs (h : s ∈ a.stubs holder) :
    (a.method? s.method).isSome = true := by
  obtain ⟨_, _, m, declared, same⟩ := declared_of_mem_stubs h
  obtain ⟨c, above, inside⟩ := List.mem_flatMap.mp declared
  rw [← same]
  exact isSome_method? above inside

/-- A static method is never passed over. -/
theorem mem_stubs_of_static {m : Method} (h : m ∈ (a.hierarchy holder).flatMap (·.methods))
    (name : isStubName m.signature.name = true) (static : m.signature.isStatic = true) :
    { holder, method := m.signature } ∈ a.stubs holder := by
  have kept : ∀ (rest : List Method) (found : List Stub),
      found ⊆ rest.foldl (addStub holder) found := by
    intro rest
    induction rest with
    | nil => exact fun found => List.Subset.refl _
    | cons m rest ih =>
      exact fun found => List.Subset.trans (fun s old => mem_addStub.mpr (Or.inl old)) (ih _)
  obtain ⟨before, after, split⟩ := List.append_of_mem h
  rw [stubs, split, List.foldl_append, List.foldl_cons]
  refine kept _ _ (mem_addStub.mpr (Or.inr ⟨rfl, name, fun s' _ => ?_⟩))
  rw [Signature.overrides, static, Bool.not_true, Bool.and_false, Bool.false_and]

/-- Overridden methods are overridden by the same methods. -/
theorem resolveVirtual?_of_overrides {m n : Signature} (h : m.overrides n = true) :
    a.resolveVirtual? holder n = a.resolveVirtual? holder m := by
  rw [resolveVirtual?_eq_find?, resolveVirtual?_eq_find?]
  refine congrArg (fun test => (List.find? test _).map _) (funext fun d => ?_)
  refine Bool.eq_iff_iff.mpr ⟨fun overrides => ?_, fun overrides => ?_⟩
  · exact Signature.overrides_trans overrides (Signature.overrides_symm h)
  · exact Signature.overrides_trans overrides h

/-- The stubs of a holder as those of the methods declared along its base chain
that late binding selects. -/
structure Selected (a : Assembly) (holder : Ty) (stubs : List Stub) : Prop where
  /-- Every stub is declared on a class of the base chain. -/
  declared : ∀ s ∈ stubs, s.holder = holder ∧
    ∃ c ∈ a.hierarchy holder, ∃ m ∈ c.methods, m.signature = s.method
  marked : ∀ s ∈ stubs, Marked s.method.name
  apart : stubs.Pairwise fun s s' => s.method.isStatic = false → s'.method.isStatic = false →
    s.method.hasShape s'.method.name s'.method.params = false
  selected : ∀ s ∈ stubs, s.method.isStatic = false →
    a.resolveVirtual? holder s.method = some s.method
  /-- Late binding leads from every marked instance method to a stub. -/
  covered : ∀ c ∈ a.hierarchy holder, ∀ m ∈ c.methods, Marked m.signature.name →
    m.signature.isStatic = false →
      ∃ s ∈ stubs, a.resolveVirtual? holder m.signature = some s.method
  statics : ∀ c ∈ a.hierarchy holder, ∀ m ∈ c.methods, Marked m.signature.name →
    m.signature.isStatic = true → ∃ s ∈ stubs, s.method = m.signature

/-- The stubs are the marked methods that late binding selects on the holder, and the
marked static ones, which nothing hides. -/
theorem selected_stubs (a : Assembly) (holder : Ty) : Selected a holder (a.stubs holder) := by
  have gathered := gathered_stubs a holder
  refine ⟨fun s member => ?_, fun s member => ?_, ?_, fun s => resolveVirtual?_stub, ?_, ?_⟩
  · obtain ⟨same, _, m, declared, here⟩ := declared_of_mem_stubs member
    obtain ⟨c, above, inside⟩ := List.mem_flatMap.mp declared
    exact ⟨same, c, above, m, inside, here⟩
  · exact isStubName_iff.mp (declared_of_mem_stubs member).2.1
  · refine gathered.apart.imp fun apart left right => ?_
    simpa [Signature.overrides, left, right] using apart
  · intro c above m inside marked isInstance
    have declared := List.mem_flatMap.mpr ⟨c, above, inside⟩
    obtain ⟨s, member, overrides⟩ :=
      gathered.covered m declared (isStubName_iff.mpr marked) isInstance
    refine ⟨s, member, ?_⟩
    rw [resolveVirtual?_of_overrides overrides]
    exact resolveVirtual?_stub member (Signature.overrides_iff.mp overrides).1
  · intro c above m inside marked static
    have declared := List.mem_flatMap.mpr ⟨c, above, inside⟩
    exact ⟨_, mem_stubs_of_static declared (isStubName_iff.mpr marked) static, rfl⟩

def sampleUpper : Class :=
  { type := .cls "Upper" none [] .concrete true
    declarations := [{ name := hookMark ++ "IsInWorld", result := .bool }] }

def sampleLower : Class :=
  { type := .cls "Lower" (some (.cls "Middle" (some sampleUpper.type) [] .concrete true)) []
      .concrete true
    declarations := [{ name := hookMark ++ "IsInWorld", result := .bool, isStatic := true }] }

/-- A static method on a lower class, with a class between them that the assembly does
not declare, does not hide the stub of the same shape on the upper class. -/
theorem selected_stubs_sample :
    let a : Assembly := { name := "Chain", classes := [sampleUpper, sampleLower] }
    (∃ s ∈ a.stubs sampleLower.type, s.method =
      { owner := sampleLower.type, name := hookMark ++ "IsInWorld", result := .bool,
        isStatic := true }) ∧
    ∃ s ∈ a.stubs sampleLower.type, s.method =
      { owner := sampleUpper.type, name := hookMark ++ "IsInWorld", result := .bool } := by
  intro a
  have marked : Marked (hookMark ++ "IsInWorld") := isStubName_iff.mp (by decide +kernel)
  have chain : a.hierarchy sampleLower.type = [sampleLower, sampleUpper] := rfl
  obtain ⟨_, _, _, _, covered, statics⟩ := selected_stubs a sampleLower.type
  rw [chain] at covered statics
  refine ⟨statics _ List.mem_cons_self _ List.mem_cons_self marked rfl, ?_⟩
  obtain ⟨s, member, found⟩ :=
    covered sampleUpper (List.mem_cons_of_mem _ List.mem_cons_self) _ List.mem_cons_self marked rfl
  exact ⟨s, member, (Option.some.inj found).symm⟩

end Assembly
end ModSettings
