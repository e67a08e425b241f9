/-
What late binding finds.

A late-bound call goes up the base chain of the receiver's class, past the classes
that the assembly does not declare.  `resolves_nearest` says that it finds the first
instance method of the name and parameters on the nearest class that has one, and
nothing else; that the class of this method takes the receiver; and that the signature
of the method leads back to it.  A search of the chain by shape finds the same unless a
static method of that shape is on the chain, which only late binding passes over.

The walk, the assignability of classes and the search by signature each go their own
way through the declarations, and each compares classes by their names.
-/
import Mathlib.Data.List.Basic
import Mathlib.Data.List.Find
import ModSettings.Proofs.Program.Lookup
import ModSettings.Proofs.Types.Order

namespace ModSettings

/-! ## Along the base chain -/

namespace Ty

open Relation

theorem reflTransGen_of_mem_baseChain {t above : Ty} (h : above ∈ t.baseChain) :
    ReflTransGen Extends t above := by
  induction t using baseChain.induct with
  | case1 name base interfaces kind buildable ih =>
    rw [baseChain] at h
    rcases List.mem_cons.mp h with rfl | further
    · exact .refl
    · have up : Extends (cls name (some base) interfaces kind buildable) base :=
        List.mem_cons_self
      exact .head up (ih further)
  | case2 t top =>
    rw [baseChain.eq_2 t top] at h
    obtain rfl := List.mem_singleton.mp h
    exact .refl

/-- A class takes the values of every class with its name on its base chain. -/
theorem accepts_of_mem_baseChain {t above target : Ty} (chained : above ∈ t.baseChain)
    (same : above.same target = true) (isClass : above.isClass = true) :
    target.accepts t = true := by
  rw [← accepts_congr same]
  exact (accepts_iff_reflTransGen isClass).mpr
    ⟨above, reflTransGen_of_mem_baseChain chained, same_refl above⟩

end Ty

/-! ## The nearest override -/

/-- An instance method of the target's name and parameters. -/
def Signature.Replaces (m target : Signature) : Prop :=
  m.isStatic = false ∧ m.name = target.name ∧ Ty.sameAll m.params target.params = true

theorem Signature.overrides_iff_replaces {m target : Signature} : m.overrides target = true ↔
    target.isStatic = false ∧ m.Replaces target := by
  rw [overrides_iff, Replaces, and_left_comm]

namespace Class

/-- The method is the first of the class that replaces the target. -/
def DeclaresFirst (c : Class) (target : Signature) (d : Method) : Prop :=
  d.signature.Replaces target ∧ ∃ front back, c.methods = front ++ d :: back ∧
    ∀ e ∈ front, ¬e.signature.Replaces target

variable {c : Class} {target : Signature} {d : Method}

theorem override?_eq_some_iff (isInstance : target.isStatic = false) :
    c.override? target = some d ↔ c.DeclaresFirst target d := by
  simp only [override?, DeclaresFirst, List.find?_eq_some_iff_append, Bool.not_eq_true',
    ← Bool.not_eq_true, Signature.overrides_iff_replaces, isInstance, true_and]

theorem override?_eq_none_iff (isInstance : target.isStatic = false) :
    c.override? target = none ↔ ∀ e ∈ c.methods, ¬e.signature.Replaces target := by
  simp only [override?, List.find?_eq_none, Signature.overrides_iff_replaces, isInstance, true_and]

end Class

namespace Assembly

/-- On the way up the chain the method is the first that replaces the target: its class
declares no other in front of it, and the classes before that one, as far as the assembly
declares them, have none. -/
def Nearest (a : Assembly) (chain : List Ty) (target : Signature) (d : Method) : Prop :=
  ∃ near above far c, chain = near ++ above :: far ∧
    (∀ t ∈ near, ∀ c, a.class? t = some c → ∀ e ∈ c.methods, ¬e.signature.Replaces target) ∧
    a.class? above = some c ∧ c.DeclaresFirst target d

variable {a : Assembly} {runtime : Ty} {target : Signature} {d : Method}

/-- The override that late binding selects, with its body. -/
def override? (a : Assembly) (runtime : Ty) (target : Signature) : Option Method :=
  (a.hierarchy runtime).findSome? (·.override? target)

theorem override?_eq_some_iff (isInstance : target.isStatic = false) :
    a.override? runtime target = some d ↔ a.Nearest runtime.baseChain target d := by
  have chained : a.override? runtime target =
      runtime.baseChain.findSome? fun t => (a.class? t).bind (·.override? target) := by
    rw [override?, hierarchy, ← List.head?_filterMap, List.filterMap_filterMap,
      List.head?_filterMap]
  rw [chained, List.findSome?_eq_some_iff]
  constructor
  · rintro ⟨near, above, far, split, found, others⟩
    obtain ⟨c, declared, first⟩ := Option.bind_eq_some_iff.mp found
    refine ⟨near, above, far, c, split, fun t before c' declared' => ?_, declared,
      (Class.override?_eq_some_iff isInstance).mp first⟩
    have none := others t before
    rw [declared', Option.bind_some] at none
    exact (Class.override?_eq_none_iff isInstance).mp none
  · rintro ⟨near, above, far, c, split, others, declared, first⟩
    refine ⟨near, above, far, split, ?_, fun t before => ?_⟩
    · rw [declared, Option.bind_some]
      exact (Class.override?_eq_some_iff isInstance).mpr first
    · refine Option.bind_eq_none_iff.mpr fun c' declared' => ?_
      exact (Class.override?_eq_none_iff isInstance).mpr (others t before c' declared')

/-- Late binding finds nothing for a static target. -/
theorem override?_of_static (static : target.isStatic = true) :
    a.override? runtime target = none := by
  refine List.findSome?_eq_none_iff.mpr fun c _ => List.find?_eq_none.mpr fun d _ => ?_
  rw [Signature.overrides_iff_replaces, static]
  exact fun replaces => nomatch replaces.1

/-- The override is declared on a class of the chain. -/
theorem exists_of_override? (h : a.override? runtime target = some d) :
    ∃ c ∈ a.hierarchy runtime, c.override? target = some d ∧ d ∈ c.methods := by
  obtain ⟨c, inside, found⟩ := List.exists_of_findSome?_eq_some h
  exact ⟨c, inside, found, List.mem_of_find?_eq_some found⟩

theorem method?_of_override? (h : a.override? runtime target = some d) :
    a.method? d.signature = some d := by
  obtain ⟨c, inside, found, _⟩ := exists_of_override? h
  refine method?_of_find? inside (p := (·.overrides target)) (fun m n same overrides => ?_) found
  have isInstance := (Signature.overrides_iff.mp overrides).1
  exact Signature.overrides_trans (Signature.overrides_of_beq same isInstance) overrides

theorem accepts_of_override? (classes : ∀ t ∈ runtime.baseChain, t.isClass = true)
    (h : a.override? runtime target = some d) : d.signature.owner.accepts runtime = true := by
  obtain ⟨c, inside, _, member⟩ := exists_of_override? h
  obtain ⟨above, chained, declared⟩ := List.mem_filterMap.mp inside
  have same : c.type.same above = true :=
    List.find?_some (p := fun c : Class => c.type == above) declared
  rw [Class.owner_of_mem_methods member]
  exact Ty.accepts_of_mem_baseChain chained (Ty.same_symm same) (classes above chained)

/-- Where the chain has no static method of that shape, the shape alone leads to the
override. -/
theorem findInHierarchy?_eq_override? (isInstance : target.isStatic = false)
    (free : ∀ c ∈ a.hierarchy runtime, ∀ e ∈ c.methods,
      e.signature.hasShape target.name target.params = true → e.signature.isStatic = false) :
    a.findInHierarchy? runtime target.name target.params = a.override? runtime target := by
  have each : ∀ c ∈ a.hierarchy runtime,
      c.find? target.name target.params = c.override? target := by
    intro c inside
    refine List.find?_congr fun e member => ?_
    rw [Signature.overrides, isInstance]
    cases shape : e.signature.hasShape target.name target.params with
    | false => rw [Bool.and_false]
    | true =>
      rw [free c inside e member shape]
      rfl
  rw [findInHierarchy?, override?, ← List.head?_filterMap, ← List.head?_filterMap,
    List.filterMap_congr each]

/-- Late binding on a class whose bases are classes finds the nearest method that
replaces an instance method, and nothing for a static one.  The class of what it finds
takes the receiver, and the signature of what it finds leads to it again.  Where no
static method of the shape is on the chain, the search by shape finds the same. -/
theorem resolves_nearest (a : Assembly) (runtime : Ty)
    (classes : ∀ t ∈ runtime.baseChain, t.isClass = true) (target : Signature) :
    (∀ found, a.resolveVirtual? runtime target = some found ↔ target.isStatic = false ∧
      ∃ d, a.Nearest runtime.baseChain target d ∧ d.signature = found) ∧
    (∀ found, a.resolveVirtual? runtime target = some found →
      found.owner.accepts runtime = true ∧ ∃ d, a.method? found = some d ∧ d.signature = found) ∧
    (target.isStatic = false →
      (∀ c ∈ a.hierarchy runtime, ∀ d ∈ c.methods,
        d.signature.hasShape target.name target.params = true → d.signature.isStatic = false) →
      (a.findInHierarchy? runtime target.name target.params).map (·.signature) =
        a.resolveVirtual? runtime target) := by
  have resolved : a.resolveVirtual? runtime target =
      (a.override? runtime target).map (·.signature) := rfl
  rw [resolved]
  refine ⟨fun found => ?_, fun found resolves => ?_, fun isInstance free => ?_⟩
  · rw [Option.map_eq_some_iff]
    cases static : target.isStatic with
    | true => simp [override?_of_static static]
    | false => simp only [override?_eq_some_iff static, true_and]
  · obtain ⟨d, overrides, rfl⟩ := Option.map_eq_some_iff.mp resolves
    exact ⟨accepts_of_override? classes overrides, d, method?_of_override? overrides, rfl⟩
  · rw [findInHierarchy?_eq_override? isInstance free]

def sampleLift : Class :=
  { type := .cls "Lift" none [] .abstract true
    declarations := [
      { name := "Go", params := [.int], result := .int },
      { name := "Go", params := [.string], isStatic := true }] }

/-- The class between the two is in no assembly. -/
def sampleCabin : Class :=
  { type := .cls "Cabin" (some (.cls "Shaft" (some sampleLift.type) [] .concrete true)) []
      .concrete true
    declarations := [{ name := "Go", params := [] }] }

/-- An overload, a missing class and a static method of another shape stand between the
receiver and the method. -/
theorem resolves_nearest_sample :
    let a : Assembly := { name := "Lifts", classes := [sampleLift, sampleCabin] }
    let go : Signature := { owner := sampleCabin.type, name := "Go", params := [.int] }
    ∃ found, a.resolveVirtual? sampleCabin.type go = some found ∧
      found.owner.accepts sampleCabin.type = true ∧ (a.method? found).isSome = true ∧
      (a.findInHierarchy? sampleCabin.type "Go" [.int]).map (·.signature) = some found := by
  intro a go
  obtain ⟨_, sound, byShape⟩ := resolves_nearest a sampleCabin.type (by decide) go
  have chain : a.hierarchy sampleCabin.type = [sampleCabin, sampleLift] := rfl
  have resolves : a.resolveVirtual? sampleCabin.type go =
      some { owner := sampleLift.type, name := "Go", params := [.int], result := .int } := rfl
  rw [chain, resolves] at byShape
  obtain ⟨accepts, d, found, _⟩ := sound _ resolves
  refine ⟨_, resolves, accepts, by rw [found]; rfl, byShape rfl (by decide)⟩

end Assembly

end ModSettings
