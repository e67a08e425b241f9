/-
Types whose classes are known by their names.

Types are compared by the names of their classes, and nothing in a type keeps two
classes of one name from being declared differently.  Where a name stands for one
declaration only, equal types are the same type.
-/
import Mathlib.Data.List.Pairwise
import ModSettings.Proofs.Types.Equality
import ModSettings.Types.WellKnown

namespace ModSettings

namespace Ty

mutual

/-- Every class declaration inside a type: its own, those above it and those of its
elements. -/
def classes : Ty → List Ty
  | cls name (some base) interfaces kind buildable =>
      cls name (some base) interfaces kind buildable :: (base.classes ++ classesAll interfaces)
  | cls name none interfaces kind buildable =>
      cls name none interfaces kind buildable :: classesAll interfaces
  | tuple elements => classesAll elements
  | _ => []

def classesAll : List Ty → List Ty
  | [] => []
  | t :: rest => t.classes ++ classesAll rest

end

/-- Classes of one name are declared in one way. -/
def Agree (as bs : List Ty) : Prop := ∀ a ∈ as, ∀ b ∈ bs, a.same b = true → a = b

/-- No two classes inside the types share their name. -/
def Consistent (ts : List Ty) : Prop := Agree (classesAll ts) (classesAll ts)

theorem Agree.mono {as bs as' bs' : List Ty} (h : Agree as bs) (left : as' ⊆ as)
    (right : bs' ⊆ bs) : Agree as' bs' :=
  fun a ha b hb => h a (left ha) b (right hb)

theorem classes_subset {t : Ty} {ts : List Ty} (h : t ∈ ts) : t.classes ⊆ classesAll ts := by
  induction ts with
  | nil => exact nomatch h
  | cons first rest ih =>
    rw [classesAll]
    rcases List.mem_cons.mp h with rfl | later
    · exact List.subset_append_left _ _
    · exact List.Subset.trans (ih later) (List.subset_append_right _ _)

theorem classesAll_subset {ts us : List Ty} (h : ts ⊆ us) : classesAll ts ⊆ classesAll us := by
  induction ts with
  | nil => exact List.nil_subset _
  | cons first rest ih =>
    obtain ⟨here, later⟩ := List.cons_subset.mp h
    exact List.append_subset.mpr ⟨classes_subset here, ih later⟩

theorem mem_classes_cls (name : String) (base : Option Ty) (interfaces : List Ty)
    (kind : ClassKind) (buildable : Bool) :
    cls name base interfaces kind buildable ∈
      (cls name base interfaces kind buildable).classes := by
  cases base <;> exact List.mem_cons_self

mutual

theorem eq_of_same : ∀ {a b : Ty}, Agree a.classes b.classes → a.same b = true → a = b := by
  intro a b agree h
  cases a <;> cases b <;> first
    | exact absurd h Bool.false_ne_true
    | rfl
    | skip
  case tuple.tuple as bs => rw [eq_of_sameAll agree h]
  case cls.cls => exact agree _ (mem_classes_cls ..) _ (mem_classes_cls ..) h

theorem eq_of_sameAll : ∀ {as bs : List Ty},
    Agree (classesAll as) (classesAll bs) → sameAll as bs = true → as = bs
  | [], [], _, _ => rfl
  | a :: as, b :: bs, agree, h => by
    simp only [sameAll, Bool.and_eq_true] at h
    rw [classesAll, classesAll] at agree
    rw [eq_of_same (agree.mono (List.subset_append_left _ _) (List.subset_append_left _ _)) h.1,
      eq_of_sameAll (agree.mono (List.subset_append_right _ _) (List.subset_append_right _ _)) h.2]

end

/-- Classes of pairwise different names agree with each other. -/
theorem consistent_of_pairwise {ts known : List Ty} (all : classesAll ts ⊆ known)
    (apart : known.Pairwise fun a b => a.same b = false) : Consistent ts := by
  intro a ha b hb h
  by_contra differ
  have symmetric : Std.Symm fun a b : Ty => a.same b = false := by
    refine ⟨fun a b apart => Bool.eq_false_iff.mpr fun back => ?_⟩
    rw [same_symm back] at apart
    exact nomatch apart
  rw [apart.forall (all ha) (all hb) differ] at h
  exact nomatch h

/-- The classes that everyone agrees on have different names. -/
theorem consistent_of_wellKnown {ts : List Ty}
    (known : ∀ t ∈ classesAll ts, t = mod ∨ t = eventCaller ∨ t = api) : Consistent ts :=
  have among : classesAll ts ⊆ [mod, eventCaller, api] := fun t member => by
    simpa using known t member
  consistent_of_pairwise among (by decide)

end Ty

namespace Signature

/-- The types that a signature names. -/
def types (m : Signature) : List Ty := m.owner :: m.result :: m.params

/-- Equal signatures of methods whose classes agree are the same signature. -/
theorem eq_of_agree {m n : Signature} (agree : Ty.Agree (Ty.classesAll m.types)
    (Ty.classesAll n.types)) (h : (m == n) = true) : m = n := by
  obtain ⟨owner, name, params, result, isStatic⟩ := beq_iff.mp h
  have types : Ty.sameAll m.types n.types = true := by
    simp only [types, Ty.sameAll, owner, result, params, Bool.and_self]
  obtain ⟨owner, result, params⟩ : m.owner = n.owner ∧ m.result = n.result ∧
      m.params = n.params := by
    simpa [Signature.types] using Ty.eq_of_sameAll agree types
  cases m
  cases n
  rw [mk.injEq]
  exact ⟨owner, name, params, result, isStatic⟩

end Signature

end ModSettings
