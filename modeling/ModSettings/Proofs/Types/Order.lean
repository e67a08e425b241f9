/-
Assignability as a partial order.

Types are compared by the names of their classes, while whether a class derives
from another is read off the declaration of the lower one, over its base and its
interfaces, theirs, and so on.  The two go together where a name stands for one
class only.  `ordered_of_coherent` says that among such types assignability is a
partial order, and that for classes it asks no more than that the name of the upper
one is met on the way up from the lower one.

A class is larger than all that is above it, for a declaration contains those that it
names.  This is what keeps two classes from deriving from each other.
-/
import Mathlib.Data.Set.Defs
import Mathlib.Logic.Relation
import ModSettings.Proofs.Types.Assignability
import ModSettings.Proofs.Types.Naming

namespace ModSettings
namespace Ty

open Relation

/-! ## The way up -/

/-- The class has the other type as its base or among its interfaces. -/
def Extends (t parent : Ty) : Prop := parent ∈ t.parents

theorem Extends.sizeOf_lt {t parent : Ty} (h : Extends t parent) : sizeOf parent < sizeOf t := by
  cases t with
  | cls name base interfaces kind buildable =>
    rw [Extends, parents] at h
    rcases List.mem_append.mp h with isBase | isInterface
    · obtain rfl := Option.mem_toList.mp isBase
      simp only [cls.sizeOf_spec, Option.some.sizeOf_spec]
      omega
    · have inside := List.sizeOf_lt_of_mem isInterface
      simp only [cls.sizeOf_spec]
      omega
  | _ => exact nomatch h

/-- A declaration contains the classes of what it extends. -/
theorem Extends.classes_subset {t parent : Ty} (h : Extends t parent) :
    parent.classes ⊆ t.classes := by
  cases t with
  | cls name base interfaces kind buildable =>
    have among (isInterface : parent ∈ interfaces) : parent.classes ⊆ classesAll interfaces :=
      Ty.classes_subset isInterface
    cases base with
    | none =>
      rw [classes]
      exact List.subset_cons_of_subset _ (among h)
    | some base =>
      rw [classes]
      refine List.subset_cons_of_subset _ ?_
      rcases List.mem_cons.mp h with rfl | isInterface
      · exact List.subset_append_left _ _
      · exact List.subset_append_of_subset_right _ (among isInterface)
  | _ => exact nomatch h

theorem sizeOf_lt_of_transGen {t above : Ty} (h : TransGen Extends t above) :
    sizeOf above < sizeOf t := by
  induction h with
  | single up => exact up.sizeOf_lt
  | tail _ up ih => exact Nat.lt_trans up.sizeOf_lt ih

theorem classes_subset_of_transGen {t above : Ty} (h : TransGen Extends t above) :
    above.classes ⊆ t.classes := by
  induction h with
  | single up => exact up.classes_subset
  | tail _ up ih => exact List.Subset.trans up.classes_subset ih

/-! ## Deriving -/

theorem anyDerivesFrom_iff {ts : List Ty} {target : Ty} : anyDerivesFrom ts target = true ↔
    ∃ t ∈ ts, t.same target = true ∨ t.derivesFrom target = true := by
  induction ts with
  | nil => simp [anyDerivesFrom]
  | cons t rest ih => simp [anyDerivesFrom, ih]

theorem derivesFrom_iff {t target : Ty} : t.derivesFrom target = true ↔
    ∃ parent, Extends t parent ∧ (parent.same target = true ∨ parent.derivesFrom target = true) := by
  cases t with
  | cls name base interfaces kind buildable =>
    cases base <;> simp [derivesFrom, anyDerivesFrom_iff, Extends, parents]
  | _ => simp [derivesFrom, Extends, parents]

theorem exists_above {t target : Ty} (h : t.derivesFrom target = true) :
    ∃ above, TransGen Extends t above ∧ above.same target = true := by
  obtain ⟨parent, up, same | derives⟩ := derivesFrom_iff.mp h
  · exact ⟨parent, .single up, same⟩
  · obtain ⟨above, further, same⟩ := exists_above derives
    exact ⟨above, .head up further, same⟩
termination_by sizeOf t
decreasing_by exact up.sizeOf_lt

/-- A class derives from what is met, by name, on the way up from it. -/
theorem derivesFrom_iff_transGen {t target : Ty} : t.derivesFrom target = true ↔
    ∃ above, TransGen Extends t above ∧ above.same target = true := by
  refine ⟨exists_above, ?_⟩
  rintro ⟨above, way, same⟩
  induction way using TransGen.head_induction_on with
  | single up => exact derivesFrom_iff.mpr ⟨above, up, Or.inl same⟩
  | head up _ ih => exact derivesFrom_iff.mpr ⟨_, up, Or.inr ih⟩

/-- What is met under a name is the class that the name stands for. -/
theorem transGen_of_derivesFrom {t target : Ty} (agree : Agree t.classes target.classes)
    (h : t.derivesFrom target = true) : TransGen Extends t target := by
  obtain ⟨above, way, same⟩ := exists_above h
  have apart := agree.mono (classes_subset_of_transGen way) (List.Subset.refl _)
  rwa [eq_of_same apart same] at way

/-! ## Accepting -/

theorem accepts_iff {target source : Ty} : target.accepts source = true ↔
    target.same source = true ∨ (target = .object ∧ source.isVoid = false) ∨
      (target.isClass = true ∧ source.derivesFrom target = true) := by
  cases target <;> cases source <;> simp [accepts, same, isVoid, isClass, className?, derivesFrom]

/-- A class accepts the classes from which its name is reached. -/
theorem accepts_iff_reflTransGen {target source : Ty} (isClass : target.isClass = true) :
    target.accepts source = true ↔
      ∃ above, ReflTransGen Extends source above ∧ above.same target = true := by
  have noObject : target ≠ .object := by
    rintro rfl
    exact nomatch isClass
  rw [accepts_iff, derivesFrom_iff_transGen]
  simp only [noObject, isClass, false_and, false_or, true_and, reflTransGen_iff_eq_or_transGen]
  constructor
  · rintro (same | ⟨above, way, same⟩)
    · exact ⟨source, Or.inl rfl, same_symm same⟩
    · exact ⟨above, Or.inr way, same⟩
  · rintro ⟨above, rfl | way, same⟩
    · exact Or.inl (same_symm same)
    · exact Or.inr ⟨above, way, same⟩

theorem same_iff_className? {t u : Ty} (isClass : u.isClass = true) :
    t.same u = true ↔ t.className? = u.className? := by
  cases u with
  | cls name _ _ _ _ => cases t <;> simp [same, className?]
  | _ => exact nomatch isClass

theorem accepts_void_iff (t : Ty) :
    (void.accepts t = true ↔ t = .void) ∧ (t.accepts void = true ↔ t = .void) := by
  cases t <;> simp [accepts, same]

/-- What a type accepts depends on its name alone. -/
theorem accepts_congr {t t' : Ty} (h : t.same t' = true) (u : Ty) :
    t.accepts u = t'.accepts u := by
  suffices half : ∀ {t t' : Ty}, t.same t' = true → t'.accepts u = true → t.accepts u = true from
    Bool.eq_iff_iff.mpr ⟨half (same_symm h), half h⟩
  intro t t' h accepts
  rcases accepts_iff.mp accepts with same | ⟨rfl, noVoid⟩ | ⟨isClass, derives⟩
  · exact accepts_iff.mpr (Or.inl (same_trans h same))
  · cases t <;> first
      | exact accepts
      | exact absurd h Bool.false_ne_true
  · have isClass' : t.isClass = true := by
      rwa [Ty.isClass, (same_iff_className? isClass).mp h]
    obtain ⟨above, way, same⟩ := exists_above derives
    exact accepts_iff.mpr (Or.inr (Or.inr ⟨isClass', derivesFrom_iff_transGen.mpr
      ⟨above, way, same_trans same (same_symm h)⟩⟩))

/-- Only the lower two have to agree, for the name of the upper one is all that counts. -/
theorem accepts_trans {t u v : Ty} (agree : Agree v.classes u.classes)
    (h : t.accepts u = true) (h' : u.accepts v = true) : t.accepts v = true := by
  rcases accepts_iff.mp h with same | ⟨rfl, noVoid⟩ | ⟨isClass, derives⟩
  · rwa [accepts_congr same]
  · exact accepts_iff.mpr (Or.inr (Or.inl ⟨rfl, isVoid_of_accepts h' ▸ noVoid⟩))
  · rcases accepts_iff.mp h' with same | ⟨rfl, -⟩ | ⟨-, derives'⟩
    · rwa [eq_of_same agree (same_symm same)]
    · exact nomatch derives
    · obtain ⟨above, way, same⟩ := exists_above derives
      have further := (transGen_of_derivesFrom agree derives').trans way
      exact accepts_iff.mpr (Or.inr (Or.inr ⟨isClass, derivesFrom_iff_transGen.mpr
        ⟨above, further, same⟩⟩))

theorem accepts_antisymm {t u : Ty} (agree : Agree t.classes u.classes)
    (agree' : Agree u.classes t.classes) (h : t.accepts u = true) (h' : u.accepts t = true) :
    t.same u = true := by
  rcases accepts_iff.mp h with same | ⟨rfl, -⟩ | ⟨-, below⟩
  · exact same
  · rcases accepts_iff.mp h' with same | ⟨rfl, -⟩ | ⟨-, below⟩
    · exact same_symm same
    · rfl
    · exact nomatch below
  · rcases accepts_iff.mp h' with same | ⟨rfl, -⟩ | ⟨-, above⟩
    · exact same_symm same
    · exact nomatch below
    · have smaller := sizeOf_lt_of_transGen (transGen_of_derivesFrom agree' below)
      have larger := sizeOf_lt_of_transGen (transGen_of_derivesFrom agree above)
      omega

/-! ## The order -/

/-- In the whole collection, and inside its types, a name stands for one class only. -/
def Coherent (S : Set Ty) : Prop := ∀ t ∈ S, ∀ u ∈ S, Agree t.classes u.classes

theorem coherent_of_consistent {ts : List Ty} (h : Consistent ts) : Coherent {t | t ∈ ts} :=
  fun _ ht _ hu => h.mono (classes_subset ht) (classes_subset hu)

/-- Assignability within a collection of types, as an order from the accepted types up to
those that accept them. -/
structure Ordered (S : Set Ty) : Prop where
  refl : ∀ t ∈ S, t.accepts t = true
  trans : ∀ t ∈ S, ∀ u ∈ S, ∀ v ∈ S, t.accepts u = true → u.accepts v = true → t.accepts v = true
  antisymm : ∀ t ∈ S, ∀ u ∈ S, t.accepts u = true → u.accepts t = true → t.same u = true
  /-- Equal types accept the same types and are accepted by the same types. -/
  congr : ∀ t ∈ S, ∀ t' ∈ S, ∀ u ∈ S, ∀ u' ∈ S, t.same t' = true → u.same u' = true →
    t.accepts u = t'.accepts u'
  object : ∀ t ∈ S, Ty.object.accepts t = !t.isVoid
  void : ∀ t ∈ S, (Ty.void.accepts t = true ↔ t = .void) ∧ (t.accepts .void = true ↔ t = .void)
  /-- A class accepts those from which a class of its name is reached, over any number of
  bases and interfaces. -/
  classes : ∀ t ∈ S, ∀ u ∈ S, t.isClass = true → u.isClass = true →
    (t.accepts u = true ↔
      ∃ above, ReflTransGen Extends u above ∧ above.className? = t.className?)
  /-- What a handle accepts is a handle of the same sort. -/
  handles : ∀ t ∈ S, ∀ u ∈ S, t.accepts u = true →
    (t.isModHandle = true → u.isModHandle = true) ∧
      (t.isCallerHandle = true → u.isCallerHandle = true)

/-- Among types whose classes are known by their names, assignability is a partial order
with `object` above everything but `void`, and it is the order in which declarations name
each other.  The classes `Mod` and `EventCaller` need not be among the types. -/
theorem ordered_of_coherent (S : Set Ty) (coherent : Coherent S) : Ordered S where
  refl t _ := accepts_iff.mpr (Or.inl (same_refl t))
  trans t _ u hu v hv := accepts_trans (coherent v hv u hu)
  antisymm t ht u hu := accepts_antisymm (coherent t ht u hu) (coherent u hu t ht)
  congr t _ t' _ u hu u' hu' same same' := by
    rw [accepts_congr same, eq_of_same (coherent u hu u' hu') same']
  object t _ := by cases t <;> rfl
  void t _ := accepts_void_iff t
  classes t _ u _ isClass _ := by
    simp only [accepts_iff_reflTransGen isClass, same_iff_className? isClass]
  handles t ht u hu h :=
    ⟨fun upper => accepts_trans (coherent u hu t ht) upper h,
      fun upper => accepts_trans (coherent u hu t ht) upper h⟩

def sampleShape : Ty := .cls "Shape" none [] .interface false

def sampleBoard : Ty := .cls "Board" (some .mod) [sampleShape] .abstract true

def sampleTile : Ty := .cls "Tile" (some sampleBoard) [sampleShape, .eventCaller] .concrete true

def sampleBoards : List Ty := [sampleTile, sampleBoard, .tuple [sampleTile, .int], .object, .void]

theorem consistent_sampleBoards : Consistent sampleBoards := by
  have apart : [sampleTile, sampleBoard, sampleShape, .mod, .eventCaller].Pairwise
      fun t u : Ty => t.same u = false := by decide
  refine consistent_of_pairwise (fun t inside => ?_) apart
  simp only [sampleBoards, classesAll, classes, sampleTile, sampleBoard, sampleShape, mod,
    eventCaller, List.mem_append, List.mem_cons, List.not_mem_nil] at inside ⊢
  grind

/-- A class with the same interface twice above it, which is a handle of both sorts. -/
theorem ordered_of_coherent_sample :
    Coherent {t | t ∈ sampleBoards} ∧ Ordered {t | t ∈ sampleBoards} ∧
      sampleTile.isModHandle = true ∧ sampleTile.isCallerHandle = true := by
  have coherent := coherent_of_consistent consistent_sampleBoards
  exact ⟨coherent, ordered_of_coherent _ coherent, by decide, by decide⟩

end Ty
end ModSettings
