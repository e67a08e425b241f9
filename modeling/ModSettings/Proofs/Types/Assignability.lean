/-
What a declared type lets in.

The types that are no classes let in their own kind only, except for `object`,
and nothing goes with `void` but `void`.
-/
import ModSettings.Proofs.Types.Equality
import ModSettings.Types.WellKnown

namespace ModSettings
namespace Ty

theorem isVoid_of_accepts {target source : Ty} (h : target.accepts source = true) :
    target.isVoid = source.isVoid := by
  cases target <;> cases source <;> first
    | rfl
    | exact absurd h Bool.false_ne_true

theorem eq_void_of_isVoid {t : Ty} (h : t.isVoid = true) : t = .void := by
  cases t <;> first
    | rfl
    | exact absurd h Bool.false_ne_true

/-- The types that let in no other type. -/
def isSole : Ty → Bool
  | void | bool | int | float | string | type => true
  | _ => false

theorem eq_of_accepts {target source : Ty} (sole : target.isSole = true)
    (h : target.accepts source = true) : source = target := by
  cases target <;> cases source <;> first
    | rfl
    | exact absurd h Bool.false_ne_true
    | exact absurd sole Bool.false_ne_true

theorem isHandle_of_isSole {t : Ty} (sole : t.isSole = true) : t.isHandle = false := by
  cases t <;> first
    | rfl
    | exact absurd sole Bool.false_ne_true

/-- Beside itself only `object` lets in a type that lets in no other. -/
theorem accepts_isSole {target source : Ty} (sole : source.isSole = true)
    (h : target.accepts source = true) : target = source ∨ target = .object := by
  cases target <;> cases source <;> first
    | exact Or.inl rfl
    | exact Or.inr rfl
    | exact absurd h Bool.false_ne_true
    | exact absurd sole Bool.false_ne_true

/-- A class without parents is let in by `object` and by what it lets in
itself. -/
theorem accepts_top {target : Ty} {name : String} {kind : ClassKind} {buildable : Bool}
    (h : target.accepts (.cls name none [] kind buildable) = true) :
    target = .object ∨ accepts (.cls name none [] kind buildable) target = true := by
  cases target with
  | object => exact Or.inl rfl
  | cls target base interfaces kind' buildable' =>
    right
    rw [accepts, Bool.or_eq_true] at h ⊢
    exact Or.inl (same_symm (h.resolve_right Bool.false_ne_true))
  | _ => exact absurd h Bool.false_ne_true

theorem isClass_of_isHandle {t : Ty} (h : t.isHandle = true) : t.isClass = true := by
  cases t <;> first
    | rfl
    | exact absurd h Bool.false_ne_true

/-- Only classes fit a slot that wants a handle. -/
theorem isClass_of_admits {slot a : Ty} (handle : slot.isHandle = true)
    (admits : slot.admits a = true) : a.isClass = true := by
  rcases Bool.or_eq_true_iff.mp admits with accepts | handles
  · have isClass := isClass_of_isHandle handle
    cases slot <;> cases a <;> first
      | rfl
      | exact absurd isClass Bool.false_ne_true
      | exact absurd accepts Bool.false_ne_true
  · exact isClass_of_isHandle (Bool.and_eq_true_iff.mp handles).1

end Ty
end ModSettings
