/-
Equality of types and of signatures by name.

Types are compared by the names of their classes, so equal types may carry
different declarations.  Equality is an equivalence all the same, and whatever
shows a type, sizes a call or asks for a result sees no difference between equal
ones.  Two equal signatures therefore are one method to anything that calls
them.
-/
import ModSettings.Types.Signature

namespace ModSettings

namespace Ty

mutual

theorem same_refl : ∀ t : Ty, t.same t = true
  | void | bool | int | float | string | object | type => rfl
  | tuple elements => sameAll_refl elements
  | cls name _ _ _ _ => beq_self_eq_true name

theorem sameAll_refl : ∀ ts : List Ty, sameAll ts ts = true
  | [] => rfl
  | t :: rest => by rw [sameAll, same_refl t, sameAll_refl rest, Bool.and_self]

end

mutual

theorem same_symm : ∀ {a b : Ty}, a.same b = true → b.same a = true := by
  intro a b h
  cases a <;> cases b <;> try exact h
  case tuple.tuple as bs => exact sameAll_symm h
  case cls.cls => exact BEq.symm h

theorem sameAll_symm : ∀ {as bs : List Ty}, sameAll as bs = true → sameAll bs as = true
  | [], [], _ => rfl
  | a :: as, b :: bs, h => by
    simp only [sameAll, Bool.and_eq_true] at h ⊢
    exact ⟨same_symm h.1, sameAll_symm h.2⟩

end

mutual

theorem same_trans : ∀ {a b c : Ty}, a.same b = true → b.same c = true → a.same c = true := by
  intro a b c hab hbc
  cases a <;> cases b <;> first
    | exact absurd hab Bool.false_ne_true
    | exact hbc
    | skip
  case tuple.tuple as bs =>
    cases c <;> first
      | exact absurd hbc Bool.false_ne_true
      | exact sameAll_trans hab hbc
  case cls.cls =>
    cases c <;> first
      | exact absurd hbc Bool.false_ne_true
      | exact BEq.trans hab hbc

theorem sameAll_trans : ∀ {as bs cs : List Ty},
    sameAll as bs = true → sameAll bs cs = true → sameAll as cs = true
  | [], [], [], _, _ => rfl
  | a :: as, b :: bs, c :: cs, hab, hbc => by
    simp only [sameAll, Bool.and_eq_true] at hab hbc ⊢
    exact ⟨same_trans hab.1 hbc.1, sameAll_trans hab.2 hbc.2⟩

end

instance : EquivBEq Ty where
  rfl := same_refl _
  symm := same_symm
  trans := same_trans

/-! ## What equal types share -/

mutual

theorem text_eq_of_same : ∀ {a b : Ty}, a.same b = true → a.text = b.text := by
  intro a b h
  cases a <;> cases b <;> first
    | exact absurd h Bool.false_ne_true
    | rfl
    | skip
  case tuple.tuple as bs => rw [text, text, texts_eq_of_sameAll h]
  case cls.cls => exact eq_of_beq h

theorem texts_eq_of_sameAll : ∀ {as bs : List Ty}, sameAll as bs = true → texts as = texts bs
  | [], [], _ => rfl
  | a :: as, b :: bs, h => by
    simp only [sameAll, Bool.and_eq_true] at h
    rw [texts, texts, text_eq_of_same h.1, texts_eq_of_sameAll h.2]

end

theorem texts_eq_map (ts : List Ty) : texts ts = ts.map text := by
  induction ts with
  | nil => rfl
  | cons t rest ih => rw [texts, ih, List.map_cons]

theorem isVoid_eq_of_same {a b : Ty} (h : a.same b = true) : a.isVoid = b.isVoid := by
  cases a <;> cases b <;> first
    | exact absurd h Bool.false_ne_true
    | rfl

theorem length_eq_of_sameAll : ∀ {as bs : List Ty}, sameAll as bs = true → as.length = bs.length
  | [], [], _ => rfl
  | _ :: _, _ :: _, h => by
    simp only [sameAll, Bool.and_eq_true] at h
    rw [List.length_cons, List.length_cons, length_eq_of_sameAll h.2]

end Ty

namespace Signature

theorem beq_iff {m n : Signature} :
    (m == n) = true ↔ m.owner.same n.owner = true ∧ m.name = n.name ∧
      Ty.sameAll m.params n.params = true ∧ m.result.same n.result = true ∧
      m.isStatic = n.isStatic := by
  show same m n = true ↔ _
  simp only [same, Bool.and_eq_true, Ty.beq_eq_same, beq_iff_eq, and_assoc]

instance : EquivBEq Signature where
  rfl := beq_iff.mpr ⟨Ty.same_refl _, rfl, Ty.sameAll_refl _, Ty.same_refl _, rfl⟩
  symm h := by
    obtain ⟨owner, name, params, result, isStatic⟩ := beq_iff.mp h
    exact beq_iff.mpr ⟨Ty.same_symm owner, name.symm, Ty.sameAll_symm params,
      Ty.same_symm result, isStatic.symm⟩
  trans h k := by
    obtain ⟨owner, name, params, result, isStatic⟩ := beq_iff.mp h
    obtain ⟨owner', name', params', result', isStatic'⟩ := beq_iff.mp k
    exact beq_iff.mpr ⟨Ty.same_trans owner owner', name.trans name',
      Ty.sameAll_trans params params', Ty.same_trans result result', isStatic.trans isStatic'⟩

/-! ## What equal signatures share -/

section

variable {m n : Signature} (h : (m == n) = true)
include h

theorem arity_congr : m.arity = n.arity := by
  obtain ⟨_, _, params, _, isStatic⟩ := beq_iff.mp h
  rw [arity, arity, Ty.length_eq_of_sameAll params, isStatic]

theorem isVoid_congr : m.result.isVoid = n.result.isVoid :=
  Ty.isVoid_eq_of_same (beq_iff.mp h).2.2.2.1

theorem fullName_congr : m.fullName = n.fullName := by
  obtain ⟨owner, name, _⟩ := beq_iff.mp h
  rw [fullName, fullName, Ty.text_eq_of_same owner, name]

theorem text_congr : m.text = n.text := by
  obtain ⟨_, _, params, result, isStatic⟩ := beq_iff.mp h
  have shown : m.params.map Ty.text = n.params.map Ty.text := by
    rw [← Ty.texts_eq_map, ← Ty.texts_eq_map, Ty.texts_eq_of_sameAll params]
  rw [text, text, paramList, paramList, fullName_congr h, shown,
    Ty.text_eq_of_same result, isStatic]

end

/-! ## Shapes and overriding -/

section

variable {m n k : Signature}

theorem hasShape_iff {name : String} {params : List Ty} :
    m.hasShape name params = true ↔ m.name = name ∧ Ty.sameAll m.params params = true := by
  rw [hasShape, Bool.and_eq_true, beq_iff_eq]

theorem hasShape_of_beq {name : String} {params : List Ty} (h : (m == n) = true)
    (shape : n.hasShape name params = true) : m.hasShape name params = true := by
  obtain ⟨_, names, parameters, _⟩ := beq_iff.mp h
  obtain ⟨named, given⟩ := hasShape_iff.mp shape
  exact hasShape_iff.mpr ⟨names.trans named, Ty.sameAll_trans parameters given⟩

theorem overrides_iff : m.overrides n = true ↔ m.isStatic = false ∧ n.isStatic = false ∧
    m.name = n.name ∧ Ty.sameAll m.params n.params = true := by
  simp only [overrides, Bool.and_eq_true, Bool.not_eq_true', hasShape_iff, and_assoc]

theorem overrides_self (h : m.isStatic = false) : m.overrides m = true :=
  overrides_iff.mpr ⟨h, h, rfl, Ty.sameAll_refl _⟩

theorem overrides_symm (h : m.overrides n = true) : n.overrides m = true := by
  obtain ⟨left, right, name, params⟩ := overrides_iff.mp h
  exact overrides_iff.mpr ⟨right, left, name.symm, Ty.sameAll_symm params⟩

theorem overrides_trans (h : m.overrides n = true) (h' : n.overrides k = true) :
    m.overrides k = true := by
  obtain ⟨left, _, name, params⟩ := overrides_iff.mp h
  obtain ⟨_, right, name', params'⟩ := overrides_iff.mp h'
  exact overrides_iff.mpr ⟨left, right, name.trans name', Ty.sameAll_trans params params'⟩

theorem overrides_of_beq (h : (m == n) = true) (isInstance : n.isStatic = false) :
    m.overrides n = true := by
  obtain ⟨_, name, params, _, static⟩ := beq_iff.mp h
  exact overrides_iff.mpr ⟨static.trans isInstance, isInstance, name, params⟩

end

end Signature

end ModSettings
