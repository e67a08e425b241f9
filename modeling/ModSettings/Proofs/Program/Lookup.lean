/-
Looking methods up in assemblies.

Method bodies are exchanged in place, either one of them or all at once.  The
outline of an assembly, its classes with the signatures they declare, does not
show bodies, so no exchange changes it, and late binding reads nothing else.
Looking a method up by its signature does reach a body, and the lemmas here say
which one.
-/
import ModSettings.Program.Assembly
import ModSettings.Proofs.Types.Equality

namespace ModSettings

/-! ## Changing the first match -/

section

variable {α β : Type} {test : α → Bool} {f : α → α}

/-- A reading that the change respects does not see it. -/
theorem map_updateFirst {g : α → β} (keeps : ∀ a, test a = true → g (f a) = g a) (l : List α) :
    (updateFirst test f l).map g = l.map g := by
  induction l with
  | nil => rfl
  | cons a rest ih =>
    rw [updateFirst]
    split
    · rename_i found
      rw [List.map_cons, List.map_cons, keeps a found]
    · rw [List.map_cons, List.map_cons, ih]

/-- The element that was changed is the one that is found. -/
theorem find?_updateFirst (keeps : ∀ a, test a = true → test (f a) = true) (l : List α) :
    (updateFirst test f l).find? test = (l.find? test).map f := by
  induction l with
  | nil => rfl
  | cons a rest ih =>
    rw [updateFirst]
    cases h : test a with
    | true =>
      rw [if_pos rfl, List.find?_cons_of_pos (keeps a h), List.find?_cons_of_pos h]
      rfl
    | false =>
      have no : ¬test a = true := by rw [h]; exact Bool.false_ne_true
      rw [if_neg Bool.false_ne_true, List.find?_cons_of_neg no, List.find?_cons_of_neg no, ih]

/-- A search for other elements does not see the change. -/
theorem find?_updateFirst_of_not {test' : α → Bool}
    (others : ∀ a, test a = true → test' a = false ∧ test' (f a) = false) (l : List α) :
    (updateFirst test f l).find? test' = l.find? test' := by
  induction l with
  | nil => rfl
  | cons a rest ih =>
    rw [updateFirst]
    split
    · rename_i found
      obtain ⟨before, after⟩ := others a found
      rw [List.find?_cons, List.find?_cons, before, after]
    · rw [List.find?_cons, List.find?_cons, ih]

theorem mem_updateFirst {l : List α} {b : α} (h : b ∈ updateFirst test f l) :
    b ∈ l ∨ ∃ a ∈ l, test a = true ∧ b = f a := by
  induction l with
  | nil => exact nomatch h
  | cons a rest ih =>
    rw [updateFirst] at h
    split at h
    · rename_i found
      rcases List.mem_cons.mp h with rfl | h
      · exact Or.inr ⟨a, List.mem_cons_self, found, rfl⟩
      · exact Or.inl (List.mem_cons_of_mem _ h)
    · rcases List.mem_cons.mp h with rfl | h
      · exact Or.inl List.mem_cons_self
      · rcases ih h with old | ⟨a', member, changed⟩
        · exact Or.inl (List.mem_cons_of_mem _ old)
        · exact Or.inr ⟨a', List.mem_cons_of_mem _ member, changed⟩

end

/-! ## Finding by a key -/

/-- Where keys are pairwise different, the search for a key finds whoever has it. -/
theorem find?_of_pairwise {α κ : Type} [BEq κ] [EquivBEq κ] {key : α → κ} {l : List α}
    (h : l.Pairwise fun a b => (key a == key b) = false) {a : α} (member : a ∈ l) {k : κ}
    (same : (key a == k) = true) : l.find? (key · == k) = some a := by
  induction l with
  | nil => exact nomatch member
  | cons first rest ih =>
    obtain ⟨differs, h⟩ := List.pairwise_cons.mp h
    rcases List.mem_cons.mp member with rfl | member
    · exact List.find?_cons_of_pos same
    · have other : ¬(key first == k) = true := by
        rw [← BEq.congr_right same, differs a member]
        exact Bool.false_ne_true
      have skipped : (first :: rest).find? (key · == k) = rest.find? (key · == k) :=
        List.find?_cons_of_neg other
      rw [skipped, ih h member]

/-! ## Outlines -/

/-- A class without the bodies of its methods. -/
def Class.outline (c : Class) : Ty × List Signature := (c.type, c.methods.map (·.signature))

theorem Class.find?_outline (c : Class) (target : Signature) :
    c.outline.2.find? (·.overrides target) = (c.override? target).map (·.signature) := by
  show (c.methods.map _).find? _ = _
  rw [List.find?_map]
  rfl

theorem Class.outline_mapBodies (f : Body → Body) (c : Class) :
    (c.mapBodies f).outline = c.outline := by
  show (c.type, (c.mapBodies f).methods.map _) = (c.type, c.methods.map _)
  rw [methods_mapBodies, List.map_map]
  rfl

theorem Class.mapBodies_id (c : Class) : c.mapBodies id = c :=
  congrArg (mk c.type) (List.map_id c.declarations)

theorem Class.mapBodies_mapBodies (f g : Body → Body) (c : Class) :
    (c.mapBodies f).mapBodies g = c.mapBodies (g ∘ f) :=
  congrArg (mk c.type) List.map_map

namespace Assembly

/-- What an assembly declares, without the bodies. -/
def outline (a : Assembly) : List (Ty × List Signature) := a.classes.map Class.outline

theorem find?_outline (a : Assembly) (t : Ty) :
    a.outline.find? (·.1 == t) = (a.class? t).map Class.outline := by
  rw [outline, List.find?_map]
  rfl

/-- Late binding as a search of the outline. -/
theorem resolveVirtual?_eq (a : Assembly) (runtime : Ty) (target : Signature) :
    a.resolveVirtual? runtime target =
      (runtime.baseChain.filterMap fun t => a.outline.find? (·.1 == t)).findSome? fun declared =>
        declared.2.find? (·.overrides target) := by
  simp only [find?_outline, ← List.map_filterMap, List.findSome?_map, Function.comp_def,
    Class.find?_outline]
  rw [resolveVirtual?, List.map_findSome?]
  rfl

theorem resolveVirtual?_congr {a a' : Assembly} (h : a.outline = a'.outline) (runtime : Ty)
    (target : Signature) :
    a.resolveVirtual? runtime target = a'.resolveVirtual? runtime target := by
  rw [resolveVirtual?_eq, resolveVirtual?_eq, h]

theorem mem_methods {a : Assembly} {t : Ty} {c : Class} (hc : a.class? t = some c) {m : Method}
    (hm : m ∈ c.methods) : m ∈ a.methods :=
  List.mem_flatMap.mpr ⟨c, List.mem_of_find?_eq_some hc, hm⟩

/-- Late binding finds a declared method that overrides the target. -/
theorem exists_of_resolveVirtual? {a : Assembly} {runtime : Ty} {target found : Signature}
    (h : a.resolveVirtual? runtime target = some found) :
    ∃ m ∈ a.methods, m.signature = found ∧ found.overrides target = true := by
  obtain ⟨m, hm, rfl⟩ := Option.map_eq_some_iff.mp h
  obtain ⟨c, hc, hm⟩ := List.exists_of_findSome?_eq_some hm
  obtain ⟨t, _, ht⟩ := List.mem_filterMap.mp hc
  have overrides : m.signature.overrides target = true :=
    List.find?_some (p := fun m : Method => m.signature.overrides target) hm
  exact ⟨m, mem_methods ht (List.mem_of_find?_eq_some hm), rfl, overrides⟩

/-! ## Finding bodies -/

theorem class?_congr {t t' : Ty} (h : (t == t') = true) (a : Assembly) :
    a.class? t = a.class? t' := by
  rw [class?, class?]
  exact congrArg (a.classes.find? ·) (funext fun c => BEq.congr_right h)

theorem method?_eq_none {a : Assembly} {m : Signature} (h : a.class? m.owner = none) :
    a.method? m = none := by
  rw [method?, h]
  rfl

theorem method?_eq {a : Assembly} {m : Signature} {c : Class} (h : a.class? m.owner = some c) :
    a.method? m = c.methods.find? (·.signature == m) := by
  rw [method?, h]
  rfl

theorem mem_of_method? {a : Assembly} {m : Signature} {found : Method}
    (h : a.method? m = some found) : found ∈ a.methods := by
  cases hc : a.class? m.owner with
  | none => rw [method?_eq_none hc] at h; exact nomatch h
  | some c =>
    rw [method?_eq hc] at h
    exact mem_methods hc (List.mem_of_find?_eq_some h)

/-- Equal signatures find the same method. -/
theorem method?_congr {m n : Signature} (h : (m == n) = true) (a : Assembly) :
    a.method? m = a.method? n := by
  have classes : a.class? m.owner = a.class? n.owner := class?_congr (Signature.beq_iff.mp h).1 a
  cases hc : a.class? n.owner with
  | none => rw [method?_eq_none hc, method?_eq_none (classes.trans hc)]
  | some c =>
    rw [method?_eq hc, method?_eq (classes.trans hc)]
    exact congrArg (c.methods.find? ·) (funext fun d => BEq.congr_right h)

/-- Looking up a signature, as a search of the outline. -/
theorem signature_method? (a : Assembly) (m : Signature) :
    (a.method? m).map (·.signature) =
      (a.outline.find? (·.1 == m.owner)).bind fun declared => declared.2.find? (· == m) := by
  rw [find?_outline]
  cases hc : a.class? m.owner with
  | none =>
    rw [method?_eq_none hc]
    rfl
  | some c =>
    rw [method?_eq hc, Option.map_some, Option.bind_some, Class.outline, List.find?_map]
    rfl

theorem isSome_method?_congr {a a' : Assembly} (h : a.outline = a'.outline) (m : Signature) :
    (a.method? m).isSome = (a'.method? m).isSome := by
  have signatures := signature_method? a m
  rw [h, ← signature_method?] at signatures
  rw [← Option.isSome_map, signatures, Option.isSome_map]

/-- A class of the base chain is the one that owns the methods it declares. -/
theorem class?_of_hierarchy {a : Assembly} {t : Ty} {c : Class} (hc : c ∈ a.hierarchy t)
    {m : Method} (hm : m ∈ c.methods) : a.class? m.signature.owner = some c := by
  obtain ⟨above, _, hc⟩ := List.mem_filterMap.mp hc
  have same : (c.type == above) = true := List.find?_some (p := fun c : Class => c.type == above) hc
  rw [Class.owner_of_mem_methods hm, class?_congr same, hc]

/-- A method that a class of the base chain declares is found by its signature. -/
theorem isSome_method? {a : Assembly} {t : Ty} {c : Class} (hc : c ∈ a.hierarchy t) {m : Method}
    (hm : m ∈ c.methods) : (a.method? m.signature).isSome = true := by
  rw [method?_eq (class?_of_hierarchy hc hm), List.find?_isSome]
  exact ⟨m, hm, BEq.rfl⟩

/-- A method found by what equal signatures share is the one that its signature finds:
no method in front of it has its signature. -/
theorem method?_of_find? {a : Assembly} {t : Ty} {c : Class} (hc : c ∈ a.hierarchy t)
    {p : Signature → Bool}
    (shared : ∀ m n : Signature, (m == n) = true → p n = true → p m = true) {d : Method}
    (found : c.methods.find? (fun m => p m.signature) = some d) :
    a.method? d.signature = some d := by
  obtain ⟨passes, front, back, split, others⟩ := List.find?_eq_some_iff_append.mp found
  have member : d ∈ c.methods := split ▸ List.mem_append_right front List.mem_cons_self
  rw [method?_eq (class?_of_hierarchy hc member)]
  refine List.find?_eq_some_iff_append.mpr ⟨BEq.rfl, front, back, split, fun m earlier => ?_⟩
  rw [Bool.not_eq_true']
  refine Bool.eq_false_iff.mpr fun same => ?_
  have other := others m earlier
  rw [shared _ _ same passes] at other
  exact nomatch other

/-! ## Exchanging all bodies -/

theorem outline_mapBodies (f : Body → Body) (a : Assembly) :
    (a.mapBodies f).outline = a.outline := by
  show (a.classes.map _).map _ = a.classes.map _
  rw [List.map_map]
  exact List.map_congr_left fun c _ => Class.outline_mapBodies f c

theorem class?_mapBodies (f : Body → Body) (a : Assembly) (t : Ty) :
    (a.mapBodies f).class? t = (a.class? t).map (·.mapBodies f) := by
  show (a.classes.map _).find? _ = _
  rw [List.find?_map]
  rfl

theorem method?_mapBodies (f : Body → Body) (a : Assembly) (m : Signature) :
    (a.mapBodies f).method? m = (a.method? m).map fun d => { d with body := f d.body } := by
  have changed := class?_mapBodies f a m.owner
  cases hc : a.class? m.owner with
  | none =>
    rw [hc] at changed
    rw [method?_eq_none hc, method?_eq_none changed]
    rfl
  | some c =>
    rw [hc] at changed
    rw [method?_eq hc, method?_eq changed, Class.methods_mapBodies, List.find?_map]
    rfl

theorem methods_mapBodies (f : Body → Body) (a : Assembly) :
    (a.mapBodies f).methods = a.methods.map fun m => { m with body := f m.body } := by
  simp only [methods, mapBodies, List.flatMap_map, Class.methods_mapBodies, List.map_flatMap]

theorem mapBodies_id (a : Assembly) : a.mapBodies id = a := by
  rw [mapBodies, List.map_congr_left fun c _ => Class.mapBodies_id c, List.map_id']

theorem mapBodies_mapBodies (f g : Body → Body) (a : Assembly) :
    (a.mapBodies f).mapBodies g = a.mapBodies (g ∘ f) := by
  rw [mapBodies, mapBodies, mapBodies, List.map_map]
  exact congrArg (mk a.name) (List.map_congr_left fun c _ => Class.mapBodies_mapBodies f g c)

/-! ## Exchanging one body -/

/-- The class in which a method has been given another body. -/
def changeBody (m : Signature) (body : Body) (c : Class) : Class :=
  { c with declarations :=
      updateFirst (fun d => d.signature c.type == m) (fun d => { d with body }) c.declarations }

theorem methods_changeBody (m : Signature) (body : Body) (c : Class) :
    (changeBody m body c).methods.map (·.signature) = c.methods.map (·.signature) := by
  simp only [Class.methods, List.map_map]
  exact map_updateFirst (by intro d _; rfl) c.declarations

theorem setBody?_eq_some {a a' : Assembly} {m : Signature} {body : Body}
    (h : a.setBody? m body = some a') : (a.method? m).isSome = true ∧
      a' = { a with classes := updateFirst (·.type == m.owner) (changeBody m body) a.classes } := by
  rw [setBody?] at h
  by_cases declared : (a.method? m).isSome = true
  · rw [if_pos declared] at h
    exact ⟨declared, (Option.some.inj h).symm⟩
  · rw [if_neg declared] at h
    exact nomatch h

theorem outline_setBody? {a a' : Assembly} {m : Signature} {body : Body}
    (h : a.setBody? m body = some a') : a'.outline = a.outline := by
  rw [(setBody?_eq_some h).2]
  refine map_updateFirst (fun c _ => ?_) a.classes
  rw [Class.outline, Class.outline, methods_changeBody]
  rfl

theorem class?_setBody? {a a' : Assembly} {m : Signature} {body : Body}
    (h : a.setBody? m body = some a') :
    a'.class? m.owner = (a.class? m.owner).map (changeBody m body) := by
  rw [(setBody?_eq_some h).2]
  exact find?_updateFirst (by intro c same; exact same) a.classes

/-- The method that was given a body is found with that body. -/
theorem body_setBody? {a a' : Assembly} {m : Signature} {body : Body}
    (h : a.setBody? m body = some a') : (a'.method? m).map Method.body = some body := by
  have declared := (setBody?_eq_some h).1
  have changed := class?_setBody? h
  cases hc : a.class? m.owner with
  | none => rw [method?_eq_none hc] at declared; exact nomatch declared
  | some c =>
    rw [hc] at changed
    rw [method?_eq hc, Class.methods, List.find?_map, Option.isSome_map] at declared
    obtain ⟨d, hd⟩ := Option.isSome_iff_exists.mp declared
    have found : (changeBody m body c).declarations.find? (fun d => d.signature c.type == m) =
        some { d with body } := by
      show (updateFirst _ _ c.declarations).find? _ = _
      rw [find?_updateFirst (by intro d same; exact same)]
      exact congrArg (Option.map _) hd
    rw [method?_eq changed, Class.methods, List.find?_map, Option.map_map]
    exact congrArg (Option.map _) found

/-- A method is as it was or has the body that was given. -/
theorem mem_methods_setBody? {a a' : Assembly} {m : Signature} {body : Body}
    (h : a.setBody? m body = some a') {d : Method} (member : d ∈ a'.methods) :
    d ∈ a.methods ∨ d.body = body ∧ (d.signature == m) = true := by
  rw [(setBody?_eq_some h).2] at member
  obtain ⟨c, hc, hd⟩ := List.mem_flatMap.mp member
  rcases mem_updateFirst hc with old | ⟨c, old, _, rfl⟩
  · exact Or.inl (List.mem_flatMap.mpr ⟨c, old, hd⟩)
  · obtain ⟨declared, hdeclared, rfl⟩ := List.mem_map.mp hd
    rcases mem_updateFirst hdeclared with kept | ⟨declared, _, named, rfl⟩
    · exact Or.inl (List.mem_flatMap.mpr ⟨c, old, List.mem_map_of_mem kept⟩)
    · exact Or.inr ⟨rfl, named⟩

end Assembly

end ModSettings
