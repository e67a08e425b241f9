/-
Where a method stands among all methods of an assembly.

Nothing keeps a class from declaring one signature twice, so a signature does not
tell a method from all others, but its place does.  Looking a signature up reads
one place, and exchanging the body of a method changes that place and no other.
-/
import ModSettings.Proofs.Program.Lookup

namespace ModSettings

section

variable {α β : Type} {test : α → Bool} {f : α → α}

/-- A change that leaves the first match alone changes nothing. -/
theorem updateFirst_of_find? {l : List α} (fixed : ∀ a, l.find? test = some a → f a = a) :
    updateFirst test f l = l := by
  induction l with
  | nil => rfl
  | cons a rest ih =>
    rw [updateFirst]
    cases h : test a with
    | true => rw [if_pos rfl, fixed a (List.find?_cons_of_pos h)]
    | false =>
      have later : ∀ b, rest.find? test = some b → f b = b := fun b found =>
        fixed b ((List.find?_cons_of_neg (by rw [h]; exact Bool.false_ne_true)).trans found)
      rw [if_neg Bool.false_ne_true, ih later]

theorem updateFirst_of_none {l : List α} (none : ∀ a ∈ l, test a = false) :
    updateFirst test f l = l := by
  refine updateFirst_of_find? fun a found => ?_
  have passes := List.find?_some found
  rw [none a (List.mem_of_find?_eq_some found)] at passes
  exact nomatch passes

theorem updateFirst_append_of_none {l : List α} (none : ∀ a ∈ l, test a = false) (r : List α) :
    updateFirst test f (l ++ r) = l ++ updateFirst test f r := by
  induction l with
  | nil => rfl
  | cons a rest ih =>
    obtain ⟨here, later⟩ := List.forall_mem_cons.mp none
    rw [List.cons_append, updateFirst, here, if_neg Bool.false_ne_true, ih later,
      List.cons_append]

theorem updateFirst_append_of_find? {l : List α} (found : (l.find? test).isSome = true)
    (r : List α) : updateFirst test f (l ++ r) = updateFirst test f l ++ r := by
  induction l with
  | nil => exact nomatch found
  | cons a rest ih =>
    rw [List.cons_append, updateFirst, updateFirst]
    cases here : test a with
    | true => rfl
    | false =>
      rw [List.find?_cons_of_neg (by rw [here]; exact Bool.false_ne_true)] at found
      rw [if_neg Bool.false_ne_true, if_neg Bool.false_ne_true, ih found, List.cons_append]

theorem updateFirst_map {test' : β → Bool} {f' : β → β} {g : β → α}
    (tests : ∀ b, test (g b) = test' b) (changes : ∀ b, f (g b) = g (f' b)) (l : List β) :
    updateFirst test f (l.map g) = (updateFirst test' f' l).map g := by
  induction l with
  | nil => rfl
  | cons b rest ih =>
    rw [List.map_cons, updateFirst, updateFirst, tests, changes, ih]
    split <;> rfl

/-- Only the place of the first match changes. -/
theorem getElem?_updateFirst (l : List α) (i : Nat) : (updateFirst test f l)[i]? =
    if l.findIdx? test = some i then l[i]?.map f else l[i]? := by
  induction l generalizing i with
  | nil => simp [updateFirst]
  | cons a rest ih =>
    rw [updateFirst, List.findIdx?_cons]
    cases test a <;> cases i <;> simp [ih]

theorem find?_eq_findIdx? (l : List α) : l.find? test = (l.findIdx? test).bind (l[·]?) := by
  induction l with
  | nil => rfl
  | cons a rest ih =>
    rw [List.find?_cons, List.findIdx?_cons, ih]
    cases test a with
    | true => rfl
    | false =>
      rw [if_neg Bool.false_ne_true, Option.bind_map]
      rfl

end

namespace Assembly

variable {a a' : Assembly} {m : Signature}

/-- The place, among all methods, of the method that `method?` finds. -/
def place? (a : Assembly) (m : Signature) : Option Nat :=
  if (a.method? m).isSome then a.methods.findIdx? (·.signature == m) else none

/-- Methods of other classes have other owners. -/
theorem beq_of_mem_methods {c : Class} (h : (c.type == m.owner) = false) :
    ∀ d ∈ c.methods, (d.signature == m) = false := by
  intro d member
  refine Bool.eq_false_iff.mpr fun same => ?_
  have owners : (d.signature.owner == m.owner) = true := (Signature.beq_iff.mp same).1
  rw [Class.owner_of_mem_methods member, h] at owners
  exact Bool.false_ne_true owners

/-- A declared method in its class, with the classes around it.  No class in front
has methods of that signature. -/
theorem exists_split (h : (a.method? m).isSome = true) : ∃ before c after,
    a.classes = before ++ c :: after ∧ (∀ c ∈ before, (c.type == m.owner) = false) ∧
      (c.type == m.owner) = true ∧ a.method? m = c.methods.find? (·.signature == m) := by
  cases found : a.class? m.owner with
  | none => rw [method?_eq_none found] at h; exact nomatch h
  | some c =>
    obtain ⟨same, before, after, split, others⟩ := List.find?_eq_some_iff_append.mp found
    refine ⟨before, c, after, split, fun c member => ?_, same, method?_eq found⟩
    simpa using others c member

theorem methods_split {before after : List Class} {c : Class}
    (split : a.classes = before ++ c :: after) :
    a.methods = before.flatMap (·.methods) ++ (c.methods ++ after.flatMap (·.methods)) := by
  rw [methods, split, List.flatMap_append, List.flatMap_cons]

theorem beq_of_mem_before {before : List Class}
    (others : ∀ c ∈ before, (c.type == m.owner) = false) :
    ∀ d ∈ before.flatMap (·.methods), (d.signature == m) = false := by
  intro d member
  obtain ⟨c, front, inside⟩ := List.mem_flatMap.mp member
  exact beq_of_mem_methods (others c front) d inside

/-- A method that its class declares is the first of that signature in the whole
assembly. -/
theorem method?_eq_find? (h : (a.method? m).isSome = true) :
    a.method? m = a.methods.find? (·.signature == m) := by
  obtain ⟨before, c, after, split, others, -, here⟩ := exists_split h
  have none : (before.flatMap (·.methods)).find? (·.signature == m) = none :=
    List.find?_eq_none.mpr fun d member => by
      rw [beq_of_mem_before others d member]
      exact Bool.false_ne_true
  rw [methods_split split, List.find?_append, none, Option.none_or, List.find?_append, ← here]
  obtain ⟨d, found⟩ := Option.isSome_iff_exists.mp h
  rw [found, Option.some_or]

theorem method?_eq_place? (a : Assembly) (m : Signature) :
    a.method? m = (a.place? m).bind (a.methods[·]?) := by
  rw [place?]
  by_cases found : (a.method? m).isSome = true
  · rw [if_pos found, method?_eq_find? found, find?_eq_findIdx?]
  · rw [if_neg found]
    exact Option.not_isSome_iff_eq_none.mp found

theorem exists_place? (h : (a.method? m).isSome = true) :
    ∃ i d, a.place? m = some i ∧ a.methods[i]? = some d ∧ a.method? m = some d := by
  obtain ⟨d, found⟩ := Option.isSome_iff_exists.mp h
  have placed := found
  rw [method?_eq_place?] at placed
  obtain ⟨i, place, here⟩ := Option.bind_eq_some_iff.mp placed
  exact ⟨i, d, place, here, found⟩

theorem method?_of_place? {i : Nat} (h : a.place? m = some i) : a.method? m = a.methods[i]? := by
  rw [method?_eq_place?, h, Option.bind_some]

/-- The method at the place of a signature has that signature. -/
theorem beq_of_place? {i : Nat} {d : Method} (h : a.place? m = some i)
    (here : a.methods[i]? = some d) : (d.signature == m) = true := by
  have found := method?_of_place? h
  rw [here] at found
  rw [method?_eq_find? (by rw [found]; rfl)] at found
  exact List.find?_some (p := fun d : Method => d.signature == m) found

theorem beq_of_place?_eq {m' : Signature} (declared : (a.method? m).isSome = true)
    (same : a.place? m' = a.place? m) : (m' == m) = true := by
  obtain ⟨i, d, place, here, -⟩ := exists_place? declared
  exact BEq.trans (BEq.symm (beq_of_place? (same.trans place) here)) (beq_of_place? place here)

/-- Places are told by the signatures alone. -/
theorem place?_congr (h : a.outline = a'.outline) (m : Signature) : a.place? m = a'.place? m := by
  have signatures (a : Assembly) : a.methods.findIdx? (·.signature == m) =
      (a.outline.flatMap (·.2)).findIdx? (· == m) := by
    have outlined : a.outline.flatMap (·.2) = a.methods.map (·.signature) := by
      rw [outline, methods, List.flatMap_map, List.map_flatMap]
      rfl
    rw [outlined, List.findIdx?_map]
    rfl
  rw [place?, place?, isSome_method?_congr h, signatures, signatures, h]

theorem methods_changeBody_eq (m : Signature) (body : Body) (c : Class) :
    (changeBody m body c).methods =
      updateFirst (·.signature == m) (fun d => { d with body }) c.methods :=
  (updateFirst_map (by intro d; rfl) (by intro d; rfl) c.declarations).symm

/-- Giving a method a body changes one place. -/
theorem methods_setBody? {body : Body} (h : a.setBody? m body = some a') :
    a'.methods = updateFirst (·.signature == m) (fun d => { d with body }) a.methods := by
  obtain ⟨declared, rfl⟩ := setBody?_eq_some h
  obtain ⟨before, c, after, split, others, same, here⟩ := exists_split declared
  rw [here] at declared
  have changed : updateFirst (·.type == m.owner) (changeBody m body) a.classes =
      before ++ changeBody m body c :: after := by
    rw [split, updateFirst_append_of_none others, updateFirst, if_pos same]
  rw [methods_split changed, methods_split split,
    updateFirst_append_of_none (beq_of_mem_before others), updateFirst_append_of_find? declared,
    methods_changeBody_eq]

theorem getElem?_setBody? {body : Body} (h : a.setBody? m body = some a') (i : Nat) :
    a'.methods[i]? = if a.place? m = some i then a.methods[i]?.map fun d => { d with body }
      else a.methods[i]? := by
  rw [methods_setBody? h, getElem?_updateFirst, place?, if_pos (setBody?_eq_some h).1]

end Assembly

end ModSettings
