/-
The classes of an assembly as a table.

An assembly is made by adding classes and then exchanging bodies.  A class added under
a type that is there already takes the place of the older one, so that types stay apart
and stand in the order in which they first came, and the class under a type is the one
that was added last.

Reading a method looks into the first class of the owner's type.  Writing could go
further: a search through all classes of that type, one after the other, would reach a
class that reading never does.  `keyed_table` says that in an assembly made in this way
there is no such class, so that both come to one place, and that writing changes that
place and nothing else.
-/
import Mathlib.Data.List.Induction
import ModSettings.Proofs.Program.Places

namespace ModSettings
namespace Assembly

variable {a : Assembly} {c : Class} {m : Signature} {body : Body}

/-! ## Adding a class -/

theorem addClass_of_old (old : (a.class? c.type).isSome = true) : a.addClass c =
    { a with classes := updateFirst (·.type == c.type) (fun _ => c) a.classes } := by
  rw [class?, List.find?_isSome, ← List.any_eq_true] at old
  rw [addClass, old]
  rfl

theorem addClass_of_new (new : a.class? c.type = none) :
    a.addClass c = { a with classes := a.classes ++ [c] } := by
  have unseen : a.classes.any (·.type == c.type) = false := by
    rw [class?, List.find?_eq_none] at new
    exact List.any_eq_false.mpr new
  rw [addClass, unseen]
  rfl

/-- Under its own type the new class is found, and under other types what was there. -/
theorem class?_addClass (a : Assembly) (c : Class) (t : Ty) :
    (a.addClass c).class? t = if (c.type == t) = true then some c else a.class? t := by
  by_cases same : (c.type == t) = true
  · rw [if_pos same, ← class?_congr same]
    cases seen : a.class? c.type with
    | some old =>
      rw [addClass_of_old (by rw [seen]; rfl)]
      show List.find? _ (updateFirst _ _ _) = _
      rw [find?_updateFirst (by intro d _; exact BEq.rfl)]
      exact congrArg (Option.map _) seen
    | none =>
      rw [addClass_of_new seen]
      show List.find? _ (a.classes ++ [c]) = _
      rw [List.find?_append]
      have here : [c].find? (·.type == c.type) = some c := List.find?_cons_of_pos BEq.rfl
      exact (congrArg (Option.or · _) seen).trans here
  · rw [if_neg same]
    have apart : (c.type == t) = false := Bool.eq_false_iff.mpr same
    cases seen : a.class? c.type with
    | some old =>
      rw [addClass_of_old (by rw [seen]; rfl)]
      have others : ∀ d : Class, (d.type == c.type) = true →
          (d.type == t) = false ∧ (c.type == t) = false := by
        intro d here
        rw [BEq.congr_left here]
        exact ⟨apart, apart⟩
      exact find?_updateFirst_of_not others a.classes
    | none =>
      rw [addClass_of_new seen]
      show List.find? _ (a.classes ++ [c]) = _
      have none : [c].find? (·.type == t) = none := List.find?_cons_of_neg same
      rw [List.find?_append, none, Option.or_none]
      rfl

/-! ## Adding classes in turn -/

/-- The assembly to which the classes have been added in turn. -/
def built (name : String) (added : List Class) : Assembly := added.foldl addClass (empty name)

/-- Where in the list a class of that type comes first. -/
def firstAdded (added : List Class) (t : Ty) : Nat := added.findIdx (·.type == t)

theorem built_concat (name : String) (added : List Class) (c : Class) :
    built name (added ++ [c]) = (built name added).addClass c := by
  rw [built, List.foldl_append]
  rfl

/-- Under a type stands the class that was added last. -/
theorem class?_built (name : String) (added : List Class) (t : Ty) :
    (built name added).class? t = added.reverse.find? (·.type == t) := by
  induction added using List.reverseRecOn with
  | nil => rfl
  | append_singleton earlier c ih =>
    rw [built_concat, class?_addClass, ih, List.reverse_append, List.reverse_singleton,
      List.singleton_append, List.find?_cons]
    cases c.type == t <;> rfl

theorem firstAdded_congr {t u : Ty} (same : (t == u) = true) (added : List Class) :
    firstAdded added t = firstAdded added u :=
  congrArg (added.findIdx ·) (funext fun _ => BEq.congr_right same)

theorem firstAdded_lt {name : String} {added : List Class} {t : Ty}
    (h : ((built name added).class? t).isSome = true) : firstAdded added t < added.length := by
  rw [class?_built, List.find?_isSome] at h
  obtain ⟨c, member, same⟩ := h
  exact List.findIdx_lt_length.mpr ⟨c, List.mem_reverse.mp member, same⟩

theorem firstAdded_concat_of_old {added : List Class} {t : Ty}
    (old : firstAdded added t < added.length) (c : Class) :
    firstAdded (added ++ [c]) t = firstAdded added t := by
  rw [firstAdded, List.findIdx_append]
  exact if_pos old

theorem firstAdded_concat_of_new {name : String} {added : List Class}
    (new : (built name added).class? c.type = none) :
    firstAdded (added ++ [c]) c.type = added.length := by
  rw [class?_built, List.find?_eq_none] at new
  have absent : ¬firstAdded added c.type < added.length := fun less => by
    obtain ⟨d, member, same⟩ := List.findIdx_lt_length.mp less
    exact new d (List.mem_reverse.mpr member) same
  rw [firstAdded, List.findIdx_append]
  refine (if_neg absent).trans ?_
  rw [List.findIdx_cons, BEq.rfl]
  exact Nat.zero_add _

theorem isSome_class?_of_mem (h : c ∈ a.classes) : (a.class? c.type).isSome = true := by
  rw [class?, List.find?_isSome]
  exact ⟨c, h, BEq.rfl⟩

/-- Types stand in the order in which they first came. -/
theorem increasing_built (name : String) (added : List Class) :
    ((built name added).classes.map fun c => firstAdded added c.type).Pairwise (· < ·) := by
  induction added using List.reverseRecOn with
  | nil => exact List.Pairwise.nil
  | append_singleton earlier c ih =>
    have before : ∀ d ∈ (built name earlier).classes, firstAdded earlier d.type < earlier.length :=
      fun d member => firstAdded_lt (isSome_class?_of_mem member)
    have kept : (built name earlier).classes.map (fun d => firstAdded (earlier ++ [c]) d.type) =
        (built name earlier).classes.map fun d => firstAdded earlier d.type :=
      List.map_congr_left fun d member => firstAdded_concat_of_old (before d member) c
    rw [built_concat]
    cases seen : (built name earlier).class? c.type with
    | some old =>
      rw [addClass_of_old (by rw [seen]; rfl)]
      show ((updateFirst _ _ _).map _).Pairwise _
      have unmoved : ∀ d : Class, (d.type == c.type) = true →
          firstAdded (earlier ++ [c]) c.type = firstAdded (earlier ++ [c]) d.type :=
        fun d same => firstAdded_congr (BEq.symm same) _
      rw [map_updateFirst unmoved, kept]
      exact ih
    | none =>
      rw [addClass_of_new seen]
      show ((_ ++ [c]).map _).Pairwise _
      rw [List.map_append, kept, List.map_singleton, firstAdded_concat_of_new seen]
      refine List.pairwise_append.mpr ⟨ih, List.pairwise_singleton _ _, ?_⟩
      rintro i earlier' j last
      obtain ⟨d, member, rfl⟩ := List.mem_map.mp earlier'
      obtain rfl := List.mem_singleton.mp last
      exact before d member

/-! ## Giving bodies in turn -/

/-- Gives a method a body.  Where there is no such method the assembly stays. -/
def edit (a : Assembly) (e : Signature × Body) : Assembly := (a.setBody? e.1 e.2).getD a

theorem edit_of_some {a' : Assembly} (h : a.setBody? m body = some a') :
    a.edit (m, body) = a' := by
  rw [edit, h]
  rfl

theorem setBody?_isSome (a : Assembly) (m : Signature) (body : Body) :
    (a.setBody? m body).isSome = (a.method? m).isSome := by
  rw [setBody?]
  cases (a.method? m).isSome <;> rfl

theorem edit_of_absent (h : (a.method? m).isSome = false) : a.edit (m, body) = a := by
  rw [← setBody?_isSome a m body, Option.isSome_eq_false_iff, Option.isNone_iff_eq_none] at h
  rw [edit, h]
  rfl

theorem outline_edit (a : Assembly) (e : Signature × Body) : (a.edit e).outline = a.outline := by
  cases h : a.setBody? e.1 e.2 with
  | none => rw [edit, h]; rfl
  | some a' => rw [edit_of_some h, outline_setBody? h]

theorem outline_foldl_edit (a : Assembly) (edits : List (Signature × Body)) :
    (edits.foldl edit a).outline = a.outline := by
  induction edits generalizing a with
  | nil => rfl
  | cons e rest ih => rw [List.foldl_cons, ih, outline_edit]

/-- A class without the method stays as it is. -/
theorem changeBody_of_none (h : ∀ d ∈ c.methods, (d.signature == m) = false) :
    changeBody m body c = c := by
  have none : ∀ d ∈ c.declarations, (d.signature c.type == m) = false :=
    fun d member => h (d.method c.type) (List.mem_map_of_mem member)
  rw [changeBody, updateFirst_of_none none]

/-- Giving a body looks at one class, whether that class has the method or not. -/
theorem edit_eq (a : Assembly) (m : Signature) (body : Body) : a.edit (m, body) =
    { a with classes := updateFirst (·.type == m.owner) (changeBody m body) a.classes } := by
  cases declared : (a.method? m).isSome with
  | true =>
    rw [edit, setBody?, declared]
    rfl
  | false =>
    have fixed : ∀ c, a.class? m.owner = some c → changeBody m body c = c := by
      intro c found
      rw [method?_eq found, Option.isSome_eq_false_iff, Option.isNone_iff_eq_none,
        List.find?_eq_none] at declared
      exact changeBody_of_none fun d member => Bool.eq_false_iff.mpr (declared d member)
    rw [edit, setBody?, declared, updateFirst_of_find? fixed]
    rfl

/-- Under every type stands what stood there, with the body in place where the class has
the method. -/
theorem class?_edit (a : Assembly) (m : Signature) (body : Body) (t : Ty) :
    (a.edit (m, body)).class? t = (a.class? t).map (changeBody m body) := by
  rw [edit_eq]
  by_cases owner : (t == m.owner) = true
  · rw [class?_congr owner, class?_congr owner]
    exact find?_updateFirst (by intro c same; exact same) a.classes
  · have others : ∀ c : Class, (c.type == m.owner) = true →
        (c.type == t) = false ∧ ((changeBody m body c).type == t) = false := by
      intro c here
      have apart : (c.type == t) = false :=
        Bool.eq_false_iff.mpr fun same => owner (BEq.trans (BEq.symm same) here)
      exact ⟨apart, apart⟩
    refine (find?_updateFirst_of_not others a.classes).trans ?_
    show a.class? t = _
    cases found : a.class? t with
    | none => rfl
    | some c =>
      have same : (c.type == t) = true := List.find?_some (p := fun c : Class => c.type == t) found
      have apart : (c.type == m.owner) = false := by
        rw [BEq.congr_left same]
        exact Bool.eq_false_iff.mpr owner
      rw [Option.map_some, changeBody_of_none (beq_of_mem_methods apart)]

/-- The class with all those bodies put in place, in turn. -/
def changeBodies (edits : List (Signature × Body)) (c : Class) : Class :=
  edits.foldl (fun c e => changeBody e.1 e.2 c) c

theorem class?_foldl_edit (a : Assembly) (edits : List (Signature × Body)) (t : Ty) :
    (edits.foldl edit a).class? t = (a.class? t).map (changeBodies edits) := by
  induction edits generalizing a with
  | nil => exact Option.map_id'.symm
  | cons e rest ih =>
    rw [List.foldl_cons, ih, class?_edit, Option.map_map]
    rfl

/-! ## Reading and writing -/

/-- No two classes have one type. -/
def Apart (a : Assembly) : Prop := (a.classes.map (·.type)).Pairwise fun t u => (t == u) = false

/-- A body given by searching the methods of all classes of the owner's type, class by
class, for the first of that signature, with the answer whether there was one. -/
def overwrite (a : Assembly) (m : Signature) (body : Body) : Bool × Assembly :=
  let declares (c : Class) : Bool := c.type == m.owner && c.methods.any (·.signature == m)
  (a.classes.any declares,
    { a with classes := updateFirst declares (changeBody m body) a.classes })

theorem method?_isSome_iff (apart : a.Apart) : (a.method? m).isSome = true ↔
    ∃ c ∈ a.classes, (c.type == m.owner) = true ∧ c.methods.any (·.signature == m) = true := by
  simp only [List.any_eq_true]
  constructor
  · intro declared
    obtain ⟨before, c, after, split, _, same, here⟩ := exists_split declared
    rw [here, List.find?_isSome] at declared
    exact ⟨c, split ▸ List.mem_append_right before List.mem_cons_self, same, declared⟩
  · rintro ⟨c, member, same, declared⟩
    have found : a.class? m.owner = some c :=
      find?_of_pairwise (List.pairwise_map.mp apart) member same
    rw [method?_eq found, List.find?_isSome]
    exact declared

/-- Where types are apart, the search through all classes comes to the class that reading
looks into. -/
theorem overwrite_eq (apart : a.Apart) (m : Signature) (body : Body) :
    a.overwrite m body = ((a.setBody? m body).isSome, a.edit (m, body)) := by
  have declares (c : Class) : (c.type == m.owner && c.methods.any (·.signature == m)) = true ↔
      (c.type == m.owner) = true ∧ c.methods.any (·.signature == m) = true := Bool.and_eq_true_iff
  have answer : a.classes.any (fun c => c.type == m.owner && c.methods.any (·.signature == m)) =
      (a.method? m).isSome := by
    rw [Bool.eq_iff_iff, List.any_eq_true, method?_isSome_iff apart]
    simp only [declares]
  rw [overwrite, answer, setBody?_isSome]
  refine congrArg (Prod.mk _) ?_
  cases declared : (a.method? m).isSome with
  | true =>
    obtain ⟨before, c, after, split, others, same, here⟩ := exists_split declared
    rw [here, List.find?_isSome, ← List.any_eq_true] at declared
    have passed : ∀ c ∈ before, (c.type == m.owner && c.methods.any (·.signature == m)) = false :=
      fun c front => by rw [others c front, Bool.false_and]
    rw [edit_eq, split, updateFirst_append_of_none passed, updateFirst_append_of_none others,
      updateFirst, updateFirst, if_pos ((declares c).mpr ⟨same, declared⟩), if_pos same]
  | false =>
    have none : ∀ c ∈ a.classes,
        (c.type == m.owner && c.methods.any (·.signature == m)) = false := by
      rw [← answer] at declared
      exact fun c member => Bool.eq_false_iff.mpr (List.any_eq_false.mp declared c member)
    rw [updateFirst_of_none none, edit_of_absent declared]

/-- Two classes of one type, the second with a method that only the search finds. -/
example :
    let a : Assembly := { name := "Twice", classes := [
      { type := .object }, { type := .object, declarations := [{ name := "Go" }] }] }
    let go : Signature := { owner := .object, name := "Go" }
    (a.overwrite go .missing).1 = true ∧ (a.method? go).isSome = false := ⟨rfl, rfl⟩

theorem method?_edit_self (a : Assembly) (m : Signature) (body : Body) :
    (a.edit (m, body)).method? m = (a.method? m).map fun d => { d with body } := by
  have edited := class?_edit a m body m.owner
  cases found : a.class? m.owner with
  | none =>
    rw [found] at edited
    rw [method?_eq_none edited, method?_eq_none found]
    rfl
  | some c =>
    rw [found] at edited
    rw [method?_eq edited, method?_eq found, methods_changeBody_eq]
    exact find?_updateFirst (by intro d same; exact same) c.methods

theorem method?_edit_of_not {n : Signature} (other : (n == m) = false) (a : Assembly)
    (body : Body) : (a.edit (m, body)).method? n = a.method? n := by
  have edited := class?_edit a m body n.owner
  cases found : a.class? n.owner with
  | none =>
    rw [found] at edited
    rw [method?_eq_none edited, method?_eq_none found]
  | some c =>
    rw [found] at edited
    rw [method?_eq edited, method?_eq found, methods_changeBody_eq]
    have others : ∀ d : Method, (d.signature == m) = true →
        (d.signature == n) = false ∧ (d.signature == n) = false := by
      intro d same
      have apart : (d.signature == n) = false := by
        rw [BEq.congr_left same, BEq.comm, other]
      exact ⟨apart, apart⟩
    exact find?_updateFirst_of_not (f := fun d => { d with body }) others c.methods

/-- Of all methods the first of that signature gets the body. -/
theorem methods_edit {d : Method} (found : a.method? m = some d) (body : Body) :
    ∃ front back, a.methods = front ++ d :: back ∧ (∀ e ∈ front, (e.signature == m) = false) ∧
      (a.edit (m, body)).methods = front ++ { d with body } :: back := by
  have declared : (a.method? m).isSome = true := by rw [found]; rfl
  obtain ⟨a', written⟩ : ∃ a', a.setBody? m body = some a' :=
    Option.isSome_iff_exists.mp ((setBody?_isSome a m body).trans declared)
  rw [method?_eq_find? declared] at found
  obtain ⟨same, front, back, split, others⟩ := List.find?_eq_some_iff_append.mp found
  have passed : ∀ e ∈ front, (e.signature == m) = false := fun e earlier => by
    simpa using others e earlier
  refine ⟨front, back, split, passed, ?_⟩
  rw [edit_of_some written, methods_setBody? written, split, updateFirst_append_of_none passed,
    updateFirst, if_pos same]

/-! ## The table -/

/-- What giving a method a body does to the assembly. -/
structure Writes (a : Assembly) (m : Signature) (body : Body) : Prop where
  /-- The search through all classes of the owner's type does what is done. -/
  agrees : a.overwrite m body = ((a.setBody? m body).isSome, a.edit (m, body))
  /-- It succeeds just if the method can be read. -/
  answers : (a.overwrite m body).1 = (a.method? m).isSome
  refused : (a.overwrite m body).1 = false → (a.overwrite m body).2 = a
  read : (a.edit (m, body)).method? m = (a.method? m).map fun d => { d with body }
  others : ∀ n, (n == m) = false → (a.edit (m, body)).method? n = a.method? n
  /-- One definition changes, the one that was read and the first of its signature.  Later
  ones of that signature stay. -/
  changes : ∀ d, a.method? m = some d → ∃ front back,
    a.methods = front ++ d :: back ∧ (∀ e ∈ front, (e.signature == m) = false) ∧
      (a.edit (m, body)).methods = front ++ { d with body } :: back
  /-- Types and signatures stay, and so does their order. -/
  outline : (a.edit (m, body)).outline = a.outline

theorem writes_of_apart (apart : a.Apart) (m : Signature) (body : Body) : a.Writes m body where
  agrees := overwrite_eq apart m body
  answers := by rw [overwrite_eq apart, setBody?_isSome]
  refused no := by
    rw [overwrite_eq apart, setBody?_isSome] at no
    rw [overwrite_eq apart, edit_of_absent no]
  read := method?_edit_self a m body
  others _ other := method?_edit_of_not other a body
  changes _ found := methods_edit found body
  outline := outline_edit a (m, body)

/-- An assembly to which classes are added, of whatever types, and whose methods are then
given bodies is a table.  Its types are different, in the order in which they were first
added; under a type stands the class of that type that was added last, with the bodies
put into it; and another body goes to the method that is read under a signature, and
nowhere else. -/
theorem keyed_table (name : String) (added : List Class) (edits : List (Signature × Body)) :
    let a := edits.foldl edit (built name added)
    (a.classes.map (·.type)).Pairwise (fun t u => (t == u) = false) ∧
    (a.classes.map (·.type)).Pairwise (fun t u => firstAdded added t < firstAdded added u) ∧
    (∀ t, a.class? t = (added.reverse.find? (·.type == t)).map (changeBodies edits)) ∧
    ∀ m body, a.Writes m body := by
  intro a
  have types : a.classes.map (·.type) = (built name added).classes.map (·.type) := by
    have outlined (b : Assembly) : b.classes.map (·.type) = b.outline.map (·.1) := by
      rw [outline, List.map_map]
      rfl
    rw [outlined, outlined, outline_foldl_edit]
  have increasing : (a.classes.map (·.type)).Pairwise
      fun t u => firstAdded added t < firstAdded added u := by
    rw [types]
    exact List.pairwise_map.mpr (List.pairwise_map.mp (increasing_built name added))
  have apart : a.Apart := increasing.imp fun {t u} less =>
    Bool.eq_false_iff.mpr fun same => Nat.ne_of_lt less (firstAdded_congr same added)
  refine ⟨apart, increasing, fun t => ?_, writes_of_apart apart⟩
  rw [class?_foldl_edit, class?_built]

end Assembly
end ModSettings
