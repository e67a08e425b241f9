/-
Which arguments a mapping uses.

The walk over a stub's arguments visits each of them once, in order, and takes or
drops it.  So the arguments that fill slots come further and further to the right,
and the cost of a mapping counts the parameters that it leaves out, whether they
were dropped on the way or left over in the end.  The theorem this file exists for
is `exact_mapping?`.
-/
import Mathlib.Data.List.Pairwise
import ModSettings.Proofs.Bridge.Matching
import ModSettings.Proofs.Types.Assignability

namespace ModSettings

/-- The position of a method's first parameter among its arguments: the receiver
of an instance method comes before it. -/
def Signature.firstParam (m : Signature) : Nat := if m.isStatic then 0 else 1

/-- The argument that a source passes on. -/
def Source.position? : Source → Option Nat
  | .argument index => some index
  | .inject => none

namespace Mapping

/-- The arguments that are passed on, in the order of the slots that they fill. -/
def positions (m : Mapping) : List Nat := m.sources.filterMap Source.position?

/-- The parameters of the stub that no source uses, told by their positions among
its arguments. -/
def unused (m : Mapping) (caller : Signature) : List Nat :=
  (List.range caller.arity).filter fun i => caller.firstParam ≤ i ∧ i ∉ m.positions

/-- The mapping says for every slot of the target what fills it, and costs as much
as it leaves out. -/
structure Exact (m : Mapping) (caller target : Signature) : Prop where
  onePerSlot : m.sources.length = target.arity
  /-- A source is an argument that its slot admits, or the mod's own handle where
  the slot wants a handle. -/
  fits : List.Forall₂ (Bridge.Fits caller) target.arguments m.sources
  increasing : m.positions.Pairwise (· < ·)
  below : ∀ i ∈ m.positions, i < caller.arity
  results : caller.result.isVoid = target.result.isVoid
  cost : m.skipCost = (m.unused caller).length

end Mapping

namespace Bridge

/-! ## Visited arguments -/

/-- The argument that a move takes. -/
def Move.taken? : Move → Option Nat
  | take index _ _ => some index
  | _ => none

/-- The argument that a move uses up, whether it takes it or drops it. -/
def Move.visited? : Move → Option Nat
  | take index _ _ => some index
  | drop index => some index
  | inject _ => none

/-- The arguments that the moves so far have used up, the earliest first. -/
def Walk.visited (w : Walk) : List Nat := w.moves.reverse.filterMap Move.visited?

theorem visited_injectWhile (w : Walk) (test : Ty → Bool) :
    (w.injectWhile test).visited = w.visited := by
  rw [Walk.visited, Walk.visited, filterMap_injectWhile]
  have none : (w.slots.takeWhile test).filterMap (Move.visited? ∘ Move.inject) = [] :=
    List.filterMap_eq_nil_iff.mpr fun _ _ => rfl
  rw [none, List.append_nil]

theorem visited_visit (w : Walk) (argument : Ty) :
    (w.visit argument).visited = w.visited ++ [w.next] := by
  rw [← visited_injectWhile w fun slot => !slot.admits argument && slot.isHandle,
    ← next_injectWhile w fun slot => !slot.admits argument && slot.isHandle]
  unfold Walk.visit
  generalize w.injectWhile (fun slot => !slot.admits argument && slot.isHandle) = w
  dsimp only
  split
  case h_2 => simp [Walk.visited, Move.visited?]
  case h_1 => split <;> simp [Walk.visited, Move.visited?]

theorem visited_foldl_visit (arguments : List Ty) {w : Walk} (h : w.visited = List.range w.next) :
    (arguments.foldl Walk.visit w).visited = List.range (w.next + arguments.length) := by
  induction arguments generalizing w with
  | nil => exact h
  | cons argument rest ih =>
    have here : (w.visit argument).visited = List.range (w.visit argument).next := by
      rw [visited_visit, next_visit, h, List.range_succ]
    rw [List.foldl_cons, ih here, next_visit, List.length_cons, Nat.add_assoc,
      Nat.add_comm 1]

/-- The whole walk uses up every argument once, in order. -/
theorem visited_walk (caller target : Signature) :
    (walk caller target).visited = List.range caller.arity := by
  rw [walk, Walk.finish, visited_injectWhile, visited_foldl_visit _ rfl, Nat.zero_add,
    Signature.length_arguments]

/-! ## The positions and the cost -/

section

variable {caller target : Signature} {m : Mapping}

theorem position?_source? (move : Move) : (move.source?).bind Source.position? = move.taken? := by
  cases move <;> rfl

theorem visited?_of_taken? {move : Move} {i : Nat} (h : move.taken? = some i) :
    move.visited? = some i := by
  cases move with
  | take index argument slot => exact h
  | _ => exact nomatch h

/-- No two moves of the walk use up the same argument, and later ones use up later
arguments. -/
theorem visited_increasing (caller target : Signature) :
    (walk caller target).moves.reverse.Pairwise fun move move' =>
      ∀ i, move.visited? = some i → ∀ j, move'.visited? = some j → i < j := by
  rw [← List.pairwise_filterMap]
  show (walk caller target).visited.Pairwise _
  rw [visited_walk]
  exact List.pairwise_lt_range

/-- An argument that is dropped is not taken. -/
theorem taken_of_dropped {i : Nat} (h : Move.drop i ∈ (walk caller target).moves.reverse) :
    i ∉ (walk caller target).moves.reverse.filterMap Move.taken? := by
  intro taken
  obtain ⟨move, member, takes⟩ := List.mem_filterMap.mp taken
  have differ : Move.drop i ≠ move := by rintro rfl; exact nomatch takes
  have apart : (walk caller target).moves.reverse.Pairwise fun move move' =>
      ∀ i, move.visited? = some i → ∀ j, move'.visited? = some j → i ≠ j :=
    (visited_increasing caller target).imp fun before i hi j hj => Nat.ne_of_lt (before i hi j hj)
  have : Std.Symm fun move move' : Move =>
      ∀ i, move.visited? = some i → ∀ j, move'.visited? = some j → i ≠ j :=
    ⟨fun _ _ apart i hi j hj => (apart j hj i hi).symm⟩
  exact apart.forall h member differ i rfl i (visited?_of_taken? takes) rfl

/-- Every dropped parameter costs one, and what is dropped is what is not taken. -/
theorem countP_isSkip (caller target : Signature) :
    let moves := (walk caller target).moves.reverse
    moves.countP (Move.isSkip caller) = ((List.range caller.arity).filter fun i =>
      caller.firstParam ≤ i ∧ i ∉ moves.filterMap Move.taken?).length := by
  intro moves
  rw [← List.countP_eq_length_filter, ← visited_walk caller target, Walk.visited,
    List.countP_filterMap]
  refine List.countP_congr fun move member => ?_
  cases move with
  | inject slot => rfl
  | take index argument slot =>
    have taken : index ∈ moves.filterMap Move.taken? := List.mem_filterMap.mpr ⟨_, member, rfl⟩
    refine Iff.trans ?_ decide_eq_true_iff.symm
    exact ⟨nofun, fun unused => absurd taken unused.2⟩
  | drop index =>
    have declared : (caller.isStatic || index != 0) = true ↔ caller.firstParam ≤ index := by
      unfold Signature.firstParam
      cases caller.isStatic <;> simp [Nat.one_le_iff_ne_zero]
    refine Iff.trans ?_ decide_eq_true_iff.symm
    rw [and_iff_left (taken_of_dropped member)]
    exact declared

/-- The positions of a mapping are the arguments that the walk takes. -/
theorem filterMap_position? (caller target : Signature) :
    (walk caller target).sources.filterMap Source.position? =
      (walk caller target).moves.reverse.filterMap Move.taken? := by
  rw [Walk.sources, List.filterMap_filterMap]
  exact congrArg (List.filterMap · _) (funext position?_source?)

end

/-- A mapping fills every slot with an argument that fits it or, where the slot
wants a handle, with the mod's own; it uses arguments further and further to the
right; and its cost is the number of parameters that it leaves out. -/
theorem exact_mapping? {caller target : Signature} {m : Mapping}
    (h : mapping? caller target = some m) : m.Exact caller target := by
  have fits := fits_of_mapping? h
  obtain ⟨results, _, same⟩ := mapping?_eq_some_iff.mp h
  have positions : m.positions = (walk caller target).moves.reverse.filterMap Move.taken? := by
    rw [same]
    exact filterMap_position? caller target
  refine ⟨?_, fits, ?_, ?_, Ty.isVoid_of_accepts results, ?_⟩
  · rw [← fits.length_eq, Signature.length_arguments]
  · rw [positions, List.pairwise_filterMap]
    exact (visited_increasing caller target).imp fun before i hi j hj =>
      before i (visited?_of_taken? hi) j (visited?_of_taken? hj)
  · intro i used
    rw [positions] at used
    obtain ⟨move, member, takes⟩ := List.mem_filterMap.mp used
    rw [← List.mem_range, ← visited_walk caller target]
    exact List.mem_filterMap.mpr ⟨move, member, visited?_of_taken? takes⟩
  · rw [Mapping.unused, positions, same]
    exact countP_isSkip caller target

/-- The receiver is passed over for the mod's own handle, which costs nothing.  The
number in front of the name is dropped and the one behind it left over. -/
theorem exact_mapping?_sample :
    let stub : Signature :=
      { owner := .cls "Holder" none [] .concrete true, name := "GetCheckboxState",
        params := [.int, .string, .float], result := .bool }
    let target : Signature :=
      { owner := .api, name := "GetCheckboxState", params := [.mod, .string], result := .bool,
        isStatic := true }
    ∃ m, mapping? stub target = some m ∧ m.Exact stub target ∧ m.sources = [.inject, .argument 2] ∧
      m.unused stub = [1, 3] ∧ m.skipCost = 2 := by
  intro stub target
  have h : mapping? stub target = some { sources := [.inject, .argument 2], skipCost := 2 } := by
    decide
  exact ⟨_, h, exact_mapping? h, rfl, by decide, rfl⟩

end Bridge
end ModSettings
