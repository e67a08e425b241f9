/-
When a stub matches.

The slots of a target that want a handle never stay empty.  The others are owed an
argument each, and the walk over a stub's arguments gives each of them the first
one left that fits and never goes back.  It could miss a mapping only by spending
on a handle an argument that another slot needs, so where no argument fits slots
of both sorts it misses none.  That is `mapping?_isSome_iff`, the theorem this
file exists for.
-/
import Mathlib.Data.List.TakeWhile
import ModSettings.Proofs.Bridge.Soundness

namespace ModSettings
namespace Bridge

/-- The slots that only an argument can fill. -/
def owed (slots : List Ty) : List Ty := slots.filter (!·.isHandle)

/-- An argument that fits a slot that wants a handle fits none of the others. -/
def Separates (arguments slots : List Ty) : Prop :=
  ∀ a ∈ arguments, ∀ slot ∈ slots, slot.isHandle = true → slot.admits a = true →
    ∀ other ∈ owed slots, other.admits a = false

/-- The slots can be filled, in their order, with arguments further and further
to the right. -/
abbrev Fillable (slots arguments : List Ty) : Prop :=
  List.SublistForall₂ (fun slot a => slot.admits a = true) slots arguments

section

variable {slots rest : List Ty} {slot a : Ty}

theorem owed_cons_handle (handle : slot.isHandle = true) : owed (slot :: slots) = owed slots :=
  List.filter_cons_of_neg (by rw [handle]; exact Bool.false_ne_true)

theorem owed_cons_of_not (other : slot.isHandle = false) :
    owed (slot :: slots) = slot :: owed slots :=
  List.filter_cons_of_pos (by rw [other]; rfl)

/-! ## Filling slots -/

theorem Fillable.tail (h : Fillable (slot :: slots) rest) : Fillable slots rest := by
  induction rest with
  | nil => exact nomatch h
  | cons a rest ih =>
    cases h with
    | cons _ others => exact .cons_right others
    | cons_right later => exact .cons_right (ih later)

/-- Where an argument fits the first slot, nothing is lost by giving it that
slot. -/
theorem fillable_cons_of_admits (admits : slot.admits a = true) :
    Fillable (slot :: slots) (a :: rest) ↔ Fillable slots rest := by
  refine ⟨fun h => ?_, .cons admits⟩
  cases h with
  | cons _ others => exact others
  | cons_right later => exact Fillable.tail later

theorem fillable_cons_of_refuses (refuses : ∀ slot ∈ slots.head?, slot.admits a = false) :
    Fillable slots (a :: rest) ↔ Fillable slots rest := by
  refine ⟨fun h => ?_, .cons_right⟩
  cases h with
  | nil => exact .nil
  | cons admits _ =>
    rw [refuses _ rfl] at admits
    exact nomatch admits
  | cons_right later => exact later

theorem fillable_nil : Fillable slots [] ↔ slots = [] := by
  constructor
  · intro h
    cases h
    rfl
  · rintro rfl
    exact .nil

/-! ## The walk -/

/-- The slots that a visit leaves over. -/
theorem slots_visit (w : Walk) (a : Ty) : (w.visit a).slots =
    match w.slots.dropWhile fun slot => !slot.admits a && slot.isHandle with
    | slot :: rest => if slot.admits a then rest else slot :: rest
    | [] => [] := by
  unfold Walk.visit
  dsimp only [Walk.injectWhile]
  cases w.slots.dropWhile fun slot => !slot.admits a && slot.isHandle with
  | nil => rfl
  | cons slot rest =>
    show Walk.slots (if slot.admits a then _ else _) = if slot.admits a then rest else slot :: rest
    cases slot.admits a <;> rfl

/-- Visits look at one slot after the other. -/
theorem slots_visit_cons (slots : List Ty) (next : Nat) (moves : List Move) :
    (Walk.visit ⟨slot :: slots, next, moves⟩ a).slots =
      if slot.admits a then slots
      else if slot.isHandle then (Walk.visit ⟨slots, next, moves⟩ a).slots
      else slot :: slots := by
  rw [slots_visit, slots_visit]
  cases admits : slot.admits a with
  | true => rw [List.dropWhile_cons_of_neg (by simp [admits])]; simp [admits]
  | false =>
    cases handle : slot.isHandle with
    | true => rw [List.dropWhile_cons_of_pos (by simp [admits, handle])]; simp
    | false => rw [List.dropWhile_cons_of_neg (by simp [handle])]; simp [admits]

theorem visit_subset (slots : List Ty) (next : Nat) (moves : List Move) :
    (Walk.visit ⟨slots, next, moves⟩ a).slots ⊆ slots := by
  induction slots with
  | nil => exact fun _ member => member
  | cons slot slots ih =>
    rw [slots_visit_cons]
    split
    · exact List.subset_cons_self slot slots
    · split
      · exact List.subset_cons_of_subset slot ih
      · exact List.Subset.refl _

theorem Separates.of_subset {arguments slots later : List Ty} (h : Separates arguments slots)
    (among : later ⊆ slots) : Separates arguments later := by
  intro a given slot member handle admits other spare
  obtain ⟨there, isPlain⟩ := List.mem_filter.mp spare
  exact h a given slot (among member) handle admits other
    (List.mem_filter.mpr ⟨among there, isPlain⟩)

/-- Visiting an argument leaves a task as hard as there was: the owed slots left
can be filled with the arguments to come just when those that there were could
be filled with this one and them. -/
theorem fillable_visit {slots : List Ty} (next : Nat) (moves : List Move)
    (separates : Separates (a :: rest) slots) :
    Fillable (owed (Walk.visit ⟨slots, next, moves⟩ a).slots) rest ↔
      Fillable (owed slots) (a :: rest) := by
  induction slots with
  | nil => exact ⟨fun _ => .nil, fun _ => .nil⟩
  | cons slot slots ih =>
    have among := separates.of_subset (List.subset_cons_self slot slots)
    rw [slots_visit_cons]
    cases admits : slot.admits a <;> cases handle : slot.isHandle
    case false.true =>
      rw [if_neg Bool.false_ne_true, if_pos rfl, owed_cons_handle handle]
      exact ih among
    case false.false =>
      rw [if_neg Bool.false_ne_true, if_neg Bool.false_ne_true, owed_cons_of_not handle]
      refine (fillable_cons_of_refuses fun first here => ?_).symm
      rw [← Option.some.inj here]
      exact admits
    case true.false =>
      rw [if_pos rfl, owed_cons_of_not handle]
      exact (fillable_cons_of_admits admits).symm
    case true.true =>
      -- an argument that is spent on a handle is of no use to any other slot
      have useless := separates a List.mem_cons_self slot List.mem_cons_self handle admits
      rw [owed_cons_handle handle] at useless
      rw [if_pos rfl, owed_cons_handle handle]
      exact (fillable_cons_of_refuses fun first here =>
        useless first (List.mem_of_mem_head? here)).symm

theorem fillable_foldl_visit (arguments : List Ty) {slots : List Ty} (next : Nat)
    (moves : List Move) (separates : Separates arguments slots) :
    owed (arguments.foldl Walk.visit ⟨slots, next, moves⟩).slots = [] ↔
      Fillable (owed slots) arguments := by
  induction arguments generalizing slots next moves with
  | nil => exact fillable_nil.symm
  | cons a rest ih =>
    have later : Separates rest (Walk.visit ⟨slots, next, moves⟩ a).slots :=
      Separates.of_subset (fun a given => separates a (List.mem_cons_of_mem _ given))
        (visit_subset slots next moves)
    rw [← fillable_visit next moves separates]
    exact ih _ _ later

end

/-- The walk fills all slots as soon as what is owed can be filled at all. -/
theorem slots_walk_eq_nil {caller target : Signature}
    (separates : Separates caller.arguments target.arguments) :
    (walk caller target).slots = [] ↔ Fillable (owed target.arguments) caller.arguments := by
  rw [← fillable_foldl_visit caller.arguments 0 [] separates]
  show List.dropWhile Ty.isHandle _ = [] ↔ List.filter _ _ = []
  rw [List.dropWhile_eq_nil_iff, List.filter_eq_nil_iff]
  simp

theorem mapping?_isSome {caller target : Signature} : (mapping? caller target).isSome = true ↔
    caller.result.accepts target.result = true ∧ (walk caller target).slots = [] := by
  simp [Option.isSome_iff_exists, mapping?_eq_some_iff]

/-! ## Positions -/

/-- Being matched with a part of a list, told by the positions of that part. -/
theorem sublistForall₂_iff_positions {α β : Type} {R : α → β → Prop} {l : List α}
    {l' : List β} : List.SublistForall₂ R l l' ↔ ∃ positions : List (Fin l'.length),
      positions.Pairwise (· < ·) ∧ List.Forall₂ (fun a i => R a l'[i]) l positions := by
  rw [List.sublistForall₂_iff]
  constructor
  · rintro ⟨part, fits, sublist⟩
    obtain ⟨positions, rfl, increasing⟩ := List.sublist_eq_map_getElem sublist
    exact ⟨positions, increasing, List.forall₂_map_right_iff.mp fits⟩
  · rintro ⟨positions, increasing, fits⟩
    exact ⟨positions.map (l'[·]), List.forall₂_map_right_iff.mpr fits,
      List.map_getElem_sublist increasing⟩

/-! ## The settings API -/

/-- In the settings API the slots that only an argument can fill let in one type
each, and that is no class. -/
theorem separates_of_mem_standard {o : Offer} (member : o ∈ Catalog.standard.entries)
    (arguments : List Ty) : Separates arguments o.method.arguments := by
  intro a _ slot _ handle admits other spare
  obtain ⟨there, isOwed⟩ := List.mem_filter.mp spare
  have noHandle : other.isHandle = false := by simpa using isOwed
  have sole : other.isSole = true := by
    rcases (plain_of_mem_standard o member).1 other there with rfl | rfl | sole
    · exact absurd noHandle (by decide)
    · exact absurd noHandle (by decide)
    · exact sole
  refine Bool.eq_false_iff.mpr fun fits => ?_
  rw [Ty.admits, noHandle, Bool.and_false, Bool.or_false] at fits
  have isClass := Ty.isClass_of_admits handle admits
  rw [Ty.eq_of_accepts sole fits] at isClass
  cases other <;> first
    | exact absurd isClass Bool.false_ne_true
    | exact absurd sole Bool.false_ne_true

/-- Where no argument fits both kinds of slots, a stub matches a target exactly
if the target's result can be used as the stub's and the slots that want no
handle can be filled in their order with arguments further and further to the
right, the receiver being the first.  In the settings API every entry keeps the
two kinds apart for every stub. -/
theorem mapping?_isSome_iff (caller target : Signature) :
    (Separates caller.arguments target.arguments →
      ((mapping? caller target).isSome = true ↔
        caller.result.accepts target.result = true ∧
          ∃ positions : List (Fin caller.arguments.length), positions.Pairwise (· < ·) ∧
            List.Forall₂ (fun slot i => slot.admits caller.arguments[i] = true)
              (owed target.arguments) positions)) ∧
      ∀ o ∈ Catalog.standard.entries, Separates caller.arguments o.method.arguments := by
  refine ⟨fun separates => ?_, fun o member => separates_of_mem_standard member _⟩
  rw [mapping?_isSome, slots_walk_eq_nil separates, Fillable, sublistForall₂_iff_positions]

/-- The receiver is no handle, so it is passed over for the mod's own handle, and
the name goes where a name is wanted. -/
theorem mapping?_isSome_iff_sample :
    let stub : Signature :=
      { owner := .cls "Holder" none [] .concrete true, name := "GetCheckboxState",
        params := [.string], result := .bool }
    let offer : Offer :=
      .api "GetCheckboxState" [.mod, .string] .bool (.reader Store.checkbox .bool)
    Separates stub.arguments offer.method.arguments ∧
      (mapping? stub offer.method).isSome = true := by
  intro stub offer
  have member : offer ∈ Catalog.standard.entries :=
    List.mem_of_getElem? (show Catalog.standard.entries[4]? = some offer from rfl)
  obtain ⟨complete, apart⟩ := mapping?_isSome_iff stub offer.method
  have separates := apart offer member
  exact ⟨separates, (complete separates).mpr
    ⟨rfl, [⟨1, by decide⟩], List.pairwise_singleton _ _, .cons rfl .nil⟩⟩

/-- An argument that fits slots of both sorts can be spent on the wrong one: here a
mod goes where the mod's own handle would do, and `object` gets nothing. -/
example :
    let stub : Signature := { owner := .api, name := "Show", params := [.mod], isStatic := true }
    let target : Signature :=
      { owner := .api, name := "Show", params := [.mod, .object], isStatic := true }
    mapping? stub target = none ∧ Ty.object.admits stub.arguments[0] = true := by decide

end Bridge
end ModSettings
