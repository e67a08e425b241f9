/-
Attachments as a partial function of keys.

The keys are listed in the order in which they came.  A new row joins at the end
and takes the place of the one that its slot had, unless that one is newer.
Replacing keeps every key where it is, and erasing takes out one key.
-/
import Mathlib.Data.List.Pairwise
import ModSettings.Registry.Attachment

namespace ModSettings

namespace Key

variable {k k' : Key}

theorem sameSlot_comm (k k' : Key) : k.sameSlot k' = k'.sameSlot k := by
  cases k <;> cases k' <;> simp only [sameSlot, BEq.comm]

theorem sameSlot_of_isOlderThan (h : k.isOlderThan k' = true) : k.sameSlot k' = true := by
  match k, k', h with
  | .entry _ _, .entry _ _, h => exact (Bool.and_eq_true_iff.mp h).1

theorem ne_of_isOlderThan (h : k.isOlderThan k' = true) : k ≠ k' := by
  rintro rfl
  cases k with
  | null => exact absurd h Bool.false_ne_true
  | entry slot version => simp [isOlderThan, isOlder] at h

end Key

namespace Attachments

variable {α : Type} {t : Attachments α} {key : Key}

def keys (t : Attachments α) : List Key := t.rows.map (·.1)

theorem mem_keys : key ∈ t.keys ↔ ∃ a, t.get? key = some a := by
  rw [keys, List.mem_map, get?]
  constructor
  · rintro ⟨row, member, rfl⟩
    have found : (t.rows.find? (·.1 == row.1)).isSome = true :=
      List.find?_isSome.mpr ⟨row, member, BEq.rfl⟩
    obtain ⟨first, h⟩ := Option.isSome_iff_exists.mp found
    exact ⟨first.2, by rw [h, Option.map_some]⟩
  · rintro ⟨a, h⟩
    obtain ⟨row, found, _⟩ := Option.map_eq_some_iff.mp h
    have named : (row.1 == key) = true :=
      List.find?_some (p := fun row : Key × α => row.1 == key) found
    exact ⟨row, List.mem_of_find?_eq_some found, eq_of_beq named⟩

theorem not_mem_keys (absent : t.get? key = none) : key ∉ t.keys := by
  intro member
  obtain ⟨a, there⟩ := mem_keys.mp member
  rw [absent] at there
  cases there

/-- Rows taken out by their keys are not found, and the others are as before. -/
theorem find?_filter (rows : List (Key × α)) (test : Key → Bool) (k : Key) :
    (rows.filter fun row => test row.1).find? (·.1 == k) =
      if test k then rows.find? (·.1 == k) else none := by
  rw [List.find?_filter]
  cases passes : test k with
  | true =>
    rw [if_pos rfl]
    congr 1
    funext row
    by_cases here : row.1 = k
    · simp [here, passes]
    · simp [here]
  | false =>
    rw [if_neg Bool.false_ne_true, List.find?_eq_none]
    intro row _
    by_cases here : row.1 = k
    · simp [here, passes]
    · simp [here]

/-! ## Inserting -/

/-- The key is not older than the one that its slot has. -/
def takes (t : Attachments α) (key : Key) : Bool :=
  !(key == .null || t.keys.any key.isOlderThan)

theorem insert_eq_ite (t : Attachments α) (key : Key) (a : α) : t.insert key a =
    if t.takes key then { rows := t.rows.filter (fun row => !row.1.sameSlot key) ++ [(key, a)] }
    else t := by
  have any : t.keys.any key.isOlderThan = t.rows.any fun row => key.isOlderThan row.1 :=
    List.any_map
  rw [insert, takes, any]
  cases key == .null || t.rows.any fun row => key.isOlderThan row.1 <;> rfl

theorem insert_of_not_takes (stale : t.takes key = false) (a : α) : t.insert key a = t := by
  rw [insert_eq_ite, stale]
  exact if_neg Bool.false_ne_true

theorem keys_insert_of_takes (takes : t.takes key = true) (a : α) :
    (t.insert key a).keys = t.keys.filter (!·.sameSlot key) ++ [key] := by
  rw [insert_eq_ite, if_pos takes, keys, keys, List.map_append, List.filter_map]
  rfl

theorem get?_insert_of_takes (takes : t.takes key = true) (a : α) (k : Key) :
    (t.insert key a).get? k =
      if k = key then some a else if k.sameSlot key then none else t.get? k := by
  rw [insert_eq_ite, if_pos takes, get?, List.find?_append, find?_filter t.rows (!·.sameSlot key)]
  by_cases new : k = key
  · subst new
    have slot : k.sameSlot k = true := by
      cases k with
      | null => exact absurd takes (by simp [Attachments.takes])
      | entry slot version => exact BEq.rfl
    rw [slot, Bool.not_true, if_neg Bool.false_ne_true, if_pos rfl, Option.none_or,
      List.find?_cons_of_pos (by simp)]
    rfl
  · rw [if_neg new, List.find?_cons_of_neg (by simpa using Ne.symm new), List.find?_nil,
      Option.or_none]
    cases k.sameSlot key <;> rfl

/-- Where slots have one key each, a key that is older than that of its slot is not
there. -/
theorem get?_of_not_takes (slots : t.keys.Pairwise fun k k' => k.sameSlot k' = false)
    (proper : key ≠ .null) (h : t.takes key = false) : t.get? key = none := by
  refine Option.eq_none_iff_forall_ne_some.mpr fun a found => ?_
  rw [takes, Bool.not_eq_false', Bool.or_eq_true] at h
  obtain ⟨k, member, older⟩ := List.any_eq_true.mp (h.resolve_left (by simpa using proper))
  have : Std.Symm fun k k' : Key => k.sameSlot k' = false :=
    ⟨fun k k' other => by rwa [Key.sameSlot_comm]⟩
  have other := slots.forall (mem_keys.mpr ⟨a, found⟩) member (Key.ne_of_isOlderThan older)
  rw [Key.sameSlot_of_isOlderThan older] at other
  exact absurd other.symm Bool.false_ne_true

/-- What is found after an insertion was inserted or was there before. -/
theorem get?_of_insert {a b : α} {k : Key} (h : (t.insert key a).get? k = some b) :
    k = key ∧ b = a ∨ t.get? k = some b := by
  cases taken : t.takes key with
  | false =>
    rw [insert_of_not_takes taken] at h
    exact Or.inr h
  | true =>
    rw [get?_insert_of_takes taken] at h
    split at h
    case isTrue same => exact Or.inl ⟨same, (Option.some.inj h).symm⟩
    case isFalse =>
      split at h
      · exact nomatch h
      · exact Or.inr h

theorem mem_keys_of_insert {a : α} {k : Key} (h : k ∈ (t.insert key a).keys) :
    k = key ∨ k ∈ t.keys := by
  obtain ⟨b, found⟩ := mem_keys.mp h
  rcases get?_of_insert found with ⟨new, _⟩ | old
  · exact Or.inl new
  · exact Or.inr (mem_keys.mpr ⟨b, old⟩)

/-- A slot that is not in use takes every key. -/
theorem takes_of_unused (unused : ∀ k ∈ t.keys, k.sameSlot key = false) (proper : key ≠ .null) :
    t.takes key = true := by
  have newest : t.keys.any key.isOlderThan = false := by
    refine List.any_eq_false.mpr fun k member older => ?_
    have same := Key.sameSlot_of_isOlderThan older
    rw [Key.sameSlot_comm, unused k member] at same
    exact Bool.false_ne_true same
  rw [takes, newest, Bool.or_false, beq_eq_false_iff_ne.mpr proper]
  rfl

theorem keys_insert (unused : ∀ k ∈ t.keys, k.sameSlot key = false) (proper : key ≠ .null)
    (a : α) : (t.insert key a).keys = t.keys ++ [key] := by
  rw [keys_insert_of_takes (takes_of_unused unused proper)]
  congr 1
  exact List.filter_eq_self.mpr fun k member => by rw [unused k member]; rfl

/-! ## Replacing and erasing -/

theorem keys_replace (t : Attachments α) (key : Key) (a : α) :
    (t.replace key a).keys = t.keys := by
  rw [keys, keys, replace, List.map_map]
  refine List.map_congr_left fun row _ => ?_
  by_cases here : (row.1 == key) = true
  · rw [Function.comp_apply, if_pos here, eq_of_beq here]
  · rw [Function.comp_apply, if_neg here]

theorem get?_replace (t : Attachments α) (key : Key) (a : α) (k : Key) :
    (t.replace key a).get? k = if k = key then (t.get? k).map fun _ => a else t.get? k := by
  have unseen : ((fun row : Key × α => row.1 == k) ∘
      fun row => if row.1 == key then (key, a) else row) = fun row => row.1 == k := by
    funext row
    by_cases here : (row.1 == key) = true
    · rw [Function.comp_apply, if_pos here, eq_of_beq here]
    · rw [Function.comp_apply, if_neg here]
  rw [get?, get?, replace, List.find?_map, unseen, Option.map_map]
  cases found : t.rows.find? (·.1 == k) with
  | none => rw [Option.map_none, Option.map_none, Option.map_none, ite_self]
  | some row =>
    have named : row.1 = k :=
      eq_of_beq (List.find?_some (p := fun row : Key × α => row.1 == k) found)
    rw [Option.map_some, Option.map_some, Option.map_some, Function.comp_apply, named]
    by_cases equal : k = key
    · rw [if_pos equal, if_pos (beq_iff_eq.mpr equal)]
    · rw [if_neg equal, if_neg (by simpa using equal)]

theorem keys_erase (t : Attachments α) (key : Key) :
    (t.erase key).keys = t.keys.filter (!· == key) := by
  rw [keys, keys, erase, List.filter_map]
  rfl

theorem get?_erase (t : Attachments α) (key k : Key) :
    (t.erase key).get? k = if k = key then none else t.get? k := by
  rw [get?, get?, erase, find?_filter t.rows (!· == key)]
  by_cases equal : k = key
  · simp [equal]
  · simp [equal]

end Attachments
end ModSettings
