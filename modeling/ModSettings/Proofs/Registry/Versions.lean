/-
The keys that a table of slots has issued.

Every slot issues its keys in the order of their versions: the first row that it
holds gets version one and each later one two more, so the number of keys issued
for a slot tells the version of its next key.  `Issued` says so of a table and
all keys it ever issued, and every operation keeps it.

Versions have thirty-two bits and are odd.  A slot therefore has 2^31 of them,
and up to so many rows no key of it is issued twice.
-/
import Mathlib.Algebra.Group.Nat.Defs
import ModSettings.Proofs.Registry.Slots

namespace ModSettings

namespace Key

/-- The number of the slot, which is zero for the key that names nothing. -/
def slot : Key → Nat
  | null => 0
  | entry slot _ => slot

def uses (keys : List Key) (slot : Nat) : Nat := keys.countP (·.slot == slot)

/-- No slot was filled so often that its versions came round. -/
def Unwrapped (keys : List Key) : Prop := ∀ slot, uses keys slot ≤ 2 ^ 31

theorem uses_append (keys more : List Key) (slot : Nat) :
    uses (keys ++ more) slot = uses keys slot + uses more slot := List.countP_append

theorem uses_singleton (key : Key) : uses [key] key.slot = 1 := by simp [uses]

theorem Unwrapped.of_append {keys more : List Key} (h : Unwrapped (keys ++ more)) :
    Unwrapped keys := by
  intro slot
  have both := h slot
  rw [uses_append] at both
  omega

theorem unwrapped_of_length {keys : List Key} (few : keys.length ≤ 2 ^ 31) : Unwrapped keys :=
  fun _ => Nat.le_trans List.countP_le_length few

end Key

/-- The number of rows that the slot holds, none or one. -/
def Slot.rows {α : Type} (s : Slot α) : Nat := if s.row.isSome then 1 else 0

namespace Slots

variable {α : Type} {t : Slots α} {keys : List Key} {position : Nat} {s : Slot α}

/-- The version under which a slot holds its row, the rows being counted from
nought. -/
def versionOf (n : Nat) : UInt32 := UInt32.ofNat (2 * n + 1)

theorem versionOf_succ (n : Nat) : versionOf (n + 1) = versionOf n + 2 := by
  have steps : 2 * (n + 1) + 1 = 2 * n + 1 + 2 := by omega
  rw [versionOf, versionOf, steps, UInt32.ofNat_add]
  rfl

theorem versionOf_ne {i j : Nat} (less : i < j) (near : j < i + 2 ^ 31) :
    versionOf i ≠ versionOf j := by
  intro same
  have numbers : (versionOf i).toNat = (versionOf j).toNat := by rw [same]
  simp only [versionOf, UInt32.toNat_ofNat'] at numbers
  omega

/-- A version is not older than those that its slot had within the last half of the
way round. -/
theorem isOlder_versionOf {i j : Nat} (less : i ≤ j) (near : j < i + 2 ^ 30) :
    Key.isOlder (versionOf j) (versionOf i) = false := by
  refine decide_eq_false fun older => ?_
  have far := UInt32.le_iff_toNat_le.mp older
  simp only [versionOf, UInt32.toNat_sub, UInt32.toNat_ofNat', UInt32.reduceToNat] at far
  omega

/-- The keys are all those that the table ever issued. -/
structure Issued (t : Slots α) (keys : List Key) : Prop where
  /-- Each of them has a version that its slot had before. -/
  earlier : ∀ key ∈ keys, ∃ position n, key = .entry (position + 1) (versionOf n) ∧
    n < Key.uses keys (position + 1) ∧ position < t.slots.length
  /-- A slot steps to the next version when it loses a row. -/
  next : ∀ position s, t.slots[position]? = some s → ∃ lost, s.version = versionOf lost ∧
    Key.uses keys (position + 1) = lost + s.rows

theorem issued_empty : Issued ({} : Slots α) [] := ⟨nofun, nofun⟩

namespace Issued

theorem uses_eq_zero (h : t.Issued keys) (outside : t.slots.length ≤ position) :
    Key.uses keys (position + 1) = 0 := by
  refine List.countP_eq_zero.mpr fun key member named => ?_
  obtain ⟨p, n, rfl, _, inside⟩ := h.earlier key member
  have same : p + 1 = position + 1 := eq_of_beq named
  omega

/-- Other slots in the place of the old ones leave what was issued as it is, if
each holds a row under the old version or lost its row and stepped on. -/
theorem of_slots {t' : Slots α} (h : t.Issued keys)
    (length : t'.slots.length = t.slots.length)
    (slots : ∀ (position : Nat) (s' : Slot α), t'.slots[position]? = some s' →
      ∃ s, t.slots[position]? = some s ∧
        (s'.version = s.version ∧ s'.rows = s.rows ∨
          s' = s.vacate ∧ s.row.isSome = true)) :
    t'.Issued keys := by
  constructor
  · intro key member
    obtain ⟨p, n, same, less, inside⟩ := h.earlier key member
    exact ⟨p, n, same, less, by omega⟩
  · intro position s' found'
    obtain ⟨s, found, kept | ⟨rfl, held⟩⟩ := slots position s' found'
    · obtain ⟨lost, version, uses⟩ := h.next position s found
      exact ⟨lost, by rw [kept.1, version], by rw [kept.2, uses]⟩
    · obtain ⟨lost, version, uses⟩ := h.next position s found
      refine ⟨lost + 1, ?_, ?_⟩
      · rw [versionOf_succ, ← version]
        rfl
      · have one : s.rows = 1 := if_pos held
        have none : s.vacate.rows = 0 := rfl
        omega

theorem of_set {s' : Slot α} {free : List Nat} (h : t.Issued keys)
    (hs : t.slots[position]? = some s)
    (steps : s'.version = s.version ∧ s'.rows = s.rows ∨
      s' = s.vacate ∧ s.row.isSome = true) :
    Issued { slots := t.slots.set position s', free } keys := by
  refine h.of_slots (List.length_set ..) fun p s'' found' => ?_
  by_cases here : position = p
  · subst here
    rw [List.getElem?_set_self (List.getElem?_eq_some_iff.mp hs).1] at found'
    cases found'
    exact ⟨s, hs, steps⟩
  · rw [List.getElem?_set_ne here] at found'
    exact ⟨s'', found', Or.inl ⟨rfl, rfl⟩⟩

theorem update (h : t.Issued keys) (key : Key) (f : α → α) : (t.update key f).Issued keys := by
  rcases update_eq t key f with ⟨position, s, row, hs, held, _, updated⟩ | ⟨_, updated⟩
  · have same : Slot.rows { version := s.version, row := some (f row) } = s.rows := by
      simp [Slot.rows, held]
    rw [updated]
    exact h.of_set hs (Or.inl ⟨rfl, same⟩)
  · rw [updated]
    exact h

theorem erase (h : t.Issued keys) (key : Key) : (t.erase key).Issued keys := by
  rcases erase_eq t key with ⟨position, s, row, hs, held, _, erased⟩ | ⟨_, erased⟩
  · rw [erased]
    exact h.of_set hs (Or.inr ⟨rfl, by rw [held]; rfl⟩)
  · rw [erased]
    exact h

theorem clear (h : t.Issued keys) : t.clear.Issued keys := by
  refine h.of_slots (List.length_map ..) fun p s' found' => ?_
  rw [Slots.clear, List.getElem?_map] at found'
  obtain ⟨s, found, same⟩ := Option.map_eq_some_iff.mp found'
  refine ⟨s, found, ?_⟩
  cases held : s.row.isSome with
  | true =>
    rw [held, if_pos rfl] at same
    exact Or.inr ⟨same.symm, rfl⟩
  | false =>
    rw [held, if_neg Bool.false_ne_true] at same
    exact Or.inl ⟨by rw [same], by rw [same]⟩

/-! ## Issuing one more -/

section

variable (h : t.Issued keys) (slots : t.WellFormed) (row : α)
include h slots

/-- A new row goes to a slot that holds none, under the first version that the slot
has not given away.  The slot is one that was vacated or one more. -/
theorem exists_filled : ∃ position, let version := versionOf (Key.uses keys (position + 1))
    (t.insert row).1 = .entry (position + 1) version ∧
      t.slots.length ≤ (t.insert row).2.slots.length ∧
      ∀ p, (t.insert row).2.slots[p]? =
        if p = position then some { version, row := some row } else t.slots[p]? := by
  rcases insert_eq slots row with ⟨position, free, s, _, hs, empty, inserted⟩ | ⟨_, inserted⟩
  · obtain ⟨lost, version, uses⟩ := h.next position s hs
    have none : s.rows = 0 := by simp [Slot.rows, empty]
    have inside : position < t.slots.length := (List.getElem?_eq_some_iff.mp hs).1
    have now : s.version = versionOf (Key.uses keys (position + 1)) := by
      rw [version, uses, none, Nat.add_zero]
    refine ⟨position, ?_⟩
    rw [inserted, ← now]
    refine ⟨rfl, Nat.le_of_eq (List.length_set ..).symm, fun p => ?_⟩
    by_cases here : p = position
    · rw [if_pos here, here, List.getElem?_set_self inside]
    · rw [if_neg here, List.getElem?_set_ne (Ne.symm here)]
  · have unused := h.uses_eq_zero (Nat.le_refl t.slots.length)
    refine ⟨t.slots.length, ?_⟩
    rw [inserted, unused]
    refine ⟨rfl, by simp, fun p => ?_⟩
    by_cases here : p = t.slots.length
    · rw [if_pos here, here, List.getElem?_concat_length]
      rfl
    · rw [if_neg here, List.getElem?_append, List.getElem?_singleton]
      split
      · rfl
      · rw [if_neg (by omega), List.getElem?_eq_none (by omega)]

theorem insert : (t.insert row).2.Issued (keys ++ [(t.insert row).1]) := by
  obtain ⟨position, key, grows, filled⟩ := h.exists_filled slots row
  have uses (p : Nat) : Key.uses (keys ++ [(t.insert row).1]) (p + 1) =
      Key.uses keys (p + 1) + if p = position then 1 else 0 := by
    rw [Key.uses_append, key]
    by_cases here : p = position
    · simp [Key.uses, Key.slot, here]
    · simp [Key.uses, Key.slot, here, Ne.symm here]
  constructor
  · intro k member
    rcases List.mem_append.mp member with old | new
    · obtain ⟨p, n, same, less, within⟩ := h.earlier k old
      exact ⟨p, n, same, by rw [uses]; omega, by omega⟩
    · have inside := filled position
      rw [if_pos rfl] at inside
      refine ⟨position, _, (List.mem_singleton.mp new).trans key, ?_,
        (List.getElem?_eq_some_iff.mp inside).1⟩
      rw [uses, if_pos rfl]
      omega
  · intro p s' found'
    rw [uses]
    rw [filled] at found'
    by_cases here : p = position
    · subst here
      rw [if_pos rfl] at found' ⊢
      cases found'
      exact ⟨_, rfl, rfl⟩
    · rw [if_neg here] at found' ⊢
      exact h.next p s' found'

/-- As long as the versions of a slot have not come round to one that it gave away,
its next key has another. -/
theorem ne_insert {n : Nat} (given : n < Key.uses keys (position + 1))
    (near : Key.uses (keys ++ [(t.insert row).1]) (position + 1) ≤ n + 2 ^ 31) :
    (t.insert row).1 ≠ .entry (position + 1) (versionOf n) := by
  obtain ⟨p, key, _⟩ := h.exists_filled slots row
  intro same
  obtain ⟨here, version⟩ := Key.entry.inj (key.symm.trans same)
  have one : Key.uses [(t.insert row).1] (position + 1) = 1 := by
    rw [same]
    exact Key.uses_singleton _
  rw [Key.uses_append, one] at near
  rw [here] at version
  exact versionOf_ne given (by omega) version.symm

/-- As long as versions do not come round, the next key is a new one. -/
theorem fresh (bound : Key.Unwrapped (keys ++ [(t.insert row).1])) :
    (t.insert row).1 ∉ keys := by
  intro member
  obtain ⟨p, n, same, given, _⟩ := h.earlier _ member
  have all := bound (p + 1)
  exact h.ne_insert slots row given (by omega) same

end

end Issued

end Slots
end ModSettings
