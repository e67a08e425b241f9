/-
A table of slots as a partial function of keys.

Each operation is told by what `get?` finds after it: inserting adds one row
under a new key, updating and erasing reach the row of their key and no other,
clearing leaves nothing.  Insertion relies on the free list, which has to name
empty slots, and every operation keeps it that way.
-/
import ModSettings.Registry.Attachment
import ModSettings.Registry.Slots

namespace ModSettings

/-- A key of another slot is another key, except that the null key has no
slot. -/
theorem Key.ne_of_sameSlot {k key : Key} (other : k.sameSlot key = false)
    (proper : key ≠ .null) : k ≠ key := by
  rintro rfl
  cases k with
  | null => exact proper rfl
  | entry position version => exact absurd rfl (ne_of_beq_false other)

namespace Slots

variable {α : Type} {t : Slots α}

/-- The free list names empty slots, none of them twice. -/
structure WellFormed (t : Slots α) : Prop where
  vacant : ∀ position ∈ t.free, ∃ s, t.slots[position]? = some s ∧ s.row = none
  nodup : t.free.Nodup

theorem WellFormed.not_mem_free (h : t.WellFormed) {position : Nat} {s : Slot α} {row : α}
    (hs : t.slots[position]? = some s) (held : s.row = some row) : position ∉ t.free := by
  intro member
  obtain ⟨s', hs', empty⟩ := h.vacant position member
  rw [hs] at hs'
  cases hs'
  rw [held] at empty
  exact nomatch empty

theorem wellFormed_empty : WellFormed ({} : Slots α) := ⟨nofun, .nil⟩

theorem get?_eq_some {key : Key} {row : α} : t.get? key = some row ↔
    ∃ position s, t.slots[position]? = some s ∧ s.row = some row ∧
      key = .entry (position + 1) s.version := by
  constructor
  · intro h
    match key, h with
    | .entry (position + 1) version, h =>
      obtain ⟨s, hs, held⟩ := Option.bind_eq_some_iff.mp h
      by_cases current : s.version = version
      · rw [Slot.holding?, if_pos current] at held
        exact ⟨position, s, hs, held, by rw [current]⟩
      · rw [Slot.holding?, if_neg current] at held
        exact nomatch held
  · rintro ⟨position, s, hs, held, rfl⟩
    show t.slots[position]?.bind _ = _
    rw [hs, Option.bind_some, Slot.holding?, if_pos rfl, held]

theorem contains_iff {key : Key} : t.contains key = true ↔ ∃ row, t.get? key = some row :=
  Option.isSome_iff_exists

/-- A new slot in the place of an old one changes what is found under the key of
the old one, and nothing else as long as it holds nothing under other
versions. -/
theorem get?_set {position : Nat} {s s' : Slot α} (hs : t.slots[position]? = some s)
    (other : ∀ version, s.version ≠ version → s'.holding? version = none) (free : List Nat)
    (key : Key) : get? { slots := t.slots.set position s', free } key =
      if key = .entry (position + 1) s.version then s'.holding? s.version else t.get? key := by
  match key with
  | .null => rfl
  | .entry 0 _ => rfl
  | .entry (p + 1) version =>
    show (t.slots.set position s')[p]?.bind _ = if _ then _ else t.slots[p]?.bind _
    rw [List.getElem?_set]
    by_cases same : position = p
    · subst same
      rw [if_pos rfl, if_pos (List.getElem?_eq_some_iff.mp hs).1, hs, Option.bind_some,
        Option.bind_some]
      by_cases current : s.version = version
      · rw [← current, if_pos rfl]
      · rw [if_neg fun equal => current (Key.entry.inj equal).2.symm, other version current,
          Slot.holding?, if_neg current]
    · rw [if_neg same, if_neg fun equal => same (Nat.succ.inj (Key.entry.inj equal).1).symm]

/-- A filled slot holds its row under its own version only. -/
theorem holding?_ne {version v : UInt32} (h : version ≠ v) (row : Option α) :
    Slot.holding? { version, row } v = none := if_neg h

/-! ## Inserting -/

/-- Where the next row goes: an empty slot, or the end of the table. -/
theorem insert_eq (h : t.WellFormed) (row : α) :
    (∃ position free s, t.free = position :: free ∧ t.slots[position]? = some s ∧ s.row = none ∧
      t.insert row = (.entry (position + 1) s.version,
        { slots := t.slots.set position { version := s.version, row := some row }, free })) ∨
    t.free = [] ∧ t.insert row = (.entry (t.slots.length + 1) 1,
      { slots := t.slots ++ [{ version := 1, row := some row }], free := [] }) := by
  rw [insert]
  cases free : t.free with
  | nil => exact Or.inr ⟨rfl, rfl⟩
  | cons position rest =>
    obtain ⟨s, hs, empty⟩ := h.vacant position (free ▸ List.mem_cons_self)
    refine Or.inl ⟨position, rest, s, rfl, hs, empty, ?_⟩
    dsimp only
    rw [hs]
    rfl

theorem insert_ne_null (t : Slots α) (row : α) : (t.insert row).1 ≠ .null := by
  rw [insert]
  cases t.free with
  | nil => exact nofun
  | cons position rest => exact nofun

theorem sameSlot_insert (h : t.WellFormed) (row : α) {key : Key} (live : t.contains key = true) :
    key.sameSlot (t.insert row).1 = false := by
  obtain ⟨row', found⟩ := contains_iff.mp live
  obtain ⟨p, s', hs', held, rfl⟩ := get?_eq_some.mp found
  rcases insert_eq h row with ⟨position, free, s, _, hs, empty, inserted⟩ | ⟨_, inserted⟩
  · rw [inserted]
    refine beq_false_of_ne fun same => ?_
    obtain rfl : p = position := Nat.succ.inj same
    rw [hs] at hs'
    cases hs'
    rw [empty] at held
    exact nomatch held
  · rw [inserted]
    refine beq_false_of_ne fun same => ?_
    have inside : p < t.slots.length := (List.getElem?_eq_some_iff.mp hs').1
    exact absurd (Nat.succ.inj same) (Nat.ne_of_lt inside)

theorem get?_insert (h : t.WellFormed) (row : α) (key : Key) :
    (t.insert row).2.get? key = if key = (t.insert row).1 then some row else t.get? key := by
  rcases insert_eq h row with ⟨position, free, s, _, hs, empty, inserted⟩ | ⟨_, inserted⟩
  · rw [inserted, get?_set hs (fun _ differs => holding?_ne differs _), Slot.holding?, if_pos rfl]
  · rw [inserted]
    match key with
    | .null => rfl
    | .entry 0 _ => rfl
    | .entry (p + 1) version =>
      show (t.slots ++ [_])[p]?.bind _ = if _ then _ else t.slots[p]?.bind _
      rcases Nat.lt_trichotomy p t.slots.length with before | rfl | beyond
      · have other : ¬Key.entry (p + 1) version = .entry (t.slots.length + 1) 1 := fun equal =>
          absurd (Nat.succ.inj (Key.entry.inj equal).1) (Nat.ne_of_lt before)
        rw [List.getElem?_append_left before, if_neg other]
      · rw [List.getElem?_concat_length, List.getElem?_eq_none (Nat.le_refl _), Option.bind_some,
          Slot.holding?]
        by_cases current : (1 : UInt32) = version
        · rw [if_pos current, current, if_pos rfl]
        · rw [if_neg current, if_neg fun equal => current (Key.entry.inj equal).2.symm]
          rfl
      · have other : ¬Key.entry (p + 1) version = .entry (t.slots.length + 1) 1 := fun equal =>
          absurd (Nat.succ.inj (Key.entry.inj equal).1) (Nat.ne_of_gt beyond)
        rw [List.getElem?_eq_none (by simpa using Nat.succ_le_of_lt beyond),
          List.getElem?_eq_none (Nat.le_of_lt beyond), if_neg other]

theorem wellFormed_insert (h : t.WellFormed) (row : α) : (t.insert row).2.WellFormed := by
  rcases insert_eq h row with ⟨position, free, s, hfree, _, _, inserted⟩ | ⟨_, inserted⟩
  · rw [inserted]
    obtain ⟨fresh, nodup⟩ := List.nodup_cons.mp (hfree ▸ h.nodup)
    refine ⟨fun p member => ?_, nodup⟩
    have other : position ≠ p := fun same => fresh (same ▸ member)
    rw [List.getElem?_set_ne other]
    exact h.vacant p (hfree ▸ List.mem_cons_of_mem _ member)
  · rw [inserted]
    exact ⟨nofun, .nil⟩

/-! ## Updating -/

/-- Updating either finds the row of the key or does nothing. -/
theorem update_eq (t : Slots α) (key : Key) (f : α → α) :
    (∃ position s row, t.slots[position]? = some s ∧ s.row = some row ∧
      key = .entry (position + 1) s.version ∧ t.update key f =
        { t with slots := t.slots.set position { version := s.version, row := some (f row) } }) ∨
    t.get? key = none ∧ t.update key f = t := by
  unfold update
  split
  · rename_i position version row found
    obtain ⟨p, s, hs, held, equal⟩ := get?_eq_some.mp found
    cases equal
    exact Or.inl ⟨position, s, row, hs, held, rfl, rfl⟩
  · rename_i other
    refine Or.inr ⟨Option.eq_none_iff_forall_not_mem.mpr fun row found => ?_, rfl⟩
    obtain ⟨p, s, _, _, equal⟩ := get?_eq_some.mp found
    exact other p s.version row equal found

theorem get?_update (t : Slots α) (key : Key) (f : α → α) (k : Key) :
    (t.update key f).get? k = if k = key then (t.get? k).map f else t.get? k := by
  rcases update_eq t key f with ⟨position, s, row, hs, held, rfl, updated⟩ | ⟨absent, updated⟩
  · have here : t.get? (.entry (position + 1) s.version) = some row :=
      get?_eq_some.mpr ⟨position, s, hs, held, rfl⟩
    rw [updated, get?_set hs (fun _ differs => holding?_ne differs _), Slot.holding?, if_pos rfl]
    by_cases equal : k = .entry (position + 1) s.version
    · rw [if_pos equal, if_pos equal, equal, here]
      rfl
    · rw [if_neg equal, if_neg equal]
  · rw [updated]
    by_cases equal : k = key
    · rw [if_pos equal, equal, absent]
      rfl
    · rw [if_neg equal]

theorem wellFormed_update (h : t.WellFormed) (key : Key) (f : α → α) :
    (t.update key f).WellFormed := by
  rcases update_eq t key f with ⟨position, s, row, hs, held, rfl, updated⟩ | ⟨_, updated⟩
  · rw [updated]
    refine ⟨fun p member => ?_, h.nodup⟩
    have other : position ≠ p := fun same => h.not_mem_free hs held (same ▸ member)
    rw [List.getElem?_set_ne other]
    exact h.vacant p member
  · rw [updated]
    exact h

/-! ## Erasing and clearing -/

/-- Erasing either finds the row of the key and frees its slot or does
nothing. -/
theorem erase_eq (t : Slots α) (key : Key) :
    (∃ position s row, t.slots[position]? = some s ∧ s.row = some row ∧
      key = .entry (position + 1) s.version ∧ t.erase key =
        { slots := t.slots.set position s.vacate, free := position :: t.free }) ∨
    t.get? key = none ∧ t.erase key = t := by
  unfold erase
  split
  · rename_i position version s slot live
    obtain ⟨row, found⟩ := contains_iff.mp live
    obtain ⟨p, s', hs', held, equal⟩ := get?_eq_some.mp found
    cases equal
    have same : s = s' := Option.some.inj (slot.symm.trans hs')
    subst same
    exact Or.inl ⟨position, s, row, hs', held, rfl, rfl⟩
  · rename_i other
    refine Or.inr ⟨Option.eq_none_iff_forall_not_mem.mpr fun row found => ?_, rfl⟩
    obtain ⟨p, s, hs, _, rfl⟩ := get?_eq_some.mp found
    exact other p s.version s rfl hs (contains_iff.mpr ⟨row, found⟩)

theorem get?_erase (t : Slots α) (key k : Key) :
    (t.erase key).get? k = if k = key then none else t.get? k := by
  rcases erase_eq t key with ⟨position, s, row, hs, held, rfl, erased⟩ | ⟨absent, erased⟩
  · have empty (version : UInt32) : s.vacate.holding? version = none := ite_self _
    rw [erased, get?_set hs (fun version _ => empty version), empty]
  · rw [erased]
    by_cases equal : k = key
    · rw [if_pos equal, equal, absent]
    · rw [if_neg equal]

theorem wellFormed_erase (h : t.WellFormed) (key : Key) : (t.erase key).WellFormed := by
  rcases erase_eq t key with ⟨position, s, row, hs, held, rfl, erased⟩ | ⟨_, erased⟩
  · rw [erased]
    have inside : position < t.slots.length := (List.getElem?_eq_some_iff.mp hs).1
    have fresh : position ∉ t.free := h.not_mem_free hs held
    refine ⟨List.forall_mem_cons.mpr ⟨⟨s.vacate, ?_, rfl⟩, fun p member => ?_⟩,
      List.nodup_cons.mpr ⟨fresh, h.nodup⟩⟩
    · exact List.getElem?_set_self inside
    · have other : position ≠ p := fun same => fresh (same ▸ member)
      rw [List.getElem?_set_ne other]
      exact h.vacant p member
  · rw [erased]
    exact h

theorem get?_clear (t : Slots α) (key : Key) : t.clear.get? key = none := by
  match key with
  | .null => rfl
  | .entry 0 _ => rfl
  | .entry (p + 1) version =>
    show (t.slots.map fun s => if s.row.isSome then s.vacate else s)[p]?.bind _ = none
    rw [List.getElem?_map]
    cases t.slots[p]? with
    | none => rfl
    | some s =>
      have empty : (if s.row.isSome then s.vacate else s).row = none := by
        cases held : s.row with
        | none => exact held
        | some row => rfl
      rw [Option.map_some, Option.bind_some, Slot.holding?, empty, ite_self]

theorem mem_occupied {position : Nat} : position ∈ t.occupied ↔
    ∃ s row, t.slots[position]? = some s ∧ s.row = some row := by
  rw [occupied, List.mem_filterMap]
  constructor
  · rintro ⟨⟨s, p⟩, member, h⟩
    cases held : s.row with
    | none => simp [held] at h
    | some row =>
      obtain rfl : p = position := by simpa [held] using h
      exact ⟨s, row, List.mk_mem_zipIdx_iff_getElem?.mp member, held⟩
  · rintro ⟨s, row, hs, held⟩
    exact ⟨(s, position), List.mk_mem_zipIdx_iff_getElem?.mpr hs, by simp [held]⟩

theorem nodup_occupied (t : Slots α) : t.occupied.Nodup := by
  have ascending : t.slots.zipIdx.Pairwise fun a b => a.2 ≠ b.2 := by
    refine List.pairwise_map.mp ?_
    show (t.slots.zipIdx.map Prod.snd).Nodup
    rw [List.zipIdx_map_snd]
    exact List.nodup_range'
  refine List.Pairwise.filterMap _ (fun a b differ p hp q hq => ?_) ascending
  have here : a.2 = p := by
    by_cases held : a.1.row.isSome = true <;> simp_all
  have there : b.2 = q := by
    by_cases held : b.1.row.isSome = true <;> simp_all
  rw [← here, ← there]
  exact differ

theorem wellFormed_clear (h : t.WellFormed) : t.clear.WellFormed := by
  have vacant (position : Nat) (s : Slot α) (hs : t.slots[position]? = some s) :
      ∃ s', t.clear.slots[position]? = some s' ∧ s'.row = none := by
    refine ⟨if s.row.isSome then s.vacate else s, ?_, ?_⟩
    · show (t.slots.map _)[position]? = _
      rw [List.getElem?_map, hs]
      rfl
    · cases held : s.row with
      | none => exact held
      | some row => rfl
  refine ⟨fun position member => ?_, ?_⟩
  · rcases List.mem_append.mp member with freed | free
    · obtain ⟨s, _, hs, _⟩ := mem_occupied.mp (List.mem_reverse.mp freed)
      exact vacant position s hs
    · obtain ⟨s, hs, _⟩ := h.vacant position free
      exact vacant position s hs
  · refine List.nodup_append.mpr
      ⟨List.pairwise_reverse.mpr (t.nodup_occupied.imp Ne.symm), h.nodup, ?_⟩
    rintro position freed _ free rfl
    obtain ⟨s, row, hs, held⟩ := mem_occupied.mp (List.mem_reverse.mp freed)
    exact h.not_mem_free hs held free

end Slots
end ModSettings
