/-
A table whose rows are named by slot and version.

Slots are numbered from one.  A removed row frees its slot, and the slot freed
last is the first to be filled again; a table without free slots grows at its
end.  The version belongs to the present row of a slot or, if it is free, to its
next one.  It steps by two from one, so it stays odd, and it is counted in
thirty-two bits.

`get?` is the view through which the table is meant to be read, and `toList`
lists what it sees.
-/
import ModSettings.Registry.Key

namespace ModSettings

structure Slot (α : Type) where
  version : UInt32 := 1
  row : Option α := none

structure Slots (α : Type) where
  /-- All slots ever made, slot one first. -/
  slots : List (Slot α) := []
  /-- Positions in `slots` of the free ones, the one freed last in front. -/
  free : List Nat := []

namespace Slot

variable {α : Type}

/-- Takes the row out; the next one will carry a newer version. -/
def vacate (s : Slot α) : Slot α := { version := s.version + 2, row := none }

def holding? (s : Slot α) (version : UInt32) : Option α :=
  if s.version = version then s.row else none

end Slot

namespace Slots

variable {α : Type}

/-- The slot a key points to, wherever its version stands. -/
def slotOf? (t : Slots α) : Key → Option (Slot α)
  | .entry (position + 1) _ => t.slots[position]?
  | _ => none

def get? (t : Slots α) : Key → Option α
  | .entry (position + 1) version => t.slots[position]?.bind (·.holding? version)
  | _ => none

def contains (t : Slots α) (key : Key) : Bool := (t.get? key).isSome

/-- Every row with its key, in the order of the slots. -/
def toList (t : Slots α) : List (Key × α) :=
  t.slots.zipIdx.filterMap fun (s, position) =>
    s.row.map fun row => (.entry (position + 1) s.version, row)

def size (t : Slots α) : Nat := t.toList.length

/-- Adds a row in the slot freed last, or in a new slot at the end. -/
def insert (t : Slots α) (row : α) : Key × Slots α :=
  match t.free with
  | position :: free =>
      let version := (t.slots[position]?.map (·.version)).getD 1
      (.entry (position + 1) version,
        { slots := t.slots.set position { version, row := some row }, free })
  | [] =>
      (.entry (t.slots.length + 1) 1,
        { slots := t.slots ++ [{ version := 1, row := some row }], free := [] })

def update (t : Slots α) (key : Key) (f : α → α) : Slots α :=
  match key, t.get? key with
  | .entry (position + 1) version, some row =>
      { t with slots := t.slots.set position { version, row := some (f row) } }
  | _, _ => t

/-- Takes the row of a key out of the table and frees its slot. -/
def erase (t : Slots α) (key : Key) : Slots α :=
  match key, t.slotOf? key, t.contains key with
  | .entry (position + 1) _, some s, true =>
      { slots := t.slots.set position s.vacate, free := position :: t.free }
  | _, _, _ => t

/-- The positions that hold a row, ascending. -/
def occupied (t : Slots α) : List Nat :=
  t.slots.zipIdx.filterMap fun (s, position) => if s.row.isSome then some position else none

/-- Takes out every row, slot by slot in ascending order, so that the last slot
is the first to be filled again. -/
def clear (t : Slots α) : Slots α :=
  { slots := t.slots.map fun s => if s.row.isSome then s.vacate else s
    free := t.occupied.reverse ++ t.free }

end Slots

end ModSettings
