/-
Things attached to registered mods.

There is at most one row for a slot, kept under the full key.  A newer key takes
over the row of its slot, while a key older than the one that is there changes
nothing.
-/
import ModSettings.Registry.Key

namespace ModSettings

structure Attachments (α : Type) where
  /-- Rows for pairwise different slots. -/
  rows : List (Key × α) := []

namespace Key

/-- Versions are compared around the thirty-two bit circle: of two versions the
older one is the one from which the other is reached by the shorter way up. -/
def isOlder (a b : UInt32) : Bool := 0x80000000 ≤ a - b

def sameSlot : Key → Key → Bool
  | entry a _, entry b _ => a == b
  | _, _ => false

/-- The key names the slot of the other one under an older version. -/
def isOlderThan : Key → Key → Bool
  | entry a v, entry b w => a == b && isOlder v w
  | _, _ => false

end Key

namespace Attachments

variable {α : Type}

def get? (t : Attachments α) (key : Key) : Option α :=
  (t.rows.find? fun row => row.1 == key).map (·.2)

/-- Attaches a thing to a key, in the place of what its slot had before. -/
def insert (t : Attachments α) (key : Key) (a : α) : Attachments α :=
  if key == .null || t.rows.any (fun row => key.isOlderThan row.1) then t
  else { rows := t.rows.filter (fun row => !row.1.sameSlot key) ++ [(key, a)] }

/-- Replaces what is attached to exactly this key. -/
def replace (t : Attachments α) (key : Key) (a : α) : Attachments α :=
  { rows := t.rows.map fun row => if row.1 == key then (key, a) else row }

def erase (t : Attachments α) (key : Key) : Attachments α :=
  { rows := t.rows.filter fun row => !row.1 == key }

end Attachments

end ModSettings
