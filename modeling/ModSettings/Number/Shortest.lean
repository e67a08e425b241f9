/-
The shortest decimal that reads back as a given double.

The reals that round to a double form an interval around it, whose ends belong
to it when the significand is even.  On the grid of decimals with a given number
of digits only the two neighbours of the value can be nearest to it, so the
first grid on which a neighbour falls into the interval has the fewest digits.
Of two neighbours that both fall into it the nearer one is taken, and of two
equally near the larger.
-/
import ModSettings.Number.Magnitude

namespace ModSettings

/-- The number `digits * 10 ^ (scale - 400)`.  Magnitudes reach neither
`10 ^ 400` nor below `10 ^ -400`, so the offset keeps the exponent natural. -/
structure Decimal where
  digits : Nat
  scale : Nat
  deriving DecidableEq, Repr

namespace Decimal

def unitScale : Nat := 400

/-- Moves trailing zeros of the digits into the scale, at most `fuel` of them. -/
def trim : Nat → Decimal → Decimal
  | 0, d => d
  | fuel + 1, d =>
      if d.digits ≠ 0 ∧ d.digits % 10 = 0 then trim fuel ⟨d.digits / 10, d.scale + 1⟩ else d

end Decimal

namespace Magnitude

/-! ## The interval of reals that round to a magnitude

Its ends lie at half the distance to the neighbouring doubles, so they are
counted in quarters of a unit. -/

def quarters (m : Magnitude) : Nat := 4 * m.units

def upperEnd (m : Magnitude) : Nat := m.quarters + 2 * m.gap

def lowerEnd (m : Magnitude) : Nat :=
  m.quarters - if m.closerBelow then m.gap else 2 * m.gap

/-- Quarters of a unit in the number one. -/
def quartersPerOne : Nat := 4 * unitsPerOne

/-- A decimal as a fraction in quarters of a unit: numerator and denominator. -/
def fractionOf (d : Decimal) : Nat × Nat :=
  if d.scale < Decimal.unitScale then
    (d.digits * quartersPerOne, Nat.pow 10 (Decimal.unitScale - d.scale))
  else (d.digits * quartersPerOne * Nat.pow 10 (d.scale - Decimal.unitScale), 1)

def readsBack (m : Magnitude) (d : Decimal) : Bool :=
  let (n, k) := fractionOf d
  if m.significand % 2 = 0 then m.lowerEnd * k ≤ n && n ≤ m.upperEnd * k
  else m.lowerEnd * k < n && n < m.upperEnd * k

/-! ## The two neighbours on a decimal grid -/

/-- The largest decimal of the given scale that does not exceed the value. -/
def floorAt (m : Magnitude) (scale : Nat) : Decimal :=
  if scale < Decimal.unitScale then
    ⟨m.quarters * Nat.pow 10 (Decimal.unitScale - scale) / quartersPerOne, scale⟩
  else ⟨m.quarters / (quartersPerOne * Nat.pow 10 (scale - Decimal.unitScale)), scale⟩

/-- The value lies at least as near to `d + 1` as to `d`, where `d` is the floor
on its grid. -/
def upperIsNearer (m : Magnitude) (d : Decimal) : Bool :=
  let (below, k) := fractionOf d
  let (above, _) := fractionOf ⟨d.digits + 1, d.scale⟩
  above + below ≤ 2 * (m.quarters * k)

/-- The neighbour that reads back on the grid of this scale, if one does. -/
def candidate? (m : Magnitude) (scale : Nat) : Option Decimal :=
  let down := m.floorAt scale
  let up : Decimal := ⟨down.digits + 1, scale⟩
  match m.readsBack down && down.digits != 0, m.readsBack up with
  | true, true => some (if m.upperIsNearer down then up else down)
  | true, false => some down
  | false, true => some up
  | false, false => none

/-- The scale at which the value has one digit before its decimal places: the
largest scale, at most the given one, on which its floor is not zero. -/
def leadingScale (m : Magnitude) : Nat → Nat
  | 0 => 0
  | scale + 1 => if (m.floorAt (scale + 1)).digits = 0 then m.leadingScale scale else scale + 1

/-- Tries ever finer grids, from `scale` down. -/
def searchFrom (m : Magnitude) : (tries : Nat) → (scale : Nat) → Decimal
  | 0, scale => m.floorAt scale
  | tries + 1, scale =>
      match m.candidate? scale with
      | some d => d
      | none => m.searchFrom tries (scale - 1)

/-- The shortest decimal that reads back.  Seventeen digits always do, so
eighteen grids are enough. -/
def shortest (m : Magnitude) : Decimal :=
  if m.significand = 0 then ⟨0, Decimal.unitScale⟩
  else Decimal.trim 400 (m.searchFrom 18 (m.leadingScale (2 * Decimal.unitScale)))

end Magnitude

end ModSettings
