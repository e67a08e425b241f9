/-
The exact value of a double.

Every finite double is a whole multiple of `2 ^ -1074`, so its magnitude is a
natural number of those units and every question about rounding is arithmetic
on natural numbers.  `Magnitude.units` is that number and `Magnitude.gap` is the
distance to the next double above, in the same units.
-/

namespace ModSettings

/-- How many of the units in which magnitudes are counted make up one. -/
def unitsPerOne : Nat := Nat.pow 2 1074

/-- The leading bit of a full significand; the fraction lies below it. -/
def leadingBit : Nat := Nat.pow 2 52

/-- The size of a finite double, without its sign. -/
structure Magnitude where
  significand : Nat
  /-- How many binary places the significand is shifted above the unit. -/
  shift : Nat
  deriving DecidableEq, Repr

namespace Magnitude

def units (m : Magnitude) : Nat := m.significand * Nat.pow 2 m.shift

/-- The distance from this double to the next one above it. -/
def gap (m : Magnitude) : Nat := Nat.pow 2 m.shift

/-- Below the smallest significand of a binade doubles lie twice as close as
above it, except at the bottom where there is no closer binade. -/
def closerBelow (m : Magnitude) : Bool :=
  m.significand == leadingBit && m.shift != 0

end Magnitude

/-- What a double denotes. -/
inductive Real64 where
  | nan
  | infinite (negative : Bool)
  | finite (negative : Bool) (magnitude : Magnitude)
  deriving DecidableEq, Repr

/-- Splits the encoding into sign, eleven bits of exponent and fifty-two of
fraction.  An exponent field of zero has no leading bit, and one of all ones
holds the infinities and the values that are no numbers. -/
def Real64.ofFloat (x : Float) : Real64 :=
  let bits := x.toBits.toNat
  let negative := bits / leadingBit / 2048 == 1
  let exponent := bits / leadingBit % 2048
  let fraction := bits % leadingBit
  if exponent = 2047 then
    if fraction = 0 then .infinite negative else .nan
  else if exponent = 0 then .finite negative ⟨fraction, 0⟩
  else .finite negative ⟨leadingBit + fraction, exponent - 1⟩

end ModSettings
