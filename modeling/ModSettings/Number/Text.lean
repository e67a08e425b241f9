/-
How numbers are written.

A double is written positionally, without an exponent, with the fewest digits
that read back; a slider may instead ask for two decimal places or for a whole
number.  Two places round the exact value with ties to the even neighbour, and
whole numbers round ties away from zero and stop at the ends of the sixty-four
bit range.
-/
import ModSettings.Number.Shortest

namespace ModSettings

/-- Puts a point before the last `places` digits, with zeros in front where
there are too few. -/
def pointBefore (places : Nat) (digits : Nat) : String :=
  let text := toString digits
  let padded := "".pushn '0' (places + 1 - text.length) ++ text
  let whole := padded.length - places
  (padded.take whole).toString ++ "." ++ (padded.drop whole).toString

/-- Digits in place: zeros up to the point, or a point and the places after
it. -/
def Decimal.positional (d : Decimal) : String :=
  if Decimal.unitScale ≤ d.scale then
    (toString d.digits).pushn '0' (d.scale - Decimal.unitScale)
  else pointBefore (Decimal.unitScale - d.scale) d.digits

/-! ## Rounding -/

/-- The whole number nearest to `n / d`, a tie going to the even one. -/
def roundEven (n d : Nat) : Nat :=
  let q := n / d
  let r := n % d
  if 2 * r < d then q
  else if d < 2 * r then q + 1
  else if q % 2 = 0 then q else q + 1

/-- The whole number nearest to `n / d`, a tie going up. -/
def roundUp (n d : Nat) : Nat := (2 * n + d) / (2 * d)

/-- Keeps a whole number inside the signed sixty-four bit range. -/
def clamp64 (n : Int) : Int := max Int64.minValue.toInt (min Int64.maxValue.toInt n)

namespace Real64

def signText (negative : Bool) : String := if negative then "-" else ""

/-- Values that are no finite number, in every format. -/
def infiniteText (negative : Bool) : String := signText negative ++ "inf"

/-- The shortest text that reads back, in positional notation. -/
def plain : Real64 → String
  | nan => "NaN"
  | infinite negative => infiniteText negative
  | finite negative m => signText negative ++ m.shortest.positional

/-- Two decimal places.  The sign stays when everything rounds to zero. -/
def twoPlaces : Real64 → String
  | nan => "NaN"
  | infinite negative => infiniteText negative
  | finite negative m =>
      signText negative ++ pointBefore 2 (roundEven (100 * m.units) unitsPerOne)

/-- The nearest whole number of sixty-four bits; what is no number gives
zero. -/
def whole : Real64 → Int
  | nan => 0
  | infinite negative => if negative then Int64.minValue.toInt else Int64.maxValue.toInt
  | finite negative m =>
      let n : Int := roundUp m.units unitsPerOne
      clamp64 (if negative then -n else n)

end Real64

/-- The text of a double wherever a message or an answer shows one. -/
def floatText (x : Float) : String := (Real64.ofFloat x).plain

end ModSettings
