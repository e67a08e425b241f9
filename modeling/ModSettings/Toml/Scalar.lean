/-
Numbers, dates and truth values of TOML.

A value that stands neither in quotes nor in brackets is one word, and a word is
of at most one kind.  The only exception is a date, which a single blank may part
from its time.
-/
import ModSettings.Toml.Item
import ModSettings.Toml.Quoted

namespace ModSettings
namespace Toml

def isWordChar (c : Char) : Bool := isBare c || c = '+' || c = '.' || c = ':'

/-- The digits of a number.  Underscores may part them, but only one at a time
and with a digit on both sides. -/
def digits? (isDigit : Char → Bool) : List Char → Option (List Char)
  | [] => none
  | [d] => if isDigit d then some [d] else none
  | d :: '_' :: rest => if isDigit d then do return d :: (← digits? isDigit rest) else none
  | d :: rest => if isDigit d then do return d :: (← digits? isDigit rest) else none

def ofDigits (base : Nat) (digits : List Char) : Nat :=
  digits.foldl (fun n d => base * n + (hexDigit? d).getD 0) 0

/-- Takes a sign; true is a minus. -/
def splitSign : List Char → Bool × List Char
  | '-' :: rest => (true, rest)
  | '+' :: rest => (false, rest)
  | cs => (false, cs)

/-- The digits of a decimal number that a sign may stand in front of: no zero
begins them unless it is the only one. -/
def wholeDigits? (cs : List Char) : Option (List Char) :=
  match digits? Char.isDigit cs with
  | some ('0' :: _ :: _) => none
  | digits => digits

def int64? (negative : Bool) (size : Nat) : Option Int64 :=
  let n : Int := if negative then -size else size
  if Int64.minValue.toInt ≤ n ∧ n ≤ Int64.maxValue.toInt then some (.ofInt n) else none

/-- A whole number: decimal with or without a sign, or in base 16, 8 or 2 without
one.  It has to fit into 64 bits. -/
def integer? : List Char → Option Int64
  | '0' :: 'x' :: cs => based 16 cs
  | '0' :: 'o' :: cs => based 8 cs
  | '0' :: 'b' :: cs => based 2 cs
  | cs => do
      let (negative, cs) := splitSign cs
      int64? negative (ofDigits 10 (← wholeDigits? cs))
where
  based (base : Nat) (cs : List Char) : Option Int64 := do
    let digits ← digits? (fun c => (hexDigit? c).any (· < base)) cs
    int64? false (ofDigits base digits)

/-! ## Fractions -/

/-- The least size that no finite double is nearest to: half a step above the
greatest of them. -/
def infiniteFrom : Nat := Nat.pow 2 1024 - Nat.pow 2 970

/-- Tells whether the double nearest to `digits * 10 ^ exponent` is infinite.
The count of digits decides that but for sizes of 309 digits, so that no great
power is computed. -/
def isInfinite (digits : Nat) (exponent : Int) : Bool :=
  let size := (Nat.toDigits 10 digits).length + exponent
  if digits = 0 ∨ size < 309 then false
  else if 309 < size then true
  else match exponent with
    | .ofNat e => infiniteFrom ≤ digits * Nat.pow 10 e
    | .negSucc e => infiniteFrom * Nat.pow 10 (e + 1) ≤ digits

/-- Takes a text apart at the first character of the kind, which goes away. -/
def splitAt? (test : Char → Bool) (cs : List Char) : Option (List Char × List Char) :=
  match cs.dropWhile fun c => !test c with
  | [] => none
  | _ :: rest => some (cs.takeWhile fun c => !test c, rest)

/-- Tells whether a word is a number with a point, with an exponent or with
both.  A number without a minus may not be too great for a double; with one it
may. -/
def isDecimal (cs : List Char) : Bool := Option.isSome do
  let (negative, cs) := splitSign cs
  let (size, exponent) ← match splitAt? (fun c => c = 'e' || c = 'E') cs with
    | none => some (cs, 0)
    | some (size, cs) => do
        let (negative, cs) := splitSign cs
        let e := ofDigits 10 (← digits? Char.isDigit cs)
        some (size, if negative then -Int.ofNat e else Int.ofNat e)
  let (whole, fraction) ← match splitAt? (· = '.') size with
    | none => if size.length = cs.length then none else some (← wholeDigits? size, [])
    | some (whole, fraction) => some (← wholeDigits? whole, ← digits? Char.isDigit fraction)
  if !negative && isInfinite (ofDigits 10 (whole ++ fraction)) (exponent - fraction.length) then
    none
  else some ()

def isFloat (cs : List Char) : Bool :=
  let unsigned := (splitSign cs).2
  unsigned = ['i', 'n', 'f'] || unsigned = ['n', 'a', 'n'] || isDecimal cs

/-! ## Dates and times -/

def twoDigits? (most : Nat) : Reader Nat
  | a :: b :: rest =>
      let n := ofDigits 10 [a, b]
      if a.isDigit ∧ b.isDigit ∧ n ≤ most then some (n, rest) else none
  | _ => none

def daysOf (year month : Nat) : Nat :=
  if month = 2 then
    if year % 4 = 0 ∧ (year % 100 ≠ 0 ∨ year % 400 = 0) then 29 else 28
  else if month = 4 ∨ month = 6 ∨ month = 9 ∨ month = 11 then 30
  else 31

/-- Takes a day of the calendar and gives what follows it. -/
def date? (cs : List Char) : Option (List Char) := do
  let (century, cs) ← twoDigits? 99 cs
  let (year, cs) ← twoDigits? 99 cs
  let '-' :: cs := cs | none
  let (month, cs) ← twoDigits? 12 cs
  let '-' :: cs := cs | none
  let (day, cs) ← twoDigits? 31 cs
  if 1 ≤ month ∧ 1 ≤ day ∧ day ≤ daysOf (100 * century + year) month then some cs else none

/-- Takes a time of the day and gives what follows it. -/
def time? (cs : List Char) : Option (List Char) := do
  let (_, cs) ← twoDigits? 23 cs
  let ':' :: cs := cs | none
  let (_, cs) ← twoDigits? 59 cs
  let ':' :: cs := cs | none
  let (_, cs) ← twoDigits? 60 cs
  match cs with
  | '.' :: cs =>
      if cs.head?.any Char.isDigit then some (cs.dropWhile Char.isDigit) else none
  | cs => some cs

/-- Tells whether a text is nothing, or says how far a time is from the common
one. -/
def isOffset : List Char → Bool
  | [] => true
  | ['Z'] => true
  | ['z'] => true
  | sign :: cs => Option.isSome do
      if sign ≠ '+' ∧ sign ≠ '-' then none
      let (_, cs) ← twoDigits? 23 cs
      let ':' :: cs := cs | none
      let (_, []) ← twoDigits? 59 cs | none
      some ()

/-- Tells whether a word is a date, a time or both. -/
def isMoment (cs : List Char) : Bool :=
  match date? cs with
  | none => time? cs = some []
  | some [] => true
  | some (mark :: rest) => (mark = 'T' || mark = 't') && (time? rest).any isOffset

/-! ## Words -/

def Scalar.ofWord? (cs : List Char) : Option Scalar :=
  match cs with
  | ['t', 'r', 'u', 'e'] => some (.boolean true)
  | ['f', 'a', 'l', 's', 'e'] => some (.boolean false)
  | _ =>
      match integer? cs with
      | some n => some (.integer n)
      | none =>
          if isFloat cs then some .float
          else if isMoment cs then some .moment
          else none

/-- Takes a word.  A blank after a date is part of it where a digit follows, for
then a time has to. -/
def word (cs : List Char) : List Char × List Char :=
  let first := cs.takeWhile isWordChar
  match cs.dropWhile isWordChar with
  | ' ' :: d :: rest =>
      if date? first = some [] ∧ d.isDigit then
        (first ++ 'T' :: (d :: rest).takeWhile isWordChar, (d :: rest).dropWhile isWordChar)
      else (first, ' ' :: d :: rest)
  | rest => (first, rest)

def Scalar.read? (cs : List Char) : Option (Scalar × List Char) :=
  match string? cs with
  | some (text, rest) => some (.string text, rest)
  | none => do
      let (text, rest) := word cs
      return (← ofWord? text, rest)

end Toml
end ModSettings
