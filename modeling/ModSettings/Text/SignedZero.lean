/-
Zero with a minus in a JSON text.

A reader that keeps a number as a whole number and a power of ten has no place for
the sign of a zero.  So such a number is turned into the string `-0` before the
text is read.  What stands in strings is left as it is.
-/

namespace ModSettings

namespace SignedZero

/-- A part of a JSON text, from its start. -/
structure Scan where
  /-- What is read but for the word at its end. -/
  done : String := ""
  /-- The number or the word that is being read, its last character first. -/
  word : List Char := []
  /-- Inside a string, and there after a backslash or not. -/
  string? : Option Bool := none

/-- The word is a number, and all its digits in front of an exponent are zero. -/
def isNegativeZero (word : List Char) : Bool :=
  word.head? == some '-' &&
    (word.takeWhile fun c => c != 'e' && c != 'E').all fun c => "-0.".contains c

def Scan.text (s : Scan) : String :=
  let word := s.word.reverse
  s.done ++ (if isNegativeZero word then "\"-0\"" else String.ofList word)

/-- The characters of numbers, `true`, `false` and `null`. -/
def isWordPart (c : Char) : Bool := c.isAlphanum || "+-.".contains c

def Scan.read (s : Scan) (c : Char) : Scan :=
  match s.string? with
  | none =>
      if isWordPart c then { s with word := c :: s.word }
      else { done := s.text.push c, string? := if c = '"' then some false else none }
  | some true => { s with done := s.done.push c, string? := some false }
  | some false =>
      { s with
        done := s.done.push c
        string? := if c = '"' then none else some (c == '\\') }

end SignedZero

/-- The JSON text with each number that is zero with a minus as the string `-0`. -/
def signedZeros (text : String) : String := (text.foldl SignedZero.Scan.read {}).text

end ModSettings
