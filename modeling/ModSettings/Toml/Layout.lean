/-
What stands between the parts of a TOML document: blanks, line breaks and
comments.
-/
namespace ModSettings
namespace Toml

/-- Takes something from the front of a text and leaves the rest. -/
abbrev Reader (α : Type) := List Char → Option (α × List Char)

def isBlank (c : Char) : Bool := c = ' ' || c = '\t'

/-- A character that comments and strings may hold as it stands: no control
character but the tab. -/
def isPlain (c : Char) : Bool := c = '\t' || (' ' ≤ c && c ≤ '~') || '\x80' ≤ c

def skipBlanks (cs : List Char) : List Char := cs.dropWhile isBlank

/-- Takes a line break, which is a line feed or a carriage return with one. -/
def newline? : List Char → Option (List Char)
  | '\n' :: rest => some rest
  | '\r' :: '\n' :: rest => some rest
  | _ => none

def skipComment : List Char → List Char
  | '#' :: rest => rest.dropWhile isPlain
  | cs => cs

/-- Takes what may end a line: blanks, a comment, and a line break unless the
document ends there. -/
def lineEnd? (cs : List Char) : Option (List Char) :=
  match skipComment (skipBlanks cs) with
  | [] => some []
  | rest => newline? rest

/-- Skips blanks and line breaks. -/
def skipBreaks : List Char → List Char
  | '\n' :: rest => skipBreaks rest
  | '\r' :: '\n' :: rest => skipBreaks rest
  | c :: rest => if isBlank c then skipBreaks rest else c :: rest
  | [] => []

/-- Skips blanks, line breaks and comments; the flag tells that the text begins
inside a comment. -/
def skipLayout : Bool → List Char → List Char
  | _, '\n' :: rest => skipLayout false rest
  | _, '\r' :: '\n' :: rest => skipLayout false rest
  | true, c :: rest => if isPlain c then skipLayout true rest else c :: rest
  | false, c :: rest =>
      if c = '#' then skipLayout true rest
      else if isBlank c then skipLayout false rest
      else c :: rest
  | _, [] => []

end Toml
end ModSettings
