/-
Strings and keys of TOML.

The four ways to write a string differ in the quote, in whether a backslash
escapes and in whether the string may go over several lines.  One reader does
for all of them: it takes pieces until the closing quotes come.
-/
import ModSettings.Toml.Layout

namespace ModSettings
namespace Toml

/-- How a string is written. -/
structure Quoting where
  quote : Char
  escapes : Bool
  multiline : Bool

namespace Quoting

def basic : Quoting := ⟨'"', true, false⟩

def basicLines : Quoting := ⟨'"', true, true⟩

def literal : Quoting := ⟨'\'', false, false⟩

def literalLines : Quoting := ⟨'\'', false, true⟩

/-- The way in which a text begins that starts with a quote, and what follows the
opening quotes.  A line break just after three quotes is not part of the
string. -/
def opening? : Reader Quoting
  | '"' :: '"' :: '"' :: rest => some (basicLines, (newline? rest).getD rest)
  | '"' :: rest => some (basic, rest)
  | '\'' :: '\'' :: '\'' :: rest => some (literalLines, (newline? rest).getD rest)
  | '\'' :: rest => some (literal, rest)
  | _ => none

/-- Takes the quotes that close a string, with those that still belong to it:
three close a string of several lines, and up to two more may stand in front. -/
def closing? (q : Quoting) (cs : List Char) : Option (List Char × List Char) :=
  let run := (cs.takeWhile (· = q.quote)).length
  if q.multiline then
    if 3 ≤ run then
      let extra := min (run - 3) 2
      some (cs.take extra, cs.drop (extra + 3))
    else none
  else if run = 0 then none
  else some ([], cs.drop 1)

end Quoting

/-! ## Escapes -/

def hexDigit? (c : Char) : Option Nat :=
  if c.isDigit then some (c.toNat - '0'.toNat)
  else if 'a' ≤ c ∧ c ≤ 'f' then some (c.toNat - 'a'.toNat + 10)
  else if 'A' ≤ c ∧ c ≤ 'F' then some (c.toNat - 'A'.toNat + 10)
  else none

/-- Takes so many hexadecimal digits, which give the number of a character; half
a surrogate pair is none. -/
def charOfHex? (count : Nat) : Reader Char := fun cs => do
  let values ← (cs.take count).mapM hexDigit?
  let n := values.foldl (fun n d => 16 * n + d) 0
  if values.length = count ∧ n.isValidChar then some (Char.ofNat n, cs.drop count) else none

/-- What a letter after a backslash stands for. -/
def letterEscape? : Char → Option Char
  | 'b' => some '\x08'
  | 't' => some '\t'
  | 'n' => some '\n'
  | 'f' => some '\x0c'
  | 'r' => some '\r'
  | '"' => some '"'
  | '\\' => some '\\'
  | _ => none

def escape? : Reader Char
  | 'u' :: rest => charOfHex? 4 rest
  | 'U' :: rest => charOfHex? 8 rest
  | c :: rest => do return (← letterEscape? c, rest)
  | [] => none

/-- Skips a line break behind a backslash and all blanks and line breaks that
follow it. -/
def continuation? (cs : List Char) : Option (List Char) := do
  return skipBreaks (← newline? (skipBlanks cs))

/-! ## Strings -/

def Quoting.piece? (q : Quoting) : Reader (List Char)
  | '\\' :: rest =>
      if !q.escapes then some (['\\'], rest)
      else match if q.multiline then continuation? rest else none with
        | some rest => some ([], rest)
        | none => do
            let (c, rest) ← escape? rest
            return ([c], rest)
  | c :: rest =>
      if isPlain c then some ([c], rest)
      else if q.multiline then do return (['\n'], ← newline? (c :: rest))
      else none
  | [] => none

/-- Takes pieces up to the closing quotes.  Every piece takes a character at
least, so as many rounds as there are characters are enough. -/
def Quoting.body? (q : Quoting) : Nat → Reader (List Char)
  | 0, cs => q.closing? cs
  | rounds + 1, cs =>
      match q.closing? cs with
      | some closed => some closed
      | none => do
          let (piece, cs) ← q.piece? cs
          let (more, cs) ← q.body? rounds cs
          return (piece ++ more, cs)

/-- Takes a string in one of the ways that are allowed here. -/
def quoted? (allowed : Quoting → Bool) : Reader String := fun cs => do
  let (q, rest) ← Quoting.opening? cs
  if !allowed q then none
  let (text, rest) ← q.body? rest.length rest
  return (String.ofList text, rest)

def string? : Reader String := quoted? fun _ => true

/-! ## Keys -/

def isBare (c : Char) : Bool := c.isAlphanum || c = '_' || c = '-'

def name? (cs : List Char) : Option (String × List Char) :=
  match cs with
  | '"' :: _ => quoted? (fun q => !q.multiline) cs
  | '\'' :: _ => quoted? (fun q => !q.multiline) cs
  | _ =>
      let bare := cs.takeWhile isBare
      if bare = [] then none else some (String.ofList bare, cs.dropWhile isBare)

/-- A key has fewer names than this. -/
def nestingLimit : Nat := 80

/-- Takes the names of a key with the blanks around them; a key of more names
than there are rounds is refused.  The last name is given apart. -/
def names? : Nat → Reader (List String × String)
  | 0, _ => none
  | rounds + 1, cs => do
      let (name, cs) ← name? (skipBlanks cs)
      match skipBlanks cs with
      | '.' :: rest => do
          let ((path, last), rest) ← names? rounds rest
          return ((name :: path, last), rest)
      | rest => return (([], name), rest)

/-- Takes a key: the names that lead to a value, and the last of them apart. -/
def key? : Reader (List String × String) := names? (nestingLimit - 1)

end Toml
end ModSettings
