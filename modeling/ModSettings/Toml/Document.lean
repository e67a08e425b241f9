/-
Reading a TOML document.

A document is read line by line: a line gives a key a value in the table that is
open, or opens another one.  Arrays and inline tables may hold one another up to
a fixed depth.
-/
import ModSettings.Toml.Scalar

namespace ModSettings
namespace Toml

/-! ## Values -/

/-- Takes the elements of an array from behind its bracket.  Each takes a
character at least, so as many rounds as there are characters are enough. -/
def elements? (element? : Reader Item) : Nat → Reader (List Item)
  | 0, _ => none
  | rounds + 1, cs =>
      match skipLayout false cs with
      | ']' :: rest => some ([], rest)
      | cs => do
          let (item, cs) ← element? cs
          match skipLayout false cs with
          | ',' :: cs => do
              let (more, cs) ← elements? element? rounds cs
              return (item :: more, cs)
          | ']' :: rest => some ([item], rest)
          | _ => none

/-- Takes a key, the equals sign and the value, and gives the key the value in a
table. -/
def entry? (value? : Reader Item) (t : Table) : Reader Table := fun cs => do
  let ((path, name), cs) ← key? cs
  let '=' :: cs := cs | none
  let (item, cs) ← value? (skipBlanks cs)
  return (← t.assign path name item, cs)

/-- Takes the entries of an inline table, of which there is one at least. -/
def entries? (value? : Reader Item) : Nat → Table → Reader Table
  | 0, _, _ => none
  | rounds + 1, t, cs => do
      let (t, cs) ← entry? value? t cs
      match skipBlanks cs with
      | ',' :: cs => entries? value? rounds t cs
      | '}' :: rest => some (t, rest)
      | _ => none

/-- Takes a value in which brackets and braces go at most so deep. -/
def value? : Nat → Reader Item
  | depth + 1, '[' :: cs => do
      let (items, cs) ← elements? (value? depth) (cs.length + 1) cs
      return (.array items, cs)
  | depth + 1, '{' :: cs =>
      match skipBlanks cs with
      | '}' :: rest => some (.table .inline [], rest)
      | cs => do
          let (t, cs) ← entries? (value? depth) cs.length { origin := .inline } cs
          return (t.item, cs)
  | _, cs => do
      let (scalar, cs) ← Scalar.read? cs
      return (.scalar scalar, cs)

/-! ## Lines -/

structure Draft where
  root : Table := { origin := .header }
  /-- The path of the table that is open. -/
  current : List String := []

namespace Draft

/-- Takes one line that is not empty. -/
def line? (d : Draft) : Reader Draft
  | '[' :: '[' :: cs => do
      let ((path, name), cs) ← key? cs
      let ']' :: ']' :: cs := cs | none
      let root ← d.root.openRow path name
      return ({ root, current := path ++ [name] }, ← lineEnd? cs)
  | '[' :: cs => do
      let ((path, name), cs) ← key? cs
      let ']' :: cs := cs | none
      let root ← d.root.openTable path name
      return ({ root, current := path ++ [name] }, ← lineEnd? cs)
  | cs => do
      let ((path, name), cs) ← key? cs
      let '=' :: cs := cs | none
      let (item, cs) ← value? (nestingLimit - 1) (skipBlanks cs)
      let root ← d.root.along false (·.assign path name item) d.current
      return ({ d with root }, ← lineEnd? cs)

/-- Takes all lines; each takes a character at least. -/
def lines? (d : Draft) : Nat → List Char → Option Draft
  | 0, _ => none
  | rounds + 1, cs =>
      match skipLayout false cs with
      | [] => some d
      | cs => do
          let (d, cs) ← d.line? cs
          d.lines? rounds cs

end Draft

/-- The table that a text describes.  A mark of the byte order may stand in
front of it. -/
def document? (text : String) : Option Table := do
  let cs := match text.toList with
    | '\ufeff' :: rest => rest
    | cs => cs
  let draft ← ({} : Draft).lines? (cs.length + 1) cs
  return draft.root

end Toml
end ModSettings
