/-
A tree of files.

A path is the list of names that lead down from the root.  What goes wrong at a
path depends on what stands in the way: nothing, or a file where a folder has to
be.
-/
namespace ModSettings

inductive FileError where
  | notFound
  | notADirectory
  | isADirectory
  /-- A file stands where a folder was to be made. -/
  | alreadyExists
  /-- A name is longer than a folder can hold. -/
  | invalidFilename
  /-- A name has the null character in it. -/
  | invalidInput
  | invalidData
  deriving DecidableEq, Repr

def FileError.kind : FileError → String
  | notFound => "NotFound"
  | notADirectory => "NotADirectory"
  | isADirectory => "IsADirectory"
  | alreadyExists => "AlreadyExists"
  | invalidFilename => "InvalidFilename"
  | invalidInput => "InvalidInput"
  | invalidData => "InvalidData"

inductive FileTree where
  | file (bytes : ByteArray)
  | folder (entries : List (String × FileTree))

abbrev Path := List String

def Path.text (path : Path) : String := "/".intercalate path

namespace FileTree

def empty : FileTree := folder []

def at? : Path → FileTree → Except FileError FileTree
  | [], tree => .ok tree
  | _ :: _, file _ => .error .notADirectory
  | name :: rest, folder entries =>
      match entries.lookup name with
      | some inside => inside.at? rest
      | none => .error .notFound

/-- A folder in which a name leads to this, or to nothing. -/
def entry (name : String) (inside : Option FileTree) (entries : List (String × FileTree)) :
    FileTree :=
  folder (inside.toList.map (name, ·) ++ entries.filter fun e => e.1 != name)

/-- Puts this at a path, or takes away what stands there.  The root stays, and so
does everything if the path leads to no folder that could hold the last name. -/
def put (inside : Option FileTree) : Path → FileTree → FileTree
  | [], tree => inside.getD tree
  | _ :: _, file bytes => file bytes
  | [name], folder entries => entry name inside entries
  | name :: rest, folder entries =>
      match entries.lookup name with
      | some old => entry name (some (old.put inside rest)) entries
      | none => folder entries

end FileTree

end ModSettings
