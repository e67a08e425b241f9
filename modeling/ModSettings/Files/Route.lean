/-
Routes through a tree of files.

A route is what the text of a place says step by step, where a step goes down to a
name or back up.  It is walked in the tree, since a step leads on only from a
folder that is there: the same text can lead somewhere in one tree and nowhere in
another.
-/
import ModSettings.Files.Tree

namespace ModSettings

inductive Route.Step where
  | down (name : String)
  | up
  deriving DecidableEq, Repr

/-- How the text of a route ends. -/
inductive Route.Ending where
  /-- With its last step. -/
  | step
  /-- With a slash, so what is there has to be a folder. -/
  | slash
  /-- With a dot, which stands in a folder that is there. -/
  | dot
  deriving DecidableEq, Repr

/-- A route from the root, as the words that stand between the slashes of its text. -/
structure Route where
  words : List String
  deriving DecidableEq, Repr

namespace Route

namespace Step

/-- A folder holds names of up to so many bytes. -/
def longestName : Nat := 255

def isTooLong : Step → Bool
  | down name => longestName < name.utf8ByteSize
  | up => false

def after (here : Path) : Step → Path
  | down name => here ++ [name]
  | up => here.dropLast

end Step

/-- The route that a text tells from a folder.  One that begins with a slash
starts at the root. -/
def ofText (start : Path) (text : String) : Route :=
  { words := (if text.startsWith "/" then [] else start) ++ text.splitOn "/" }

/-- An empty word and a single dot stay where they are. -/
def stays (word : String) : Bool := word == "" || word == "."

def steps (route : Route) : List Step :=
  (route.words.filter fun word => !stays word).map fun word =>
    if word = ".." then .up else .down word

def ending (route : Route) : Ending :=
  if (route.words.filter (· != "")).getLast? = some "." then .dot
  else if route.words.getLast? = some "" then .slash
  else .step

def above (route : Route) : Route :=
  { words := (((route.words.reverse.dropWhile stays).drop 1).dropWhile stays).reverse }

/-- The route ends with a name, and not inside of what it leads to. -/
def isNamed (route : Route) : Bool :=
  route.ending != .dot && (route.steps.getLast?.any fun step => step != .up)

/-- The bytes of the text of the route. -/
def size (route : Route) : Nat :=
  route.words.foldl (fun bytes word => bytes + word.utf8ByteSize + 1) 0

/-- The text of a route that is walked has up to so many bytes. -/
def longest : Nat := 4095

def fault? (route : Route) : Option FileError :=
  if route.words.any fun word => word.contains '\x00' then some .invalidInput
  else if longest < route.size then some .invalidFilename
  else none

end Route

namespace FileTree

open Route (Step)

/-- The path that steps lead to.  Each has to start from a folder, but there need
be nothing where the last of them ends. -/
def walk (tree : FileTree) : Path → List Step → Except FileError Path
  | here, [] => .ok here
  | here, step :: rest => do
      match ← tree.at? here with
      | file _ => .error .notADirectory
      | folder _ =>
          if step.isTooLong then .error .invalidFilename
          else tree.walk (step.after here) rest

def follow (route : Route) (tree : FileTree) : Except FileError Path :=
  match route.fault? with
  | some e => .error e
  | none => tree.walk [] route.steps

def find (route : Route) (tree : FileTree) : Except FileError FileTree := do
  match ← tree.at? (← tree.follow route), route.ending with
  | file bytes, .step => return file bytes
  | file _, _ => .error .notADirectory
  | folder entries, _ => return folder entries

def exists? (route : Route) (tree : FileTree) : Bool := (tree.find route).toOption.isSome

def readBytes (route : Route) (tree : FileTree) : Except FileError ByteArray := do
  match ← tree.find route with
  | file bytes => return bytes
  | folder _ => .error .isADirectory

/-- The text of a file, which has to be UTF-8. -/
def readText (route : Route) (tree : FileTree) : Except FileError String := do
  match String.fromUTF8? (← tree.readBytes route) with
  | some text => return text
  | none => .error .invalidData

/-- Makes the folders along some steps that are not there yet.  Those made before
a step fails stay.  A file in the way is a folder that cannot be made if it is
what the last step leads to or if something before it had to be made. -/
def makeAlong (made : Bool) : Path → List Step → FileTree → Except FileError Unit × FileTree
  | _, [], tree => (.ok (), tree)
  | here, step :: rest, tree =>
      if step.isTooLong then (.error .invalidFilename, tree)
      else
        let there := step.after here
        match tree.at? there with
        | .ok (folder _) => makeAlong made there rest tree
        | .ok (file _) =>
            (.error (if made || rest.isEmpty then .alreadyExists else .notADirectory), tree)
        | .error _ => makeAlong true there rest (tree.put (some empty) there)

/-- Makes the folders along a route, except for one that a dot would stand in. -/
def makeFolders (route : Route) (tree : FileTree) : Except FileError Unit × FileTree :=
  match route.fault? with
  | some e => (.error e, tree)
  | none =>
      makeAlong false [] (if route.ending = .dot then route.steps.dropLast else route.steps) tree

/-- Why no file can be where the text of a route ends in a slash or a dot.  In front
of the slash the last name is not even looked for. -/
def noFile (ending : Route.Ending) (steps : List Step) (tree : FileTree) : FileError :=
  match tree.walk [] (if ending = .slash then steps.dropLast else steps) >>= (at? · tree) with
  | .ok (folder _) => .isADirectory
  | .ok (file _) => .notADirectory
  | .error e => e

/-- Gives the file at the end of a route these bytes; its folder must be there. -/
def write (bytes : ByteArray) (route : Route) (tree : FileTree) : Except FileError FileTree :=
  match route.fault?, route.ending with
  | some e, _ => .error e
  | none, .step => do
      let path ← tree.walk [] route.steps
      match tree.at? path with
      | .ok (folder _) => .error .isADirectory
      | .ok (file _) => return tree.put (some (file bytes)) path
      | .error .notFound => return tree.put (some (file bytes)) path
      | .error e => .error e
  | none, ending => .error (tree.noFile ending route.steps)

/-- Gives the file at the end of a route these bytes and makes the folders that it
needs.  They stay even if the file cannot be written. -/
def place (bytes : ByteArray) (route : Route) (tree : FileTree) :
    Except FileError Unit × FileTree :=
  match tree.makeFolders route.above with
  | (.error e, made) => (.error e, made)
  | (.ok (), made) =>
      match made.write bytes route with
      | .error e => (.error e, made)
      | .ok written => (.ok (), written)

/-- Takes away what a route leads to, if it leads to anything.  A folder that the
route ends inside of stays and loses what it holds. -/
def remove (route : Route) (tree : FileTree) : FileTree :=
  match tree.find route, tree.follow route with
  | .ok _, .ok path => tree.put (if route.isNamed then none else some empty) path
  | _, _ => tree

end FileTree

end ModSettings
