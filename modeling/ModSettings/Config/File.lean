/-
The file of a configuration.

Loading makes the file where there is none, and reloading does not: it takes over
what the file says, or leaves the configuration as it was.
-/
import ModSettings.Config.Format
import ModSettings.Exec.Flow
import ModSettings.Files.Route

namespace ModSettings

inductive ConfigError where
  | file (cause : FileError)
  /-- The text is no TOML document, or a setting in it is of the wrong kind. -/
  | unreadable
  deriving DecidableEq, Repr

def ConfigError.kind : ConfigError → String
  | file _ => "IoError"
  | unreadable => "ParseError"

namespace Config

def folderName : String := "configs"

def fileName : String := "extra_settings.toml"

/-- Where the file is from the folder of the plugin. -/
def path : Path := [folderName, fileName]

def readFrom (route : Route) (tree : FileTree) : Except ConfigError Config := do
  let text ← (tree.readText route).mapError .file
  match ofText? text with
  | some config => return config
  | none => .error .unreadable

/-- Writes the file and makes the folders that it needs. -/
def saveTo (route : Route) (c : Config) : Flow FileTree (Except ConfigError Unit) := fun tree =>
  let (done, tree) := tree.place c.text.toUTF8 route
  ⟨done.mapError .file, tree, []⟩

/-- Reads the file, or writes the standard configuration where there is none. -/
def loadFrom (route : Route) : Flow FileTree (Except ConfigError Config) := fun tree =>
  if tree.exists? route then ⟨readFrom route tree, tree, []⟩
  else
    let saved := saveTo route {} tree
    ⟨saved.value.map fun _ => {}, saved.state, saved.journal⟩

/-- The configuration that the file gives; without one the present one stays. -/
def reloadFrom (route : Route) (c : Config) (tree : FileTree) : Except ConfigError Unit × Config :=
  match readFrom route tree with
  | .ok config => (.ok (), config)
  | .error e => (.error e, c)

end Config

end ModSettings
