/-
The settings API as a plugin of the game.

Starting the plugin starts a session with the standard catalog, and stopping it
shuts the session down.  A plugin that is loaded takes its configuration from a
file, and does with the standard one where the file is of no use.
-/
import ModSettings.Config.File
import ModSettings.Session.Basic

namespace ModSettings

namespace Plugin

def name : String := "ExtraSettingsAPI"

def version : String := "0.1.0"

def author : String := "dollan"

def start (config : Config) : Flow Unit Session := do
  Flow.log .info (name ++ " " ++ version ++ " by " ++ author ++ " loading...")
  if !config.bridge.enabled then
    Flow.log .info "API bridges are disabled"
  return { config, catalog := .standard }

def load (route : Route) : Flow FileTree Session := do
  let standard : Config := {}
  match ← Config.loadFrom route with
  | .ok config => started config
  | .error _ =>
      Flow.log .warn "Failed to load config, using defaults"
      started standard
where
  started (config : Config) : Flow FileTree Session :=
    Flow.zoom (fun _ => ()) (fun tree _ => tree) (start config)

/-- Stops the session.  The answer tells that no panic was in the way, which a
session rules out. -/
def stop : Flow Session Bool := do
  Flow.log .info (name ++ " unloading...")
  Session.shutdown
  return true

end Plugin

end ModSettings
