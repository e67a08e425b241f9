/-
The text of a configuration.

A configuration is written as a TOML document.  In one that is read every setting
may be missing and names that mean nothing are passed over, but a setting that is
there has to be of its kind.
-/
import ModSettings.Config.Basic
import ModSettings.Toml.Document

namespace ModSettings

open Toml

namespace Config

def boolText (b : Bool) : String := if b then "true" else "false"

def text (c : Config) : String :=
  "version = " ++ toString c.version.toNat ++ "\n" ++
  "debug = " ++ boolText c.debug ++ "\n" ++
  "\n" ++
  "[bridge]\n" ++
  "enabled = " ++ boolText c.bridge.enabled ++ "\n" ++
  "promote_call_sites = " ++ boolText c.bridge.promoteCallSites ++ "\n" ++
  "warn_unmatched = " ++ boolText c.bridge.warnUnmatched ++ "\n"

def orDefault {α : Type} (default : α) (read : Item → Option α) : Option Item → Option α
  | none => some default
  | some item => read item

def bool? : Item → Option Bool
  | .scalar (.boolean b) => some b
  | _ => none

def version? : Item → Option UInt32
  | .scalar (.integer n) =>
      if 0 ≤ n.toInt ∧ n.toInt < UInt32.size then some (.ofNat n.toInt.toNat) else none
  | _ => none

/-- The settings of the bridge: a table of them, or their values in order, of
which the last may be missing.  A moment counts as a table too, of parts that are
no settings, so it leaves them all as they are by default. -/
def bridge? : Item → Option BridgeConfig
  | .table _ entries => fields fun name => entries.lookup name
  | .array elements => fields fun name =>
      (["enabled", "promote_call_sites", "warn_unmatched"].zip elements).lookup name
  | .scalar .moment => fields fun _ => none
  | _ => none
where
  fields (find? : String → Option Item) : Option BridgeConfig := do
    let standard : BridgeConfig := {}
    return {
      enabled := ← orDefault standard.enabled bool? (find? "enabled")
      promoteCallSites := ← orDefault standard.promoteCallSites bool? (find? "promote_call_sites")
      warnUnmatched := ← orDefault standard.warnUnmatched bool? (find? "warn_unmatched") }

def ofTable? (t : Table) : Option Config := do
  let standard : Config := {}
  return {
    version := ← orDefault standard.version version? (t.find? "version")
    debug := ← orDefault standard.debug bool? (t.find? "debug")
    bridge := ← orDefault standard.bridge bridge? (t.find? "bridge") }

def ofText? (text : String) : Option Config := do ofTable? (← document? text)

end Config

end ModSettings
