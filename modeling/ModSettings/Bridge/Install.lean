/-
Installing the bridges of one mod.

All stubs of the holder are looked up first; then each one that found a target
is patched in turn, and at last the call sites of the patched stubs are
promoted.  What became of every stub is kept as a list of fates, from which the
report and the messages are read.
-/
import ModSettings.Bridge.Adapter
import ModSettings.Bridge.CallSite
import ModSettings.Exec.Flow

namespace ModSettings

/-- The part of the configuration that concerns bridges. -/
structure BridgeConfig where
  enabled : Bool := true
  promoteCallSites : Bool := true
  warnUnmatched : Bool := true
  deriving DecidableEq, Repr, Inhabited

inductive Fate where
  | patched (binding : Binding)
  | failed (cause : SynthesisError)
  | noName
  | noSignature (signatures : List Signature)

structure BridgeReport where
  candidates : Nat := 0
  patched : Nat := 0
  /-- Stubs without an entry of their name or without one of their signature. -/
  unmatched : Nat := 0
  /-- Stubs whose adapter could not be made. -/
  failed : Nat := 0
  promotion : PromotionReport := {}
  deriving DecidableEq, Repr, Inhabited

namespace Fate

def isPatched : Fate → Bool
  | patched _ => true
  | _ => false

def isFailed : Fate → Bool
  | failed _ => true
  | _ => false

def isUnmatched : Fate → Bool
  | noName => true
  | noSignature _ => true
  | _ => false

def hook? : Fate → Option Signature
  | patched binding => some binding.hook
  | _ => none

end Fate

namespace Bridge

/-- Whose bridges are installed, where, and against what. -/
structure Site where
  modName : String
  modType : Ty
  holder : Ty
  catalog : Catalog
  config : BridgeConfig

/-- Patches one stub if something was found for it. -/
def settle (site : Site) (a : Assembly) : Discovery → Fate × Assembly
  | .bound binding =>
      match patch a binding site.modType with
      | .ok patched => (.patched binding, patched)
      | .error cause => (.failed cause, a)
  | .noName => (.noName, a)
  | .noSignature signatures => (.noSignature signatures, a)

def settleAll (site : Site) : Assembly → List (Stub × Discovery) → List (Stub × Fate) × Assembly
  | a, [] => ([], a)
  | a, (stub, found) :: rest =>
      let (fate, a) := settle site a found
      let (fates, a) := settleAll site a rest
      ((stub, fate) :: fates, a)

def fateJournal (site : Site) (stub : Stub) (fate : Fate) : Journal :=
  let mark := "[" ++ site.modName ++ "] "
  let hook := stub.method.fullName
  match fate with
  | .patched binding => [patchedEntry binding]
  | .failed cause => [.log .error (mark ++ "Failed to patch " ++ hook ++ ": " ++ cause.text)]
  | .noName =>
      if site.config.warnUnmatched then
        [.log .warn (mark ++ "Could not find any methods matching the name of " ++ hook ++
          ". Check the spelling or remove the prefix")]
      else []
  | .noSignature signatures =>
      if site.config.warnUnmatched then
        [.log .warn (mark ++ "Could not find suitable implementation for " ++ hook ++
          stub.method.paramList ++ ". The following methods were found with the same name:\n" ++
          "\n".intercalate (signatures.map (·.text)))]
      else []

def patchedSet (fates : List (Stub × Fate)) : MethodSet :=
  .ofList (fates.filterMap fun (_, fate) => fate.hook?)

/-- Counts the fates; the report of the promotion is added. -/
def reportOf (fates : List (Stub × Fate)) (promotion : PromotionReport) : BridgeReport :=
  { candidates := fates.length
    patched := fates.countP fun (_, fate) => fate.isPatched
    unmatched := fates.countP fun (_, fate) => fate.isUnmatched
    failed := fates.countP fun (_, fate) => fate.isFailed
    promotion }

/-- Finds, patches and promotes the stubs of a holder.  Switched off, it leaves
the assembly alone and reports nothing. -/
def install (site : Site) : Flow Assembly BridgeReport := fun a =>
  if !site.config.enabled then
    ⟨{}, a, [.log .debug ("[" ++ site.modName ++ "] API bridges disabled")]⟩
  else
    let (fates, settled) := settleAll site a (discoverAll a site.holder site.catalog)
    -- a set without methods promotes nothing, and a switched-off promotion has no methods
    let promoted := if site.config.promoteCallSites then patchedSet fates else {}
    let report := reportOf fates (promotionReport promoted settled)
    ⟨report, promote promoted settled,
      discoverAllJournal a site.holder site.catalog ++
        fates.flatMap (fun (stub, fate) => fateJournal site stub fate) ++
        promotionJournal promoted settled ++
        if report.candidates = 0 then []
        else [.log .info ("[" ++ site.modName ++ "] Bridged " ++ toString report.patched ++
          "/" ++ toString report.candidates ++ " API methods (" ++
          toString report.promotion.promoted ++ " call sites promoted)")]⟩

end Bridge

end ModSettings
