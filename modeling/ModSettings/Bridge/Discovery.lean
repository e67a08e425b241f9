/-
Finding stubs and the API methods they stand for.

A stub is a marked method of a settings holder that is no event hook.  Its name
without the mark selects entries of the catalog, and of those that its signature
matches the cheapest one is bound, the earlier one where costs are equal.
-/
import ModSettings.Bridge.Match
import ModSettings.Event.Kind
import ModSettings.Program.Assembly
import ModSettings.Program.Catalog

namespace ModSettings

/-- A marked method that was found on a holder or above it. -/
structure Stub where
  holder : Ty
  method : Signature

/-- A stub together with the API method it forwards to. -/
structure Binding where
  hook : Signature
  target : Signature
  mapping : Mapping

inductive Discovery where
  | bound (binding : Binding)
  /-- No entry of the catalog has the stub's name. -/
  | noName
  /-- The signatures of the entries with the stub's name, none of which match. -/
  | noSignature (signatures : List Signature)

/-- A name that starts with the mark and names no event hook. -/
def isStubName (name : String) : Bool :=
  name.startsWith hookMark && (EventKind.ofHookName? name).isNone

/-- The name without the mark, or the whole name where the mark is missing. -/
def bareName (name : String) : String :=
  if name.startsWith hookMark then (name.drop hookMark.length).toString else name

namespace Stub

def bareName (s : Stub) : String := ModSettings.bareName s.method.name

end Stub

namespace Assembly

/-- Adds a method to the stubs found so far, unless one of them overrides it. -/
def addStub (holder : Ty) (found : List Stub) (m : Method) : List Stub :=
  if isStubName m.signature.name && !found.any (·.method.overrides m.signature) then
    found ++ [{ holder, method := m.signature }]
  else found

/-- The stubs of a holder, those declared nearest to it first. -/
def stubs (a : Assembly) (holder : Ty) : List Stub :=
  ((a.hierarchy holder).flatMap (·.methods)).foldl (addStub holder) []

def stubsJournal (a : Assembly) (holder : Ty) : Journal :=
  [.log .trace ("Found " ++ toString (a.stubs holder).length ++ " bridge candidates on " ++
    holder.text)]

end Assembly

namespace Bridge

/-- An entry that the stub matches, with its mapping. -/
def match? (stub : Stub) (o : Offer) : Option Binding :=
  (mapping? stub.method o.method).map fun mapping =>
    { hook := stub.method, target := o.method, mapping }

/-- Keeps the cheaper of two bindings, and the earlier one where they cost the
same. -/
def cheaper (best : Option Binding) (b : Binding) : Option Binding :=
  match best with
  | none => some b
  | some old => if b.mapping.skipCost < old.mapping.skipCost then some b else some old

def discover (stub : Stub) (catalog : Catalog) : Discovery :=
  let entries := catalog.named stub.bareName
  match (entries.filterMap (match? stub)).foldl cheaper none with
  | some binding => .bound binding
  | none =>
      match entries with
      | [] => .noName
      | _ => .noSignature (entries.map (·.method))

def offerJournal (stub : Stub) (o : Offer) : Journal :=
  matchJournal stub.method o.method ++
    match mapping? stub.method o.method with
    | some mapping =>
        [.log .trace (stub.method.fullName ++ " matches " ++ o.method.text ++
          " with skip cost " ++ toString mapping.skipCost)]
    | none => []

def discoverJournal (stub : Stub) (catalog : Catalog) : Journal :=
  (catalog.named stub.bareName).flatMap (offerJournal stub)

def discoverAll (a : Assembly) (holder : Ty) (catalog : Catalog) : List (Stub × Discovery) :=
  (a.stubs holder).map fun stub => (stub, discover stub catalog)

def discoverAllJournal (a : Assembly) (holder : Ty) (catalog : Catalog) : Journal :=
  a.stubsJournal holder ++ (a.stubs holder).flatMap fun stub => discoverJournal stub catalog

end Bridge

end ModSettings
