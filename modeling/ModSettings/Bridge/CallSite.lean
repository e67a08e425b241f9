/-
Call sites of patched stubs.

An early-bound call of a stub would bypass overrides of it, so once stubs are
patched every `call` of a patched instance method becomes a late-bound one.
Calls of static methods stay as they are.
-/
import ModSettings.Exec.Journal
import ModSettings.Program.Assembly

namespace ModSettings

/-- A set of methods, kept as a list without repetitions. -/
structure MethodSet where
  methods : List Signature := []

namespace MethodSet

def contains (s : MethodSet) (m : Signature) : Bool := s.methods.any (· == m)

def insert (s : MethodSet) (m : Signature) : MethodSet :=
  if s.contains m then s else { methods := s.methods ++ [m] }

def ofList (methods : List Signature) : MethodSet := methods.foldl insert {}

def size (s : MethodSet) : Nat := s.methods.length

def isEmpty (s : MethodSet) : Bool := s.methods.isEmpty

end MethodSet

/-- An instruction that calls a patched instance method early-bound. -/
structure CallSite where
  /-- The method whose body holds the instruction. -/
  caller : Signature
  /-- The position of the instruction in that body. -/
  offset : Nat
  target : Signature

/-- What a pass over all bodies did. -/
structure PromotionReport where
  /-- Bodies that consist of instructions. -/
  scanned : Nat := 0
  /-- Methods in which something changed. -/
  rewritten : Nat := 0
  /-- Instructions that changed. -/
  promoted : Nat := 0
  deriving DecidableEq, Repr, Inhabited

namespace Bridge

/-- The method that an instruction calls early-bound although it is a patched
instance method. -/
def promotable? (patched : MethodSet) : Instruction → Option Signature
  | .call target => if !target.isStatic && patched.contains target then some target else none
  | _ => none

/-! ## Listing -/

def sitesIn (patched : MethodSet) (m : Method) : List CallSite :=
  match m.body.instructions? with
  | none => []
  | some code => code.zipIdx.filterMap fun (i, offset) =>
      (promotable? patched i).map fun target => { caller := m.signature, offset, target }

/-- All call sites of an assembly, method by method. -/
def callSites (a : Assembly) (patched : MethodSet) : List CallSite :=
  a.methods.flatMap (sitesIn patched)

/-! ## Rewriting -/

/-- The instruction with its call bound late, if it is one to promote. -/
def promoteInstruction (patched : MethodSet) (i : Instruction) : Instruction :=
  match promotable? patched i with
  | some target => .callVirtual target
  | none => i

def promoteBody (patched : MethodSet) : Body → Body
  | .code instructions => .code (instructions.map (promoteInstruction patched))
  | body => body

/-- Binds late every early-bound call of a patched instance method. -/
def promote (patched : MethodSet) (a : Assembly) : Assembly :=
  a.mapBodies (promoteBody patched)

/-- Counts one method.  Methods without instructions are passed over. -/
def countMethod (patched : MethodSet) (report : PromotionReport) (m : Method) : PromotionReport :=
  match m.body.instructions? with
  | none => report
  | some code =>
      let promoted := code.countP fun i => (promotable? patched i).isSome
      { scanned := report.scanned + 1
        rewritten := if promoted = 0 then report.rewritten else report.rewritten + 1
        promoted := report.promoted + promoted }

/-- What `promote` does to an assembly, counted method by method.  A pass for no
methods at all looks at nothing. -/
def promotionReport (patched : MethodSet) (a : Assembly) : PromotionReport :=
  if patched.isEmpty then {} else a.methods.foldl (countMethod patched) {}

/-- One message for every instruction of a method that changes. -/
def promotedEntries (patched : MethodSet) (m : Method) : Journal :=
  ((m.body.instructions?).getD []).filterMap fun i =>
    (promotable? patched i).map fun target => .log .trace (m.signature.fullName ++ ": call " ++
      target.fullName ++ " -> callvirt")

def promotionJournal (patched : MethodSet) (a : Assembly) : Journal :=
  if patched.isEmpty then []
  else
    let report := promotionReport patched a
    a.methods.flatMap (promotedEntries patched) ++
    [.log .debug ("Scanned " ++ toString report.scanned ++ " methods, promoted " ++
      toString report.promoted ++ " call sites in " ++ toString report.rewritten)]

end Bridge

end ModSettings
