/-
Matching a stub's arguments against a method of the API.

The stub's arguments are visited once, from left to right, while the slots of
the target wait to be filled in their order.  An argument that the next slot
admits fills it.  Where it does not, a slot that wants a handle is filled with
the mod's own handle instead, and otherwise the argument is dropped.  What was
done is kept as a list of moves, from which the mapping, its cost and the
messages are all read.
-/
import ModSettings.Exec.Journal
import ModSettings.Types.Signature

namespace ModSettings

/-- Where the value for a slot of the target comes from. -/
inductive Source where
  /-- An argument of the stub, the receiver being argument zero. -/
  | argument (index : Nat)
  /-- The handle of the mod that owns the stub. -/
  | inject
  deriving DecidableEq, Repr

/-- How the slots of a target are filled. -/
structure Mapping where
  /-- One source for each slot, in order. -/
  sources : List Source
  /-- The number of declared arguments that no slot uses. -/
  skipCost : Nat
  deriving DecidableEq, Repr

def Mapping.injected (m : Mapping) : Nat := m.sources.count .inject

namespace Bridge

/-- One move of the walk over a stub's arguments. -/
inductive Move where
  | take (index : Nat) (argument slot : Ty)
  | inject (slot : Ty)
  | drop (index : Nat)

/-- The walk between two arguments. -/
structure Walk where
  slots : List Ty
  next : Nat := 0
  /-- The moves so far, the last one in front. -/
  moves : List Move := []

namespace Walk

/-- Fills the slots in front that pass the test with the mod's handle. -/
def injectWhile (w : Walk) (test : Ty → Bool) : Walk :=
  { w with
    slots := w.slots.dropWhile test
    moves := (w.slots.takeWhile test).foldl (fun moves slot => .inject slot :: moves) w.moves }

/-- Uses up one argument.  Handles are injected as long as the argument does not
fit the next slot and that slot wants one. -/
def visit (w : Walk) (argument : Ty) : Walk :=
  let w := w.injectWhile fun slot => !slot.admits argument && slot.isHandle
  match w.slots with
  | slot :: rest =>
      if slot.admits argument then
        { slots := rest, next := w.next + 1, moves := .take w.next argument slot :: w.moves }
      else { w with next := w.next + 1, moves := .drop w.next :: w.moves }
  | [] => { w with next := w.next + 1, moves := .drop w.next :: w.moves }

/-- When no arguments are left only handles can still be supplied. -/
def finish (w : Walk) : Walk := w.injectWhile Ty.isHandle

end Walk

/-- The whole walk.  It leaves slots over when they cannot be filled. -/
def walk (caller target : Signature) : Walk :=
  (caller.arguments.foldl Walk.visit { slots := target.arguments }).finish

/-! ## Reading the moves -/

def Move.source? : Move → Option Source
  | take index _ _ => some (.argument index)
  | inject _ => some .inject
  | drop _ => none

/-- The move drops an argument that the stub declares.  The receiver of an
instance stub is not declared, so dropping it is free. -/
def Move.isSkip (caller : Signature) : Move → Bool
  | drop index => caller.isStatic || index != 0
  | _ => false

/-- What the target returns must be usable as what the stub returns. -/
def resultsAgree (caller target : Signature) : Bool := caller.result.accepts target.result

/-- How the stub's arguments fill the target's, if the results agree and no slot
stays empty. -/
def mapping? (caller target : Signature) : Option Mapping :=
  if !resultsAgree caller target then none
  else
    let w := walk caller target
    if w.slots.isEmpty then
      let moves := w.moves.reverse
      some { sources := moves.filterMap Move.source?
             skipCost := moves.countP (Move.isSkip caller) }
    else none

/-- The message for an argument that fits only after its handle is converted. -/
def Move.message? (caller : Signature) : Move → Option Entry
  | take index argument slot =>
      if slot.accepts argument then none
      else some (.log .debug (caller.fullName ++ ": argument " ++ toString index ++ " (" ++
        argument.text ++ ") bound to " ++ slot.text ++ " by handle substitution"))
  | _ => none

/-- What matching logs: conversions as they are found and why it fails. -/
def matchJournal (caller target : Signature) : Journal :=
  let pair := caller.name ++ " -> " ++ target.fullName
  if !resultsAgree caller target then [.log .trace (pair ++ ": return type mismatch")]
  else
    let w := walk caller target
    w.moves.reverse.filterMap (Move.message? caller) ++
      match w.slots with
      | [] => []
      | slot :: _ => [.log .trace (pair ++ ": ran out of arguments for " ++ slot.text)]

end Bridge

end ModSettings
