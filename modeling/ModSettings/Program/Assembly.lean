/-
The classes a mod brings along.

An assembly lists classes, each with the methods it declares.  It is a table
keyed by class type: a class added under a type that is already there takes the
place of the older one.  Methods are found by signature, by shape along the base
chain of a class, or by late binding.
-/
import ModSettings.Program.Body
import ModSettings.Types.WellKnown

namespace ModSettings

/-- A method as its class declares it. -/
structure Declaration where
  name : String
  params : List Ty := []
  result : Ty := .void
  isStatic : Bool := false
  body : Body := .missing

structure Method where
  signature : Signature
  body : Body

/-- A class and what it declares, in order.  The class is the owner of every
method, so that no declaration has to name it. -/
structure Class where
  type : Ty
  declarations : List Declaration := []

structure Assembly where
  name : String
  /-- Pairwise different types, in the order in which they were first added. -/
  classes : List Class := []

namespace Declaration

def signature (d : Declaration) (owner : Ty) : Signature :=
  { owner, name := d.name, params := d.params, result := d.result, isStatic := d.isStatic }

def method (d : Declaration) (owner : Ty) : Method :=
  { signature := d.signature owner, body := d.body }

end Declaration

namespace Class

def declare (c : Class) (d : Declaration) : Class :=
  { c with declarations := c.declarations ++ [d] }

def methods (c : Class) : List Method := c.declarations.map (·.method c.type)

/-- Every method of a class is owned by the class. -/
theorem owner_of_mem_methods {c : Class} {m : Method} (h : m ∈ c.methods) :
    m.signature.owner = c.type := by
  obtain ⟨d, _, rfl⟩ := List.mem_map.1 h
  rfl

def find? (c : Class) (name : String) (params : List Ty) : Option Method :=
  c.methods.find? fun m => m.signature.hasShape name params

def override? (c : Class) (target : Signature) : Option Method :=
  c.methods.find? fun m => m.signature.overrides target

def mapBodies (f : Body → Body) (c : Class) : Class :=
  { c with declarations := c.declarations.map fun d => { d with body := f d.body } }

theorem methods_mapBodies (f : Body → Body) (c : Class) :
    (c.mapBodies f).methods = c.methods.map fun m => { m with body := f m.body } := by
  simp only [methods, mapBodies, List.map_map]
  rfl

end Class

def updateFirst {α : Type} (test : α → Bool) (f : α → α) : List α → List α
  | [] => []
  | a :: rest => if test a then f a :: rest else a :: updateFirst test f rest

namespace Assembly

def empty (name : String) : Assembly := { name }

/-- Adds a class, in the place of the class of that type if there is one. -/
def addClass (a : Assembly) (c : Class) : Assembly :=
  let isOld : Class → Bool := fun old => old.type == c.type
  if a.classes.any isOld then { a with classes := updateFirst isOld (fun _ => c) a.classes }
  else { a with classes := a.classes ++ [c] }

def class? (a : Assembly) (t : Ty) : Option Class := a.classes.find? fun c => c.type == t

/-- Every method with its body, class by class. -/
def methods (a : Assembly) : List Method := a.classes.flatMap (·.methods)

/-- The first method of its class with exactly this signature. -/
def method? (a : Assembly) (m : Signature) : Option Method := do
  let c ← a.class? m.owner
  c.methods.find? fun d => d.signature == m

/-- Gives the method that `method?` finds another body.  A method that is not
declared gives no assembly. -/
def setBody? (a : Assembly) (m : Signature) (body : Body) : Option Assembly :=
  let changeIn (c : Class) : Class :=
    { c with declarations :=
        updateFirst (fun d => d.signature c.type == m) (fun d => { d with body }) c.declarations }
  if (a.method? m).isSome then
    some { a with classes := updateFirst (fun c => c.type == m.owner) changeIn a.classes }
  else none

def mapBodies (f : Body → Body) (a : Assembly) : Assembly :=
  { a with classes := a.classes.map (·.mapBodies f) }

/-! ## Along the base chain -/

/-- The classes on the base chain of a type that this assembly declares, the
nearest first. -/
def hierarchy (a : Assembly) (t : Ty) : List Class := t.baseChain.filterMap a.class?

/-- The method of that shape declared nearest to the type. -/
def findInHierarchy? (a : Assembly) (t : Ty) (name : String) (params : List Ty) :
    Option Method :=
  (a.hierarchy t).findSome? fun c => c.find? name params

/-- What a late-bound call of `target` runs on a receiver of the given class:
the override declared nearest to it. -/
def resolveVirtual? (a : Assembly) (runtime : Ty) (target : Signature) : Option Signature :=
  ((a.hierarchy runtime).findSome? fun c => c.override? target).map (·.signature)

end Assembly

end ModSettings
