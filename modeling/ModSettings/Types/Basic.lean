/-
Types of the values that mods, hooks and the settings API hand to each other.

A class type carries its whole declaration: name, base, interfaces, kind and
whether it can be built without arguments.  Declarations therefore form a
finite tree, and every walk over a hierarchy is structural recursion.  Two
class types are equal when their names are, so equality of types is the
relation `Ty.same` and not equality of the trees.
-/

namespace ModSettings

/-- What a class declaration allows: only a concrete class has instances. -/
inductive ClassKind where
  | concrete
  | abstract
  | interface
  deriving DecidableEq, Repr, Inhabited

namespace ClassKind

def all : List ClassKind := [concrete, abstract, interface]

def name : ClassKind → String
  | concrete => "concrete"
  | abstract => "abstract"
  | interface => "interface"

end ClassKind

/-- A type as it appears in a method signature. -/
inductive Ty where
  /-- The result of a method that returns nothing. -/
  | void
  | bool
  | int
  | float
  | string
  | tuple (elements : List Ty)
  /-- The type above every type but `void`. -/
  | object
  /-- The type of a type taken as a value. -/
  | type
  | cls (name : String) (base : Option Ty) (interfaces : List Ty) (kind : ClassKind)
      (buildable : Bool)
  deriving Inhabited

namespace Ty

/-! ## Text -/

mutual

/-- The name shown in messages: a class shows its name and a tuple the names of
its elements. -/
def text : Ty → String
  | void => "void"
  | bool => "bool"
  | int => "int"
  | float => "float"
  | string => "string"
  | tuple elements => "(" ++ ", ".intercalate (texts elements) ++ ")"
  | object => "object"
  | type => "Type"
  | cls name _ _ _ _ => name

def texts : List Ty → List String
  | [] => []
  | t :: rest => t.text :: texts rest

end

/-! ## Equality

A class is known by its name alone.  Tuples are equal when they are so element
by element, and every other type is equal to itself only. -/

mutual

def same : Ty → Ty → Bool
  | void, void => true
  | bool, bool => true
  | int, int => true
  | float, float => true
  | string, string => true
  | tuple a, tuple b => sameAll a b
  | object, object => true
  | type, type => true
  | cls a _ _ _ _, cls b _ _ _ _ => a == b
  | _, _ => false

def sameAll : List Ty → List Ty → Bool
  | [], [] => true
  | a :: as, b :: bs => a.same b && sameAll as bs
  | _, _ => false

end

instance : BEq Ty := ⟨same⟩

theorem beq_eq_same (a b : Ty) : (a == b) = a.same b := rfl

/-! ## Class declarations -/

def className? : Ty → Option String
  | cls name _ _ _ _ => some name
  | _ => none

def isClass (t : Ty) : Bool := t.className?.isSome

def isVoid : Ty → Bool
  | void => true
  | _ => false

def base? : Ty → Option Ty
  | cls _ base _ _ _ => base
  | _ => none

/-- Everything a class names as a parent: its base first, then its
interfaces. -/
def parents : Ty → List Ty
  | cls _ base interfaces _ _ => base.toList ++ interfaces
  | _ => []

/-- A type followed by its base, the base of that, and so on to the top. -/
def baseChain : Ty → List Ty
  | cls name (some base) interfaces kind buildable =>
      cls name (some base) interfaces kind buildable :: baseChain base
  | t => [t]

/-! ## Assignability -/

mutual

/-- Some parent of the class, or a parent of a parent, is `target`.  Only class
declarations have parents, so the walk ends at any other type. -/
def derivesFrom : Ty → Ty → Bool
  | cls _ (some base) interfaces _ _, target =>
      (base.same target || base.derivesFrom target) || anyDerivesFrom interfaces target
  | cls _ none interfaces _ _, target => anyDerivesFrom interfaces target
  | _, _ => false

/-- Some type of the list is `target` or derives from it. -/
def anyDerivesFrom : List Ty → Ty → Bool
  | [], _ => false
  | t :: rest, target =>
      (t.same target || t.derivesFrom target) || anyDerivesFrom rest target

end

/-- A value of type `source` may be stored where `target` is declared.  Nothing
but `void` goes with `void`, `object` takes every other type, and a class takes
the classes that derive from it. -/
def accepts (target source : Ty) : Bool :=
  target.same source ||
    match target, source with
    | void, _ => false
    | _, void => false
    | object, _ => true
    | cls _ _ _ _ _, cls _ _ _ _ _ => source.derivesFrom target
    | _, _ => false

end Ty

end ModSettings
