/-
Method signatures.

A signature names a method by the class that declares it, its name, its
parameter types, its result and whether it is static, and it is the handle by
which a method is called.  Two signatures are the same method when all five
agree, types being compared as `Ty.same` compares them.
-/
import ModSettings.Types.Basic

namespace ModSettings

structure Signature where
  owner : Ty
  name : String
  params : List Ty := []
  result : Ty := .void
  isStatic : Bool := false
  deriving Inhabited

namespace Signature

def same (a b : Signature) : Bool :=
  a.owner == b.owner && a.name == b.name && Ty.sameAll a.params b.params &&
    a.result == b.result && a.isStatic == b.isStatic

instance : BEq Signature := ⟨same⟩

/-- What a call passes: an instance method takes its receiver first. -/
def arguments (m : Signature) : List Ty :=
  if m.isStatic then m.params else m.owner :: m.params

def arity (m : Signature) : Nat :=
  m.params.length + if m.isStatic then 0 else 1

theorem length_arguments (m : Signature) : m.arguments.length = m.arity := by
  unfold arguments arity
  split <;> simp

/-- The name together with the declaring class, as frames and messages show
it. -/
def fullName (m : Signature) : String := m.owner.text ++ "::" ++ m.name

def paramList (m : Signature) : String :=
  "(" ++ ", ".intercalate (m.params.map Ty.text) ++ ")"

def text (m : Signature) : String :=
  (if m.isStatic then "static " else "") ++ m.result.text ++ " " ++ m.fullName ++ m.paramList

/-- Same name and same parameter types, whatever class declares them. -/
def hasShape (m : Signature) (name : String) (params : List Ty) : Bool :=
  m.name == name && Ty.sameAll m.params params

/-- Under late binding `m` takes the place of `other`: both are instance methods
of one shape. -/
def overrides (m other : Signature) : Bool :=
  !m.isStatic && !other.isStatic && m.hasShape other.name other.params

end Signature

end ModSettings
