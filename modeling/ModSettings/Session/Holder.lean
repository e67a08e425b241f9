/-
Where a mod keeps its hooks and stubs.

They are declared on the main class unless the mod names a class of its own.  A
class that is only named has to be one that can be built.
-/
import ModSettings.Types.Basic

namespace ModSettings

inductive HolderError where
  /-- The field was declared with the type of types instead of a class. -/
  | typeToken
  | abstract (name : String)
  | interface (name : String)
  | noDefaultConstructor (name : String)
  | notAClass (name : String)
  deriving DecidableEq, Repr

namespace HolderError

def kind : HolderError → String
  | typeToken => "TypeToken"
  | abstract _ => "Abstract"
  | interface _ => "Interface"
  | noDefaultConstructor _ => "NoDefaultConstructor"
  | notAClass _ => "NotAClass"

def text : HolderError → String
  | typeToken =>
      "Settings field has type Type; declare it with the settings class instead"
  | abstract name => name ++ " is abstract"
  | interface name => name ++ " is an interface"
  | noDefaultConstructor name => name ++ " has no parameterless constructor"
  | notAClass name => name ++ " is not a class"

end HolderError

inductive Holder where
  | mainClass
  /-- A field without an instance, which has yet to be built. -/
  | unset (t : Ty)
  | instanceOf (t : Ty)
  | staticClass (t : Ty)
  deriving Inhabited

/-- The class whose methods are the hooks and stubs. -/
def Holder.resolve (h : Holder) (mainType : Ty) : Except HolderError Ty :=
  match h with
  | mainClass => .ok mainType
  | instanceOf t => .ok t
  | staticClass t => .ok t
  | unset .type => .error .typeToken
  | unset (.cls name base interfaces kind buildable) =>
      match kind with
      | .abstract => .error (.abstract name)
      | .interface => .error (.interface name)
      | .concrete =>
          if buildable then .ok (.cls name base interfaces kind buildable)
          else .error (.noDefaultConstructor name)
  | unset t => .error (.notAClass t.text)

end ModSettings
