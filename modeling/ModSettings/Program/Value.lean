/-
Values that method bodies compute with.

Equality of values is the one a program sees: floats compare as numbers, so a
value that is no number differs from itself and the two zeros are equal, and
types compare as `Ty.same` compares them.
-/
import ModSettings.Number.Text
import ModSettings.Registry.Key
import ModSettings.Types.Basic

namespace ModSettings

inductive Value where
  /-- What a method without a result returns. -/
  | unit
  | bool (b : Bool)
  | int (n : Int64)
  | float (x : Float)
  | str (s : String)
  | tuple (items : List Value)
  | type (t : Ty)
  | mod (key : Key)
  | caller (key : Key)
  | object (t : Ty)
  deriving Inhabited

namespace Value

def kind : Value → String
  | unit => "void"
  | bool _ => "bool"
  | int _ => "int"
  | float _ => "float"
  | str _ => "string"
  | tuple _ => "tuple"
  | type _ => "Type"
  | mod _ => "Mod"
  | caller _ => "EventCaller"
  | object _ => "object"

mutual

/-- The text of a value: a string stands for itself, an object shows its class
and `unit` nothing at all. -/
def text : Value → String
  | unit => ""
  | bool b => toString b
  | int n => toString n.toInt
  | float x => floatText x
  | str s => s
  | tuple items => "(" ++ ", ".intercalate (texts items) ++ ")"
  | type t => t.text
  | mod key => "Mod(" ++ key.text ++ ")"
  | caller key => "EventCaller(" ++ key.text ++ ")"
  | object t => t.text

def texts : List Value → List String
  | [] => []
  | v :: rest => v.text :: texts rest

end

mutual

def same : Value → Value → Bool
  | unit, unit => true
  | bool a, bool b => a == b
  | int a, int b => a == b
  | float a, float b => a == b
  | str a, str b => a == b
  | tuple a, tuple b => sameAll a b
  | type a, type b => a == b
  | mod a, mod b => a == b
  | caller a, caller b => a == b
  | object a, object b => a == b
  | _, _ => false

def sameAll : List Value → List Value → Bool
  | [], [] => true
  | a :: as, b :: bs => a.same b && sameAll as bs
  | _, _ => false

end

instance : BEq Value := ⟨same⟩

/-! ## Pairs

The two shapes in which a hook returns a position in a text. -/

/-- A text with a whole number, and nothing else. -/
def textAndInt? : Value → Option (String × Int64)
  | tuple [str s, int n] => some (s, n)
  | _ => none

/-- Two whole numbers, and nothing else. -/
def intPair? : Value → Option (Int64 × Int64)
  | tuple [int a, int b] => some (a, b)
  | _ => none

end Value

end ModSettings
