/-
Ways in which running a method can fail.

An error collects the methods it unwinds through, so it can be shown as a
message followed by the frames from the inside out.
-/
import ModSettings.Registry.Basic
import ModSettings.Settings.Value
import ModSettings.Types.Signature

namespace ModSettings

inductive ExecError where
  /-- An instruction of the method needed more values than the stack held. -/
  | stackUnderflow (method : String)
  | typeMismatch (expected found : String)
  /-- A native body asked for an argument that it was not given. -/
  | missingArgument (index : Nat)
  /-- An instruction named an argument that the method does not have. -/
  | argumentOutOfRange (method : String) (index : Nat)
  | arityMismatch (method : String) (expected found : Nat)
  | unresolvedMethod (method : String)
  | noBody (method : String)
  | callDepthExceeded (limit : Nat)
  | registry (cause : RegistryError)
  | settings (cause : SettingsError)
  /-- A native body reported a failure of its own. -/
  | raised (message : String)
  /-- An error that left the named method. -/
  | inMethod (method : String) (source : ExecError)
  deriving DecidableEq, Repr

namespace ExecError

/-- The name of the cause, or of the frame around it. -/
def kind : ExecError → String
  | stackUnderflow _ => "StackUnderflow"
  | typeMismatch _ _ => "TypeMismatch"
  | missingArgument _ => "MissingArgument"
  | argumentOutOfRange _ _ => "ArgumentOutOfRange"
  | arityMismatch _ _ _ => "ArityMismatch"
  | unresolvedMethod _ => "UnresolvedMethod"
  | noBody _ => "NoBody"
  | callDepthExceeded _ => "CallDepthExceeded"
  | registry cause => cause.kind
  | settings cause => cause.kind
  | raised _ => "Raised"
  | inMethod _ _ => "InMethod"

/-- The message, which frames do not change. -/
def text : ExecError → String
  | stackUnderflow method => "Stack underflow in " ++ method
  | typeMismatch expected found => "Expected " ++ expected ++ ", found " ++ found
  | missingArgument index => "Missing argument " ++ toString index
  | argumentOutOfRange method index =>
      "Argument " ++ toString index ++ " out of range in " ++ method
  | arityMismatch method expected found =>
      method ++ " takes " ++ toString expected ++ " arguments, got " ++ toString found
  | unresolvedMethod method => "Unresolved method: " ++ method
  | noBody method => "Method has no body: " ++ method
  | callDepthExceeded limit => "Call depth exceeded " ++ toString limit
  | registry cause => cause.text
  | settings cause => cause.text
  | raised message => message
  | inMethod _ source => source.text

/-- The error below all frames. -/
def root : ExecError → ExecError
  | inMethod _ source => source.root
  | e => e

/-- The methods the error left, the innermost first. -/
def frames : ExecError → List String
  | inMethod method source => source.frames ++ [method]
  | _ => []

/-- The message followed by one line for each frame. -/
def trace (e : ExecError) : String :=
  e.frames.foldl (fun out frame => out ++ "\n  at " ++ frame) e.root.text

def within (e : ExecError) (method : Signature) : ExecError := inMethod method.fullName e

/-! ## Frames of a framed error -/

@[simp] theorem frames_within (e : ExecError) (m : Signature) :
    (e.within m).frames = e.frames ++ [m.fullName] := rfl

theorem text_root (e : ExecError) : e.root.text = e.text := by
  induction e with
  | inMethod method source ih => exact ih
  | _ => rfl

theorem frames_root (e : ExecError) : e.root.frames = [] := by
  induction e with
  | inMethod method source ih => exact ih
  | _ => rfl

end ExecError

end ModSettings
