/-
Runs of a session.

Whatever a game does with a session is one of a few operations.  A run performs
them one after the other, and what is kept of its past is which mod was last
loaded under a key: keys come back once the versions of a slot have gone all the
way round, so the last one is meant.
-/
import ModSettings.Proofs.Event.Conduct
import ModSettings.Session.Basic

namespace ModSettings

inductive Operation where
  | load (d : Descriptor)
  | unload (key : Key)
  | openMenu (menu : Menu)
  | closeMenu (menu : Menu)
  | enterWorld (menu : Menu)
  | exitWorld (menu : Menu)
  /-- A widget of a mod asks what to do. -/
  | widget (key : Key) (event : Event)
  | shutdown

namespace Operation

def Result : Operation → Type
  | load _ => Except SessionError Key
  | unload _ => Except SessionError Unit
  | widget _ event => Except SessionError event.Answer
  | _ => Unit

def perform : (op : Operation) → Flow Session op.Result
  | load d => Session.load d
  | unload key => Session.unload key
  | openMenu menu => Session.openMenu menu
  | closeMenu menu => Session.closeMenu menu
  | enterWorld menu => Session.enterWorld menu
  | exitWorld menu => Session.exitWorld menu
  | widget key event => Session.answerWidget key event
  | shutdown => Session.shutdown

/-- What the operation loads under a key. -/
def loads? (s : Session) (key : Key) : Operation → Option Descriptor
  | load d =>
      match (Session.load d s).value with
      | .ok loaded => if loaded = key then some d else none
      | .error _ => none
  | _ => none

end Operation

namespace Session

def after (s : Session) (run : List Operation) : Session :=
  run.foldl (fun s op => (op.perform s).state) s

/-- What was last loaded under a key in the course of a run. -/
def loaded? (s : Session) (key : Key) : List Operation → Option Descriptor
  | [] => none
  | op :: rest => ((op.perform s).state.loaded? key rest).or (op.loads? s key)

theorem after_concat (s : Session) (run : List Operation) (op : Operation) :
    s.after (run ++ [op]) = (op.perform (s.after run)).state := by
  rw [after, List.foldl_append]
  rfl

theorem loaded?_concat (s : Session) (key : Key) (run : List Operation) (op : Operation) :
    s.loaded? key (run ++ [op]) = (op.loads? (s.after run) key).or (s.loaded? key run) := by
  induction run generalizing s with
  | nil =>
    show Option.or none _ = Option.or _ none
    rw [Option.none_or, Option.or_none]
    rfl
  | cons first rest ih =>
    rw [List.cons_append, loaded?, ih, loaded?, Option.or_assoc]
    rfl

end Session

/-! ## Mods that obey -/

structure Descriptor.Obeys (c : Conduct Shared) (d : Descriptor) : Prop where
  hooks : ∀ h, d.hooks = some h → h.Obeys c
  assembly : ∀ a, d.assembly = some a → a.Obeys c

def Operation.Obeys (c : Conduct Shared) : Operation → Prop
  | load d => d.Obeys c
  | _ => True

end ModSettings
