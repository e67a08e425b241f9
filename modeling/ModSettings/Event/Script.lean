/-
Hooks written as a script.

A script says for each kind of event what the hook does: leave the event alone,
answer it, fail in one of the ways a hook can, change a setting of its mod or
call a method of the API.  Every event is noted with what it carried and what
the hook could see, so a script shows when hooks run and with what.
-/
import ModSettings.Event.Hooks
import ModSettings.Exec.Machine
import ModSettings.Text.Json

namespace ModSettings

namespace Value

mutual

/-- A value in the notation of JSON: its kind and what it holds. -/
def json : Value → String
  | unit => Json.list [Json.string "unit"]
  | bool b => Json.list [Json.string "bool", toString b]
  | int n => Json.list [Json.string "int", toString n.toInt]
  | float x => Json.list [Json.string "float", Json.string (floatText x)]
  | str s => Json.list [Json.string "str", Json.string s]
  | tuple items => Json.list [Json.string "tuple", Json.list (jsons items)]
  | type t => Json.list [Json.string "type", Json.string t.text]
  | mod key => Json.list [Json.string "mod", Json.string key.text]
  | caller key => Json.list [Json.string "caller", Json.string key.text]
  | object t => Json.list [Json.string "object", Json.string t.text]

def jsons : List Value → List String
  | [] => []
  | v :: rest => v.json :: jsons rest

end

end Value

inductive Reply where
  | text (s : String)
  | visible (b : Bool)
  | edit (text : String) (caret : UInt64)
  | carets (caret anchor : UInt64)

def Reply.answer? : Reply → (event : Event) → Option event.Answer
  | text s, .sliderText _ _ => some s
  | visible b, .visibility _ _ => some b
  | edit s caret, .inputEdit _ _ _ => some (s, caret)
  | carets caret anchor, .caretMove _ _ _ _ => some (caret, anchor)
  | _, _ => none

inductive Action where
  | leave
  | reply (r : Reply)
  | fail (e : HookError)
  | abort (p : Panic)
  /-- Changes a setting of the mod, then leaves the event alone. -/
  | assign (name : String) (value : SettingValue)
  /-- Calls a method, notes the result and leaves the event alone. -/
  | call (method : Signature) (args : List Value)

namespace Event

def detail : Event → List String
  | signal _ => []
  | button name index => [name, (index.map fun i => toString i.toNat).getD "none"]
  | sliderText slider value =>
      [slider.name, slider.label, slider.display.name, floatText value]
  | visibility setting inWorld =>
      [setting.name, setting.label, setting.access.name, toString inWorld]
  | inputEdit input text caret => [input, text, toString caret.toNat]
  | caretMove input text caret anchor =>
      [input, text, toString caret.toNat, toString anchor.toNat]

def scriptLine (event : Event) (key : Key) (r : Registry) : String :=
  "hook " ++ event.kind.name ++ "(" ++ ", ".intercalate event.detail ++ ") key=" ++ key.text ++
    " loaded=" ++ toString (r.isApiLoaded key) ++ " world=" ++ toString r.inWorld

end Event

namespace Action

def run (action : Action) (ctx : Context) (event : Event) : HookRun event.Answer :=
  match action with
  | leave => .pure event.defaultAnswer
  | reply r => .pure ((r.answer? event).getD event.defaultAnswer)
  | fail e => .fail e
  | abort p => .panic p
  | assign name value => do
      let done ← (Shared.setSetting ctx.key name value).asHook
      Run.ofExcept (done.mapError .settings)
      .pure event.defaultAnswer
  | call method args => do
      let vm : Machine := { assembly := .empty "", catalog := ctx.catalog }
      let result ← (vm.invoke method args).asHook
      Run.note ("called " ++ method.fullName ++ " = " ++ result.json)
      .pure event.defaultAnswer

end Action

def Hooks.scripted (capabilities : Capabilities) (script : EventKind → Action) : Hooks where
  capabilities := fun _ => capabilities
  handle := fun ctx event => do
    let desk ← Run.get
    Run.note (event.scriptLine ctx.key desk.shared.registry)
    (script event.kind).run ctx event

end ModSettings
