/-
The caller as a gate.

Hooks hear of an event only if they said that they handle its kind when their caller
was made; what they say of themselves later does not count.  `gated_perform` tells
what becomes of anything that is asked of a caller, whatever was asked before: which
state the hooks get to see, what they are taken to have answered, what they remember
and what is written.  Nothing is assumed of the hooks.  A request for a signal does
its own work first and does it once, whether or not the hooks have a turn.
-/
import ModSettings.Event.Caller
import ModSettings.Proofs.Bridge.Install

namespace ModSettings

/-! ## Requests -/

/-- What can be asked of a caller. -/
inductive Request where
  /-- The generic call, which knows of nothing but the kind. -/
  | fire (menu : Menu) (kind : EventKind)
  | press (button : String)
  | pressOne (button : String) (index : UInt64)
  | edit (input text : String) (caret : UInt64)
  | moveCaret (input text : String) (caret anchor : UInt64)
  | label (slider : SliderInfo) (value : Float)
  | visible (setting : SettingInfo)

namespace Request

def Answer : Request → Type
  | fire _ _ | press _ | pressOne _ _ => Unit
  | edit _ _ _ => String × UInt64
  | moveCaret _ _ _ _ => UInt64 × UInt64
  | label _ _ => String
  | visible _ => Bool

def perform (c : Caller) (ctx : Context) : (q : Request) → Flow Shared (q.Answer × Caller)
  | fire menu kind => do
      let c ← c.fire ctx menu kind
      return ((), c)
  | press button => c.deliver ctx (.button button none)
  | pressOne button index => c.deliver ctx (.button button (some index))
  | edit input text caret => c.deliver ctx (.inputEdit input text caret)
  | moveCaret input text caret anchor => c.deliver ctx (.caretMove input text caret anchor)
  | label slider value => c.deliver ctx (.sliderText slider value)
  | visible setting => c.visible ctx setting

/-- The answer where the hooks give none. -/
def fallback : (q : Request) → q.Answer
  | fire _ _ | press _ | pressOne _ _ => ()
  | edit _ text caret => (text, caret)
  | moveCaret _ _ caret anchor => (caret, anchor)
  | label _ _ => "\x7bnull\x7d"
  | visible _ => false

/-- The event that brings a request before the hooks, and what their answer to it
says to the request. -/
structure Put (q : Request) where
  event : Event
  read : event.Answer → q.Answer

/-- The generic call has nothing to bring for a kind that carries something. -/
def put? : (q : Request) → Shared → Option q.Put
  | fire _ kind, _ => kind.signal?.map fun sent => ⟨.signal sent, id⟩
  | press button, _ => some ⟨.button button none, id⟩
  | pressOne button index, _ => some ⟨.button button (some index), id⟩
  | edit input text caret, _ => some ⟨.inputEdit input text caret, id⟩
  | moveCaret input text caret anchor, _ => some ⟨.caretMove input text caret anchor, id⟩
  | label slider value, _ => some ⟨.sliderText slider value, id⟩
  | visible setting, s => some ⟨.visibility setting s.registry.inWorld, id⟩

/-- The state that a request makes ready for the hooks. -/
def readies (key : Key) : Request → Shared → Shared
  | fire _ .load, s => { s with registry := s.registry.setApiLoaded key true }
  | fire _ .unload, s => { s with registry := s.registry.setApiLoaded key false }
  | _, s => s

/-- What the menu is asked to do before the hooks have their turn. -/
def calls (key : Key) (displayName : String) : Request → Journal
  | fire .shown .menuCreate => [.buildMenu key displayName]
  | fire .shown .menuOpen => [.refreshMenu key]
  | _ => []

theorem put?_fire_eq_none {menu : Menu} {kind : EventKind} {s : Shared} :
    (fire menu kind).put? s = none ↔
      kind ∈ [.button, .inputEdit, .caretMove, .sliderText, .visibility] := by
  cases kind <;> simp [put?, EventKind.signal?, Signal.all, Signal.kind]

end Request

/-! ## The hooks' turn -/

/-- What an outcome says, and something else where it says nothing. -/
def Outcome.elim {ε α β : Type} (read : α → β) (otherwise : β) : Outcome ε α → β
  | ok a => read a
  | error _ | panic _ => otherwise

namespace Caller

section

variable {α : Type} (c : Caller) (ctx : Context) (event : Event)

/-- The hooks' turn at an event. -/
def turn (s : Shared) : Step Desk (Outcome HookError event.Answer) :=
  c.hooks.handle ctx event { shared := s, memory := c.hooks.memory }

def remembering (memory : Value) : Caller := { c with hooks := { c.hooks with memory } }

/-- The hooks had one turn, from the state that was ready and after some entries had
been written, and the caller kept all that came of it. -/
structure Passed (read : event.Answer → α) (otherwise : α) (ready : Shared) (before : Journal)
    (r : Step Shared (α × Caller)) : Prop where
  answer : r.value.1 = (c.turn ctx event ready).value.elim read otherwise
  caller : r.value.2 = c.remembering (c.turn ctx event ready).state.memory
  state : r.state = (c.turn ctx event ready).state.shared
  journal : ∃ talk, Bridge.Logs talk ∧ r.journal =
    before ++ .entered c.key event ready :: (c.turn ctx event ready).journal ++ talk

/-- The hooks had no turn. -/
structure Stopped (otherwise : α) (ready : Shared) (before : Journal)
    (r : Step Shared (α × Caller)) : Prop where
  answer : r.value.1 = otherwise
  caller : r.value.2 = c
  state : r.state = ready
  journal : ∃ talk, Bridge.Logs talk ∧ r.journal = before ++ talk

/-- The hooks had a turn if they are bound for the event. -/
def Gated (bound : Capabilities) (read : event.Answer → α) (otherwise : α) (ready : Shared)
    (before : Journal) (r : Step Shared (α × Caller)) : Prop :=
  if bound.handles event.kind then c.Passed ctx event read otherwise ready before r
  else c.Stopped otherwise ready before r

end

variable {α : Type} {c : Caller} {ctx : Context} {event : Event}

/-- However the hook ends its caller is left with an answer. -/
theorem passed_runHook (c : Caller) (ctx : Context) (event : Event) (s : Shared) :
    let r := c.runHook ctx event s
    c.Passed ctx event id event.fallback s []
      ⟨(r.value.1.getD event.fallback, r.value.2), r.state, r.journal⟩ := by
  have elim {o} (ended : (c.turn ctx event s).value = o) :
      o.elim id event.fallback = (c.turn ctx event s).value.elim id event.fallback := by rw [ended]
  dsimp only
  unfold runHook
  dsimp only
  split
  case h_1 ended => exact ⟨elim ended, rfl, rfl, [], Bridge.logs_nil, (List.append_nil _).symm⟩
  case h_2 ended => exact ⟨elim ended, rfl, rfl, _, Bridge.logs_log _ _, rfl⟩
  case h_3 ended => exact ⟨elim ended, rfl, rfl, _, Bridge.logs_log _ _, rfl⟩

theorem gated_answer (c : Caller) (ctx : Context) (event : Event) (s : Shared) :
    c.Gated ctx event c.capabilities id event.fallback s [] (c.answer ctx event s) := by
  unfold Gated answer
  by_cases bound : c.capabilities.handles event.kind = true
  · rw [if_pos bound, if_pos (show c.handles event.kind = true from bound)]
    have ran := passed_runHook c ctx event s
    refine ⟨ran.answer, ran.caller, ran.state, ?_⟩
    obtain ⟨talk, logs, journal⟩ := ran.journal
    exact ⟨talk, logs, (List.append_nil _).trans journal⟩
  · rw [if_neg bound, if_neg (show ¬c.handles event.kind = true from bound)]
    cases unboundMessage? event with
    | none => exact ⟨rfl, rfl, rfl, [], Bridge.logs_nil, rfl⟩
    | some message => exact ⟨rfl, rfl, rfl, _, Bridge.logs_log _ _, rfl⟩

theorem Gated.state_eq {bound : Capabilities} {read : event.Answer → α} {otherwise : α}
    {ready : Shared} {before : Journal} {r : Step Shared (α × Caller)}
    (h : c.Gated ctx event bound read otherwise ready before r) : r.state =
      if bound.handles event.kind then (c.turn ctx event ready).state.shared else ready := by
  unfold Gated at h
  split at h
  case isTrue hears => rw [if_pos hears, h.state]
  case isFalse deaf => rw [if_neg deaf, h.state]

/-- What was done before the hooks had their turn comes first in the journal. -/
theorem Gated.after {bound : Capabilities} {read : event.Answer → α} {otherwise : α}
    {m : Flow Shared (α × Caller)} {first : Flow Shared Unit} {s ready : Shared} {before : Journal}
    (h : c.Gated ctx event bound read otherwise ready [] (m ready))
    (prepared : first s = ⟨(), ready, before⟩) :
    c.Gated ctx event bound read otherwise ready before ((first >>= fun _ => m) s) := by
  have ran : (first >>= fun _ => m) s =
      ⟨(m ready).value, (m ready).state, before ++ (m ready).journal⟩ := by
    show Step.mk (m (first s).state).value (m (first s).state).state
      ((first s).journal ++ (m (first s).state).journal) = _
    rw [prepared]
  unfold Gated at h ⊢
  rw [ran]
  by_cases hears : bound.handles event.kind = true
  · rw [if_pos hears] at h ⊢
    obtain ⟨answer, caller, state, talk, logs, journal⟩ := h
    refine ⟨answer, caller, state, talk, logs, ?_⟩
    rw [journal, List.nil_append, List.append_assoc]
  · rw [if_neg hears] at h ⊢
    obtain ⟨answer, caller, state, talk, logs, journal⟩ := h
    exact ⟨answer, caller, state, talk, logs, congrArg (before ++ ·) journal⟩

theorem gated_deliver (c : Caller) (ctx : Context) (event : Event) (s : Shared) :
    c.Gated ctx event c.capabilities id event.fallback s [.delivered c.key event.kind]
      (c.deliver ctx event s) :=
  (gated_answer c ctx event s).after rfl

theorem gated_signal {menu : Menu} {sent : Signal} {s ready : Shared} {calls : Journal}
    (prepared : c.prepare menu sent s = ⟨(), ready, calls⟩) :
    c.Gated ctx (.signal sent) c.capabilities id () ready (.delivered c.key sent.kind :: calls)
      ((do let c ← c.signal ctx menu sent; return ((), c) : Flow Shared (Unit × Caller)) s) := by
  have first : (do Flow.write (.delivered c.key sent.kind); c.prepare menu sent) s =
      ⟨(), ready, .delivered c.key sent.kind :: calls⟩ := by
    show Step.mk (c.prepare menu sent s).value (c.prepare menu sent s).state
      (.delivered c.key sent.kind :: (c.prepare menu sent s).journal) = _
    rw [prepared]
  have answered := (gated_answer c ctx (.signal sent) ready).after first
  -- the answer of a signal's hook tells nothing, so it can be read off again
  have whole : (c.answer ctx (.signal sent) >>= fun r => pure ((), r.2)) =
      c.answer ctx (.signal sent) := bind_pure _
  have same : (do let c ← c.signal ctx menu sent; return ((), c) : Flow Shared (Unit × Caller)) =
      (do Flow.write (.delivered c.key sent.kind); c.prepare menu sent) >>= fun _ =>
        c.answer ctx (.signal sent) := by
    rw [← whole, signal]
    simp only [bind_assoc, pure_bind]
    rfl
  rw [same]
  exact answered

end Caller

/-! ## Requests at the gate -/

/-- What came of a request to a caller in a state. -/
def Request.Served (q : Request) (c : Caller) (ctx : Context) (s : Shared) (bound : Capabilities)
    (r : Step Shared (q.Answer × Caller)) : Prop :=
  match q.put? s with
  | none => c.Stopped q.fallback s [] r
  | some put => c.Gated ctx put.event bound put.read q.fallback (q.readies c.key s)
      (.delivered c.key put.event.kind :: q.calls c.key c.displayName) r

theorem Request.served_fire (c : Caller) (ctx : Context) (menu : Menu) (kind : EventKind)
    (s : Shared) :
    (fire menu kind).Served c ctx s c.capabilities ((fire menu kind).perform c ctx s) := by
  have carries (absent : kind.signal? = none) : (fire menu kind).Served c ctx s c.capabilities
      ((fire menu kind).perform c ctx s) := by
    simp only [Served, put?, absent, Option.map_none, perform, Caller.fire]
    cases kind.isGeneric
    · exact ⟨rfl, rfl, rfl, _, Bridge.logs_log _ _, rfl⟩
    · exact ⟨rfl, rfl, rfl, [], Bridge.logs_nil, rfl⟩
  have signalled (sent : Signal) (same : kind = sent.kind) :
      (fire menu kind).Served c ctx s c.capabilities ((fire menu kind).perform c ctx s) := by
    subst same
    have prepared : c.prepare menu sent s = ⟨(), (fire menu sent.kind).readies c.key s,
        (fire menu sent.kind).calls c.key c.displayName⟩ := by
      cases sent <;> cases menu <;> rfl
    have found : sent.kind.signal? = some sent := by cases sent <;> rfl
    simp only [Served, put?, found, Option.map_some, perform, Caller.fire]
    exact Caller.gated_signal prepared
  cases found : kind.signal? with
  | none => exact carries found
  | some sent =>
    have same := List.find?_some found
    exact signalled sent (beq_iff_eq.mp same).symm

theorem Request.served_perform (q : Request) (c : Caller) (ctx : Context) (s : Shared) :
    q.Served c ctx s c.capabilities (q.perform c ctx s) := by
  cases q with
  | fire menu kind => exact served_fire c ctx menu kind s
  | visible setting => exact Caller.gated_deliver c ctx _ s
  | _ => exact Caller.gated_deliver c ctx _ s

/-! ## Callers with a past -/

/-- A request with the state in which it comes.  Between two turns anything may
happen to the shared state. -/
structure Turn where
  context : Context
  shared : Shared
  request : Request

/-- What hooks remember after a turn, if they hear of what they are bound for. -/
def Hooks.recall (hooks : Hooks) (bound : Capabilities) (key : Key) (memory : Value) (t : Turn) :
    Value :=
  match t.request.put? t.shared with
  | Option.none => memory
  | some put =>
      if bound.handles put.event.kind then
        (hooks.handle t.context put.event
          { shared := t.request.readies key t.shared, memory }).state.memory
      else memory

namespace Caller

def take (c : Caller) (t : Turn) : Caller := (t.request.perform c t.context t.shared).value.2

theorem take_eq (c : Caller) (t : Turn) :
    c.take t = c.remembering (c.hooks.recall c.capabilities c.key c.hooks.memory t) := by
  have served := t.request.served_perform c t.context t.shared
  revert served
  unfold take Request.Served Hooks.recall
  generalize t.request.perform c t.context t.shared = r
  cases t.request.put? t.shared with
  | none => exact fun served => served.caller
  | some put =>
    unfold Gated
    dsimp only
    by_cases hears : c.capabilities.handles put.event.kind = true
    · rw [if_pos hears, if_pos hears]
      exact fun served => served.caller
    · rw [if_neg hears, if_neg hears]
      exact fun served => served.caller

/-- Turns change nothing of a caller but the memory of its hooks, and that only
through what the caller was bound for when it was made. -/
theorem foldl_take (c : Caller) (past : List Turn) : past.foldl take c =
    c.remembering (past.foldl (c.hooks.recall c.capabilities c.key) c.hooks.memory) := by
  induction past generalizing c with
  | nil => rfl
  | cons first rest ih =>
    rw [List.foldl_cons, ih, take_eq]
    rfl

/-- Whatever hooks do and whatever a caller has been asked since it was made of them, it
serves every request, and it lets the hooks have at most one turn at it: one if the
request brings an event of a kind that they said they handle when the caller was
made, none otherwise.  Their memory is what these turns made of it.  The generic
call brings nothing for the five kinds that carry something. -/
theorem gated_perform (key : Key) (displayName : String) (hooks : Hooks) (past : List Turn)
    (ctx : Context) (q : Request) (s : Shared) :
    let c := past.foldl take (ofHooks key displayName hooks)
    let memory := past.foldl (hooks.recall hooks.handles key) hooks.memory
    c = { key, displayName, hooks := { hooks with memory }, capabilities := hooks.handles } ∧
      q.Served c ctx s hooks.handles (q.perform c ctx s) ∧
      (q.put? s = none ↔ ∃ menu, ∃ kind ∈ [EventKind.button, .inputEdit, .caretMove, .sliderText,
        .visibility], q = .fire menu kind) := by
  intro c memory
  have shape :
      c = { key, displayName, hooks := { hooks with memory }, capabilities := hooks.handles } :=
    foldl_take _ past
  have bound : c.capabilities = hooks.handles := by rw [shape]
  refine ⟨shape, bound ▸ q.served_perform c ctx s, ?_⟩
  constructor
  · intro absent
    cases q with
    | fire menu kind => exact ⟨menu, kind, Request.put?_fire_eq_none.mp absent, rfl⟩
    | _ => exact nomatch absent
  · rintro ⟨menu, kind, carries, rfl⟩
    exact Request.put?_fire_eq_none.mpr carries

end Caller
end ModSettings
