/-
Hooks that differ in how they end.

An answer, a failure and a panic of a hook all stop at its caller.  So if two hooks
change the same things and only end in different ways, their callers change the
same things as well and deal with mods and the menu in the same way.  These
dealings are what is left of a journal without its messages and notes: what reached
mods, what hooks were told and could see when they began, and what the menu was
asked to do.

Two flows are alike when, started in related states, they end in related states and
have the same dealings.
-/
import ModSettings.Proofs.Event.Conduct

namespace ModSettings

def Entry.isDealing : Entry → Bool
  | .log _ _ | .note _ => false
  | _ => true

namespace Journal

def dealings (j : Journal) : Journal := j.filter Entry.isDealing

theorem dealings_append (a b : Journal) : dealings (a ++ b) = dealings a ++ dealings b :=
  List.filter_append ..

theorem dealings_logs {j : Journal} (h : ∀ e ∈ j, ∃ level message, e = .log level message) :
    dealings j = [] := by
  refine List.filter_eq_nil_iff.mpr fun e member => ?_
  obtain ⟨level, message, rfl⟩ := h e member
  exact Bool.false_ne_true

end Journal

/-! ## Flows side by side -/

section

variable {σ α β γ δ : Type} {P : σ → σ → Prop} {Q : α → β → Prop} {Q' : γ → δ → Prop}

structure Step.Alike (P : σ → σ → Prop) (Q : α → β → Prop) (r : Step σ α) (r' : Step σ β) :
    Prop where
  state : P r.state r'.state
  value : Q r.value r'.value
  dealings : Journal.dealings r.journal = Journal.dealings r'.journal

/-- Started in states related by `P` the flows end in such states and give values
related by `Q`. -/
def Flow.Alike (P : σ → σ → Prop) (Q : α → β → Prop) (m : Flow σ α) (m' : Flow σ β) : Prop :=
  ∀ s s', P s s' → (m s).Alike P Q (m' s')

namespace Flow

theorem alike_refl (m : Flow σ α) : Flow.Alike Eq Eq m m := fun _ _ same => same ▸ ⟨rfl, rfl, rfl⟩

theorem Alike.weaken {Q' : α → β → Prop} {m : Flow σ α} {m' : Flow σ β}
    (h : Flow.Alike P Q m m') (weaker : ∀ a b, Q a b → Q' a b) : Flow.Alike P Q' m m' :=
  fun s s' related =>
    have both := h s s' related
    ⟨both.state, weaker _ _ both.value, both.dealings⟩

theorem alike_pure {a : α} {b : β} (h : Q a b) : Flow.Alike P Q (Flow.pure a) (Flow.pure b) :=
  fun _ _ related => ⟨related, h, rfl⟩

theorem alike_get : Flow.Alike P P Flow.get Flow.get := fun _ _ related => ⟨related, related, rfl⟩

theorem alike_modify {f f' : σ → σ} (h : ∀ s s', P s s' → P (f s) (f' s')) :
    Flow.Alike P Eq (Flow.modify f) (Flow.modify f') :=
  fun s s' related => ⟨h s s' related, rfl, rfl⟩

theorem alike_write (e : Entry) : Flow.Alike P Eq (Flow.write e) (Flow.write e) :=
  fun _ _ related => ⟨related, rfl, rfl⟩

/-- Messages may differ. -/
theorem alike_log (level level' : Level) (message message' : String) :
    Flow.Alike P Eq (Flow.log level message) (Flow.log level' message') :=
  fun _ _ related => ⟨related, rfl, rfl⟩

theorem alike_bind {m : Flow σ α} {m' : Flow σ β} {f : α → Flow σ γ} {f' : β → Flow σ δ}
    (hm : Flow.Alike P Q m m') (hf : ∀ a b, Q a b → Flow.Alike P Q' (f a) (f' b)) :
    Flow.Alike P Q' (m >>= f) (m' >>= f') := by
  intro s s' related
  have first := hm s s' related
  have second := hf _ _ first.value _ _ first.state
  refine ⟨second.state, second.value, ?_⟩
  show Journal.dealings (_ ++ _) = Journal.dealings (_ ++ _)
  rw [Journal.dealings_append, Journal.dealings_append, first.dealings, second.dealings]

theorem alike_forEach {f f' : α → Flow σ Unit} (h : ∀ a, Flow.Alike P Eq (f a) (f' a))
    (l : List α) : Flow.Alike P Eq (Flow.forEach f l) (Flow.forEach f' l) := by
  induction l with
  | nil => exact alike_pure rfl
  | cons a rest ih => exact alike_bind (h a) fun _ _ _ => ih

end Flow

end

/-! ## Hooks -/

namespace Hooks

/-- Whatever happens the hooks make the same of the shared state, though they may
end in different ways and remember different things. -/
def Alike (ctx : Context) (h h' : Hooks) : Prop :=
  ∃ R : Value → Value → Prop, R h.memory h'.memory ∧
    ∀ event, Flow.Alike (fun d d' => d.shared = d'.shared ∧ R d.memory d'.memory)
      (fun _ _ => True) (h.handle ctx event) (h'.handle ctx event)

theorem Alike.refl {ctx : Context} (h : Hooks) : h.Alike ctx h := by
  refine ⟨Eq, rfl, fun event d d' same => ?_⟩
  obtain ⟨shared, memory⟩ := d
  obtain ⟨rfl, rfl⟩ := same
  exact ⟨⟨rfl, rfl⟩, trivial, rfl⟩

/-- Hooks that do the same but end as they are told, which may depend on all that
they know. -/
def ending (h : Hooks) (ends : Context → (event : Event) → Desk →
    Outcome HookError event.Answer → Outcome HookError event.Answer) : Hooks where
  memory := h.memory
  capabilities := h.capabilities
  handle := fun ctx event desk =>
    let ran := h.handle ctx event desk
    ⟨ends ctx event desk ran.value, ran.state, ran.journal⟩

theorem alike_ending {ctx : Context} (h : Hooks) (ends : Context → (event : Event) → Desk →
    Outcome HookError event.Answer → Outcome HookError event.Answer) :
    h.Alike ctx (h.ending ends) := by
  have unchanged : h.Alike ctx h := .refl h
  obtain ⟨R, related, same⟩ := unchanged
  exact ⟨R, related, fun event d d' start =>
    ⟨(same event d d' start).state, trivial, (same event d d' start).dealings⟩⟩

end Hooks

/-! ## Callers -/

namespace Caller

structure Alike (ctx : Context) (a a' : Caller) : Prop where
  key : a'.key = a.key
  displayName : a'.displayName = a.displayName
  capabilities : a'.capabilities = a.capabilities
  hooks : a.hooks.Alike ctx a'.hooks

/-- However the hook ends, its caller keeps what it did. -/
theorem runHook_keeps (a : Caller) (ctx : Context) (event : Event) (s : Shared) :
    let ran := a.hooks.handle ctx event { shared := s, memory := a.hooks.memory }
    let r := a.runHook ctx event s
    r.state = ran.state.shared ∧
      r.value.2 = { a with hooks := { a.hooks with memory := ran.state.memory } } ∧
      Journal.dealings r.journal = .entered a.key event s :: Journal.dealings ran.journal := by
  have ended (j : Journal) (level : Level) (message : String) :
      Journal.dealings (.entered a.key event s :: j ++ [.log level message]) =
        .entered a.key event s :: Journal.dealings j := by
    rw [Journal.dealings_append]
    exact List.append_nil _
  dsimp only
  unfold runHook
  dsimp only
  split
  · exact ⟨rfl, rfl, rfl⟩
  · exact ⟨rfl, rfl, ended _ _ _⟩
  · exact ⟨rfl, rfl, ended _ _ _⟩

section

variable {a a' : Caller} {ctx : Context} (alike : a.Alike ctx a')
include alike

/-- What callers that are alike answer may differ. -/
theorem alike_runHook (event : Event) : Flow.Alike Eq (fun r r' => r.2.Alike ctx r'.2)
    (a.runHook ctx event) (a'.runHook ctx event) := by
  intro s s' start
  subst start
  obtain ⟨R, related, same⟩ := alike.hooks
  have ran := same event { shared := s, memory := a.hooks.memory }
    { shared := s, memory := a'.hooks.memory } ⟨rfl, related⟩
  obtain ⟨state, caller, dealings⟩ := runHook_keeps a ctx event s
  obtain ⟨state', caller', dealings'⟩ := runHook_keeps a' ctx event s
  refine ⟨?_, ?_, ?_⟩
  · rw [state, state', ran.state.1]
  · rw [caller, caller']
    exact ⟨alike.key, alike.displayName, alike.capabilities, R, ran.state.2, same⟩
  · rw [dealings, dealings', alike.key, ran.dealings]

theorem alike_answer (event : Event) : Flow.Alike Eq (fun r r' => r.2.Alike ctx r'.2)
    (a.answer ctx event) (a'.answer ctx event) := by
  unfold answer
  rw [show a'.handles event.kind = a.handles event.kind by rw [handles, alike.capabilities]; rfl]
  split
  · exact Flow.alike_bind (alike_runHook alike event) fun _ _ kept => Flow.alike_pure kept
  · cases unboundMessage? event with
    | none => exact Flow.alike_pure alike
    | some message =>
      exact Flow.alike_bind (Flow.alike_log _ _ _ _) fun _ _ _ => Flow.alike_pure alike

theorem alike_deliver (event : Event) : Flow.Alike Eq (fun r r' => r.2.Alike ctx r'.2)
    (a.deliver ctx event) (a'.deliver ctx event) := by
  unfold deliver
  rw [alike.key]
  exact Flow.alike_bind (Flow.alike_write _) fun _ _ _ => alike_answer alike event

theorem alike_visible (setting : SettingInfo) : Flow.Alike Eq (fun r r' => r.2.Alike ctx r'.2)
    (a.visible ctx setting) (a'.visible ctx setting) := by
  refine Flow.alike_bind Flow.alike_get fun s s' same => ?_
  subst same
  exact alike_deliver alike (.visibility setting s.registry.inWorld)

theorem alike_signal (menu : Menu) (sent : Signal) : Flow.Alike Eq (Alike ctx)
    (a.signal ctx menu sent) (a'.signal ctx menu sent) := by
  have prepared : a'.prepare menu sent = a.prepare menu sent := by
    cases sent <;> simp only [prepare, alike.key, alike.displayName]
  unfold signal
  rw [alike.key, prepared]
  refine Flow.alike_bind (Flow.alike_write _) fun _ _ _ => ?_
  refine Flow.alike_bind (Flow.alike_refl _) fun _ _ _ => ?_
  exact Flow.alike_bind (alike_answer alike _) fun _ _ kept => Flow.alike_pure kept

end

end Caller

end ModSettings
