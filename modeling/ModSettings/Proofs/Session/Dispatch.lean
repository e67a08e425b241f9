/-
What mods and the menu are told.

Of the journal of an operation only the events that reached mods and the calls
made to the menu are looked at here.  Hooks have no part in these, so what an
operation tells can be read off the state in which it begins: which mods are
loaded, whether the menu is built and whether it is open.  That is
`told_perform`, and what an operation makes of that state is told by
`order_perform` and `flags_perform`.

Hooks may register and remove mods behind the session's back all the same.  Then a
mod can lose its caller to the next one in its slot and stay in the order for
nothing, so it is the mods with a caller that hear of what goes to all.
-/
import ModSettings.Proofs.Session.Enrolled

namespace ModSettings

/-- Something that reaches a mod or the menu. -/
inductive Told where
  | event (key : Key) (kind : EventKind)
  | build (key : Key)
  | refresh (key : Key)
  deriving DecidableEq

def Entry.told? : Entry → Option Told
  | .delivered key kind => some (.event key kind)
  | .buildMenu key _ => some (.build key)
  | .refreshMenu key => some (.refresh key)
  | _ => none

namespace Journal

def told (j : Journal) : List Told := j.filterMap Entry.told?

theorem told_append (a b : Journal) : told (a ++ b) = told a ++ told b := List.filterMap_append

theorem told_eq_nil {j : Journal} (h : ∀ e ∈ j, e.told? = none) : told j = [] :=
  List.filterMap_eq_nil_iff.mpr h

theorem told_logs {j : Journal} (h : ∀ e ∈ j, ∃ level message, e = .log level message) :
    told j = [] := by
  refine told_eq_nil fun e member => ?_
  obtain ⟨level, message, rfl⟩ := h e member
  rfl

end Journal

/-- A signal that reaches a mod, with the call to the menu that it makes. -/
def Menu.told (menu : Menu) (signal : Signal) (key : Key) : List Told :=
  .event key signal.kind ::
    match menu, signal with
    | .shown, .menuCreate => [.build key]
    | .shown, .menuOpen => [.refresh key]
    | _, _ => []

/-- The mod is asked, for the answer is not known without it. -/
def Event.asks : Event → Bool
  | signal _ => false
  | sliderText slider _ => slider.display == .custom
  | visibility setting _ => setting.access == .custom
  | _ => true

/-- No mod is registered or removed.  What reaches mods and what the menu is told
is for callers to write, and hooks write messages and notes. -/
def Conduct.guests : Conduct Shared where
  allows s s' := s.registry.Flagged s'.registry
  writes _ e := (∃ level message, e = .log level message) ∨ ∃ line, e = .note line
  refl := sameMods.refl
  trans := sameMods.trans
  writes_trans _ h := h

theorem Conduct.lenient_guests : guests.Lenient :=
  ⟨fun h => .of_inWorld h.1, fun _ level message => Or.inl ⟨level, message, rfl⟩,
    fun _ line => Or.inr ⟨line, rfl⟩⟩

/-- Hooks keep the registry sound, and it is not for them to write that an event
reached a mod or that the menu was called. -/
structure Conduct.Discreet (c : Conduct Shared) : Prop where
  lenient : c.Lenient
  quiet : ∀ s e, c.writes s e → e.told? = none
  sound : ∀ {s s'}, c.allows s s' → s.registry.Sound → s'.registry.Sound

theorem Conduct.quiet_guests (s : Shared) (e : Entry) (h : guests.writes s e) :
    e.told? = none := by
  rcases h with ⟨level, message, rfl⟩ | ⟨line, rfl⟩
  · rfl
  · rfl

theorem Conduct.discreet_guests : guests.Discreet :=
  ⟨lenient_guests, quiet_guests, Registry.Flagged.sound⟩

/-- Hooks do to the registry what they like, and write messages and notes. -/
def Conduct.freeGuests : Conduct Shared where
  allows := free.allows
  writes := guests.writes
  refl := free.refl
  trans := free.trans
  writes_trans _ h := h

theorem Conduct.lenient_freeGuests : freeGuests.Lenient :=
  ⟨lenient_free.values, lenient_guests.logs, lenient_guests.notes⟩

theorem Conduct.discreet_freeGuests : freeGuests.Discreet :=
  ⟨lenient_freeGuests, quiet_guests, sound_of_free⟩

open Conduct

variable {c : Conduct Shared}

/-! ## Callers -/

namespace Caller

variable {a : Caller} {ctx : Context} (discreet : c.Discreet) (obeys : a.hooks.Obeys c)
  (catalog : ctx.catalog.Obeys c)
include discreet obeys catalog

theorem told_runHook (event : Event) (s : Shared) : (a.runHook ctx event s).journal.told = [] := by
  have ran := obeys ctx catalog event { shared := s, memory := a.hooks.memory }
  have inner : Journal.told
      (a.hooks.handle ctx event { shared := s, memory := a.hooks.memory }).journal = [] := by
    exact Journal.told_eq_nil fun e member => discreet.quiet _ e (ran.journal e member)
  have logged {began : Entry} (h : began.told? = none) (level : Level) (message : String) :
      Journal.told (began :: (a.hooks.handle ctx event
        { shared := s, memory := a.hooks.memory }).journal ++ [.log level message]) = [] := by
    rw [Journal.told_append, Journal.told, List.filterMap_cons_none h]
    exact congrArg (· ++ []) inner
  unfold runHook
  dsimp only
  split
  · exact inner
  · exact logged rfl _ _
  · exact logged rfl _ _

theorem told_answer (event : Event) (s : Shared) : (a.answer ctx event s).journal.told = [] := by
  unfold answer
  split
  · show Journal.told ((a.runHook ctx event s).journal ++ []) = []
    rw [List.append_nil]
    exact told_runHook discreet obeys catalog event s
  · cases unboundMessage? event <;> rfl

theorem told_deliver (event : Event) (s : Shared) :
    (a.deliver ctx event s).journal.told = [.event a.key event.kind] :=
  congrArg (Told.event a.key event.kind :: ·) (told_answer discreet obeys catalog event s)

theorem told_signal (menu : Menu) (sent : Signal) (s : Shared) :
    (a.signal ctx menu sent s).journal.told = menu.told sent a.key := by
  have prepared : (a.prepare menu sent s).journal.told = (menu.told sent a.key).tail := by
    cases sent <;> cases menu <;> rfl
  have written : (a.signal ctx menu sent s).journal =
      .delivered a.key sent.kind :: ((a.prepare menu sent s).journal ++
        ((a.answer ctx (.signal sent) (a.prepare menu sent s).state).journal ++ [])) := rfl
  rw [written, List.append_nil]
  show Told.event a.key sent.kind :: Journal.told (_ ++ _) = _
  rw [Journal.told_append, prepared, told_answer discreet obeys catalog,
    List.append_nil]
  rfl

end Caller

/-! ## Reaching callers -/

namespace Session

section

variable {α : Type} {s : Session} {key : Key} (discreet : c.Discreet) (ruled : s.Ruled c)
include ruled

theorem told_withCaller {f : Caller → Context → Flow Shared (α × Caller)} {l : List Told}
    (tells : ∀ caller ctx shared, caller.hooks.Obeys c → ctx.catalog.Obeys c →
      caller.key = key → (f caller ctx shared).journal.told = l) :
    (withCaller key f s).journal.told = if key ∈ s.callers.keys then l else [] := by
  unfold withCaller
  cases found : s.callers.get? key with
  | none =>
    rw [if_neg (Attachments.not_mem_keys found)]
    rfl
  | some caller =>
    rw [if_pos (Attachments.mem_keys.mpr ⟨caller, found⟩)]
    exact tells caller _ _ (ruled.hooks key caller found) ruled.catalog
      (ruled.own key caller found)

include discreet

theorem told_deliver (event : Event) : (deliver key event s).journal.told =
    if key ∈ s.callers.keys then [.event key event.kind] else [] :=
  told_withCaller ruled fun caller ctx shared hooks catalog own => by
    rw [Caller.told_deliver discreet hooks catalog, own]

theorem told_signalTo (menu : Menu) (sent : Signal) : (signalTo menu sent key s).journal.told =
    if key ∈ s.callers.keys then menu.told sent key else [] := by
  let send : Caller → Context → Flow Shared (Unit × Caller) := fun caller ctx => do
    let caller ← caller.signal ctx menu sent
    return ((), caller)
  have written : (signalTo menu sent key s).journal = (withCaller key send s).journal ++ [] := rfl
  rw [written, List.append_nil]
  refine told_withCaller ruled fun caller ctx shared hooks catalog own => ?_
  show Journal.told ((caller.signal ctx menu sent shared).journal ++ []) = _
  rw [List.append_nil, Caller.told_signal discreet hooks catalog, own]

theorem told_answerWidget (event : Event) : (answerWidget key event s).journal.told =
    if key ∈ s.callers.keys ∧ event.asks = true then [.event key event.kind] else [] := by
  cases event with
  | signal sent =>
    rw [if_neg fun h => Bool.false_ne_true h.2]
    rfl
  | button name index =>
    exact (told_deliver discreet ruled _).trans (if_congr (and_iff_left rfl).symm rfl rfl)
  | inputEdit input text caret =>
    exact (told_deliver discreet ruled _).trans (if_congr (and_iff_left rfl).symm rfl rfl)
  | caretMove input text caret anchor =>
    exact (told_deliver discreet ruled _).trans (if_congr (and_iff_left rfl).symm rfl rfl)
  | sliderText slider value =>
    show (sliderText key slider value s).journal.told = _
    unfold sliderText
    cases custom : slider.display with
    | custom =>
      simpa [Event.asks, custom] using told_deliver discreet ruled (.sliderText slider value)
    | _ =>
      rw [if_neg (by simp [Event.asks, custom])]
      rfl
  | visibility setting inWorld =>
    show (isVisible key setting s).journal.told = _
    cases custom : setting.access with
    | custom =>
      have looks : setting.access.visible? s.shared.registry.inWorld = none := by
        rw [custom]
        rfl
      have asks : Event.asks (.visibility setting inWorld) = true := by
        rw [Event.asks, custom]
        rfl
      simp only [isVisible, Bind.bind, Flow.bind, Flow.get, looks, List.nil_append, asks, and_true]
      exact told_withCaller ruled fun caller ctx shared hooks catalog own => by
        rw [← own]
        exact Caller.told_deliver discreet hooks catalog _ _
    | _ =>
      rw [if_neg (by simp [Event.asks, custom])]
      simp only [isVisible, Bind.bind, Flow.bind, Flow.get, custom, SettingAccess.visible?]
      rfl

end

/-! ## Opening and closing in parts -/

def buildMenu (menu : Menu) : Flow Session Unit := do
  broadcast menu .menuCreate
  Flow.modify fun s => { s with menuBuilt := true }

def showMenu (menu : Menu) : Flow Session Unit := do
  Flow.modify fun s => { s with isOpen := true }
  broadcast menu .menuOpen

def hideMenu (menu : Menu) : Flow Session Unit := do
  Flow.modify fun s => { s with isOpen := false }
  broadcast menu .menuClose

theorem openMenu_eq (menu : Menu) (s : Session) : openMenu menu s =
    if s.menuBuilt = true then showMenu menu s
    else (buildMenu menu >>= fun _ => showMenu menu) s := by
  show (if !s.menuBuilt then _ else showMenu menu : Flow Session Unit) s = _
  cases s.menuBuilt with
  | true => rfl
  | false =>
    simp only [buildMenu, bind_assoc]
    rfl

theorem closeMenu_eq (menu : Menu) (s : Session) : closeMenu menu s =
    if s.isOpen = true then hideMenu menu s else ⟨(), s, []⟩ := by
  show (if s.isOpen then hideMenu menu else pure () : Flow Session Unit) s = _
  cases s.isOpen <;> rfl

/-! ## Broadcasts -/

theorem told_forEach {σ α : Type} {I : σ → Prop} {f : α → Flow σ Unit} {g : α → List Told}
    {l : List α} (keeps : ∀ a s, I s → I (f a s).state)
    (tells : ∀ a ∈ l, ∀ s, I s → (f a s).journal.told = g a) {s : σ} (start : I s) :
    (Flow.forEach f l s).journal.told = l.flatMap g := by
  induction l generalizing s with
  | nil => rfl
  | cons a rest ih =>
    obtain ⟨first, others⟩ := List.forall_mem_cons.mp tells
    have written : (Flow.forEach f (a :: rest) s).journal =
        (f a s).journal ++ (Flow.forEach f rest (f a s).state).journal := rfl
    rw [written, Journal.told_append, first s start, ih others (keeps a s start),
      List.flatMap_cons]

theorem flatMap_ite {α β : Type} (p : α → Prop) [DecidablePred p] (f : α → List β) (l : List α) :
    (l.flatMap fun a => if p a then f a else []) = (l.filter p).flatMap f := by
  induction l with
  | nil => rfl
  | cons a rest ih =>
    rw [List.flatMap_cons, ih]
    by_cases passes : p a
    · simp [passes]
    · simp [passes]

theorem Ruled.flags {s : Session} (h : s.Ruled c) (menuBuilt isOpen : Bool) :
    Ruled c { s with menuBuilt, isOpen } := ⟨h.catalog, h.hooks, h.own⟩

section

variable {s : Session} (discreet : c.Discreet) (ruled : s.Ruled c)
include discreet ruled

theorem told_broadcast (menu : Menu) {sent : Signal} (passing : sent.isPassing = true) :
    (broadcast menu sent s).journal.told = s.listeners.flatMap (menu.told sent) := by
  let reached (s' : Session) : Prop := s'.Ruled c ∧ s'.callers.keys = s.callers.keys
  have keeps (key : Key) (s' : Session) (h : reached s') :
      reached (signalTo menu sent key s').state := by
    obtain ⟨calm, kept⟩ := (obeys_signalTo menu passing key s').state h.1
    exact ⟨kept, calm.keys.trans h.2⟩
  rw [listeners, ← flatMap_ite]
  refine told_forEach keeps (fun key _ s' h => ?_) ⟨ruled, rfl⟩
  rw [told_signalTo discreet h.1, h.2]

/-! ## The menu and the world -/

theorem told_showMenu (menu : Menu) :
    (showMenu menu s).journal.told = s.listeners.flatMap (menu.told .menuOpen) :=
  told_broadcast (s := { s with isOpen := true }) discreet (ruled.flags _ _) menu rfl

theorem told_openMenu (menu : Menu) : (openMenu menu s).journal.told =
    (if s.menuBuilt = true then [] else s.listeners.flatMap (menu.told .menuCreate)) ++
      s.listeners.flatMap (menu.told .menuOpen) := by
  rw [openMenu_eq]
  by_cases built : s.menuBuilt = true
  · rw [if_pos built, if_pos built, told_showMenu discreet ruled, List.nil_append]
  · have obeys : (buildMenu menu).Obeys c.onSession :=
      Flow.obeys_bind (obeys_broadcast menu rfl) fun _ =>
        obeys_modify (fun _ => rfl) (fun _ => rfl) (fun _ => rfl) fun _ => rfl
    obtain ⟨calm, between⟩ := (obeys s).state ruled
    have first : (buildMenu menu s).journal.told = s.listeners.flatMap (menu.told .menuCreate) := by
      show Journal.told ((broadcast menu .menuCreate s).journal ++ []) = _
      rw [List.append_nil, told_broadcast discreet ruled menu rfl]
    rw [if_neg built, if_neg built, ← first, ← calm.listeners_eq, ← told_showMenu discreet between]
    exact Journal.told_append _ _

theorem told_closeMenu (menu : Menu) : (closeMenu menu s).journal.told =
    if s.isOpen = true then s.listeners.flatMap (menu.told .menuClose) else [] := by
  rw [closeMenu_eq]
  by_cases showing : s.isOpen = true
  · rw [if_pos showing, if_pos showing]
    exact told_broadcast (s := { s with isOpen := false }) discreet (ruled.flags _ _) menu rfl
  · rw [if_neg showing, if_neg showing]
    rfl

theorem told_inWorld (menu : Menu) {sent : Signal} (passing : sent.isPassing = true)
    (inWorld : Bool) :
    (broadcast menu sent (onShared (Shared.setInWorld inWorld) s).state).journal.told =
      s.listeners.flatMap (menu.told sent) := by
  obtain ⟨calm, moved⟩ :=
    (obeys_onShared (Native.obeys_setInWorld discreet.lenient inWorld) s).state ruled
  rw [told_broadcast discreet moved menu passing, calm.listeners_eq]

/-! ## Loading, unloading and shutting down -/

/-- A mod that is registered hears of its loading. -/
theorem told_load (sound : s.shared.registry.Sound) {d : Descriptor} (obeys : d.Obeys c) :
    (load d s).journal.told = ((Operation.load d).gives? s).toList.map (.event · .load) := by
  rw [Operation.gives?]
  cases registered : s.shared.registry.register d.name d.mainType with
  | error e =>
    rw [load_of_error registered]
    rfl
  | ok result =>
    obtain ⟨key, r⟩ := result
    obtain ⟨r', bound, _, _⟩ := Registry.exists_opened sound registered
    have ready := declares_prepare d key { s with shared := { s.shared with registry := r' } }
    have hooks := obeys_prepare discreet.lenient obeys key
      { s with shared := { s.shared with registry := r' } }
    rw [load_eq registered bound]
    revert ready hooks
    generalize prepare d key _ = ready
    intro prepared hooks
    let caller := Caller.ofHooks key d.displayName ready.value
    have offers : ready.state.catalog.Obeys c := by
      rw [prepared.state.1]
      exact ruled.catalog
    have told : (caller.signal { key, catalog := ready.state.catalog } .absent .load
        ready.state.shared).journal.told = Menu.absent.told .load caller.key :=
      Caller.told_signal discreet hooks offers .absent .load _
    simp only [Journal.told_append, Journal.told_logs prepared.journal]
    exact congrArg (· ++ []) told

theorem told_unload (key : Key) : (unload key s).journal.told =
    if key ∈ s.callers.keys then [.event key .unload] else [] := by
  cases found : s.callers.get? key with
  | none =>
    rw [unload_of_none found, if_neg (Attachments.not_mem_keys found)]
    rfl
  | some caller =>
    have told : (caller.signal { key, catalog := s.catalog } .absent .unload
        s.shared).journal.told = [.event key .unload] := by
      rw [Caller.told_signal discreet (ruled.hooks key caller found) ruled.catalog,
        ruled.own key caller found]
      rfl
    rw [unload_eq found, if_pos (Attachments.mem_keys.mpr ⟨caller, found⟩)]
    simp only [Journal.told_append, Journal.told_logs (logs_unregister _ _)]
    rw [told]
    rfl

end

/-- Of the mods to be unloaded those hear that have a caller. -/
theorem told_forEach_unload {s : Session} (discreet : c.Discreet) (steady : Steady c s)
    {keys : List Key} (nodup : (keys.filter (· ∈ s.callers.keys)).Nodup) :
    (Flow.forEach unloadOrWarn keys s).journal.told =
      (keys.filter (· ∈ s.callers.keys)).map (.event · .unload) := by
  induction keys generalizing s with
  | nil => rfl
  | cons key rest ih =>
    obtain ⟨warnings, written, logs⟩ := journal_unloadOrWarn key s
    have first : (unloadOrWarn key s).journal.told =
        if key ∈ s.callers.keys then [.event key .unload] else [] := by
      rw [written, Journal.told_append, told_unload discreet steady.ruled, Journal.told_logs logs,
        List.append_nil]
    -- a mod that is unloaded loses its caller, but it does not come again
    have same : rest.filter (· ∈ (unload key s).state.callers.keys) =
        rest.filter (· ∈ s.callers.keys) := by
      refine List.filter_congr fun k member => decide_eq_decide.mpr ?_
      rw [mem_keys_unload, and_iff_left_iff_imp]
      rintro there rfl
      rw [List.filter_cons, if_pos (decide_eq_true there), List.nodup_cons,
        List.mem_filter] at nodup
      exact nodup.1 ⟨member, decide_eq_true there⟩
    have after : (Flow.forEach unloadOrWarn rest (unloadOrWarn key s).state).journal.told =
        (rest.filter (· ∈ s.callers.keys)).map (.event · .unload) := by
      rw [state_unloadOrWarn, ← same]
      refine ih ((enduring_steady discreet.sound).unload steady key) ?_
      rw [same]
      exact nodup.sublist ((List.sublist_cons_self key rest).filter _)
    show Journal.told ((unloadOrWarn key s).journal ++ _) = _
    rw [Journal.told_append, first, after]
    by_cases there : key ∈ s.callers.keys
    · rw [if_pos there, List.filter_cons, if_pos (decide_eq_true there)]
      rfl
    · rw [if_neg there, List.filter_cons, if_neg (by simpa using there), List.nil_append]

theorem told_shutdown {s : Session} (discreet : c.Discreet) (enrolled : Enrolled c s) :
    (shutdown s).journal.told = s.listeners.reverse.map (.event · .unload) := by
  have reversed : s.order.reverse.filter (· ∈ s.callers.keys) = s.listeners.reverse :=
    List.filter_reverse
  have once : (s.order.reverse.filter (· ∈ s.callers.keys)).Nodup := by
    rw [reversed]
    exact List.nodup_reverse.mpr enrolled.nodup_listeners
  rw [shutdown_eq, Journal.told_append, told_forEach_unload discreet enrolled.steady once, reversed]
  exact List.append_nil _

end Session

/-! ## Operations -/

namespace Operation

/-- What an operation that begins in the state tells mods and the menu. -/
def told (s : Session) : Operation → List Told
  | load d => ((load d).gives? s).toList.map (.event · .load)
  | unload key => if key ∈ s.order then [.event key .unload] else []
  | openMenu menu =>
      (if s.menuBuilt = true then [] else s.order.flatMap (menu.told .menuCreate)) ++
        s.order.flatMap (menu.told .menuOpen)
  | closeMenu menu => if s.isOpen = true then s.order.flatMap (menu.told .menuClose) else []
  | enterWorld menu => s.order.flatMap (menu.told .worldEnter)
  | exitWorld menu => s.order.flatMap (menu.told .worldExit)
  | widget key event =>
      if key ∈ s.order ∧ event.asks = true then [.event key event.kind] else []
  | shutdown => s.order.reverse.map (.event · .unload)

/-- The loaded mods after an operation, in the order of their loading. -/
def orderAfter (s : Session) : Operation → List Key
  | load d => s.order ++ ((load d).gives? s).toList
  | unload key => s.order.filter (!· == key)
  | shutdown => []
  | _ => s.order

def builtAfter (s : Session) : Operation → Bool
  | openMenu _ => true
  | shutdown => false
  | _ => s.menuBuilt

def openAfter (s : Session) : Operation → Bool
  | openMenu _ => true
  | closeMenu _ => false
  | shutdown => false
  | _ => s.isOpen

end Operation

namespace Session

variable {s : Session} {op : Operation}

/-- What an operation tells is what it tells the listeners. -/
theorem told_perform (discreet : c.Discreet) (enrolled : Enrolled c s) (obeys : op.Obeys c) :
    (op.perform s).journal.told = op.told s.attended := by
  have ruled := enrolled.steady.ruled
  cases op with
  | load d =>
    rw [Operation.told, gives?_attended]
    exact told_load discreet ruled enrolled.steady.sound obeys
  | unload key =>
    exact (told_unload discreet ruled key).trans (if_congr enrolled.mem_listeners.symm rfl rfl)
  | openMenu menu => exact told_openMenu discreet ruled menu
  | closeMenu menu => exact told_closeMenu discreet ruled menu
  | enterWorld menu => exact told_inWorld discreet ruled menu rfl true
  | exitWorld menu => exact told_inWorld discreet ruled menu rfl false
  | widget key event =>
    exact (told_answerWidget discreet ruled event).trans
      (if_congr (and_congr_left' enrolled.mem_listeners.symm) rfl rfl)
  | shutdown => exact told_shutdown discreet enrolled

theorem Orderly.told_eq (orderly : Orderly guests s) (obeys : op.Obeys guests) :
    (op.perform s).journal.told = op.told s := by
  rw [told_perform discreet_guests orderly.enrolled obeys, orderly.attended_eq]

theorem stable_orderly : Stable guests (Orderly guests) fun _ => True where
  orderly := id
  logs _ _ := trivial
  calm orderly := orderly.of_calm id
  tells _ _ := trivial
  unloads orderly unloads := ⟨orderly.of_unloads id unloads, fun _ _ => trivial⟩
  cleared orderly := orderly.of_cleared

theorem orderly_perform (orderly : Orderly guests s) (obeys : op.Obeys guests) :
    Orderly guests (op.perform s).state := by
  cases op with
  | load d =>
    show Orderly guests (load d s).state
    rcases load_cases lenient_guests orderly.ruled orderly.sound obeys with
      ⟨e, refused⟩ | ⟨key, opened, loads⟩
    · rw [refused]
      exact orderly
    · exact orderly.of_loads id loads
  | _ => exact (stable_orderly.obeys_perform lenient_guests rfl s).state orderly

theorem order_perform (orderly : Orderly guests s) (obeys : op.Obeys guests) :
    (op.perform s).state.order = op.orderAfter s := by
  have passes (passing : op.isPassing = true) : (op.perform s).state.order = s.order :=
    ((Operation.obeys_perform lenient_guests passing s).state orderly.ruled).1.order
  cases op with
  | load d =>
    show (load d s).state.order = _
    rw [Operation.orderAfter, Operation.gives?]
    rcases load_cases lenient_guests orderly.ruled orderly.sound obeys with
      ⟨e, refused⟩ | ⟨key, opened, loads⟩
    · rw [refused]
      exact (List.append_nil _).symm
    · rw [loads.value, loads.order]
      rfl
  | unload key => exact orderly.order_unload key
  | shutdown =>
    show (shutdown s).state.order = []
    rw [shutdown_eq]
    exact stable_orderly.order_unloaded orderly
  | _ => exact passes rfl

end Session

def Conduct.flags : Conduct Session where
  allows s s' := s'.menuBuilt = s.menuBuilt ∧ s'.isOpen = s.isOpen
  writes _ _ := True
  refl _ := ⟨rfl, rfl⟩
  trans h h' := ⟨h'.1.trans h.1, h'.2.trans h.2⟩
  writes_trans _ _ := trivial

namespace Session

theorem flags_withCaller {α : Type} (key : Key) (f : Caller → Context → Flow Shared (α × Caller)) :
    (withCaller key f).Obeys flags := by
  intro s
  unfold withCaller
  cases s.callers.get? key with
  | none => exact ⟨flags.refl s, fun _ _ => trivial⟩
  | some caller => exact ⟨⟨rfl, rfl⟩, fun _ _ => trivial⟩

theorem flags_deliver (key : Key) (event : Event) : (deliver key event).Obeys flags :=
  flags_withCaller key _

theorem flags_broadcast (menu : Menu) (sent : Signal) : (broadcast menu sent).Obeys flags :=
  Flow.obeys_bind Flow.obeys_get fun s => Flow.obeys_forEach
    (fun key => Flow.obeys_bind (flags_withCaller key _) fun _ => Flow.obeys_pure _) s.order

theorem flags_onShared {α : Type} (m : Flow Shared α) : (onShared m).Obeys flags := fun _ =>
  ⟨⟨rfl, rfl⟩, fun _ _ => trivial⟩

theorem flags_load (d : Descriptor) : (load d).Obeys flags := by
  have logs (level : Level) (message : String) : Flow.Obeys flags (Flow.log level message) :=
    Flow.obeys_write fun _ => trivial
  refine Flow.obeys_bind (flags_onShared _) fun registered => ?_
  cases registered with
  | error e => exact Flow.obeys_pure _
  | ok key =>
    refine Flow.obeys_bind (flags_onShared _) fun bound => ?_
    cases bound with
    | error e => exact Flow.obeys_pure _
    | ok _ =>
      refine Flow.obeys_bind (Flow.obeys_forEach (fun _ => flags_onShared _) _) fun _ => ?_
      refine Flow.obeys_bind (fun s => ⟨?_, fun _ _ => trivial⟩) fun hooks => ?_
      · rw [show (chooseHooks d key s).state = s from (still_chooseHooks d key s).state]
        exact flags.refl s
      · refine Flow.obeys_bind (logs _ _) fun _ => Flow.obeys_bind Flow.obeys_get fun s => ?_
        refine Flow.obeys_bind (flags_onShared _) fun caller => ?_
        refine Flow.obeys_bind (logs _ _) fun _ => ?_
        exact Flow.obeys_bind (fun _ => ⟨⟨rfl, rfl⟩, fun _ _ => trivial⟩) fun _ =>
          Flow.obeys_pure _

theorem flags_unload (key : Key) : (unload key).Obeys flags := by
  intro s
  refine ⟨?_, fun _ _ => trivial⟩
  cases found : s.callers.get? key with
  | none =>
    simp only [unload, Bind.bind, Flow.bind, Flow.get, found]
    exact flags.refl s
  | some caller =>
    rw [unload_eq found]
    exact flags.refl s

theorem flags_answerWidget (key : Key) (event : Event) : (answerWidget key event).Obeys flags :=
  obeys_answerWidget key event (flags_deliver key) fun _ => flags_withCaller key _

theorem flags_perform (s : Session) (op : Operation) :
    (op.perform s).state.menuBuilt = op.builtAfter s ∧
      (op.perform s).state.isOpen = op.openAfter s := by
  cases op with
  | load d => exact (flags_load d s).state
  | unload key => exact (flags_unload key s).state
  | enterWorld menu => exact (flags_broadcast menu .worldEnter _).state
  | exitWorld menu => exact (flags_broadcast menu .worldExit _).state
  | widget key event => exact (flags_answerWidget key event s).state
  | shutdown => exact ⟨rfl, rfl⟩
  | closeMenu menu =>
    show (closeMenu menu s).state.menuBuilt = s.menuBuilt ∧
      (closeMenu menu s).state.isOpen = false
    rw [closeMenu_eq]
    by_cases showing : s.isOpen = true
    · rw [if_pos showing]
      exact (flags_broadcast menu .menuClose { s with isOpen := false }).state
    · rw [if_neg showing]
      exact ⟨rfl, Bool.eq_false_iff.mpr showing⟩
  | openMenu menu =>
    have shows (s' : Session) : (showMenu menu s').state.menuBuilt = s'.menuBuilt ∧
        (showMenu menu s').state.isOpen = true :=
      (flags_broadcast menu .menuOpen { s' with isOpen := true }).state
    show (openMenu menu s).state.menuBuilt = true ∧ (openMenu menu s).state.isOpen = true
    rw [openMenu_eq]
    by_cases built : s.menuBuilt = true
    · rw [if_pos built, (shows s).1]
      exact ⟨built, (shows s).2⟩
    · rw [if_neg built]
      exact shows (buildMenu menu s).state

end Session

end ModSettings
