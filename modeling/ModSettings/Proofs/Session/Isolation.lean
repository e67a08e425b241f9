/-
One mod's failures are nobody else's business.

Two runs of a session are compared that differ in how hooks of some mods end.
`isolated_after` says that nothing else comes of it: the other mods are told the
same in the same order and can see the same, the menu is asked the same, and the
registry, the store and the loaded mods are the same after every operation.  Only
the questions that a widget asks of such a mod may be answered in another way.
That no operation fails by itself is said by the types, for a flow has no way to.

What the two sessions have in common at every moment is `Session.Alike`: all but
their callers is the same, and their callers are alike.
-/
import ModSettings.Proofs.Event.Alike
import ModSettings.Proofs.Session.Tables

namespace ModSettings

/-! ## Tables of callers -/

/-- The tables have callers that are alike under the same keys, and the same callers
under some of them. -/
structure Attachments.Alike (catalog : Catalog) (same : Key → Prop) (t t' : Attachments Caller) :
    Prop where
  slots : t.keys.Pairwise fun k k' => k.sameSlot k' = false
  keys : t'.keys = t.keys
  rows : ∀ k a, t.get? k = some a →
    ∃ a', t'.get? k = some a' ∧ a.Alike { key := k, catalog } a' ∧ (same k → a' = a)

namespace Attachments.Alike

variable {catalog : Catalog} {same same' : Key → Prop} {t t' : Attachments Caller} {key : Key}
  {a a' : Caller}

theorem absent (h : t.Alike catalog same t') (free : t.get? key = none) :
    t'.get? key = none := by
  refine Option.eq_none_iff_forall_ne_some.mpr fun a' found => ?_
  have member : key ∈ t.keys := h.keys ▸ mem_keys.mpr ⟨a', found⟩
  obtain ⟨a, there⟩ := mem_keys.mp member
  rw [free] at there
  exact nomatch there

theorem mono (h : t.Alike catalog same t') (fewer : ∀ k, same' k → same k) :
    t.Alike catalog same' t' where
  slots := h.slots
  keys := h.keys
  rows k a found := by
    obtain ⟨a', found', alike, equal⟩ := h.rows k a found
    exact ⟨a', found', alike, fun common => equal (fewer k common)⟩

theorem replace (h : t.Alike catalog same t') (alike : a.Alike { key, catalog } a')
    (equal : same key → a' = a) : (t.replace key a).Alike catalog same (t'.replace key a') where
  slots := by rw [keys_replace]; exact h.slots
  keys := by rw [keys_replace, keys_replace, h.keys]
  rows k b found := by
    rw [get?_replace] at found ⊢
    by_cases here : k = key
    · subst here
      rw [if_pos rfl] at found ⊢
      obtain ⟨old, there, rfl⟩ := Option.map_eq_some_iff.mp found
      obtain ⟨old', there', _, _⟩ := h.rows k old there
      exact ⟨a', by rw [there', Option.map_some], alike, equal⟩
    · rw [if_neg here] at found ⊢
      exact h.rows k b found

theorem erase (h : t.Alike catalog same t') (key : Key) :
    (t.erase key).Alike catalog same (t'.erase key) where
  slots := by rw [keys_erase]; exact h.slots.filter _
  keys := by rw [keys_erase, keys_erase, h.keys]
  rows k b found := by
    rw [get?_erase] at found ⊢
    by_cases gone : k = key
    · rw [if_pos gone] at found
      exact nomatch found
    · rw [if_neg gone] at found ⊢
      exact h.rows k b found

theorem insert_stale (h : t.Alike catalog same t') (proper : key ≠ .null)
    (stale : t.takes key = false) (others : ∀ k, k ≠ key → same' k → same k) :
    t.Alike catalog same' t' where
  slots := h.slots
  keys := h.keys
  rows k b found := by
    obtain ⟨b', found', alike, common⟩ := h.rows k b found
    have other : k ≠ key := by
      intro here
      rw [here, get?_of_not_takes h.slots proper stale] at found
      cases found
    exact ⟨b', found', alike, fun still => common (others k other still)⟩

theorem insert (h : t.Alike catalog same t') (proper : key ≠ .null)
    (alike : a.Alike { key, catalog } a') (equal : same' key → a' = a)
    (others : ∀ k, k ≠ key → same' k → same k) :
    (t.insert key a).Alike catalog same' (t'.insert key a') := by
  have takes' : t'.takes key = t.takes key := by rw [takes, takes, h.keys]
  cases taken : t.takes key with
  | false =>
    rw [insert_of_not_takes taken, insert_of_not_takes (takes'.trans taken)]
    exact h.insert_stale proper taken others
  | true =>
    rw [taken] at takes'
    refine ⟨?_, ?_, fun k b found => ?_⟩
    · rw [keys_insert_of_takes taken]
      refine List.pairwise_append.mpr ⟨h.slots.filter _, List.pairwise_singleton _ _, ?_⟩
      intro k member k' last
      rw [List.mem_singleton.mp last]
      simpa using (List.mem_filter.mp member).2
    · rw [keys_insert_of_takes taken, keys_insert_of_takes takes', h.keys]
    · rw [get?_insert_of_takes taken] at found
      rw [get?_insert_of_takes takes']
      by_cases here : k = key
      · subst here
        rw [if_pos rfl] at found ⊢
        cases found
        exact ⟨a', rfl, alike, equal⟩
      · rw [if_neg here] at found ⊢
        by_cases slot : k.sameSlot key = true
        · rw [if_pos slot] at found
          cases found
        · rw [if_neg slot] at found ⊢
          obtain ⟨b', found', alike, common⟩ := h.rows k b found
          exact ⟨b', found', alike, fun still => common (others k here still)⟩

end Attachments.Alike

/-! ## Sessions -/

/-- The sessions differ in their callers only, and these are alike. -/
inductive Session.Alike (config : Config) (catalog : Catalog) (same : Key → Prop) :
    Session → Session → Prop
  | intro {s : Session} {t' : Attachments Caller}
      (settled : s.config = config ∧ s.catalog = catalog)
      (callers : s.callers.Alike catalog same t') :
      Alike config catalog same s { s with callers := t' }

/-- The mod waits for the answer of its hook. -/
def Event.isQuestion : Event → Bool
  | signal _ | button _ _ => false
  | _ => true

theorem Event.subsingleton_answer {event : Event} (h : event.isQuestion = false) :
    Subsingleton event.Answer := by
  cases event with
  | signal s => exact inferInstanceAs (Subsingleton Unit)
  | button name index => exact inferInstanceAs (Subsingleton Unit)
  | _ => exact absurd h.symm Bool.false_ne_true

namespace Session

section

variable {config : Config} {catalog : Catalog} {same : Key → Prop} {α β : Type} {key : Key}

theorem Alike.mono {same' : Key → Prop} {s s' : Session} (h : Alike config catalog same s s')
    (fewer : ∀ k, same' k → same k) : Alike config catalog same' s s' := by
  obtain ⟨settled, callers⟩ := h
  exact .intro settled (callers.mono fewer)

theorem Alike.rest {s s' : Session} (h : Alike config catalog same s s') :
    s.shared = s'.shared ∧ s.order = s'.order ∧ s.isOpen = s'.isOpen ∧
      s.menuBuilt = s'.menuBuilt := by
  obtain ⟨_, _⟩ := h
  exact ⟨rfl, rfl, rfl, rfl⟩

theorem alike_onShared {Q : α → β → Prop} {m : Flow Shared α} {m' : Flow Shared β}
    (h : Flow.Alike Eq Q m m') :
    Flow.Alike (Alike config catalog same) Q (onShared m) (onShared m') := by
  intro s s' start
  obtain ⟨settled, callers⟩ := start
  obtain ⟨state, value, dealings⟩ := h s.shared s.shared rfl
  refine ⟨?_, value, dealings⟩
  show Alike config catalog same { s with shared := (m s.shared).state } _
  rw [state]
  exact .intro settled callers

/-- What is done through a caller gives the same if the caller is the same or if
there is but one thing to give. -/
theorem alike_withCaller {f : Caller → Context → Flow Shared (α × Caller)} (key : Key)
    (alike : ∀ {ctx a a'}, Caller.Alike ctx a a' →
      Flow.Alike Eq (fun r r' => r.2.Alike ctx r'.2) (f a ctx) (f a' ctx)) :
    Flow.Alike (Alike config catalog same)
      (fun v v' => same key ∨ Subsingleton α → v = v') (withCaller key f) (withCaller key f) := by
  intro s s' start
  obtain ⟨⟨rfl, rfl⟩, callers⟩ := start
  rename_i t'
  unfold withCaller
  cases found : s.callers.get? key with
  | none =>
    rw [show ({ s with callers := t' } : Session).callers.get? key = none from
      callers.absent found]
    exact ⟨.intro ⟨rfl, rfl⟩ callers, fun _ => rfl, rfl⟩
  | some a =>
    obtain ⟨a', found', pair, equal⟩ := callers.rows key a found
    rw [show ({ s with callers := t' } : Session).callers.get? key = some a' from found']
    have ran := alike pair s.shared s.shared rfl
    have equal' (common : same key) :
        f a' { key, catalog := s.catalog } s.shared = f a { key, catalog := s.catalog } s.shared := by
      rw [equal common]
    refine ⟨?_, fun one => ?_, ran.dealings⟩
    · dsimp only
      rw [← ran.state]
      exact .intro ⟨rfl, rfl⟩ (callers.replace ran.value fun common => by rw [equal' common])
    · rcases one with common | single
      · show Except.ok _ = Except.ok _
        rw [equal' common]
      · exact congrArg Except.ok (Subsingleton.elim _ _)

theorem alike_deliver (key : Key) (event : Event) :
    Flow.Alike (Alike config catalog same)
      (fun v v' => same key ∨ Subsingleton event.Answer → v = v')
      (deliver key event) (deliver key event) :=
  alike_withCaller key fun pair => Caller.alike_deliver pair event

theorem alike_signalTo (menu : Menu) (sent : Signal) (key : Key) :
    Flow.Alike (Alike config catalog same) Eq (signalTo menu sent key) (signalTo menu sent key) := by
  refine Flow.alike_bind (alike_withCaller key fun pair => ?_) fun _ _ _ => Flow.alike_pure rfl
  exact Flow.alike_bind (Caller.alike_signal pair menu sent) fun _ _ kept => Flow.alike_pure kept

theorem alike_broadcast (menu : Menu) (sent : Signal) :
    Flow.Alike (Alike config catalog same) Eq (broadcast menu sent) (broadcast menu sent) := by
  refine Flow.alike_bind Flow.alike_get fun s s' start => ?_
  obtain ⟨_, _⟩ := start
  exact Flow.alike_forEach (alike_signalTo menu sent) s.order

/-! ### Operations that load nothing -/

theorem alike_flags {f : Session → Session}
    (flags : ∀ (s : Session) (t' : Attachments Caller),
      f { s with callers := t' } = { f s with callers := t' })
    (others : ∀ s, (f s).config = s.config ∧ (f s).catalog = s.catalog ∧ (f s).callers = s.callers) :
    Flow.Alike (Alike config catalog same) Eq (Flow.modify f) (Flow.modify f) := by
  refine Flow.alike_modify fun s s' start => ?_
  obtain ⟨⟨rfl, rfl⟩, callers⟩ := start
  rename_i t'
  obtain ⟨sameConfig, sameCatalog, sameCallers⟩ := others s
  rw [flags s t']
  exact .intro ⟨sameConfig, sameCatalog⟩ (sameCallers ▸ callers)

theorem alike_openMenu (menu : Menu) :
    Flow.Alike (Alike config catalog same) Eq (openMenu menu) (openMenu menu) := by
  have opens : Flow.Alike (Alike config catalog same) Eq
      (do Flow.modify fun s : Session => { s with isOpen := true }
          broadcast menu .menuOpen)
      (do Flow.modify fun s : Session => { s with isOpen := true }
          broadcast menu .menuOpen) :=
    Flow.alike_bind (alike_flags (fun _ _ => rfl) fun _ => ⟨rfl, rfl, rfl⟩) fun _ _ _ =>
      alike_broadcast menu _
  refine Flow.alike_bind Flow.alike_get fun s s' start => ?_
  obtain ⟨_, _⟩ := start
  cases s.menuBuilt with
  | true => exact opens
  | false =>
    refine Flow.alike_bind (alike_broadcast menu _) fun _ _ _ => ?_
    exact Flow.alike_bind (alike_flags (fun _ _ => rfl) fun _ => ⟨rfl, rfl, rfl⟩) fun _ _ _ =>
      opens

theorem alike_closeMenu (menu : Menu) :
    Flow.Alike (Alike config catalog same) Eq (closeMenu menu) (closeMenu menu) := by
  refine Flow.alike_bind Flow.alike_get fun s s' start => ?_
  obtain ⟨_, _⟩ := start
  cases s.isOpen with
  | false => exact Flow.alike_pure rfl
  | true =>
    exact Flow.alike_bind (alike_flags (fun _ _ => rfl) fun _ => ⟨rfl, rfl, rfl⟩) fun _ _ _ =>
      alike_broadcast menu _

theorem alike_enterWorld (menu : Menu) :
    Flow.Alike (Alike config catalog same) Eq (enterWorld menu) (enterWorld menu) :=
  Flow.alike_bind (alike_onShared (Flow.alike_refl _)) fun _ _ _ => alike_broadcast menu _

theorem alike_exitWorld (menu : Menu) :
    Flow.Alike (Alike config catalog same) Eq (exitWorld menu) (exitWorld menu) :=
  Flow.alike_bind (alike_onShared (Flow.alike_refl _)) fun _ _ _ => alike_broadcast menu _

/-- A widget may get another answer if it asks a question of a mod that is not the
same. -/
theorem alike_answerWidget (key : Key) (event : Event) :
    Flow.Alike (Alike config catalog same)
      (fun v v' => (event.isQuestion = true → same key) → v = v')
      (answerWidget key event) (answerWidget key event) := by
  have delivered (event : Event) : Flow.Alike (Alike config catalog same)
      (fun v v' => (event.isQuestion = true → same key) → v = v')
      (deliver key event) (deliver key event) := by
    refine (alike_deliver key event).weaken fun v v' equal asks => equal ?_
    cases question : event.isQuestion with
    | true => exact Or.inl (asks question)
    | false => exact Or.inr (Event.subsingleton_answer question)
  cases event with
  | signal sent => exact Flow.alike_pure fun _ => rfl
  | button name index => exact delivered _
  | inputEdit input text caret => exact delivered _
  | caretMove input text caret anchor =>
    exact delivered (.caretMove input text (clampCaret text caret) anchor)
  | sliderText slider value =>
    show Flow.Alike _ _ (sliderText key slider value) (sliderText key slider value)
    unfold sliderText
    cases slider.display with
    | custom => exact delivered _
    | _ => exact Flow.alike_pure fun _ => rfl
  | visibility setting inWorld =>
    refine Flow.alike_bind Flow.alike_get fun s s' start => ?_
    obtain ⟨_, _⟩ := start
    dsimp only
    cases setting.access.visible? s.shared.registry.inWorld with
    | some visible => exact Flow.alike_pure fun _ => rfl
    | none =>
      exact (alike_withCaller key fun pair => Caller.alike_visible pair setting).weaken
        fun v v' equal asks => equal (Or.inl (asks rfl))

theorem alike_unload (key : Key) :
    Flow.Alike (Alike config catalog same) Eq (unload key) (unload key) := by
  refine Flow.alike_bind Flow.alike_get fun s s' start => ?_
  obtain ⟨⟨rfl, rfl⟩, callers⟩ := start
  rename_i t'
  cases found : s.callers.get? key with
  | none =>
    rw [show ({ s with callers := t' } : Session).callers.get? key = none from
      callers.absent found]
    exact Flow.alike_pure rfl
  | some a =>
    obtain ⟨a', found', pair, _⟩ := callers.rows key a found
    rw [show ({ s with callers := t' } : Session).callers.get? key = some a' from found']
    refine Flow.alike_bind (Flow.alike_modify fun s s' start => ?_) fun _ _ _ => ?_
    · obtain ⟨settled, callers⟩ := start
      exact .intro settled (callers.erase key)
    refine Flow.alike_bind (alike_onShared (Caller.alike_signal pair _ _)) fun _ _ _ => ?_
    refine Flow.alike_bind (alike_flags (fun _ _ => rfl) fun _ => ⟨rfl, rfl, rfl⟩) fun _ _ _ => ?_
    refine Flow.alike_bind (alike_onShared (Flow.alike_refl _)) fun _ _ _ => ?_
    refine Flow.alike_bind (alike_onShared (Flow.alike_refl _)) fun _ _ _ => ?_
    exact Flow.alike_bind (Flow.alike_log _ _ _ _) fun _ _ _ => Flow.alike_pure rfl

theorem alike_shutdown : Flow.Alike (Alike config catalog same) Eq shutdown shutdown := by
  have unloaded (key : Key) :
      Flow.Alike (Alike config catalog same) Eq (unloadOrWarn key) (unloadOrWarn key) := by
    refine Flow.alike_bind (alike_unload key) fun v v' same => ?_
    subst same
    cases v with
    | ok _ => exact Flow.alike_pure rfl
    | error e => exact Flow.alike_log _ _ _ _
  refine Flow.alike_bind Flow.alike_get fun s s' start => ?_
  obtain ⟨_, _⟩ := start
  refine Flow.alike_bind (Flow.alike_forEach unloaded s.order.reverse) fun _ _ _ => ?_
  refine Flow.alike_bind (alike_onShared (Flow.alike_refl _)) fun _ _ _ => ?_
  refine Flow.alike_bind (alike_flags (fun _ _ => rfl) fun _ => ⟨rfl, rfl, rfl⟩) fun _ _ _ => ?_
  exact Flow.alike_log _ _ _ _

/-! ### Loading -/

/-- The hooks of a mod depend on the settings of the session and its catalog only. -/
theorem value_chooseHooks_eq (d : Descriptor) (key : Key) (s : Session) :
    (chooseHooks d key s).value =
      (chooseHooks d key { config := s.config, catalog := s.catalog }).value := by
  unfold chooseHooks
  cases d.hooks with
  | some hooks => cases d.assembly <;> rfl
  | none =>
    cases d.assembly with
    | none => rfl
    | some assembly =>
      show (bindAssembly d key assembly s).value = (bindAssembly d key assembly _).value
      unfold bindAssembly resolveHolder
      cases d.holder.resolve d.mainType <;> rfl

theorem value_prepare_eq (d : Descriptor) (key : Key) (s : Session) : (prepare d key s).value =
    (chooseHooks d key { config := s.config, catalog := s.catalog }).value := by
  have declared := (declares_settings key d.settings s).state.1
  show (chooseHooks d key (Flow.forEach _ d.settings s).state).value = _
  rw [value_chooseHooks_eq, declared]

end

end Session

/-- The mods have the same name, class and settings, and whatever key they get, they
handle the same events and their hooks are alike. -/
structure Descriptor.Alike (config : Config) (catalog : Catalog) (d d' : Descriptor) : Prop where
  name : d'.name = d.name
  displayName : d'.displayName = d.displayName
  mainType : d'.mainType = d.mainType
  settings : d'.settings = d.settings
  handles : ∀ key, (Session.chooseHooks d' key { config, catalog }).value.handles =
    (Session.chooseHooks d key { config, catalog }).value.handles
  hooks : ∀ key, Hooks.Alike { key, catalog } (Session.chooseHooks d key { config, catalog }).value
    (Session.chooseHooks d' key { config, catalog }).value

theorem Descriptor.Alike.refl {config : Config} {catalog : Catalog} (d : Descriptor) :
    d.Alike config catalog d :=
  ⟨rfl, rfl, rfl, rfl, fun _ => rfl, fun _ => .refl _⟩

/-- Hooks given as such may end as they like. -/
theorem Descriptor.alike_ending {config : Config} {catalog : Catalog} {d : Descriptor}
    {hooks : Hooks} (given : d.hooks = some hooks) (ends : Context → (event : Event) → Desk →
      Outcome HookError event.Answer → Outcome HookError event.Answer) :
    d.Alike config catalog { d with hooks := some (hooks.ending ends) } := by
  have chosen {d : Descriptor} {hooks : Hooks} (given : d.hooks = some hooks) (key : Key) :
      (Session.chooseHooks d key { config, catalog }).value = hooks := by
    unfold Session.chooseHooks
    rw [given]
    cases d.assembly <;> rfl
  refine ⟨rfl, rfl, rfl, rfl, fun key => ?_, fun key => ?_⟩
  · rw [chosen given, chosen rfl]
    rfl
  · rw [chosen given, chosen rfl]
    exact Hooks.alike_ending hooks ends

namespace Session

section

variable {config : Config} {catalog : Catalog} {same : Key → Prop} {d d' : Descriptor} {key : Key}

theorem alike_prepare (descriptors : d.Alike config catalog d') (key : Key) :
    Flow.Alike (Alike config catalog same)
      (fun h h' => h'.handles = h.handles ∧ Hooks.Alike { key, catalog } h h' ∧ (d' = d → h' = h))
      (prepare d key) (prepare d' key) := by
  unfold prepare
  rw [descriptors.settings]
  refine Flow.alike_bind
    (Flow.alike_forEach (fun _ => alike_onShared (Flow.alike_refl _)) _) fun _ _ _ => ?_
  intro s s' start
  have still := still_chooseHooks d key s
  have still' := still_chooseHooks d' key s'
  refine ⟨?_, ?_, ?_⟩
  · rw [show (chooseHooks d key s).state = s from still.state,
      show (chooseHooks d' key s').state = s' from still'.state]
    exact start
  · obtain ⟨⟨rfl, rfl⟩, _⟩ := start
    rw [value_chooseHooks_eq d, value_chooseHooks_eq d']
    exact ⟨descriptors.handles key, descriptors.hooks key, fun one => by rw [one]⟩
  · rw [Journal.dealings_logs still.journal, Journal.dealings_logs still'.journal]

/-- Loading between the binding of the caller and its joining the others. -/
def introduce (d : Descriptor) (key : Key) : Flow Session Caller := do
  let hooks ← prepare d key
  let caller := Caller.ofHooks key d.displayName hooks
  logFor d.displayName .debug ("Hooks: " ++ caller.capabilities.text)
  let s ← Flow.get
  let caller ← onShared (caller.signal { key, catalog := s.catalog } .absent .load)
  Flow.log .info ("Loaded settings API for " ++ d.displayName)
  return caller

theorem load_eq_introduce {s : Session} {r r' : Registry}
    (h : s.shared.registry.register d.name d.mainType = .ok (key, r))
    (bound : r.bindCaller key = .ok r') :
    let told := introduce d key { s with shared := { s.shared with registry := r' } }
    load d s = ⟨.ok key,
      { told.state with
        callers := told.state.callers.insert key told.value
        order := told.state.order ++ [key] },
      .log .debug ("Registered mod '" ++ d.name ++ "' as " ++ key.text) :: told.journal⟩ := by
  rw [load_eq h bound]
  simp only [introduce, Bind.bind, Flow.bind, logFor, Flow.log, Flow.write, Flow.get, onShared,
    Flow.zoom, List.append_assoc, List.cons_append, List.nil_append, List.append_nil, Pure.pure,
    Flow.pure]

theorem alike_introduce (descriptors : d.Alike config catalog d') (key : Key) :
    Flow.Alike (Alike config catalog same)
      (fun a a' => a.Alike { key, catalog } a' ∧ (d' = d → a' = a))
      (introduce d key) (introduce d' key) := by
  refine Flow.alike_bind (alike_prepare descriptors key) fun h h' chosen => ?_
  obtain ⟨handles, hooks, equal⟩ := chosen
  have pair : (Caller.ofHooks key d.displayName h).Alike { key, catalog }
      (Caller.ofHooks key d'.displayName h') :=
    ⟨rfl, descriptors.displayName, handles, hooks⟩
  refine Flow.alike_bind (Flow.alike_log _ _ _ _) fun _ _ _ => ?_
  refine Flow.alike_bind Flow.alike_get fun s s' start => ?_
  obtain ⟨⟨rfl, rfl⟩, _⟩ := start
  have told : Flow.Alike Eq
      (fun a a' => a.Alike { key, catalog := s.catalog } a' ∧ (d' = d → a' = a))
      ((Caller.ofHooks key d.displayName h).signal { key, catalog := s.catalog } .absent .load)
      ((Caller.ofHooks key d'.displayName h').signal { key, catalog := s.catalog } .absent
        .load) := by
    intro shared shared' start
    obtain ⟨state, value, dealings⟩ := Caller.alike_signal pair .absent .load _ _ start
    refine ⟨state, ⟨value, fun one => ?_⟩, dealings⟩
    rw [one, equal one, start]
  refine Flow.alike_bind (alike_onShared told) fun a a' kept => ?_
  exact Flow.alike_bind (Flow.alike_log _ _ _ _) fun _ _ _ => Flow.alike_pure kept

/-- Where the two loadings give the key, the callers are the same if the mods
are. -/
theorem alike_load (descriptors : d.Alike config catalog d') {s s' : Session}
    (start : Alike config catalog same s s') {same' : Key → Prop}
    (loaded : ∀ k, (load d s).value = .ok k → same' k → d' = d)
    (others : ∀ k, (load d s).value ≠ .ok k → same' k → same k) :
    (load d s).Alike (Alike config catalog same') Eq (load d' s') := by
  have registers : s'.shared.registry.register d'.name d'.mainType =
      s.shared.registry.register d.name d.mainType := by
    obtain ⟨_, _⟩ := start
    rw [descriptors.name, descriptors.mainType]
  cases registered : s.shared.registry.register d.name d.mainType with
  | error e =>
    rw [registered] at registers
    rw [load_of_error registered] at others ⊢
    rw [load_of_error registers]
    exact ⟨start.mono fun k => others k nofun, rfl, rfl⟩
  | ok result =>
    obtain ⟨key, r⟩ := result
    rw [registered] at registers
    cases bound : r.bindCaller key with
    | error e =>
      rw [load_of_unbound registered bound] at others ⊢
      rw [load_of_unbound registers bound]
      obtain ⟨settled, callers⟩ := start.mono fun k => others k nofun
      exact ⟨.intro settled callers, rfl, rfl⟩
    | ok r' =>
      have opened : Alike config catalog same
          { s with shared := { s.shared with registry := r' } }
          { s' with shared := { s'.shared with registry := r' } } := by
        obtain ⟨settled, callers⟩ := start
        exact .intro settled callers
      have told := alike_introduce descriptors key _ _ opened
      rw [load_eq_introduce registered bound] at loaded others ⊢
      rw [load_eq_introduce registers bound]
      refine ⟨?_, rfl, told.dealings⟩
      obtain ⟨pair, equal⟩ := told.value
      have state := told.state
      revert state
      generalize (introduce d key _).state = joined
      generalize (introduce d' key _).state = joined'
      intro state
      obtain ⟨settled, callers⟩ := state
      have proper : key ≠ .null := Registry.ne_null_of_register registered
      refine .intro settled (callers.insert proper pair ?_ ?_)
      · exact fun still => equal (loaded key rfl still)
      · exact fun k other still => others k (fun given => other (Except.ok.inj given).symm) still

/-- Which mods are loaded, and under which keys, does not depend on how hooks end. -/
theorem value_load_eq (descriptors : d.Alike config catalog d') {s s' : Session}
    (start : Alike config catalog same s s') : (load d s).value = (load d' s').value :=
  (alike_load descriptors start (fun _ _ (never : False) => never.elim)
    fun _ _ never => never.elim).value

end

end Session

/-! ## Runs -/

/-- The same operation, or the loading of mods that are alike. -/
inductive Operation.Alike (config : Config) (catalog : Catalog) : Operation → Operation → Prop
  | same (op : Operation) : Alike config catalog op op
  | load {d d' : Descriptor} (descriptors : d.Alike config catalog d') :
      Alike config catalog (.load d) (.load d')

namespace Session

section

variable {config : Config} {catalog : Catalog} {s s' : Session} {op op' : Operation}

theorem alike_perform {same : Key → Prop} (other : op.isLoad = false) :
    Flow.Alike (Alike config catalog same)
      (fun v v' => (∀ key event, op = .widget key event → event.isQuestion = true → same key) →
        v = v') op.perform op.perform := by
  cases op with
  | load d => exact absurd other.symm Bool.false_ne_true
  | unload key => exact (alike_unload key).weaken fun _ _ equal _ => equal
  | openMenu menu => exact (alike_openMenu menu).weaken fun _ _ equal _ => equal
  | closeMenu menu => exact (alike_closeMenu menu).weaken fun _ _ equal _ => equal
  | enterWorld menu => exact (alike_enterWorld menu).weaken fun _ _ equal _ => equal
  | exitWorld menu => exact (alike_exitWorld menu).weaken fun _ _ equal _ => equal
  | widget key event =>
    exact (alike_answerWidget key event).weaken fun _ _ equal asks => equal (asks key event rfl)
  | shutdown => exact alike_shutdown.weaken fun _ _ equal _ => equal

/-- The callers are the same under a key if the same mod was last loaded under
it. -/
theorem Alike.step {past past' : Key → Option Descriptor}
    (start : Alike config catalog (fun k => past k = past' k) s s')
    (ops : op.Alike config catalog op') :
    Alike config catalog
        (fun k => (op.loads? s k).or (past k) = (op'.loads? s' k).or (past' k))
        (op.perform s).state (op'.perform s').state ∧
      Journal.dealings (op.perform s).journal = Journal.dealings (op'.perform s').journal := by
  have loading {d d' : Descriptor} (descriptors : d.Alike config catalog d') :
      (load d s).Alike (Alike config catalog fun k =>
        ((Operation.load d).loads? s k).or (past k) =
          ((Operation.load d').loads? s' k).or (past' k)) Eq (load d' s') := by
    have values := value_load_eq descriptors start
    refine alike_load descriptors start (fun k given still => ?_) fun k given still => ?_
    · rw [Operation.loads?, Operation.loads?, ← values, given] at still
      simpa using still.symm
    · have none (d : Descriptor) (s : Session) (other : (load d s).value ≠ .ok k) :
          (Operation.load d).loads? s k = none := by
        rw [Operation.loads?]
        cases result : (load d s).value with
        | error e => rfl
        | ok loaded => exact if_neg fun same => other (result.trans (congrArg Except.ok same))
      rw [none d s given, none d' s' (values ▸ given)] at still
      exact still
  have other (op : Operation) (passing : op.isLoad = false) :
      Alike config catalog (fun k => (op.loads? s k).or (past k) = (op.loads? s' k).or (past' k))
          (op.perform s).state (op.perform s').state ∧
        Journal.dealings (op.perform s).journal = Journal.dealings (op.perform s').journal := by
    have both := alike_perform passing s s' start
    have none (s : Session) (k : Key) : op.loads? s k = none := by
      cases op with
      | load d => exact absurd passing.symm Bool.false_ne_true
      | _ => rfl
    simp only [none, Option.none_or]
    exact ⟨both.state, both.dealings⟩
  cases ops with
  | load descriptors => exact ⟨(loading descriptors).state, (loading descriptors).dealings⟩
  | same op =>
    cases op with
    | load d => exact ⟨(loading (.refl d)).state, (loading (.refl d)).dealings⟩
    | _ => exact other _ rfl

theorem Alike.after {run run' : List Operation}
    (ops : List.Forall₂ (Operation.Alike config catalog) run run')
    {past past' : Key → Option Descriptor}
    (start : Alike config catalog (fun k => past k = past' k) s s') :
    Alike config catalog
      (fun k => (s.loaded? k run).or (past k) = (s'.loaded? k run').or (past' k))
      (s.after run) (s'.after run') := by
  induction ops generalizing s s' past past' with
  | nil => exact start
  | cons first _ ih =>
    have rest := ih (start.step first).1
    simp only [loaded?, Option.or_assoc]
    exact rest

theorem alike_fresh (config : Config) (catalog : Catalog) :
    Alike config catalog (fun _ => (none : Option Descriptor) = none)
      { config, catalog } { config, catalog } := by
  have callers : ({} : Attachments Caller).Alike catalog (fun _ => (none : Option Descriptor) = none)
      {} := ⟨.nil, rfl, nofun⟩
  exact @Alike.intro config catalog _ { config, catalog } {} ⟨rfl, rfl⟩ callers

end

/-- Two runs in which hooks of some mods end in different ways, but change the same
things, are the same to everybody else.  After every run the registry, the store,
the loaded mods and the menu's flags are the same, and every next operation tells
mods and the menu the same: the same events in the same order, with the same
payloads, to hooks that see the same.  It also gives the same value, unless it is
a question to a mod whose hooks end in different ways. -/
theorem isolated_after (config : Config) (catalog : Catalog) {run run' : List Operation}
    (alike : List.Forall₂ (Operation.Alike config catalog) run run') :
    let fresh : Session := { config, catalog }
    let s := fresh.after run
    let s' := fresh.after run'
    (s.shared = s'.shared ∧ s.order = s'.order ∧ s.isOpen = s'.isOpen ∧
        s.menuBuilt = s'.menuBuilt) ∧
      (∀ op op', Operation.Alike config catalog op op' →
        Journal.dealings (op.perform s).journal = Journal.dealings (op'.perform s').journal) ∧
      (∀ d d', Descriptor.Alike config catalog d d' → (load d s).value = (load d' s').value) ∧
      ∀ op : Operation, (∀ key event, op = .widget key event → event.isQuestion = true →
          fresh.loaded? key run = fresh.loaded? key run') →
        (op.perform s).value = (op.perform s').value := by
  intro fresh s s'
  have both : Alike config catalog
      (fun k => (fresh.loaded? k run).or none = (fresh.loaded? k run').or none) s s' :=
    .after alike (alike_fresh config catalog)
  simp only [Option.or_none] at both
  refine ⟨both.rest, fun op op' ops => (both.step ops).2,
    fun d d' descriptors => value_load_eq descriptors both, fun op asks => ?_⟩
  cases op with
  | load d => exact value_load_eq (.refl d) both
  | _ => exact (alike_perform rfl s s' both).value asks

/-- A mod that shows what others hide and panics at every other event. -/
def sampleShowing : Descriptor :=
  { sampleUnruly "First" with
    hooks := (sampleUnruly "First").hooks.map fun hooks => hooks.ending fun _ event _ _ =>
      match event with
      | .visibility _ _ => .ok true
      | _ => .panic ⟨none⟩ }

/-- The mod is loaded first, then another one, and the menu is opened. -/
def sampleGuests (d : Descriptor) : List Operation :=
  [.load d, .load (sampleUnruly "Second"), .openMenu .shown]

def sampleSession (d : Descriptor) : Session :=
  .after { config := {}, catalog := .standard } (sampleGuests d)

/-- Whether the first mod's hooks end in these ways or in those, the second mod gets
its turn when the menu closes.  The first mod's setting shows in one run only. -/
theorem isolated_after_sample :
    let s := sampleSession (sampleUnruly "First")
    let s' := sampleSession sampleShowing
    s.order = s'.order ∧ s.shared = s'.shared ∧
      Journal.dealings (closeMenu .shown s).journal =
        Journal.dealings (closeMenu .shown s').journal ∧
      (isVisible (.entry 1 1) ⟨"Shown", "Shown", .custom⟩ s).value = .ok false ∧
      (isVisible (.entry 1 1) ⟨"Shown", "Shown", .custom⟩ s').value = .ok true := by
  have alike : List.Forall₂ (Operation.Alike {} .standard)
      (sampleGuests (sampleUnruly "First")) (sampleGuests sampleShowing) :=
    .cons (.load (Descriptor.alike_ending rfl _)) (.cons (.same _) (.cons (.same _) .nil))
  obtain ⟨⟨shared, order, _, _⟩, told, _, _⟩ := isolated_after {} .standard alike
  exact ⟨order, shared, told _ _ (.same (.closeMenu .shown)), rfl, rfl⟩

end Session
end ModSettings
