/-
The life of a mod.

A mod's life begins with the loading that gave it its key and lasts as long as no
other loading gives that key again.  What reaches the mod in the meantime is kept
here as a list of events, and an operation adds to it what the state it begins in
says: that is `Life`, with one lemma for each way in which a life goes on.
-/
import ModSettings.Proofs.History
import ModSettings.Proofs.Session.Dispatch

namespace ModSettings

open Conduct

/-! ## The events of one mod -/

/-- Events that neither begin nor end a life and do not concern the menu. -/
def EventKind.isQuiet : EventKind → Bool
  | .load | .unload | .menuCreate | .menuOpen | .menuClose => false
  | _ => true

def Told.eventOf? (key : Key) : Told → Option EventKind
  | event k kind => if k = key then some kind else none
  | _ => none

def eventsOf (key : Key) (l : List Told) : List EventKind := l.filterMap (Told.eventOf? key)

section

variable {key : Key}

theorem eventsOf_append (a b : List Told) :
    eventsOf key (a ++ b) = eventsOf key a ++ eventsOf key b := List.filterMap_append

theorem mem_eventsOf {l : List Told} {kind : EventKind} (h : .event key kind ∈ l) :
    kind ∈ eventsOf key l :=
  List.mem_filterMap.mpr ⟨_, h, if_pos rfl⟩

theorem eventsOf_cons (kind : EventKind) (l : List Told) :
    eventsOf key (.event key kind :: l) = kind :: eventsOf key l :=
  List.filterMap_cons_some (if_pos rfl)

theorem eventsOf_event (k : Key) (kind : EventKind) :
    eventsOf key [.event k kind] = if k = key then [kind] else [] := by
  by_cases here : k = key
  · simp [eventsOf, Told.eventOf?, here]
  · simp [eventsOf, Told.eventOf?, here]

theorem eventsOf_signal (menu : Menu) (sent : Signal) (k : Key) :
    eventsOf key (menu.told sent k) = if k = key then [sent.kind] else [] := by
  have calls : eventsOf key (menu.told sent k).tail = [] := by
    cases menu <;> cases sent <;> rfl
  have split : menu.told sent k = [.event k sent.kind] ++ (menu.told sent k).tail := rfl
  rw [split, eventsOf_append, calls, List.append_nil, eventsOf_event]

/-- Of what reaches every mod of an order without repetition, a mod hears once. -/
theorem eventsOf_flatMap {order : List Key} (nodup : order.Nodup) {f : Key → List Told}
    {kind : EventKind} (one : ∀ k, eventsOf key (f k) = if k = key then [kind] else []) :
    eventsOf key (order.flatMap f) = if key ∈ order then [kind] else [] := by
  induction order with
  | nil => rfl
  | cons k rest ih =>
    obtain ⟨fresh, nodup⟩ := List.nodup_cons.mp nodup
    rw [List.flatMap_cons, eventsOf_append, one, ih nodup]
    by_cases here : k = key
    · subst here
      rw [if_pos rfl, if_neg fresh, if_pos List.mem_cons_self]
      rfl
    · rw [if_neg here, List.nil_append]
      refine if_congr ?_ rfl rfl
      rw [List.mem_cons, eq_comm, or_iff_right here]

end

namespace Operation

variable {s : Session} {key : Key}

/-- What an operation that gives no key brings to a loaded mod. -/
def brings (s : Session) (key : Key) : Operation → List EventKind
  | load _ => []
  | unload k => if k = key then [.unload] else []
  | openMenu _ => (if s.menuBuilt = true then [] else [.menuCreate]) ++ [.menuOpen]
  | closeMenu _ => if s.isOpen = true then [.menuClose] else []
  | enterWorld _ => [.worldEnter]
  | exitWorld _ => [.worldExit]
  | widget k event => if k = key ∧ event.asks = true then [event.kind] else []
  | shutdown => [.unload]

/-- The operation takes the mod of the key out, if there is one. -/
def Takes (key : Key) : Operation → Prop
  | unload k => k = key
  | shutdown => True
  | _ => False

theorem eventsOf_told {op : Operation} (nodup : s.order.Nodup) (other : op.gives? s ≠ some key) :
    eventsOf key (op.told s) = if key ∈ s.order then op.brings s key else [] := by
  have all (menu : Menu) (sent : Signal) : eventsOf key (s.order.flatMap (menu.told sent)) =
      if key ∈ s.order then [sent.kind] else [] :=
    eventsOf_flatMap nodup (eventsOf_signal menu sent)
  cases op with
  | load d =>
    rw [told, brings, ite_self]
    cases given : (load d).gives? s with
    | none => rfl
    | some k =>
      have elsewhere : k ≠ key := fun same => other (given.trans (congrArg some same))
      rw [Option.toList_some, List.map_singleton, eventsOf_event, if_neg elsewhere]
  | unload k =>
    rw [told, brings]
    by_cases here : k = key
    · subst here
      rw [if_pos rfl, apply_ite (eventsOf k), eventsOf_event, if_pos rfl]
      rfl
    · rw [if_neg here, ite_self, apply_ite (eventsOf key), eventsOf_event, if_neg here]
      exact ite_self _
  | openMenu menu =>
    rw [told, brings, eventsOf_append, all, apply_ite (eventsOf key), all]
    by_cases member : key ∈ s.order
    · rw [if_pos member, if_pos member, if_pos member]
      rfl
    · rw [if_neg member, if_neg member, if_neg member, List.append_nil]
      exact ite_self _
  | closeMenu menu =>
    rw [told, brings, apply_ite (eventsOf key), all]
    by_cases member : key ∈ s.order
    · rw [if_pos member, if_pos member]
      rfl
    · rw [if_neg member, if_neg member]
      exact ite_self _
  | enterWorld menu => exact all menu .worldEnter
  | exitWorld menu => exact all menu .worldExit
  | widget k event =>
    rw [told, brings, apply_ite (eventsOf key), eventsOf_event]
    by_cases here : k = key
    · subst here
      simp [eventsOf, ite_and]
    · simp [here, eventsOf]
  | shutdown =>
    have reversed : s.order.reverse.Nodup :=
      List.pairwise_reverse.mpr (nodup.imp Ne.symm)
    rw [told, List.map_eq_flatMap, eventsOf_flatMap reversed fun k => eventsOf_event k .unload]
    exact if_congr List.mem_reverse rfl rfl

/-- Of its loading a mod is told with its key, of all else while it is loaded. -/
theorem brings_of_told {op : Operation} {kind : EventKind} (nodup : s.order.Nodup)
    (told : .event key kind ∈ op.told s) (noLoad : kind ≠ .load) :
    op.gives? s ≠ some key ∧ key ∈ s.order ∧ kind ∈ op.brings s key := by
  have other : op.gives? s ≠ some key := by
    intro given
    cases op with
    | load d =>
      rw [Operation.told, given] at told
      exact noLoad (Told.event.inj (List.mem_singleton.mp told)).2
    | _ => cases given
  have heard := mem_eventsOf told
  rw [eventsOf_told nodup other] at heard
  by_cases loaded : key ∈ s.order
  · rw [if_pos loaded] at heard
    exact ⟨other, loaded, heard⟩
  · rw [if_neg loaded] at heard
    cases heard

theorem isQuiet_of_asks {event : Event} (asks : event.asks = true) : event.kind.isQuiet = true := by
  cases event with
  | signal sent => exact absurd asks Bool.false_ne_true
  | _ => rfl

/-- Only opening and closing the menu bring events of the menu. -/
theorem brings_cases {op : Operation} {kind : EventKind} (h : kind ∈ op.brings s key) :
    kind.isQuiet = true ∨ kind = .unload ∨
      (∃ menu, op = .openMenu menu ∧
        (kind = .menuOpen ∨ kind = .menuCreate ∧ ¬s.menuBuilt = true)) ∨
      ∃ menu, op = .closeMenu menu ∧ kind = .menuClose ∧ s.isOpen = true := by
  cases op with
  | load d => exact nomatch h
  | unload k =>
    rw [brings] at h
    split at h
    · exact Or.inr (Or.inl (List.mem_singleton.mp h))
    · exact nomatch h
  | openMenu menu =>
    refine Or.inr (Or.inr (Or.inl ⟨menu, rfl, ?_⟩))
    rcases List.mem_append.mp h with creates | shows
    · split at creates
      · exact nomatch creates
      · rename_i unbuilt
        exact Or.inr ⟨List.mem_singleton.mp creates, unbuilt⟩
    · exact Or.inl (List.mem_singleton.mp shows)
  | closeMenu menu =>
    rw [brings] at h
    split at h
    · rename_i showing
      exact Or.inr (Or.inr (Or.inr ⟨menu, rfl, List.mem_singleton.mp h, showing⟩))
    · exact nomatch h
  | enterWorld menu =>
    rw [List.mem_singleton.mp h]
    exact Or.inl rfl
  | exitWorld menu =>
    rw [List.mem_singleton.mp h]
    exact Or.inl rfl
  | widget k event =>
    rw [brings] at h
    split at h
    · rename_i asked
      rw [List.mem_singleton.mp h]
      exact Or.inl (isQuiet_of_asks asked.2)
    · exact nomatch h
  | shutdown => exact Or.inr (Or.inl (List.mem_singleton.mp h))

theorem menuCreate_of_brings {op : Operation} (h : .menuCreate ∈ op.brings s key) :
    (∃ menu, op = .openMenu menu) ∧ ¬s.menuBuilt = true := by
  rcases brings_cases h with quiet | unload | ⟨menu, rfl, shows | ⟨_, unbuilt⟩⟩ | ⟨_, _, closes, _⟩
  · exact nomatch quiet
  · exact nomatch unload
  · exact nomatch shows
  · exact ⟨⟨menu, rfl⟩, unbuilt⟩
  · exact nomatch closes

theorem menuOpen_of_brings {op : Operation} (h : .menuOpen ∈ op.brings s key) :
    ∃ menu, op = .openMenu menu := by
  rcases brings_cases h with quiet | unload | ⟨menu, rfl, _⟩ | ⟨_, _, closes, _⟩
  · exact nomatch quiet
  · exact nomatch unload
  · exact ⟨menu, rfl⟩
  · exact nomatch closes

theorem menuClose_of_brings {op : Operation} (h : .menuClose ∈ op.brings s key) :
    (∃ menu, op = .closeMenu menu) ∧ s.isOpen = true := by
  rcases brings_cases h with quiet | unload | ⟨_, _, shows | ⟨creates, _⟩⟩ | ⟨menu, rfl, _, showing⟩
  · exact nomatch quiet
  · exact nomatch unload
  · exact nomatch shows
  · exact nomatch creates
  · exact ⟨⟨menu, rfl⟩, showing⟩

end Operation

namespace Session.Enrolled

variable {c : Conduct Shared} {s : Session} {op : Operation} {key : Key}

/-- An operation that does not give the key brings something to its mod if there is a
caller for it. -/
theorem eventsOf_perform (discreet : c.Discreet) (h : Enrolled c s) (obeys : op.Obeys c)
    (other : op.gives? s ≠ some key) : eventsOf key (op.perform s).journal.told =
      if key ∈ s.callers.keys then op.brings s key else [] := by
  have brings : op.brings s.attended key = op.brings s key := by cases op <;> rfl
  rw [told_perform discreet h obeys, Operation.eventsOf_told h.nodup_listeners
    ((gives?_attended op s).symm ▸ other), brings]
  exact if_congr h.mem_listeners rfl rfl

/-- Other operations make no new caller, and some take one out. -/
theorem mem_keys_perform (lenient : c.Lenient) (h : Enrolled c s) (obeys : op.Obeys c)
    (other : op.gives? s ≠ some key) (there : key ∈ (op.perform s).state.callers.keys) :
    key ∈ s.callers.keys ∧ ¬op.Takes key := by
  have passes (passing : op.isPassing = true) (keeps : ¬op.Takes key) :
      key ∈ s.callers.keys ∧ ¬op.Takes key := by
    have calm := ((Operation.obeys_perform lenient passing s).state h.steady.ruled).1
    exact ⟨calm.keys ▸ there, keeps⟩
  cases op with
  | load d =>
    refine ⟨?_, id⟩
    change key ∈ (load d s).state.callers.keys at there
    rcases load_cases lenient h.steady.ruled h.steady.sound obeys with
      ⟨e, refused⟩ | ⟨given, opened, loads⟩
    · rwa [refused] at there
    · rw [Operation.gives?, loads.value] at other
      rcases loads.mem_keys there with rfl | old
      · exact absurd rfl other
      · exact old
  | unload k =>
    obtain ⟨old, another⟩ := mem_keys_unload.mp there
    exact ⟨old, fun same => another same.symm⟩
  | shutdown =>
    change key ∈ (shutdown s).state.callers.keys at there
    obtain ⟨caller, found⟩ := Attachments.mem_keys.mp there
    rw [shutdown_eq] at found
    rw [(forEach_unload s.order.reverse s).1] at found
    split at found
    · cases found
    · rename_i unlisted
      have listed := h.mem_listeners.mpr (Attachments.mem_keys.mpr ⟨caller, found⟩)
      exact absurd (List.mem_reverse.mpr (List.mem_of_mem_filter listed)) unlisted
  | _ => exact passes rfl id

end Session.Enrolled

/-! ## Lives -/

/-- The events of a mod's life, in the order in which they come. -/
structure Lifecycle (events : List EventKind) : Prop where
  load : ∃ rest, events = .load :: rest ∧ .load ∉ rest
  unload : ∀ front rest, events = front ++ .unload :: rest → rest = []
  create : events.count .menuCreate ≤ 1
  beforeOpen : ∀ front rest, events = front ++ .menuCreate :: rest → .menuOpen ∉ front

/-- An opening of the menu without a closing after it. -/
def Opened (events : List EventKind) : Prop :=
  ∃ front rest, events = front ++ .menuOpen :: rest ∧ .menuClose ∉ rest

/-- What is known of a life that began with the menu `built` or `opened`, or
neither, when the mod is still `here` or not and the menu is `isBuilt` or `isOpen`
now. -/
structure Life (built opened here isBuilt isOpen : Prop) (events : List EventKind) : Prop where
  lifecycle : Lifecycle events
  loaded : here → .unload ∉ events
  flagged : here → .menuCreate ∈ events ∨ .menuOpen ∈ events → isBuilt
  created : here → isBuilt → built ∨ .menuCreate ∈ events
  shown : here → isOpen → Opened events ∨ opened ∧ .menuOpen ∉ events ∧ .menuClose ∉ events

section

variable {built opened here isBuilt isOpen : Prop} {events : List EventKind} {e : EventKind}

theorem Lifecycle.concat (h : Lifecycle events) (noLoad : e ≠ .load) (going : .unload ∉ events)
    (once : e = .menuCreate → .menuCreate ∉ events ∧ .menuOpen ∉ events) :
    Lifecycle (events ++ [e]) where
  load := by
    obtain ⟨rest, rfl, others⟩ := h.load
    refine ⟨rest ++ [e], rfl, fun member => ?_⟩
    rcases List.mem_append.mp member with old | new
    · exact others old
    · exact noLoad (List.mem_singleton.mp new).symm
  unload front rest split := by
    rcases concat_eq_append_cons.mp split with ⟨empty, _, _⟩ | ⟨earlier, _, rfl⟩
    · exact empty
    · simp at going
  create := by
    rw [List.count_append]
    by_cases creates : e = .menuCreate
    · rw [List.count_eq_zero.mpr (once creates).1, creates]
      decide
    · rw [List.count_singleton, if_neg (by simpa using creates)]
      exact h.create
  beforeOpen front rest split := by
    rcases concat_eq_append_cons.mp split with ⟨_, rfl, same⟩ | ⟨earlier, _, before⟩
    · exact (once same.symm).2
    · exact h.beforeOpen front earlier before

theorem Opened.concat (h : Opened events) (noClose : e ≠ .menuClose) : Opened (events ++ [e]) := by
  obtain ⟨front, rest, rfl, others⟩ := h
  refine ⟨front, rest ++ [e], by simp, fun member => ?_⟩
  rcases List.mem_append.mp member with old | new
  · exact others old
  · exact noClose (List.mem_singleton.mp new).symm

namespace Life

theorem start (builtThen : isBuilt → built) (openThen : isOpen → opened) :
    Life built opened here isBuilt isOpen [.load] where
  lifecycle :=
    { load := ⟨[], rfl, List.not_mem_nil⟩
      unload := fun front rest split => by
        rcases (concat_eq_append_cons (l := [])).mp split with ⟨empty, _, _⟩ | ⟨_, _, none⟩
        · exact empty
        · simp at none
      create := by decide
      beforeOpen := fun front rest split => by
        rcases (concat_eq_append_cons (l := [])).mp split with ⟨_, rfl, _⟩ | ⟨_, _, none⟩
        · exact List.not_mem_nil
        · simp at none }
  loaded _ := by decide
  flagged _ := by
    rintro (create | shows)
    · exact absurd create (by decide)
    · exact absurd shows (by decide)
  created _ now := Or.inl (builtThen now)
  shown _ now := Or.inr ⟨openThen now, by decide, by decide⟩

theorem of_imp (h : Life built opened here isBuilt isOpen events) {here' : Prop}
    (stays : here' → here) : Life built opened here' isBuilt isOpen events where
  lifecycle := h.lifecycle
  loaded there := h.loaded (stays there)
  flagged there := h.flagged (stays there)
  created there := h.created (stays there)
  shown there := h.shown (stays there)

theorem absent (h : Life built opened here isBuilt isOpen events) {here' isBuilt' isOpen' : Prop}
    (gone : ¬here') : Life built opened here' isBuilt' isOpen' events where
  lifecycle := h.lifecycle
  loaded there := absurd there gone
  flagged there := absurd there gone
  created there := absurd there gone
  shown there := absurd there gone

section

variable (h : Life built opened here isBuilt isOpen events) (loaded : here)
include h loaded

theorem unload {here' isBuilt' isOpen' : Prop} (gone : ¬here') :
    Life built opened here' isBuilt' isOpen' (events ++ [.unload]) where
  lifecycle := h.lifecycle.concat nofun (h.loaded loaded) nofun
  loaded there := absurd there gone
  flagged there := absurd there gone
  created there := absurd there gone
  shown there := absurd there gone

theorem quiet (is_quiet : e.isQuiet = true) :
    Life built opened here isBuilt isOpen (events ++ [e]) := by
  have other {k : EventKind} (loud : k.isQuiet = false) : e ≠ k := by
    rintro rfl
    rw [loud] at is_quiet
    exact nomatch is_quiet
  have kept {k : EventKind} (loud : k.isQuiet = false) : k ∈ events ++ [e] ↔ k ∈ events := by
    rw [List.mem_append, List.mem_singleton, or_iff_left (other loud).symm]
  constructor
  · refine h.lifecycle.concat (other rfl) (h.loaded loaded) fun creates => ?_
    exact absurd creates (other rfl)
  · intro there
    rw [kept rfl]
    exact h.loaded there
  · intro there
    rw [kept rfl, kept rfl]
    exact h.flagged there
  · intro there now
    rw [kept rfl]
    exact h.created there now
  · intro there now
    rw [kept rfl, kept rfl]
    exact (h.shown there now).imp_left fun shows => shows.concat (other rfl)

theorem create (unbuilt : ¬isBuilt) {isBuilt' : Prop} (now : isBuilt') :
    Life built opened here isBuilt' isOpen (events ++ [.menuCreate]) := by
  have none : .menuCreate ∉ events ∧ .menuOpen ∉ events :=
    ⟨fun create => unbuilt (h.flagged loaded (Or.inl create)),
      fun shows => unbuilt (h.flagged loaded (Or.inr shows))⟩
  constructor
  · exact h.lifecycle.concat nofun (h.loaded loaded) fun _ => none
  · intro there
    simpa using h.loaded there
  · intro _ _
    exact now
  · intro _ _
    exact Or.inr (List.mem_append_right _ List.mem_cons_self)
  · intro there now
    rcases h.shown there now with shows | ⟨openThen, _, noClose⟩
    · exact Or.inl (shows.concat nofun)
    · exact Or.inr ⟨openThen, by simpa using none.2, by simpa using noClose⟩

theorem showMenu (now : isBuilt) {isOpen' : Prop} :
    Life built opened here isBuilt isOpen' (events ++ [.menuOpen]) := by
  constructor
  · exact h.lifecycle.concat nofun (h.loaded loaded) nofun
  · intro there
    simpa using h.loaded there
  · intro _ _
    exact now
  · intro there _
    exact (h.created there now).imp_right (List.mem_append_left _)
  · intro _ _
    exact Or.inl ⟨events, [], rfl, List.not_mem_nil⟩

theorem hideMenu {isOpen' : Prop} (closed : ¬isOpen') :
    Life built opened here isBuilt isOpen' (events ++ [.menuClose]) := by
  constructor
  · exact h.lifecycle.concat nofun (h.loaded loaded) nofun
  · intro there
    simpa using h.loaded there
  · intro there
    simpa using h.flagged there
  · intro there now
    exact (h.created there now).imp_right (List.mem_append_left _)
  · intro _ now
    exact absurd now closed

end

/-- A life goes on with what an operation brings, and ends when the mod is taken
out. -/
theorem perform {c : Conduct Shared} {s : Session} {op : Operation} {key : Key}
    (h : Life built opened (key ∈ s.callers.keys) (s.menuBuilt = true) (s.isOpen = true) events)
    (discreet : c.Discreet) (enrolled : Session.Enrolled c s) (obeys : op.Obeys c)
    (other : op.gives? s ≠ some key) :
    Life built opened (key ∈ (op.perform s).state.callers.keys)
      ((op.perform s).state.menuBuilt = true) ((op.perform s).state.isOpen = true)
      (events ++ eventsOf key (op.perform s).journal.told) := by
  refine of_imp ?_ (enrolled.mem_keys_perform discreet.lenient obeys other)
  obtain ⟨nowBuilt, nowOpen⟩ := Session.flags_perform s op
  rw [enrolled.eventsOf_perform discreet obeys other, nowBuilt, nowOpen]
  -- a mod that is not loaded is told nothing, and of a loaded one each operation
  -- says with what its life goes on
  by_cases loaded : key ∈ s.callers.keys
  · rw [if_pos loaded]
    have stays (keeps : ¬op.Takes key) :
        (key ∈ s.callers.keys ∧ ¬op.Takes key) = (key ∈ s.callers.keys) :=
      propext (and_iff_left keeps)
    cases op with
    | load d =>
      rw [stays id, Operation.brings, List.append_nil]
      exact h
    | unload k =>
      by_cases here : k = key
      · rw [Operation.brings, if_pos here]
        exact h.unload loaded fun there => there.2 here
      · rw [stays here, Operation.brings, if_neg here, List.append_nil]
        exact h
    | openMenu menu =>
      rw [stays id, Operation.brings]
      by_cases isBuilt : s.menuBuilt = true
      · have same : s.menuBuilt = (Operation.openMenu menu).builtAfter s := isBuilt
        rw [if_pos isBuilt, ← same]
        exact h.showMenu loaded isBuilt
      · rw [if_neg isBuilt, ← List.append_assoc]
        exact (h.create loaded isBuilt rfl).showMenu loaded rfl
    | closeMenu menu =>
      rw [stays id, Operation.brings]
      by_cases showing : s.isOpen = true
      · rw [if_pos showing]
        exact h.hideMenu loaded Bool.false_ne_true
      · have same : s.isOpen = (Operation.closeMenu menu).openAfter s :=
          Bool.eq_false_iff.mpr showing
        rw [if_neg showing, List.append_nil, ← same]
        exact h
    | enterWorld menu =>
      rw [stays id]
      exact h.quiet loaded rfl
    | exitWorld menu =>
      rw [stays id]
      exact h.quiet loaded rfl
    | widget k event =>
      rw [stays id, Operation.brings]
      by_cases asked : k = key ∧ event.asks = true
      · rw [if_pos asked]
        exact h.quiet loaded (Operation.isQuiet_of_asks asked.2)
      · rw [if_neg asked, List.append_nil]
        exact h
    | shutdown => exact h.unload loaded fun there => there.2 trivial
  · rw [if_neg loaded, List.append_nil]
    exact h.absent fun there => loaded there.1

end Life

end

end ModSettings
