/-
The protocol of the menu with one mod.

Whether the menu is built and whether it is open are facts of the session, not of
a mod.  A mod that is loaded before the menu is opened for the first time is
created before it is opened and opened before it is closed.  One that is loaded
later joins in the middle, as `late_mod` shows, and `menu_protocol` tells what is
owed to every mod all the same.
-/
import ModSettings.Proofs.Session.Context
import ModSettings.Proofs.Session.Past
import ModSettings.Proofs.Session.Trace

namespace ModSettings

open Conduct

/-! ## Calls to the menu -/

/-- Wherever the event of the signal stands in the list, the calls to the menu that
belong to it follow. -/
def Told.Answered (menu : Menu) (sent : Signal) (key : Key) (l : List Told) : Prop :=
  ∀ pre post, l = pre ++ .event key sent.kind :: post →
    menu.told sent key <+: .event key sent.kind :: post

namespace Told.Answered

variable {menu : Menu} {sent : Signal} {key : Key}

theorem nil : Answered menu sent key [] := by
  intro pre post split
  simp at split

theorem append {a b : List Told} (ha : Answered menu sent key a) (hb : Answered menu sent key b) :
    Answered menu sent key (a ++ b) := by
  intro pre post split
  rcases List.append_eq_append_iff.mp split with ⟨l, rfl, same⟩ | ⟨l, rfl, same⟩
  · exact hb l post same
  · cases l with
    | nil =>
      exact hb [] post same.symm
    | cons first rest =>
      obtain ⟨rfl, rfl⟩ := List.cons.inj same
      exact (ha pre rest rfl).trans ⟨b, rfl⟩

theorem flatMap {order : List Key} {f : Key → List Told}
    (one : ∀ k, Answered menu sent key (f k)) : Answered menu sent key (order.flatMap f) := by
  induction order with
  | nil => exact nil
  | cons k rest ih => exact (one k).append ih

theorem of_signal (menu : Menu) (other : Signal) (k : Key) :
    Answered menu sent key (menu.told other k) := by
  intro pre post split
  cases pre with
  | nil =>
    obtain ⟨head, _⟩ := List.cons.inj split
    obtain ⟨rfl, kinds⟩ := Told.event.inj head
    obtain rfl : other = sent := by cases other <;> cases sent <;> first | rfl | exact nomatch kinds
    exact ⟨[], (List.append_nil _).trans split⟩
  | cons first rest =>
    have calls : (menu.told other k).tail = rest ++ .event key sent.kind :: post :=
      congrArg List.tail split
    have event : .event key sent.kind ∈ (menu.told other k).tail := by
      rw [calls]
      exact List.mem_append_right _ List.mem_cons_self
    cases menu <;> cases other <;> simp [Menu.told] at event

end Told.Answered

theorem Operation.answered_openMenu (menu : Menu) (sent : Signal) (key : Key) (s : Session) :
    Told.Answered menu sent key ((Operation.openMenu menu).told s) := by
  refine .append ?_ (.flatMap (.of_signal menu .menuOpen))
  split
  · exact .nil
  · exact .flatMap (.of_signal menu .menuCreate)

/-! ## The protocol -/

namespace Session

section

variable {c : Conduct Shared} (discreet : c.Discreet)
include discreet

theorem brings_eq_of_told {s : Session} {op : Operation} {key : Key} {kind : EventKind}
    {pre post : List Told} (enrolled : Enrolled c s) (obeys : op.Obeys c)
    (split : (op.perform s).journal.told = pre ++ .event key kind :: post)
    (noLoad : kind ≠ .load) :
    key ∈ s.callers.keys ∧ kind ∈ op.brings s key ∧
      op.brings s key = eventsOf key pre ++ kind :: eventsOf key post := by
  have member : .event key kind ∈ op.told s.attended := by
    rw [← told_perform discreet enrolled obeys, split]
    exact List.mem_append_right _ List.mem_cons_self
  obtain ⟨other, listens, brought⟩ :=
    Operation.brings_of_told enrolled.nodup_listeners member noLoad
  have there := enrolled.mem_listeners.mp listens
  rw [gives?_attended] at other
  have all := enrolled.eventsOf_perform discreet obeys other
  rw [if_pos there, split, eventsOf_append, eventsOf_cons] at all
  exact ⟨there, all ▸ List.mem_append_right _ List.mem_cons_self, all.symm⟩

variable {s : Session} {run : List Operation} {op : Operation} {key : Key} {pre post : List Told}
  (fresh : Enrolled c s) (mods : ∀ op ∈ run, op.Obeys c) (anew : s.GivesAnew run)
  (obeys : op.Obeys c) (none : s.callers.keys = []) (unbuilt : s.menuBuilt = false)
  (closed : s.isOpen = false)
include fresh mods anew obeys none unbuilt closed

theorem created_before_open
    (split : (op.perform (s.after run)).journal.told = pre ++ .event key .menuOpen :: post) :
    ∃ before d during, s.Tenure run key before d during ∧
      (Built before ∨ .menuCreate ∈ s.heard key before d during ++ eventsOf key pre) := by
  have now := fresh.after discreet mods anew
  obtain ⟨there, brought, brings⟩ := brings_eq_of_told discreet now obeys split nofun
  obtain ⟨before, d, during, tenure⟩ :=
    mem_keysOf.mp (mem_keysOf_of_caller discreet fresh mods anew none there)
  have life := life_of_tenure discreet fresh mods anew unbuilt closed tenure
  refine ⟨before, d, during, tenure, ?_⟩
  by_cases built : (s.after run).menuBuilt = true
  · exact (life.created there built).imp_right (List.mem_append_left _)
  · -- both events come at once, and the other one is the first
    obtain ⟨menu, rfl⟩ := Operation.menuOpen_of_brings brought
    rw [Operation.brings, if_neg built] at brings
    refine Or.inr (List.mem_append_right _ ?_)
    cases first : eventsOf key pre with
    | nil =>
      rw [first] at brings
      cases brings
    | cons kind rest =>
      rw [first] at brings
      rw [← (List.cons.inj brings).1]
      exact List.mem_cons_self

theorem opened_before_close
    (split : (op.perform (s.after run)).journal.told = pre ++ .event key .menuClose :: post) :
    ∃ before d during, s.Tenure run key before d during ∧
      let events := s.heard key before d during ++ eventsOf key pre
      Opened events ∨ Showing before ∧ .menuOpen ∉ events ∧ .menuClose ∉ events := by
  have now := fresh.after discreet mods anew
  obtain ⟨there, brought, brings⟩ := brings_eq_of_told discreet now obeys split nofun
  obtain ⟨before, d, during, tenure⟩ :=
    mem_keysOf.mp (mem_keysOf_of_caller discreet fresh mods anew none there)
  obtain ⟨⟨menu, rfl⟩, showing⟩ := Operation.menuClose_of_brings brought
  rw [Operation.brings, if_pos showing] at brings
  have nothing : eventsOf key pre = [] := by
    cases first : eventsOf key pre with
    | nil => rfl
    | cons kind rest =>
      rw [first] at brings
      have empty := (List.cons.inj brings).2
      simp at empty
  refine ⟨before, d, during, tenure, ?_⟩
  rw [nothing, List.append_nil]
  exact (life_of_tenure discreet fresh mods anew unbuilt closed tenure).shown there showing

end

/-- What is owed to a mod before it is told that the menu opens or closes, whatever
hooks do to the registry.  Every `menuOpen` comes after a `menuCreate` to the same
mod, unless the menu was built when the mod was loaded, and every `menuClose` after a
`menuOpen` with no other `menuClose` in between, unless the menu was open when the mod
was loaded and the mod has heard of neither since.  The widgets are built with the one
and their visibility is refreshed with the other.  All it takes is that no mod is given
a key which the order still has: that is so until the versions of a slot come round,
see `givesAnew_of_unwrapped`, and for good where mods come and go with the session alone,
see `givesAnew_of_orderly`. -/
theorem menu_protocol (config : Config) {catalog : Catalog} (offers : catalog.Obeys freeGuests)
    {run : List Operation} (mods : ∀ op ∈ run, op.Obeys freeGuests)
    (anew : Session.GivesAnew { config, catalog } run) {op : Operation}
    (obeys : op.Obeys freeGuests) (key : Key) (pre post : List Told) :
    let s : Session := { config, catalog }
    let told := (op.perform (s.after run)).journal.told
    (told = pre ++ .event key .menuOpen :: post →
        (∃ before d during, s.Tenure run key before d during ∧
          (Built before ∨ .menuCreate ∈ s.heard key before d during ++ eventsOf key pre)) ∧
        ∃ menu, op = .openMenu menu ∧
          menu.told .menuOpen key <+: .event key .menuOpen :: post) ∧
      (told = pre ++ .event key .menuCreate :: post →
        ∃ menu, op = .openMenu menu ∧
          menu.told .menuCreate key <+: .event key .menuCreate :: post) ∧
      (told = pre ++ .event key .menuClose :: post →
        ∃ before d during, s.Tenure run key before d during ∧
          let events := s.heard key before d during ++ eventsOf key pre
          Opened events ∨ Showing before ∧ .menuOpen ∉ events ∧ .menuClose ∉ events) := by
  intro s told
  have fresh : Enrolled freeGuests s := (orderly_fresh offers).enrolled
  have now := fresh.after discreet_freeGuests mods anew
  have written : told = op.told (s.after run).attended :=
    told_perform discreet_freeGuests now obeys
  refine ⟨fun split => ⟨?_, ?_⟩, fun split => ?_, fun split => ?_⟩
  · exact created_before_open discreet_freeGuests fresh mods anew obeys rfl rfl rfl split
  · obtain ⟨_, brought, _⟩ := brings_eq_of_told discreet_freeGuests now obeys split nofun
    obtain ⟨menu, rfl⟩ := Operation.menuOpen_of_brings brought
    exact ⟨menu, rfl, Operation.answered_openMenu menu .menuOpen key _ pre post
      (written.symm.trans split)⟩
  · obtain ⟨_, brought, _⟩ := brings_eq_of_told discreet_freeGuests now obeys split nofun
    obtain ⟨⟨menu, rfl⟩, _⟩ := Operation.menuCreate_of_brings brought
    exact ⟨menu, rfl, Operation.answered_openMenu menu .menuCreate key _ pre post
      (written.symm.trans split)⟩
  · exact opened_before_close discreet_freeGuests fresh mods anew obeys rfl rfl rfl split

/-- A mod that removes itself from the registry as soon as it is loaded. -/
def sampleBrief : Descriptor where
  name := "Brief"
  displayName := "Brief"
  mainType := .cls "Brief" (some .mod) [] .concrete true
  hooks := some
    { capabilities := fun _ => .ofList [.load]
      handle := fun ctx event => do
        let _ ← (Shared.unregister ctx.key).asHook
        .pure event.defaultAnswer }

theorem obeys_sampleBrief : sampleBrief.Obeys freeGuests := by
  refine ⟨fun h given => ?_, nofun⟩
  cases given
  intro ctx _ event
  refine Run.obeys_bind (Flow.obeys_asHook fun s => ⟨?_, fun e member => ?_⟩) fun _ =>
    Flow.obeys_pure _
  · rw [state_unregister]
    exact ⟨[], (Registry.Becomes.refl _).change (c := .unregister ctx.key) rfl⟩
  · exact Or.inl (logs_unregister _ _ e member)

theorem past_sampleBrief :
    (Session.after { config := {}, catalog := .standard } [.load sampleBrief]).Past
      [.entry 1 1] where
  registry := ⟨[.register "Brief" sampleBrief.mainType, .bindCaller (.entry 1 1),
    .setApiLoaded (.entry 1 1) true, .unregister (.entry 1 1)], rfl, rfl⟩
  order _ member := member
  callers _ member := member

/-- The next mod takes the slot of the first one, which stays in the order without a
caller.  It is loaded before the menu is opened, so it is created first. -/
theorem menu_protocol_sample : let s : Session := { config := {}, catalog := .standard }
    let run : List Operation := [.load sampleBrief, .load (sampleGuest "Early")]
    let key : Key := .entry 1 3
    (s.after run).order = [.entry 1 1, key] ∧
      ((Operation.openMenu .shown).perform (s.after run)).journal.told =
        [.event key .menuCreate, .build key, .event key .menuOpen, .refresh key] ∧
      ∃ before d during, s.Tenure run key before d during ∧
        (Built before ∨
          .menuCreate ∈ s.heard key before d during ++
            eventsOf key [.event key .menuCreate, .build key]) := by
  intro s run key
  have told : ((Operation.openMenu .shown).perform (s.after run)).journal.told =
      [.event key .menuCreate, .build key, .event key .menuOpen, .refresh key] := by
    decide +kernel
  have guest : (sampleGuest "Early").Obeys freeGuests := by
    refine ⟨fun h given => ?_, nofun⟩
    cases given
    exact Hooks.obeys_idle _
  have mods : ∀ op ∈ run, op.Obeys freeGuests :=
    List.forall_mem_cons.mpr ⟨obeys_sampleBrief, List.forall_mem_singleton.mpr guest⟩
  have anew : s.GivesAnew run := by
    refine givesAnew_of_unwrapped fun past d later k split _ => ?_
    match past, split with
    | [], _ => exact ⟨[], past_fresh _ _, Key.unwrapped_of_length (by simp)⟩
    | [_], split =>
      obtain ⟨rfl, _⟩ := List.cons.inj split
      exact ⟨[.entry 1 1], past_sampleBrief, Key.unwrapped_of_length (by simp)⟩
    | _ :: _ :: _, split => simp [run] at split
  have order : (s.after run).order = [.entry 1 1, key] := by decide +kernel
  refine ⟨order, told, ?_⟩
  exact ((menu_protocol {} (Catalog.obeys_standard lenient_freeGuests) mods anew
    (show (Operation.openMenu .shown).Obeys freeGuests from trivial) key
    [.event key .menuCreate, .build key] [.refresh key]).1 told).1

/-- A mod that is loaded while the menu is open hears of its closing without having
heard of its opening, and of its next opening without having been created. -/
theorem late_mod : let s : Session := { config := {}, catalog := .standard }
    let late : List Operation := [.openMenu .shown, .load (sampleGuest "Late")]
    let key : Key := .entry 1 1
    (∃ front rest, s.told (late ++ [.openMenu .shown]) = front ++ .event key .menuOpen :: rest ∧
        .event key .menuCreate ∉ front) ∧
      ∃ front rest, s.told (late ++ [.closeMenu .shown]) = front ++ .event key .menuClose :: rest ∧
        .event key .menuOpen ∉ front := by
  intro s late key
  have opens : s.told (late ++ [.openMenu .shown]) =
      [.event key .load] ++ .event key .menuOpen :: [.refresh key] := by decide +kernel
  have closes : s.told (late ++ [.closeMenu .shown]) =
      [.event key .load] ++ .event key .menuClose :: [] := by decide +kernel
  exact ⟨⟨_, _, opens, by decide⟩, ⟨_, _, closes, by decide⟩⟩

end Session

end ModSettings
