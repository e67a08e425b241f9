/-
What mods hear in the course of a run.

The flags of the menu and the events that reached a mod depend on the whole past.
They are told here from the run alone: whether the menu was opened since the last
shutdown, whether it was closed again, and which loading gave a mod its key.
-/
import ModSettings.Proofs.Session.Keys
import ModSettings.Proofs.Session.Lifecycle
import ModSettings.Proofs.Session.Tables

namespace ModSettings

open Conduct

namespace Session

/-- All that a run tells mods and the menu. -/
def told (s : Session) : List Operation → List Told
  | [] => []
  | op :: rest => (op.perform s).journal.told ++ (op.perform s).state.told rest

/-- The key was given by the loading of `d`, and by none since. -/
def Tenure (s : Session) (run : List Operation) (key : Key) (before : List Operation)
    (d : Descriptor) (during : List Operation) : Prop :=
  Lasts (fun past op => op.gives? (s.after past) = some key) (fun _ => False) run before (.load d)
    during

/-- What the mod of the key hears from its loading on. -/
def heard (s : Session) (key : Key) (before : List Operation) (d : Descriptor)
    (during : List Operation) : List EventKind :=
  eventsOf key ((s.after before).told (.load d :: during))

/-- The menu was opened and nothing was shut down since. -/
def Built (run : List Operation) : Prop :=
  ∃ past op later, Lasts (fun _ op => ∃ menu, op = .openMenu menu) (· = .shutdown) run past op later

/-- The menu was opened and neither closed nor shut down since. -/
def Showing (run : List Operation) : Prop :=
  ∃ past op later, Lasts (fun _ op => ∃ menu, op = .openMenu menu)
    (fun op => op = .shutdown ∨ ∃ menu, op = .closeMenu menu) run past op later

variable {s : Session} {run before during : List Operation} {op : Operation} {key : Key}
  {d : Descriptor}

theorem after_append (s : Session) (run later : List Operation) :
    s.after (run ++ later) = (s.after run).after later := List.foldl_append

theorem told_append (s : Session) (run later : List Operation) :
    s.told (run ++ later) = s.told run ++ (s.after run).told later := by
  induction run generalizing s with
  | nil => rfl
  | cons op rest ih =>
    rw [List.cons_append, told, told, ih, List.append_assoc]
    rfl

theorem told_concat (s : Session) (run : List Operation) (op : Operation) :
    s.told (run ++ [op]) = s.told run ++ (op.perform (s.after run)).journal.told := by
  rw [told_append, told, told, List.append_nil]

/-! ## Flags -/

theorem menuBuilt_after (fresh : s.menuBuilt = false) (run : List Operation) :
    (s.after run).menuBuilt = true ↔ Built run := by
  induction run using List.reverseRecOn with
  | nil => exact iff_of_false (ne_true_of_eq_false fresh) not_exists_lasts_nil
  | append_singleton run op ih =>
    rw [after_concat, (flags_perform _ op).1, Built, exists_lasts_concat, ← Built, ← ih]
    cases op <;> simp [Operation.builtAfter]

theorem isOpen_after (fresh : s.isOpen = false) (run : List Operation) :
    (s.after run).isOpen = true ↔ Showing run := by
  induction run using List.reverseRecOn with
  | nil => exact iff_of_false (ne_true_of_eq_false fresh) not_exists_lasts_nil
  | append_singleton run op ih =>
    rw [after_concat, (flags_perform _ op).2, Showing, exists_lasts_concat, ← Showing, ← ih]
    cases op <;> simp [Operation.openAfter]

/-! ## Tenures -/

theorem Tenure.after (h : s.Tenure run key before d during) :
    (s.after before).after (.load d :: during) = s.after run := by
  rw [← after_append, ← h.split]

/-- A key that was given belongs to the mod that it was given to last. -/
theorem mem_keysOf : key ∈ s.keysOf run ↔ ∃ before d during, s.Tenure run key before d during := by
  have given : key ∈ s.keysOf run ↔ ∃ past op later,
      Lasts (fun past op => op.gives? (s.after past) = some key) (fun _ => False) run past op
        later := by
    induction run using List.reverseRecOn with
    | nil => exact iff_of_false List.not_mem_nil not_exists_lasts_nil
    | append_singleton run op ih =>
      rw [keysOf_concat, List.mem_append, exists_lasts_concat, Option.mem_toList, ih]
      simp [or_comm]
  rw [given]
  constructor
  · rintro ⟨before, op, during, lasts⟩
    obtain ⟨d, rfl, _⟩ := load_of_gives? lasts.passes
    exact ⟨before, d, during, lasts⟩
  · rintro ⟨before, d, during, tenure⟩
    exact ⟨before, .load d, during, tenure⟩

theorem tenure_concat : s.Tenure (run ++ [op]) key before d during ↔
    (during = [] ∧ before = run ∧ op = .load d ∧ op.gives? (s.after run) = some key) ∨
      ∃ earlier, during = earlier ++ [op] ∧ op.gives? (s.after run) ≠ some key ∧
        s.Tenure run key before d earlier := by
  rw [Tenure, lasts_concat]
  refine or_congr ?_ (exists_congr fun earlier => ?_)
  · rw [@eq_comm _ (Operation.load d) op]
  · rw [and_iff_right (id : ¬False)]
    exact Iff.rfl

section

variable {c : Conduct Shared} (discreet : c.Discreet) (enrolled : Enrolled c s)
include discreet enrolled

theorem mem_keysOf_of_caller (mods : ∀ op ∈ run, op.Obeys c) (anew : s.GivesAnew run)
    (none : s.callers.keys = []) (there : key ∈ (s.after run).callers.keys) :
    key ∈ s.keysOf run := by
  induction run using List.reverseRecOn with
  | nil =>
    rw [show (s.after []).callers.keys = [] from none] at there
    exact nomatch there
  | append_singleton run op ih =>
    obtain ⟨earlier, last⟩ := List.forall_mem_append.mp mods
    have before := (givesAnew_concat.mp anew).1
    rw [keysOf_concat, List.mem_append, Option.mem_toList]
    by_cases given : op.gives? (s.after run) = some key
    · exact Or.inr given
    · rw [after_concat] at there
      have now := enrolled.after discreet earlier before
      exact Or.inl (ih earlier before (now.mem_keys_perform discreet.lenient
        (List.forall_mem_singleton.mp last) given there).1)

theorem eventsOf_told_eq_nil (mods : ∀ op ∈ run, op.Obeys c) (anew : s.GivesAnew run)
    (none : s.callers.keys = []) (never : key ∉ s.keysOf run) :
    eventsOf key (s.told run) = [] := by
  induction run using List.reverseRecOn with
  | nil => rfl
  | append_singleton run op ih =>
    obtain ⟨earlier, last⟩ := List.forall_mem_append.mp mods
    have before := (givesAnew_concat.mp anew).1
    rw [keysOf_concat, List.mem_append, Option.mem_toList, not_or] at never
    have now := enrolled.after discreet earlier before
    have absent : key ∉ (s.after run).callers.keys := fun there =>
      never.1 (mem_keysOf_of_caller discreet enrolled earlier before none there)
    rw [told_concat, eventsOf_append, ih earlier before never.1,
      now.eventsOf_perform discreet (List.forall_mem_singleton.mp last) never.2, if_neg absent]
    rfl

/-- Every tenure is a life. -/
theorem life_of_tenure (mods : ∀ op ∈ run, op.Obeys c) (anew : s.GivesAnew run)
    (unbuilt : s.menuBuilt = false) (closed : s.isOpen = false)
    (tenure : s.Tenure run key before d during) :
    Life (Built before) (Showing before) (key ∈ (s.after run).callers.keys)
      ((s.after run).menuBuilt = true) ((s.after run).isOpen = true)
      (s.heard key before d during) := by
  induction run using List.reverseRecOn generalizing during with
  | nil => exact absurd tenure not_lasts_nil
  | append_singleton run op ih =>
    obtain ⟨earlier, last⟩ := List.forall_mem_append.mp mods
    have before' := (givesAnew_concat.mp anew).1
    have now := enrolled.after discreet earlier before'
    have obeys := List.forall_mem_singleton.mp last
    -- the last operation of the run begins the tenure or falls into it
    rcases tenure_concat.mp tenure with ⟨rfl, rfl, rfl, given⟩ | ⟨past, rfl, other, old⟩
    · have heard : s.heard key before d [] = [.load] := by
        rw [Session.heard, told, told, List.append_nil, told_perform discreet now obeys,
          Operation.told, gives?_attended, given, Option.toList_some, List.map_singleton,
          eventsOf_event, if_pos rfl]
      obtain ⟨nowBuilt, nowOpen⟩ := flags_perform (s.after before) (.load d)
      rw [heard, after_concat, nowBuilt, nowOpen]
      exact .start (menuBuilt_after unbuilt before).mp (isOpen_after closed before).mp
    · have heard : s.heard key before d (past ++ [op]) = s.heard key before d past ++
          eventsOf key (op.perform (s.after run)).journal.told := by
        rw [Session.heard, ← List.cons_append, told_concat, eventsOf_append, old.after]
        rfl
      rw [heard, after_concat]
      exact (ih earlier before' old).perform discreet now obeys other

/-- Where no key is given twice, a mod hears nothing before its loading. -/
theorem eventsOf_told_eq_heard (mods : ∀ op ∈ run, op.Obeys c) (anew : s.GivesAnew run)
    (none : s.callers.keys = []) (nodup : (s.keysOf run).Nodup)
    (tenure : s.Tenure run key before d during) :
    eventsOf key (s.told run) = s.heard key before d during := by
  have earlier : ∀ op ∈ before, op.Obeys c := by
    intro op member
    refine mods op ?_
    rw [tenure.split]
    exact List.mem_append_left _ member
  have anew' : s.GivesAnew before := by
    intro past op later k split
    refine anew past op (later ++ .load d :: during) k ?_
    rw [tenure.split, split, List.append_assoc, List.cons_append]
  have never : key ∉ s.keysOf before := by
    intro old
    rw [tenure.split, keysOf_append, keysOf, tenure.passes] at nodup
    exact (List.nodup_append.mp nodup).2.2 key old key (by simp) rfl
  rw [tenure.split, told_append, eventsOf_append,
    eventsOf_told_eq_nil discreet enrolled earlier anew' none never]
  rfl

end

/-! ## Lives -/

/-- What an operation tells mods and the menu, and what it makes of the order of
the loaded mods, each of which is in it once. -/
structure Dispatches (run : List Operation) (s : Session) (op : Operation) : Prop where
  told : (op.perform s).journal.told = op.told s
  order : (op.perform s).state.order = op.orderAfter s
  nodup : s.order.Nodup
  built : s.menuBuilt = true ↔ Built run
  showing : s.isOpen = true ↔ Showing run
  create : ∀ key, .event key .menuCreate ∈ (op.perform s).journal.told →
    (∃ menu, op = .openMenu menu) ∧ ¬Built run

theorem dispatches_after (orderly : Orderly guests s) (unbuilt : s.menuBuilt = false)
    (closed : s.isOpen = false) (mods : ∀ op ∈ run, op.Obeys guests) (obeys : op.Obeys guests) :
    Dispatches run (s.after run) op := by
  have now := orderly_after orderly mods
  have built := menuBuilt_after unbuilt run
  refine
    { told := now.told_eq obeys
      order := order_perform now obeys
      nodup := now.nodup
      built := built
      showing := isOpen_after closed run
      create := fun key told => ?_ }
  rw [now.told_eq obeys] at told
  obtain ⟨_, _, brings⟩ := Operation.brings_of_told now.nodup told nofun
  obtain ⟨opens, notBuilt⟩ := Operation.menuCreate_of_brings brings
  exact ⟨opens, fun past => notBuilt (built.mpr past)⟩

/-- Whatever is loaded, opened, entered and unloaded in whatever order, and however
hooks end: from its loading on every mod has the life of a mod, a key that was not
given hears nothing, and every operation tells exactly the mods that are loaded, in
the order of their loading. -/
theorem lives_after (config : Config) {catalog : Catalog} (offers : catalog.Obeys guests)
    {run : List Operation} (mods : ∀ op ∈ run, op.Obeys guests) :
    let s : Session := { config, catalog }
    (∀ key before d during, s.Tenure run key before d during →
        Lifecycle (s.heard key before d during)) ∧
      (∀ key, key ∉ s.keysOf run → eventsOf key (s.told run) = []) ∧
      (Key.Unwrapped (s.keysOf run) → (s.keysOf run).Nodup ∧
        ∀ key ∈ s.keysOf run, Lifecycle (eventsOf key (s.told run))) ∧
      ∀ op, op.Obeys guests → Dispatches run (s.after run) op := by
  intro s
  have fresh : Orderly guests s := orderly_fresh offers
  have enrolled := fresh.enrolled
  have anew := givesAnew_of_orderly fresh mods
  have lives (key : Key) (before during : List Operation) (d : Descriptor)
      (tenure : s.Tenure run key before d during) : Lifecycle (s.heard key before d during) :=
    (life_of_tenure discreet_guests enrolled mods anew rfl rfl tenure).lifecycle
  refine ⟨fun key before d during => lives key before during d, ?_, ?_, ?_⟩
  · intro key never
    exact eventsOf_told_eq_nil discreet_guests enrolled mods anew rfl never
  · intro unwrapped
    have nodup := nodup_keysOf fresh mods rfl unwrapped
    refine ⟨nodup, fun key given => ?_⟩
    obtain ⟨before, d, during, tenure⟩ := mem_keysOf.mp given
    rw [eventsOf_told_eq_heard discreet_guests enrolled mods anew rfl nodup tenure]
    exact lives key before during d tenure
  · intro op obeys
    exact dispatches_after fresh rfl rfl mods obeys

theorem lives_after_sample : let s : Session := { config := {}, catalog := .standard }
    s.keysOf sampleRun = [.entry 1 1, .entry 2 1, .entry 1 3] ∧
      eventsOf (.entry 1 1) (s.told sampleRun) = [.load, .menuCreate, .menuOpen, .unload] ∧
      Lifecycle [.load, .menuCreate, .menuOpen, .unload] := by
  intro s
  have keys : s.keysOf sampleRun = [.entry 1 1, .entry 2 1, .entry 1 3] := by decide +kernel
  have events : eventsOf (.entry 1 1) (s.told sampleRun) =
      [.load, .menuCreate, .menuOpen, .unload] := by decide +kernel
  have unwrapped : Key.Unwrapped (s.keysOf sampleRun) :=
    Key.unwrapped_of_length (by rw [keys]; decide)
  have lives := (lives_after {} (Catalog.obeys_standard lenient_guests)
    (obeys_sampleRun lenient_guests)).2.2.1 unwrapped
  refine ⟨keys, events, ?_⟩
  rw [← events]
  exact lives.2 _ (by rw [keys]; decide)

end Session

end ModSettings
