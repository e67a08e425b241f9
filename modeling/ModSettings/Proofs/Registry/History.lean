/-
The past of a registry.

All that a registry tells can be read off what happened to it.  A mod is live
under a key when a registration gave the key and no later change removed the
mod, and its record is what the changes since then made of it.  This file exists
for `follows_after`: the registry, with its free slots, its versions and its
index of classes, tells after every run of changes what the run says, and gives
no key twice as long as the versions of no slot come round.
-/
import ModSettings.Exec.Shared
import ModSettings.Proofs.History
import ModSettings.Proofs.Registry.Mods
import ModSettings.Proofs.Registry.Versions

namespace ModSettings
namespace Registry

inductive Change where
  | register (name : String) (mainType : Ty)
  | unregister (key : Key)
  | bindCaller (key : Key)
  | setApiLoaded (key : Key) (apiLoaded : Bool)
  | setInWorld (inWorld : Bool)
  | clear

/-- The change takes the mod of the key out, if there is one. -/
def Change.Removes (key : Key) : Change → Prop
  | unregister k => k = key
  | clear => True
  | _ => False

/-- What a change that removes nothing makes of the record of a key. -/
def Change.mark (c : Change) (key : Key) (m : ModRecord) : ModRecord :=
  match c with
  | bindCaller k => if k = key then { m with callerBound := true } else m
  | setApiLoaded k apiLoaded => if k = key then { m with apiLoaded } else m
  | _ => m

/-- A change that is refused leaves the registry as it was. -/
def apply (r : Registry) : Change → Registry
  | .register name mainType =>
      match r.register name mainType with
      | .ok (_, r') => r'
      | .error _ => r
  | .unregister key => r.unregister key
  | .bindCaller key =>
      match r.bindCaller key with
      | .ok r' => r'
      | .error _ => r
  | .setApiLoaded key apiLoaded => r.setApiLoaded key apiLoaded
  | .setInWorld inWorld => r.setInWorld inWorld
  | .clear => r.clear

/-- The key that a registration gives. -/
def granted? (r : Registry) : Change → Option Key
  | .register name mainType =>
      match r.register name mainType with
      | .ok (key, _) => some key
      | .error _ => none
  | _ => none

def after (run : List Change) : Registry := run.foldl apply {}

/-- All keys that a run gave, the first one in front. -/
def keysFrom (r : Registry) : List Change → List Key
  | [] => []
  | c :: rest => (r.granted? c).toList ++ (r.apply c).keysFrom rest

def keysOf (run : List Change) : List Key := keysFrom {} run

theorem after_concat (run : List Change) (c : Change) : after (run ++ [c]) = (after run).apply c := by
  simp [after]

theorem keysFrom_append (r : Registry) (run later : List Change) :
    r.keysFrom (run ++ later) = r.keysFrom run ++ (run.foldl apply r).keysFrom later := by
  induction run generalizing r with
  | nil => rfl
  | cons c rest ih =>
    rw [List.cons_append, keysFrom, keysFrom, ih, List.append_assoc, List.foldl_cons]

theorem keysOf_concat (run : List Change) (c : Change) :
    keysOf (run ++ [c]) = keysOf run ++ ((after run).granted? c).toList := by
  rw [keysOf, keysFrom_append, keysFrom, keysFrom, List.append_nil]
  rfl

/-! ## One change -/

variable {r r' : Registry} {key : Key} {name : String} {t : Ty} {c : Change}

theorem granted?_eq_some (h : r.granted? c = some key) :
    ∃ name t r', c = .register name t ∧ r.register name t = .ok (key, r') ∧ r.apply c = r' := by
  cases c with
  | register name t =>
    cases registered : r.register name t with
    | error e =>
      rw [granted?, registered] at h
      exact nomatch h
    | ok result =>
      rw [granted?, registered] at h
      cases h
      exact ⟨name, t, result.2, rfl, registered, by rw [apply, registered]⟩
  | _ => exact nomatch h

theorem sound_apply (sound : r.Sound) (c : Change) : (r.apply c).Sound := by
  cases c with
  | register name t =>
    cases registered : r.register name t with
    | error e => rw [apply, registered]; exact sound
    | ok result => rw [apply, registered]; exact sound_register sound registered
  | unregister key => exact sound_unregister sound key
  | bindCaller key =>
    cases bound : r.bindCaller key with
    | error e => rw [apply, bound]; exact sound
    | ok r' => rw [apply, bound]; exact Flagged.sound (.bindCaller .refl bound) sound
  | setApiLoaded key apiLoaded => exact Flagged.sound (.setApiLoaded .refl key apiLoaded) sound
  | setInWorld inWorld => exact Flagged.sound (.setInWorld .refl inWorld) sound
  | clear => exact sound_clear sound

theorem sound_after (run : List Change) : (after run).Sound := by
  induction run using List.reverseRecOn with
  | nil => exact sound_empty
  | append_singleton run c ih =>
    rw [after_concat]
    exact sound_apply ih c

/-- What a change makes of the record found under a key, unless the change is
the registration that gives the key. -/
theorem get?_apply (sound : r.Sound) (other : r.granted? c ≠ some key)
    (stays : ¬c.Removes key) :
    (r.apply c).mods.get? key = (r.mods.get? key).map (c.mark key) := by
  have unmarked (m : Option ModRecord) : m = m.map fun m => m := Option.map_id'.symm
  have updated (k : Key) (f : ModRecord → ModRecord)
      (marks : ∀ m, c.mark key m = if k = key then f m else m) :
      (r.mods.update k f).get? key = (r.mods.get? key).map (c.mark key) := by
    rw [Slots.get?_update, funext marks]
    by_cases here : key = k
    · simp only [if_pos here, if_pos here.symm]
    · simp only [if_neg here, if_neg (Ne.symm here)]
      exact unmarked _
  cases c with
  | register name t =>
    cases registered : r.register name t with
    | error e =>
      rw [apply, registered]
      exact unmarked _
    | ok result =>
      rw [granted?, registered] at other
      have others : key ≠ result.1 := fun same => other (congrArg some same.symm)
      rw [apply, registered]
      exact ((get?_register sound registered key).trans (if_neg others)).trans (unmarked _)
  | unregister k =>
    rw [apply, get?_unregister, if_neg fun same => stays same.symm]
    exact unmarked _
  | bindCaller k =>
    cases bound : r.bindCaller k with
    | ok r' =>
      obtain ⟨_, rfl⟩ := bindCaller_eq_ok bound
      rw [apply, bound]
      exact updated k _ fun _ => rfl
    | error e =>
      rw [apply, bound]
      cases found : r.mods.get? key with
      | none => rfl
      | some m =>
        -- the caller of a mod that is there can be bound
        have other : k ≠ key := by
          rintro rfl
          rw [bindCaller, if_pos (contains_iff.mpr ⟨m, found⟩)] at bound
          cases bound
        rw [Option.map_some, Change.mark, if_neg other]
  | setApiLoaded k apiLoaded => exact updated k _ fun _ => rfl
  | setInWorld inWorld => exact unmarked _
  | clear => exact absurd trivial stays

theorem get?_apply_granted (sound : r.Sound) (h : r.granted? c = some key) :
    ∃ name t, c = .register name t ∧
      (r.apply c).mods.get? key = some { name, mainType := t } := by
  obtain ⟨name, t, r', rfl, registered, applied⟩ := granted?_eq_some h
  refine ⟨name, t, rfl, ?_⟩
  rw [applied, get?_register sound registered, if_pos rfl]

theorem get?_apply_removed (removes : c.Removes key) : (r.apply c).mods.get? key = none := by
  cases c with
  | unregister k =>
    rw [apply, get?_unregister, if_pos (Eq.symm removes)]
  | clear => exact get?_clear r key
  | _ => exact absurd removes id

/-! ## From one registry to another -/

/-- Some changes turn the one registry into the other and give these keys. -/
def Becomes (r : Registry) (keys : List Key) (r' : Registry) : Prop :=
  ∃ run : List Change, r' = run.foldl apply r ∧ r.keysFrom run = keys

theorem becomes_after (run : List Change) : ({} : Registry).Becomes (keysOf run) (after run) :=
  ⟨run, rfl, rfl⟩

namespace Becomes

variable {r'' : Registry} {keys more : List Key}

theorem refl (r : Registry) : r.Becomes [] r := ⟨[], rfl, rfl⟩

theorem trans (h : r.Becomes keys r') (h' : r'.Becomes more r'') :
    r.Becomes (keys ++ more) r'' := by
  obtain ⟨run, rfl, rfl⟩ := h
  obtain ⟨later, rfl, rfl⟩ := h'
  exact ⟨run ++ later, by rw [List.foldl_append], keysFrom_append r run later⟩

theorem of_change (r : Registry) (c : Change) : r.Becomes (r.granted? c).toList (r.apply c) :=
  ⟨[c], rfl, List.append_nil _⟩

theorem change (h : r.Becomes keys r') {c : Change} (none : r'.granted? c = none) :
    r.Becomes keys (r'.apply c) := by
  have last := h.trans (of_change r' c)
  rwa [none, Option.toList_none, List.append_nil] at last

theorem of_flagged (h : r.Flagged r') : r.Becomes [] r' := by
  induction h with
  | refl => exact .refl r
  | @bindCaller _ _ key _ bound ih =>
    have changed := ih.change (c := .bindCaller key) rfl
    rwa [apply, bound] at changed
  | setApiLoaded _ key loaded ih => exact ih.change (c := .setApiLoaded key loaded) rfl
  | setInWorld _ inWorld ih => exact ih.change (c := .setInWorld inWorld) rfl

theorem of_register (h : r.register name t = .ok (key, r')) : r.Becomes [key] r' := by
  have changed := of_change r (.register name t)
  rw [granted?, apply, h] at changed
  exact changed

theorem sound (h : r.Becomes keys r') (sound : r.Sound) : r'.Sound := by
  obtain ⟨run, rfl, rfl⟩ := h
  induction run generalizing r with
  | nil => exact sound
  | cons change rest ih => exact ih (sound_apply sound change)

end Becomes

/-! ## What the past tells of a key -/

/-- The changes since the registration that gave the key.  None of them removed
the mod. -/
def Since (run : List Change) (key : Key) (name : String) (t : Ty) (later : List Change) : Prop :=
  ∃ before, Lasts (fun past c => (after past).granted? c = some key) (Change.Removes key) run
    before (.register name t) later

def Live (run : List Change) (key : Key) : Prop := ∃ name t later, Since run key name t later

/-- The caller of the live mod was bound since it was registered. -/
def Bound (run : List Change) (key : Key) : Prop :=
  ∃ name t later, Since run key name t later ∧ .bindCaller key ∈ later

theorem since_concat {run later : List Change} : Since (run ++ [c]) key name t later ↔
    (later = [] ∧ c = .register name t ∧ (after run).granted? c = some key) ∨
      ∃ earlier, later = earlier ++ [c] ∧ (after run).granted? c ≠ some key ∧ ¬c.Removes key ∧
        Since run key name t earlier := by
  constructor
  · rintro ⟨before, lasts⟩
    rcases lasts_concat.mp lasts with ⟨empty, _, same, given⟩ | ⟨earlier, split, h⟩
    · exact Or.inl ⟨empty, same.symm, given⟩
    · exact Or.inr ⟨earlier, split, h.1, h.2.1, before, h.2.2⟩
  · rintro (⟨rfl, rfl, given⟩ | ⟨earlier, rfl, other, stays, before, lasts⟩)
    · exact ⟨run, lasts_concat.mpr (Or.inl ⟨rfl, rfl, rfl, given⟩)⟩
    · exact ⟨before, lasts_concat.mpr (Or.inr ⟨earlier, rfl, other, stays, lasts⟩)⟩

/-- The record found under a key is what the changes since the registration that
gave the key made of it. -/
theorem get?_after {run : List Change} {m : ModRecord} :
    (after run).mods.get? key = some m ↔ ∃ name t later, Since run key name t later ∧
      m = later.foldl (fun m c => c.mark key m) { name, mainType := t } := by
  induction run using List.reverseRecOn generalizing m with
  | nil =>
    constructor
    · intro found
      obtain ⟨_, _, none, _⟩ := Slots.get?_eq_some.mp found
      exact nomatch none
    · rintro ⟨name, t, later, ⟨before, split, _⟩, _⟩
      simp at split
  | append_singleton run c ih =>
    have sound := sound_after run
    rw [after_concat]
    -- the last change gives the key, takes its mod out or marks its record
    by_cases given : (after run).granted? c = some key
    · obtain ⟨name, t, rfl, found⟩ := get?_apply_granted sound given
      rw [found]
      constructor
      · intro same
        cases same
        exact ⟨name, t, [], since_concat.mpr (Or.inl ⟨rfl, rfl, given⟩), rfl⟩
      · rintro ⟨name', t', later, since, rfl⟩
        rcases since_concat.mp since with ⟨rfl, same, _⟩ | ⟨_, _, other, _⟩
        · cases same
          rfl
        · exact absurd given other
    · by_cases removes : c.Removes key
      · rw [get?_apply_removed removes]
        refine ⟨nofun, ?_⟩
        rintro ⟨name, t, later, since, _⟩
        rcases since_concat.mp since with ⟨_, _, here⟩ | ⟨_, _, _, stays, _⟩
        · exact absurd here given
        · exact absurd removes stays
      · rw [get?_apply sound given removes, Option.map_eq_some_iff]
        constructor
        · rintro ⟨m, found, rfl⟩
          obtain ⟨name, t, earlier, since, rfl⟩ := ih.mp found
          refine ⟨name, t, earlier ++ [c],
            since_concat.mpr (Or.inr ⟨earlier, rfl, given, removes, since⟩), ?_⟩
          rw [List.foldl_append]
          rfl
        · rintro ⟨name, t, later, since, rfl⟩
          rcases since_concat.mp since with ⟨_, _, here⟩ | ⟨earlier, rfl, _, _, before⟩
          · exact absurd here given
          · refine ⟨_, ih.mpr ⟨name, t, earlier, before, rfl⟩, ?_⟩
            rw [List.foldl_append]
            rfl

theorem foldl_mark (key : Key) (later : List Change) (m : ModRecord) :
    let m' := later.foldl (fun m c => c.mark key m) m
    m'.name = m.name ∧ m'.mainType = m.mainType ∧
      (m'.callerBound = true ↔ m.callerBound = true ∨ .bindCaller key ∈ later) := by
  induction later generalizing m with
  | nil => simp
  | cons c rest ih =>
    obtain ⟨name, mainType, bound⟩ := ih (c.mark key m)
    rw [List.foldl_cons]
    refine ⟨name.trans ?_, mainType.trans ?_, bound.trans ?_⟩
    · cases c <;> simp only [Change.mark] <;> split <;> rfl
    · cases c <;> simp only [Change.mark] <;> split <;> rfl
    · cases c with
      | bindCaller k =>
        by_cases here : k = key
        · simp [Change.mark, here]
        · simp [Change.mark, here, Ne.symm here]
      | setApiLoaded k apiLoaded =>
        simp only [Change.mark]
        split <;> simp
      | _ => simp [Change.mark]

theorem contains_after {run : List Change} : (after run).contains key = true ↔ Live run key := by
  rw [contains_iff]
  constructor
  · rintro ⟨m, found⟩
    obtain ⟨name, t, later, since, _⟩ := get?_after.mp found
    exact ⟨name, t, later, since⟩
  · rintro ⟨name, t, later, since⟩
    exact ⟨_, get?_after.mpr ⟨name, t, later, since, rfl⟩⟩

theorem callerForMod_after {run : List Change} {found : Key} :
    (after run).callerForMod key = .ok found ↔ found = key ∧ Bound run key := by
  constructor
  · intro reached
    refine ⟨callerForMod_eq_ok reached, ?_⟩
    rw [callerForMod] at reached
    cases there : (after run).mods.get? key with
    | none =>
      rw [there] at reached
      cases reached
    | some m =>
      obtain ⟨name, t, later, since, rfl⟩ := get?_after.mp there
      rw [there] at reached
      dsimp only at reached
      split at reached
      · rename_i bound
        have marks := (foldl_mark key later { name, mainType := t }).2.2.mp bound
        exact ⟨name, t, later, since, marks.resolve_left Bool.false_ne_true⟩
      · cases reached
  · rintro ⟨rfl, name, t, later, since, member⟩
    have bound := (foldl_mark found later { name, mainType := t }).2.2.mpr (Or.inr member)
    rw [callerForMod, get?_after.mpr ⟨name, t, later, since, rfl⟩]
    exact if_pos bound

theorem register_eq_error (sound : r.Sound) : (∃ e, r.register name t = .error e) ↔
    Ty.mod.accepts t = false ∨ ∃ key m, r.mods.get? key = some m ∧ (m.mainType == t) = true := by
  rw [register]
  cases isMod : Ty.mod.accepts t with
  | false => exact ⟨fun _ => Or.inl rfl, fun _ => ⟨_, rfl⟩⟩
  | true =>
    cases taken : r.keyOfType? t with
    | none =>
      refine ⟨fun refused => ?_, ?_⟩
      · obtain ⟨_, refused⟩ := refused
        cases refused
      rintro (no | ⟨key, m, found, same⟩)
      · cases no
      · rw [keyOfType?_eq sound found same] at taken
        cases taken
    | some key =>
      obtain ⟨m, found, same⟩ := sound.indexed.mp taken
      exact ⟨fun _ => Or.inr ⟨key, m, found, same⟩, fun _ => ⟨_, rfl⟩⟩

/-- What is accepted next to some mods is accepted wherever these are. -/
theorem exists_register_of_mods (sound : r.Sound) (sound' : r'.Sound)
    (mods : ∀ k, r.mods.get? k = r'.mods.get? k) {given : Key × Registry}
    (h : r'.register name t = .ok given) : ∃ again, r.register name t = .ok again := by
  cases registered : r.register name t with
  | ok again => exact ⟨again, rfl⟩
  | error e =>
    have refused := (register_eq_error sound).mp ⟨e, registered⟩
    simp only [mods] at refused
    have before : ∃ e, r'.register name t = .error e := (register_eq_error sound').mpr refused
    obtain ⟨_, error⟩ := before
    rw [h] at error
    exact nomatch error

/-! ## Fresh keys -/

theorem issued_apply {keys : List Key} (issued : r.mods.Issued keys) (sound : r.Sound)
    (c : Change) : (r.apply c).mods.Issued (keys ++ (r.granted? c).toList) := by
  have nothing {mods : Slots ModRecord} (kept : mods.Issued keys) : mods.Issued (keys ++ []) := by
    rwa [List.append_nil]
  cases c with
  | register name t =>
    cases registered : r.register name t with
    | error e =>
      rw [apply, granted?, registered]
      exact nothing issued
    | ok result =>
      obtain ⟨_, given, made⟩ := register_eq_ok registered
      rw [apply, granted?, registered]
      simp only [Option.toList_some]
      rw [made, given]
      exact issued.insert sound.slots _
  | unregister key =>
    refine nothing ?_
    rw [apply, mods_unregister]
    exact issued.erase key
  | bindCaller key =>
    refine nothing ?_
    cases bound : r.bindCaller key with
    | error e =>
      rw [apply, bound]
      exact issued
    | ok r' =>
      obtain ⟨_, rfl⟩ := bindCaller_eq_ok bound
      rw [apply, bound]
      exact issued.update _ _
  | setApiLoaded key apiLoaded => exact nothing (issued.update _ _)
  | setInWorld inWorld => exact nothing issued
  | clear => exact nothing issued.clear

theorem Becomes.issued {keys more : List Key} (h : r.Becomes more r')
    (start : r.mods.Issued keys) (sound : r.Sound) : r'.mods.Issued (keys ++ more) := by
  obtain ⟨run, rfl, rfl⟩ := h
  induction run generalizing r keys with
  | nil =>
    rw [keysFrom, List.append_nil]
    exact start
  | cons c rest ih =>
    rw [keysFrom, ← List.append_assoc]
    exact ih (issued_apply start sound c) (sound_apply sound c)

/-- A key under which there is no mod any more does not come back to life, as long as
the versions of its slot have not come round to it. -/
theorem Becomes.contains_eq_false {keys more : List Key} (h : r.Becomes more r')
    (issued : r.mods.Issued keys) (sound : r.Sound) {position n : Nat}
    (given : n < Key.uses keys (position + 1))
    (stale : r.contains (.entry (position + 1) (Slots.versionOf n)) = false)
    (near : Key.uses (keys ++ more) (position + 1) ≤ n + 2 ^ 31) :
    r'.contains (.entry (position + 1) (Slots.versionOf n)) = false := by
  obtain ⟨run, rfl, rfl⟩ := h
  induction run generalizing r keys with
  | nil => exact stale
  | cons c rest ih =>
    let key : Key := .entry (position + 1) (Slots.versionOf n)
    rw [keysFrom, ← List.append_assoc] at near
    have now : Key.uses (keys ++ (r.granted? c).toList) (position + 1) ≤ n + 2 ^ 31 := by
      rw [Key.uses_append] at near
      exact Nat.le_trans (Nat.le_add_right _ _) near
    have later : n < Key.uses (keys ++ (r.granted? c).toList) (position + 1) := by
      rw [Key.uses_append]
      exact Nat.lt_add_right _ given
    -- the change gives another key, and nothing but the giving of a key brings a mod
    have other : r.granted? c ≠ some key := by
      intro again
      obtain ⟨name, t, _, _, registered, _⟩ := granted?_eq_some again
      have inserted := (register_eq_ok registered).2.1
      rw [again, Option.toList_some, inserted] at now
      exact issued.ne_insert sound.slots { name, mainType := t } given now inserted.symm
    have absent : (r.apply c).contains key = false := by
      rw [Registry.contains_eq_false] at stale ⊢
      by_cases removes : c.Removes key
      · exact get?_apply_removed removes
      · rw [get?_apply sound other removes, stale, Option.map_none]
    exact ih (issued_apply issued sound c) (sound_apply sound c) later absent near

theorem issued_after (run : List Change) : (after run).mods.Issued (keysOf run) :=
  (becomes_after run).issued Slots.issued_empty sound_empty

theorem not_mem_keysOf {run : List Change} (h : (after run).granted? c = some key)
    (unwrapped : Key.Unwrapped (keysOf (run ++ [c]))) : key ∉ keysOf run := by
  obtain ⟨name, t, r', rfl, registered, _⟩ := granted?_eq_some h
  rw [keysOf_concat, h, Option.toList_some, (register_eq_ok registered).2.1] at unwrapped
  rw [(register_eq_ok registered).2.1]
  exact (issued_after run).fresh (sound_after run).slots _ unwrapped

theorem unwrapped_of_concat {run : List Change} (h : Key.Unwrapped (keysOf (run ++ [c]))) :
    Key.Unwrapped (keysOf run) := by
  rw [keysOf_concat] at h
  exact h.of_append

theorem nodup_keysOf {run : List Change} (unwrapped : Key.Unwrapped (keysOf run)) :
    (keysOf run).Nodup := by
  induction run using List.reverseRecOn with
  | nil => exact List.nodup_nil
  | append_singleton run c ih =>
    have before := ih (unwrapped_of_concat unwrapped)
    cases given : (after run).granted? c with
    | none =>
      rw [keysOf_concat, given]
      simpa using before
    | some key =>
      have fresh := not_mem_keysOf given unwrapped
      rw [keysOf_concat, given]
      refine List.nodup_append.mpr ⟨before, List.pairwise_singleton _ _, ?_⟩
      intro old member new last same
      exact fresh (List.mem_singleton.mp last ▸ same ▸ member)

theorem contains_stale {run more : List Change} (unwrapped : Key.Unwrapped (keysOf (run ++ more)))
    (given : key ∈ keysOf run) (stale : (after run).contains key = false) :
    (after (run ++ more)).contains key = false := by
  obtain ⟨position, n, rfl, earlier, _⟩ := (issued_after run).earlier key given
  have later : (after run).Becomes ((after run).keysFrom more) (after (run ++ more)) :=
    ⟨more, List.foldl_append, rfl⟩
  have all := unwrapped (position + 1)
  rw [keysOf, keysFrom_append] at all
  exact later.contains_eq_false (issued_after run) (sound_after run) earlier stale
    (Nat.le_trans all (Nat.le_add_left _ _))

/-! ## The registry and its past -/

/-- What the registry tells after the run. -/
structure Follows (run : List Change) (r : Registry) : Prop where
  live : ∀ key, r.contains key = true ↔ Live run key
  mainType : ∀ key name t later, Since run key name t later → r.mainType? key = some t
  /-- Live mods have different main classes. -/
  distinct : ∀ key key' t t', r.mainType? key = some t → r.mainType? key' = some t' →
    (t == t') = true → key = key'
  modForType : ∀ t key, r.modForType t = .ok key ↔
    Live run key ∧ ∃ t', r.mainType? key = some t' ∧ (t' == t) = true
  callerForMod : ∀ key found, r.callerForMod key = .ok found ↔ found = key ∧ Bound run key
  refused : ∀ name t, (∃ e, r.register name t = .error e) ↔ Ty.mod.accepts t = false ∨
    ∃ key t', Live run key ∧ r.mainType? key = some t' ∧ (t' == t) = true
  /-- A refused registration changes nothing. -/
  unchanged : ∀ name t e, r.register name t = .error e →
    ∀ s : Shared, s.registry = r → (Shared.register name t s).state = s

theorem follows (run : List Change) : Follows run (after run) := by
  have sound := sound_after run
  have classes {key : Key} {t : Ty} : (after run).mainType? key = some t ↔
      ∃ m, (after run).mods.get? key = some m ∧ m.mainType = t := Option.map_eq_some_iff
  have live {key : Key} {m : ModRecord} (found : (after run).mods.get? key = some m) :
      Live run key := contains_after.mp (contains_iff.mpr ⟨m, found⟩)
  have withClass (key : Key) (t : Ty) :
      (∃ m, (after run).mods.get? key = some m ∧ (m.mainType == t) = true) ↔
        Live run key ∧ ∃ t', (after run).mainType? key = some t' ∧ (t' == t) = true := by
    constructor
    · rintro ⟨m, found, same⟩
      exact ⟨live found, m.mainType, classes.mpr ⟨m, found, rfl⟩, same⟩
    · rintro ⟨_, t', known, same⟩
      obtain ⟨m, found, rfl⟩ := classes.mp known
      exact ⟨m, found, same⟩
  refine
    { live := fun key => contains_after
      mainType := ?_
      distinct := ?_
      modForType := ?_
      callerForMod := fun key found => callerForMod_after
      refused := ?_
      unchanged := ?_ }
  · intro key name t later since
    refine classes.mpr ⟨_, get?_after.mpr ⟨name, t, later, since, rfl⟩, ?_⟩
    exact (foldl_mark key later { name, mainType := t }).2.1
  · intro key key' t t' known known' same
    obtain ⟨m, found, rfl⟩ := classes.mp known
    obtain ⟨m', found', rfl⟩ := classes.mp known'
    exact sound.oneEach found found' same
  · intro t key
    rw [← withClass, ← sound.indexed]
    refine ⟨modForType_eq_ok, fun found => ?_⟩
    rw [modForType, found]
  · intro name t
    rw [register_eq_error sound]
    refine or_congr Iff.rfl (exists_congr fun key => ?_)
    rw [withClass, exists_and_left]
  · intro name t e refused s same
    rw [Shared.register, same, refused]

/-- What a registry tells follows from its past, and unless the versions of a
slot come round, it gives no key twice and no key comes back to life. -/
theorem follows_after {run : List Change} (unwrapped : Key.Unwrapped (keysOf run)) :
    Follows run (after run) ∧ (keysOf run).Nodup ∧
      (∀ more, Key.Unwrapped (keysOf (run ++ more)) → ∀ key ∈ keysOf run,
        (after run).contains key = false → (after (run ++ more)).contains key = false) ∧
      (∀ key, (after (run ++ [.clear])).contains key = false) ∧
      (after (run ++ [.clear])).inWorld = false := by
  refine ⟨follows run, nodup_keysOf unwrapped, fun more bound key given stale => ?_, ?_, ?_⟩
  · exact contains_stale bound given stale
  · intro key
    rw [after_concat]
    show ((after run).clear.mods.get? key).isSome = false
    rw [get?_clear]
    rfl
  · rw [after_concat]
    rfl

def sampleClass (name : String) : Ty := .cls name (some .mod) [] .concrete true

/-- The slot of a mod that was removed is used by another one of that class. -/
def sampleChanges : List Change :=
  [.register "First" (sampleClass "Main"), .bindCaller (.entry 1 1),
    .register "Second" (sampleClass "Main"), .unregister (.entry 1 1),
    .register "Third" (sampleClass "Main"), .register "Fourth" (sampleClass "Other")]

theorem follows_after_sample :
    keysOf sampleChanges = [.entry 1 1, .entry 1 3, .entry 2 1] ∧
      (after sampleChanges).modForType (sampleClass "Main") = .ok (.entry 1 3) ∧
      Live sampleChanges (.entry 1 3) ∧ ¬Live sampleChanges (.entry 1 1) := by
  have keys : keysOf sampleChanges = [.entry 1 1, .entry 1 3, .entry 2 1] := by decide +kernel
  have unwrapped : Key.Unwrapped (keysOf sampleChanges) :=
    Key.unwrapped_of_length (by rw [keys]; decide)
  have told := (follows_after unwrapped).1
  have main : (after sampleChanges).modForType (sampleClass "Main") = .ok (.entry 1 3) := rfl
  refine ⟨keys, main, ((told.modForType _ _).mp main).1, fun live => ?_⟩
  exact Bool.false_ne_true ((told.live (.entry 1 1)).mpr live)

end Registry
end ModSettings
