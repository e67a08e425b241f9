/-
What registries keep.

In a sound registry the index leads from a class to the one live mod that has
it.  Registering refuses a class that is taken, removing takes the row of the
class out with the mod, and no other change touches the index, so registries
stay sound.

Between being registered and being removed a mod keeps its name and its main
class, whatever happens to its flags, and a caller once bound stays bound.
`Flagged` says that nothing else has happened.
-/
import ModSettings.Proofs.Registry.Slots
import ModSettings.Proofs.Types.Equality
import ModSettings.Registry.Basic

namespace ModSettings

/-- What a mod keeps while it is registered. -/
structure ModRecord.Kept (m m' : ModRecord) : Prop where
  name : m'.name = m.name
  mainType : m'.mainType = m.mainType
  callerBound : m.callerBound = true → m'.callerBound = true

theorem ModRecord.Kept.refl (m : ModRecord) : m.Kept m := ⟨rfl, rfl, id⟩

theorem ModRecord.Kept.trans {m m' m'' : ModRecord} (h : m.Kept m') (h' : m'.Kept m'') :
    m.Kept m'' where
  name := h'.name.trans h.name
  mainType := h'.mainType.trans h.mainType
  callerBound bound := h'.callerBound (h.callerBound bound)

namespace Registry

variable {r r' r'' : Registry} {key k : Key} {name : String} {t : Ty} {m m' : ModRecord}

structure Sound (r : Registry) : Prop where
  slots : r.mods.WellFormed
  /-- The index finds the live mods by their main classes, and nothing else. -/
  indexed : ∀ {t key}, r.keyOfType? t = some key ↔
    ∃ m, r.mods.get? key = some m ∧ (m.mainType == t) = true

theorem sound_empty : Sound {} where
  slots := Slots.wellFormed_empty
  indexed := by
    refine ⟨nofun, ?_⟩
    rintro ⟨m, found, _⟩
    obtain ⟨_, _, none, _⟩ := Slots.get?_eq_some.mp found
    exact nomatch none

theorem contains_iff : r.contains key = true ↔ ∃ m, r.mods.get? key = some m :=
  Slots.contains_iff

theorem contains_eq_false : r.contains key = false ↔ r.mods.get? key = none :=
  Option.isSome_eq_false_iff.trans Option.isNone_iff_eq_none

/-- A key is found under a class when the mod of that key has this class. -/
theorem keyOfType?_eq (h : r.Sound) (found : r.mods.get? key = some m)
    (same : (m.mainType == t) = true) : r.keyOfType? t = some key :=
  h.indexed.mpr ⟨m, found, same⟩

theorem keyOfType?_eq_none (sound : r.Sound) (h : r.keyOfType? t = none)
    (found : r.mods.get? key = some m) : (m.mainType == t) = false := by
  refine Bool.eq_false_iff.mpr fun same => ?_
  rw [keyOfType?_eq sound found same] at h
  exact nomatch h

/-- A main class belongs to one live mod only. -/
theorem Sound.oneEach (h : r.Sound) (found : r.mods.get? key = some m)
    (found' : r.mods.get? k = some m') (same : (m.mainType == m'.mainType) = true) : key = k := by
  have here := keyOfType?_eq h found same
  rw [keyOfType?_eq h found' BEq.rfl] at here
  exact (Option.some.inj here).symm

/-! ## Registering and removing -/

theorem register_eq_ok (h : r.register name t = .ok (key, r')) :
    r.keyOfType? t = none ∧ key = (r.mods.insert { name, mainType := t }).1 ∧
      r' = { r with
        mods := (r.mods.insert { name, mainType := t }).2
        byType := (t, key) :: r.byType } := by
  rw [register] at h
  cases isMod : Ty.mod.accepts t with
  | false => rw [isMod] at h; exact nomatch h
  | true =>
    rw [isMod] at h
    cases taken : r.keyOfType? t with
    | some other => rw [taken] at h; exact nomatch h
    | none =>
      rw [taken] at h
      cases h
      exact ⟨rfl, rfl, rfl⟩

section

variable (sound : r.Sound) (h : r.register name t = .ok (key, r'))
include sound h

theorem get?_register (k : Key) : r'.mods.get? k =
    if k = key then some { name, mainType := t } else r.mods.get? k := by
  obtain ⟨_, rfl, rfl⟩ := register_eq_ok h
  exact Slots.get?_insert sound.slots _ k

theorem sameSlot_register (live : r.contains k = true) : k.sameSlot key = false := by
  obtain ⟨_, rfl, _⟩ := register_eq_ok h
  exact Slots.sameSlot_insert sound.slots _ live

omit sound in
theorem ne_null_of_register : key ≠ .null := by
  obtain ⟨_, rfl, _⟩ := register_eq_ok h
  exact Slots.insert_ne_null _ _

theorem ne_of_register (live : r.contains k = true) : k ≠ key :=
  Key.ne_of_sameSlot (sameSlot_register sound h live) (ne_null_of_register h)

omit sound in
theorem keyOfType?_register (t' : Ty) :
    r'.keyOfType? t' = if t == t' then some key else r.keyOfType? t' := by
  obtain ⟨_, _, rfl⟩ := register_eq_ok h
  show (List.find? _ ((t, key) :: r.byType)).map _ = _
  rw [List.find?_cons]
  cases t == t' <;> rfl

theorem sound_register : r'.Sound := by
  have untaken := (register_eq_ok h).1
  refine ⟨?_, fun {t' k} => ?_⟩
  · obtain ⟨_, _, rfl⟩ := register_eq_ok h
    exact Slots.wellFormed_insert sound.slots _
  rw [keyOfType?_register h, get?_register sound h]
  by_cases new : k = key
  · rw [if_pos new, new]
    cases same : t == t' with
    | true => exact ⟨fun _ => ⟨_, rfl, same⟩, fun _ => rfl⟩
    | false =>
      rw [if_neg Bool.false_ne_true, sound.indexed]
      constructor
      · rintro ⟨m, found, _⟩
        exact absurd rfl (ne_of_register sound h (contains_iff.mpr ⟨m, found⟩))
      · rintro ⟨m, here, same'⟩
        cases here
        rw [same] at same'
        exact nomatch same'
  · rw [if_neg new]
    cases same : t == t' with
    | false => rw [if_neg Bool.false_ne_true, sound.indexed]
    | true =>
      -- no other mod has the class, for then it would have been refused
      rw [if_pos rfl]
      refine ⟨fun here => absurd (Option.some.inj here).symm new, ?_⟩
      rintro ⟨m, found, same'⟩
      have fresh := keyOfType?_eq_none sound untaken found
      rw [BEq.trans same' (BEq.symm same)] at fresh
      exact nomatch fresh

end

theorem mods_unregister (r : Registry) (key : Key) :
    (r.unregister key).mods = r.mods.erase key := by
  unfold unregister
  cases found : r.mods.get? key with
  | some m => rfl
  | none =>
    rcases Slots.erase_eq r.mods key with ⟨_, _, _, hs, held, rfl, _⟩ | ⟨_, same⟩
    · rw [Slots.get?_eq_some.mpr ⟨_, _, hs, held, rfl⟩] at found
      exact nomatch found
    · exact same.symm

theorem get?_unregister (r : Registry) (key k : Key) : (r.unregister key).mods.get? k =
    if k = key then none else r.mods.get? k := by
  rw [mods_unregister]
  exact Slots.get?_erase r.mods key k

theorem keyOfType?_unregister (found : r.mods.get? key = some m) (t : Ty) :
    (r.unregister key).keyOfType? t = if m.mainType == t then none else r.keyOfType? t := by
  rw [unregister, found]
  show (List.find? _ (r.byType.filter _)).map _ = _
  rw [List.find?_filter]
  cases same : m.mainType == t with
  | true =>
    rw [if_pos rfl, Option.map_eq_none_iff, List.find?_eq_none]
    intro row _ both
    obtain ⟨other, here⟩ := of_decide_eq_true both
    rw [BEq.trans here (BEq.symm same)] at other
    exact nomatch other
  | false =>
    rw [if_neg Bool.false_ne_true, keyOfType?]
    congr 2
    funext row
    cases here : row.1 == t with
    | false => simp
    | true =>
      have other : (row.1 == m.mainType) = false := by
        refine Bool.eq_false_iff.mpr fun there => ?_
        rw [BEq.trans (BEq.symm there) here] at same
        exact nomatch same
      simp [other]

theorem inWorld_unregister (r : Registry) (key : Key) :
    (r.unregister key).inWorld = r.inWorld := by
  unfold unregister
  split <;> rfl

theorem sound_unregister (sound : r.Sound) (key : Key) : (r.unregister key).Sound := by
  refine ⟨?_, fun {t k} => ?_⟩
  · rw [mods_unregister]
    exact Slots.wellFormed_erase sound.slots key
  cases live : r.mods.get? key with
  | none =>
    rw [unregister, live]
    exact sound.indexed
  | some m =>
    rw [keyOfType?_unregister live, get?_unregister]
    by_cases gone : k = key
    · rw [if_pos gone, gone]
      cases same : m.mainType == t with
      | true => exact ⟨nofun, nofun⟩
      | false =>
        rw [if_neg Bool.false_ne_true, sound.indexed]
        constructor
        · rintro ⟨m', found, same'⟩
          rw [live] at found
          cases found
          rw [same] at same'
          exact nomatch same'
        · nofun
    · rw [if_neg gone]
      cases same : m.mainType == t with
      | false => rw [if_neg Bool.false_ne_true, sound.indexed]
      | true =>
        -- the class belonged to the removed mod alone
        refine ⟨nofun, ?_⟩
        rintro ⟨m', found, same'⟩
        exact absurd (sound.oneEach found live (BEq.trans same' (BEq.symm same))) gone

theorem get?_clear (r : Registry) (key : Key) : r.clear.mods.get? key = none :=
  Slots.get?_clear r.mods key

theorem sound_clear (sound : r.Sound) : r.clear.Sound where
  slots := Slots.wellFormed_clear sound.slots
  indexed := by
    refine ⟨nofun, ?_⟩
    rintro ⟨m, found, _⟩
    rw [get?_clear] at found
    exact nomatch found

/-! ## Setting flags -/

/-- The registry has got from one to the other without gaining or losing a mod:
callers were bound, mods were flagged as loaded or not, or the player entered or
left a world. -/
inductive Flagged (r : Registry) : Registry → Prop where
  | refl : Flagged r r
  | bindCaller {r' r'' : Registry} {key : Key} (before : Flagged r r')
      (bound : r'.bindCaller key = .ok r'') : Flagged r r''
  | setApiLoaded {r' : Registry} (before : Flagged r r') (key : Key) (loaded : Bool) :
      Flagged r (r'.setApiLoaded key loaded)
  | setInWorld {r' : Registry} (before : Flagged r r') (inWorld : Bool) :
      Flagged r (r'.setInWorld inWorld)

theorem bindCaller_eq_ok (h : r.bindCaller key = .ok r') : r.contains key = true ∧
    r' = { r with mods := r.mods.update key fun m => { m with callerBound := true } } := by
  rw [bindCaller] at h
  cases live : r.contains key with
  | false => rw [live] at h; exact nomatch h
  | true =>
    rw [live] at h
    cases h
    exact ⟨rfl, rfl⟩

namespace Flagged

theorem trans (h : Flagged r r') (h' : Flagged r' r'') : Flagged r r'' := by
  induction h' with
  | refl => exact h
  | bindCaller _ bound ih => exact .bindCaller ih bound
  | setApiLoaded _ key loaded ih => exact .setApiLoaded ih key loaded
  | setInWorld _ inWorld ih => exact .setInWorld ih inWorld

theorem of_inWorld (h : r' = r.setInWorld r'.inWorld) : Flagged r r' := by
  rw [h]
  exact .setInWorld .refl _

theorem byType_eq (h : Flagged r r') : r'.byType = r.byType := by
  induction h with
  | refl => rfl
  | bindCaller _ bound ih =>
    obtain ⟨_, rfl⟩ := bindCaller_eq_ok bound
    exact ih
  | setApiLoaded _ key loaded ih => exact ih
  | setInWorld _ inWorld ih => exact ih

end Flagged

theorem kept_update {f : ModRecord → ModRecord} (keeps : ∀ m : ModRecord, m.Kept (f m))
    (key k : Key) : (r.mods.get? k = none → (r.mods.update key f).get? k = none) ∧
      ∀ m, r.mods.get? k = some m → ∃ m', (r.mods.update key f).get? k = some m' ∧ m.Kept m' := by
  rw [Slots.get?_update]
  refine ⟨fun absent => ?_, fun m found => ?_⟩
  · rw [absent, Option.map_none, ite_self]
  · rw [found, Option.map_some]
    by_cases here : k = key
    · rw [if_pos here]
      exact ⟨f m, rfl, keeps m⟩
    · rw [if_neg here]
      exact ⟨m, rfl, .refl m⟩

namespace Flagged

/-- No mod comes, none goes, and all that are there are kept. -/
theorem kept (h : Flagged r r') (k : Key) : (r.mods.get? k = none → r'.mods.get? k = none) ∧
    ∀ m, r.mods.get? k = some m → ∃ m', r'.mods.get? k = some m' ∧ m.Kept m' := by
  have update {r' : Registry} {f : ModRecord → ModRecord} (key : Key)
      (keeps : ∀ m : ModRecord, m.Kept (f m))
      (ih : (r.mods.get? k = none → r'.mods.get? k = none) ∧
        ∀ m, r.mods.get? k = some m → ∃ m', r'.mods.get? k = some m' ∧ m.Kept m') :
      (r.mods.get? k = none → (r'.mods.update key f).get? k = none) ∧
        ∀ m, r.mods.get? k = some m → ∃ m', (r'.mods.update key f).get? k = some m' ∧
          m.Kept m' := by
    have here := kept_update (r := r') keeps key k
    refine ⟨fun absent => here.1 (ih.1 absent), fun m found => ?_⟩
    obtain ⟨m', found', first⟩ := ih.2 m found
    obtain ⟨m'', found'', second⟩ := here.2 m' found'
    exact ⟨m'', found'', first.trans second⟩
  induction h with
  | refl => exact ⟨id, fun m found => ⟨m, found, .refl m⟩⟩
  | bindCaller _ bound ih =>
    obtain ⟨_, rfl⟩ := bindCaller_eq_ok bound
    exact update _ (fun m => ⟨rfl, rfl, fun _ => rfl⟩) ih
  | setApiLoaded _ key loaded ih => exact update key (fun m => ⟨rfl, rfl, id⟩) ih
  | setInWorld _ inWorld ih => exact ih

theorem contains_eq (h : Flagged r r') (k : Key) : r'.contains k = r.contains k := by
  cases found : r.mods.get? k with
  | none =>
    rw [contains, contains, Slots.contains, Slots.contains, found, (h.kept k).1 found]
  | some m =>
    obtain ⟨m', found', _⟩ := (h.kept k).2 m found
    rw [contains, contains, Slots.contains, Slots.contains, found, found']
    rfl

theorem found_before (h : Flagged r r') (found' : r'.mods.get? k = some m') :
    ∃ m, r.mods.get? k = some m ∧ m.Kept m' := by
  cases found : r.mods.get? k with
  | none =>
    rw [(h.kept k).1 found] at found'
    exact nomatch found'
  | some m =>
    obtain ⟨m'', found'', keeps⟩ := (h.kept k).2 m found
    rw [found''] at found'
    cases found'
    exact ⟨m, rfl, keeps⟩

theorem wellFormed (h : Flagged r r') (slots : r.mods.WellFormed) : r'.mods.WellFormed := by
  induction h with
  | refl => exact slots
  | bindCaller _ bound ih =>
    obtain ⟨_, rfl⟩ := bindCaller_eq_ok bound
    exact Slots.wellFormed_update ih _ _
  | setApiLoaded _ key loaded ih => exact Slots.wellFormed_update ih _ _
  | setInWorld _ inWorld ih => exact ih

theorem sound (h : Flagged r r') (sound : r.Sound) : r'.Sound := by
  refine ⟨h.wellFormed sound.slots, fun {t k} => ?_⟩
  have index : r'.keyOfType? t = r.keyOfType? t := by rw [keyOfType?, keyOfType?, h.byType_eq]
  rw [index, sound.indexed]
  constructor
  · rintro ⟨m, found, same⟩
    obtain ⟨m', found', keeps⟩ := (h.kept k).2 m found
    exact ⟨m', found', by rw [keeps.mainType]; exact same⟩
  · rintro ⟨m', found', same⟩
    obtain ⟨m, found, keeps⟩ := h.found_before found'
    rw [keeps.mainType] at same
    exact ⟨m, found, same⟩

end Flagged

/-! ## Whatever happens to a registry -/

/-- The registry comes of an empty one. -/
inductive Reached : Registry → Prop where
  | empty : Reached {}
  | register {r r' : Registry} {key : Key} {name : String} {t : Ty} (before : Reached r)
      (added : r.register name t = .ok (key, r')) : Reached r'
  | unregister {r : Registry} (before : Reached r) (key : Key) : Reached (r.unregister key)
  | clear {r : Registry} (before : Reached r) : Reached r.clear
  | flagged {r r' : Registry} (before : Reached r) (flagged : Flagged r r') : Reached r'

theorem Reached.sound (h : Reached r) : r.Sound := by
  induction h with
  | empty => exact sound_empty
  | register _ added ih => exact sound_register ih added
  | unregister _ key ih => exact sound_unregister ih key
  | clear _ ih => exact sound_clear ih
  | flagged _ flagged ih => exact flagged.sound ih

/-- The registry has got from one to the other without removing the mod of the
key, while others came and went and flags were set. -/
inductive Retains (key : Key) (r : Registry) : Registry → Prop where
  | refl : Retains key r r
  | register {r' r'' : Registry} {k : Key} {name : String} {t : Ty} (before : Retains key r r')
      (added : r'.register name t = .ok (k, r'')) : Retains key r r''
  | unregister {r' : Registry} {k : Key} (before : Retains key r r') (other : k ≠ key) :
      Retains key r (r'.unregister k)
  | flagged {r' r'' : Registry} (before : Retains key r r') (flagged : Flagged r' r'') :
      Retains key r r''

theorem Retains.kept (h : Retains key r r') (sound : r.Sound)
    (found : r.mods.get? key = some m) :
    r'.Sound ∧ ∃ m', r'.mods.get? key = some m' ∧ m.Kept m' := by
  induction h with
  | refl => exact ⟨sound, m, found, .refl m⟩
  | register _ added ih =>
    obtain ⟨sound', m', found', keeps⟩ := ih
    refine ⟨sound_register sound' added, m', ?_, keeps⟩
    have other := ne_of_register sound' added (contains_iff.mpr ⟨m', found'⟩)
    rw [get?_register sound' added, if_neg other]
    exact found'
  | unregister _ other ih =>
    obtain ⟨sound', m', found', keeps⟩ := ih
    refine ⟨sound_unregister sound' _, m', ?_, keeps⟩
    rw [get?_unregister, if_neg fun same => other same.symm]
    exact found'
  | flagged _ flagged ih =>
    obtain ⟨sound', m', found', keeps⟩ := ih
    obtain ⟨m'', found'', keeps'⟩ := (flagged.kept key).2 m' found'
    exact ⟨flagged.sound sound', m'', found'', keeps.trans keeps'⟩

/-- As long as a mod is not removed, its key leads to the class that it was
registered with. -/
theorem Retains.mainType?_eq (sound : r.Sound) (h : r.register name t = .ok (key, r'))
    (retains : Retains key r' r'') : r''.mainType? key = some t := by
  have found := (get?_register sound h key).trans (if_pos rfl)
  obtain ⟨_, m, found', keeps⟩ := retains.kept (sound_register sound h) found
  rw [mainType?, found', Option.map_some, keeps.mainType]

/-! ## The mod of a class -/

/-- The mod is registered with that main class, and its caller is bound. -/
def Stands (r : Registry) (key : Key) (t : Ty) : Prop :=
  ∃ m, r.mods.get? key = some m ∧ m.mainType = t ∧ m.callerBound = true

theorem Stands.of_flagged (h : r.Stands key t) (flagged : Flagged r r') : r'.Stands key t := by
  obtain ⟨m, found, main, bound⟩ := h
  obtain ⟨m', found', keeps⟩ := (flagged.kept key).2 m found
  exact ⟨m', found', keeps.mainType.trans main, keeps.callerBound bound⟩

/-- A mod that is registered, bound and flagged stands in the registry next to
those that were there before. -/
theorem exists_opened (sound : r.Sound) (h : r.register name t = .ok (key, r')) :
    ∃ r'', r'.bindCaller key = .ok r'' ∧ (r''.setApiLoaded key true).Sound ∧
      ∀ k, (r''.setApiLoaded key true).mods.get? k =
        if k = key then some { name, mainType := t, apiLoaded := true, callerBound := true }
        else r.mods.get? k := by
  have registered := get?_register sound h
  have live : r'.contains key = true :=
    contains_iff.mpr ⟨_, (registered key).trans (if_pos rfl)⟩
  have bound : r'.bindCaller key =
      .ok { r' with mods := r'.mods.update key fun m => { m with callerBound := true } } := by
    rw [bindCaller, if_pos live]
  refine ⟨_, bound, ?_, fun k => ?_⟩
  · exact Flagged.sound (.setApiLoaded (.bindCaller .refl bound) key true) (sound_register sound h)
  · show ((r'.mods.update key _).update key _).get? k = _
    rw [Slots.get?_update, Slots.get?_update, registered]
    by_cases new : k = key
    · rw [if_pos new, if_pos new, if_pos new, if_pos new]
      rfl
    · rw [if_neg new, if_neg new, if_neg new, if_neg new]

theorem stands_opened (sound : r.Sound) (h : r.register name t = .ok (key, r'))
    (binds : r'.bindCaller key = .ok r'') :
    (r''.setApiLoaded key true).Sound ∧ (r''.setApiLoaded key true).Stands key t := by
  obtain ⟨_, binds', opens, mods⟩ := exists_opened sound h
  cases binds.symm.trans binds'
  exact ⟨opens, _, (mods key).trans (if_pos rfl), rfl, rfl⟩

/-- A mod that is registered, bound, flagged and then removed leaves the registry as
it was to everybody who looks. -/
theorem unregister_opened (sound : r.Sound) (h : r.register name t = .ok (key, r'))
    (binds : r'.bindCaller key = .ok r'') :
    let gone := ((r''.setApiLoaded key true).setApiLoaded key false).unregister key
    (∀ k, gone.mods.get? k = r.mods.get? k) ∧ (∀ t', gone.keyOfType? t' = r.keyOfType? t') ∧
      gone.inWorld = r.inWorld := by
  intro gone
  let flags := (r''.setApiLoaded key true).setApiLoaded key false
  have flagged : Flagged r' flags :=
    .setApiLoaded (.setApiLoaded (.bindCaller .refl binds) key true) key false
  have registered := get?_register sound h
  refine ⟨fun k => ?_, fun t' => ?_, ?_⟩
  · rw [get?_unregister]
    by_cases here : k = key
    · rw [if_pos here, here]
      refine (Option.eq_none_iff_forall_ne_some.mpr fun m live => ?_).symm
      exact ne_of_register sound h (contains_iff.mpr ⟨m, live⟩) rfl
    · obtain ⟨_, rfl⟩ := bindCaller_eq_ok binds
      simp [setApiLoaded, Slots.get?_update, registered, here]
  · obtain ⟨m, found, keeps⟩ := (flagged.kept key).2 _ ((registered key).trans (if_pos rfl))
    have index : flags.keyOfType? t' = r'.keyOfType? t' := by
      rw [keyOfType?, keyOfType?, flagged.byType_eq]
    rw [keyOfType?_unregister found, keeps.mainType, index, keyOfType?_register h]
    cases same : t == t' with
    | false => rfl
    | true =>
      -- the class was not taken, or the mod would have been refused
      refine (Option.eq_none_iff_forall_ne_some.mpr fun k taken => ?_).symm
      obtain ⟨m, live, same'⟩ := sound.indexed.mp taken
      have fresh := keyOfType?_eq_none sound (register_eq_ok h).1 live
      rw [BEq.trans same' (BEq.symm same)] at fresh
      exact nomatch fresh
  · obtain ⟨_, rfl⟩ := bindCaller_eq_ok binds
    obtain ⟨_, _, rfl⟩ := register_eq_ok h
    exact inWorld_unregister _ key

theorem Stands.modForType_eq (h : r.Stands key t) (sound : r.Sound) :
    r.modForType t = .ok key := by
  obtain ⟨m, found, rfl, _⟩ := h
  rw [modForType, keyOfType?_eq sound found BEq.rfl]

theorem Stands.callerForMod_eq (h : r.Stands key t) : r.callerForMod key = .ok key := by
  obtain ⟨m, found, _, bound⟩ := h
  rw [callerForMod, found]
  exact if_pos bound

end Registry
end ModSettings
