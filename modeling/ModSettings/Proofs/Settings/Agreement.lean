/-
Stores seen through some of their keys.

Two stores agree on a set of keys when under these keys they hold the same
settings.  A store changes within a set of keys when it goes on listing the
settings it listed, each with its owner, name, default and widget, and leaves
those outside the set alone.

Assigning and resetting under a key of the set change a store within it and keep
agreement, and a look under such a key finds the same in stores that agree.
-/
import Mathlib.Data.List.Forall2
import ModSettings.Settings.Store

namespace ModSettings

/-- What becomes of a setting where only settings of some keys may change. -/
structure Setting.Kept (K : Key → Prop) (s s' : Setting) : Prop where
  owner : s'.owner = s.owner
  name : s'.name = s.name
  default : s'.default = s.default
  kind : s'.current.kind = s.current.kind
  outside : ¬K s.owner → s' = s

namespace Setting

variable {K : Key → Prop} {s s' s'' : Setting}

theorem Kept.refl (s : Setting) : s.Kept K s := ⟨rfl, rfl, rfl, rfl, fun _ => rfl⟩

theorem Kept.trans (h : s.Kept K s') (h' : s'.Kept K s'') : s.Kept K s'' where
  owner := h'.owner.trans h.owner
  name := h'.name.trans h.name
  default := h'.default.trans h.default
  kind := h'.kind.trans h.kind
  outside out := (h'.outside (h.owner ▸ out)).trans (h.outside out)

/-- A setting of one of the keys may change as long as its default stays, for
its widget is that of the default. -/
theorem Kept.of_mem (member : K s.owner) (owner : s'.owner = s.owner) (name : s'.name = s.name)
    (default : s'.default = s.default) : s.Kept K s' where
  owner := owner
  name := name
  default := default
  kind := by rw [s'.kind_eq, s.kind_eq, default]
  outside out := absurd member out

end Setting

namespace Store

variable {K : Key → Prop} {st st' st'' : Store} {key : Key} {name : String}

/-- The same settings under every one of the keys. -/
def Agree (K : Key → Prop) (st st' : Store) : Prop :=
  ∀ key, K key → ∀ name, st.find? key name = st'.find? key name

/-- Setting for setting the same, but for the values under the keys. -/
def ChangedWithin (K : Key → Prop) (st st' : Store) : Prop :=
  List.Forall₂ (Setting.Kept K) st.settings st'.settings

theorem ChangedWithin.refl (st : Store) : st.ChangedWithin K st :=
  List.forall₂_same.mpr fun s _ => Setting.Kept.refl s

theorem ChangedWithin.trans (h : st.ChangedWithin K st') (h' : st'.ChangedWithin K st'') :
    st.ChangedWithin K st'' := by
  unfold ChangedWithin at *
  generalize st.settings = before at *
  generalize st'.settings = between at *
  generalize st''.settings = after at *
  induction h generalizing after with
  | nil => exact h'
  | cons first _ ih =>
    cases h' with
    | cons second rest => exact .cons (first.trans second) (ih _ rest)

/-! ## Changing settings one by one -/

section

variable {f : Setting → Setting}
  {keeps : ∀ s : Setting, (f s).owner = s.owner ∧ (f s).name = s.name}

theorem find?_mapSettings (st : Store) (key : Key) (name : String) :
    (st.mapSettings f keeps).find? key name = (st.find? key name).map f := by
  have unseen : (·.isNamed key name) ∘ f = (·.isNamed key name) := by
    funext s
    rw [Function.comp_apply, Setting.isNamed, Setting.isNamed, (keeps s).1, (keeps s).2]
  rw [find?, find?, mapSettings, List.find?_map, unseen]

theorem agree_mapSettings (h : st.Agree K st') :
    (st.mapSettings f keeps).Agree K (st'.mapSettings f keeps) := by
  intro key member name
  rw [find?_mapSettings, find?_mapSettings, h key member name]

theorem changedWithin_mapSettings (h : ∀ s : Setting, s.Kept K (f s)) (st : Store) :
    st.ChangedWithin K (st.mapSettings f keeps) :=
  List.forall₂_map_right_iff.mpr (List.forall₂_same.mpr fun s _ => h s)

end

/-! ## Assigning and resetting -/

theorem set_changedWithin (member : K key) {value : SettingValue}
    (h : st.set key name value = .ok st') : st.ChangedWithin K st' := by
  rw [set] at h
  cases found : st.find? key name with
  | none => rw [found] at h; exact nomatch h
  | some old =>
    rw [found] at h
    dsimp only at h
    cases assigned : old.assign? value with
    | none => rw [assigned] at h; exact nomatch h
    | some new =>
      rw [assigned] at h
      cases h
      refine changedWithin_mapSettings (fun s => ?_) st
      by_cases named : s.isNamed key name = true
      · rw [if_pos named]
        have owner : s.owner = key := (Setting.isNamed_iff.mp named).1
        exact Setting.Kept.of_mem (owner ▸ member) (by simp) (by simp) (by simp)
      · rw [if_neg named]
        exact Setting.Kept.refl s

/-- Stores that agree refuse an assignment alike or agree after it. -/
theorem set_agree (h : st.Agree K st') (member : K key) (name : String) (value : SettingValue) :
    (∃ e, st.set key name value = .error e ∧ st'.set key name value = .error e) ∨
      ∃ new new', st.set key name value = .ok new ∧ st'.set key name value = .ok new' ∧
        new.Agree K new' := by
  rw [set, set, h key member name]
  cases st'.find? key name with
  | none => exact Or.inl ⟨_, rfl, rfl⟩
  | some old =>
    dsimp only
    cases old.assign? value with
    | none => exact Or.inl ⟨_, rfl, rfl⟩
    | some new => exact Or.inr ⟨_, _, rfl, rfl, agree_mapSettings h⟩

theorem resetAll_changedWithin (member : K key) (st : Store) :
    st.ChangedWithin K (st.resetAll key) := by
  refine changedWithin_mapSettings (fun s => ?_) st
  by_cases owned : (s.owner == key) = true
  · rw [if_pos owned]
    exact Setting.Kept.of_mem (eq_of_beq owned ▸ member) rfl rfl rfl
  · rw [if_neg owned]
    exact Setting.Kept.refl s

theorem resetAll_agree (h : st.Agree K st') (key : Key) :
    (st.resetAll key).Agree K (st'.resetAll key) := agree_mapSettings h

/-! ## Looking -/

theorem find?_isSome {owner : Key} : (st.find? owner name).isSome = true ↔
    ∃ x ∈ st.settings, x.owner = owner ∧ x.name = name := by
  rw [find?, List.find?_isSome]
  simp only [Setting.isNamed_iff]

/-- Looks at a setting and at nothing else of a store. -/
def LooksAtOne {α : Type} (look : Store → Key → String → Except SettingsError α) : Prop :=
  ∀ (st st' : Store) (key : Key) (name : String),
    st.find? key name = st'.find? key name → look st key name = look st' key name

theorem looksAtOne_getAs {α : Type} (kind : String) (view : SettingValue → Option α) :
    LooksAtOne fun st => st.getAs kind view := by
  intro st st' key name h
  show st.getAs kind view key name = st'.getAs kind view key name
  rw [getAs, getAs, get, get, h]

end Store

end ModSettings
