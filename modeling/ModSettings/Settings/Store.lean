/-
The settings of all mods.

A setting is known by the mod that declared it and its name, and keeps the
default it was declared with beside its present value.  Declaring it again
starts it afresh.
-/
import ModSettings.Registry.Key
import ModSettings.Settings.Value

namespace ModSettings

/-- A declared setting.  It stays the widget it was declared as, with the items
it was declared with. -/
structure Setting where
  owner : Key
  name : String
  default : SettingValue
  current : SettingValue := default
  kind_eq : current.kind = default.kind := by rfl
  items_eq : current.items = default.items := by rfl

/-- Settings of which no two have both owner and name in common. -/
structure Store where
  settings : List Setting
  distinct : settings.Pairwise fun a b => ¬(a.owner = b.owner ∧ a.name = b.name)

def Store.empty : Store := { settings := [], distinct := .nil }

instance : Inhabited Store := ⟨.empty⟩

namespace Setting

def isNamed (s : Setting) (owner : Key) (name : String) : Bool :=
  s.owner == owner && s.name == name

def reset (s : Setting) : Setting :=
  { s with current := s.default, kind_eq := rfl, items_eq := rfl }

/-- The setting with a new value, unless it is a widget of another kind. -/
def assign? (s : Setting) (value : SettingValue) : Option Setting :=
  match h : s.current.assign? value with
  | none => none
  | some current => some
      { s with
        current
        kind_eq := (SettingValue.assign?_keeps h).1.trans s.kind_eq
        items_eq := (SettingValue.assign?_keeps h).2.trans s.items_eq }

/-- The setting with a new value if it can have it. -/
def assign (s : Setting) (value : SettingValue) : Setting := (s.assign? value).getD s

/-- Assignment to a setting is assignment to its present value. -/
theorem assign?_eq_some_iff {s s' : Setting} {value : SettingValue} :
    s.assign? value = some s' ↔ s.current.assign? value = some s'.current ∧
      s'.owner = s.owner ∧ s'.name = s.name ∧ s'.default = s.default := by
  unfold assign?
  split
  case h_1 h => simp [h]
  case h_2 current h =>
    cases s' with
    | mk owner name default new kind_eq items_eq =>
      simp only [h, Option.some.injEq, mk.injEq]
      grind

theorem assign_keeps (s : Setting) (value : SettingValue) :
    (s.assign value).owner = s.owner ∧ (s.assign value).name = s.name ∧
      (s.assign value).default = s.default := by
  unfold assign
  cases h : s.assign? value with
  | none => exact ⟨rfl, rfl, rfl⟩
  | some s' => exact (assign?_eq_some_iff.mp h).2

@[simp] theorem assign_owner (s : Setting) (value : SettingValue) :
    (s.assign value).owner = s.owner := (s.assign_keeps value).1

@[simp] theorem assign_name (s : Setting) (value : SettingValue) :
    (s.assign value).name = s.name := (s.assign_keeps value).2.1

@[simp] theorem assign_default (s : Setting) (value : SettingValue) :
    (s.assign value).default = s.default := (s.assign_keeps value).2.2

theorem isNamed_iff {s : Setting} {owner : Key} {name : String} :
    s.isNamed owner name = true ↔ s.owner = owner ∧ s.name = name := by
  simp [isNamed]

end Setting

namespace Store

/-- Changes settings one by one, none of them by owner or name. -/
def mapSettings (st : Store) (f : Setting → Setting)
    (keeps : ∀ s, (f s).owner = s.owner ∧ (f s).name = s.name) : Store :=
  { settings := st.settings.map f
    distinct := by
      refine List.pairwise_map.mpr (st.distinct.imp fun {a b} h => ?_)
      rw [(keeps a).1, (keeps a).2, (keeps b).1, (keeps b).2]
      exact h }

/-- Forgets the settings that fail the test. -/
def keep (st : Store) (test : Setting → Bool) : Store :=
  { settings := st.settings.filter test
    distinct := st.distinct.filter test }

def find? (st : Store) (owner : Key) (name : String) : Option Setting :=
  st.settings.find? (·.isNamed owner name)

/-- Declares a setting; an earlier one of that owner and name is forgotten. -/
def declare (st : Store) (owner : Key) (name : String) (default : SettingValue) : Store :=
  let others := st.keep (!·.isNamed owner name)
  { settings := others.settings ++ [{ owner, name, default }]
    distinct := by
      refine List.pairwise_append.mpr ⟨others.distinct, by simp, fun a ha b hb => ?_⟩
      have other : a.isNamed owner name = false := by
        simpa using (List.mem_filter.mp ha).2
      rw [List.mem_singleton.mp hb, ← Setting.isNamed_iff, other]
      exact Bool.false_ne_true }

/-- The setting that a declaration makes. -/
def declared (owner : Key) (name : String) (default : SettingValue) : Setting :=
  { owner, name, default }

def get (st : Store) (owner : Key) (name : String) : Except SettingsError SettingValue :=
  match st.find? owner name with
  | some s => .ok s.current
  | none => .error (.unknownSetting name)

/-- Assigns a value of the setting's own kind. -/
def set (st : Store) (owner : Key) (name : String) (value : SettingValue) :
    Except SettingsError Store :=
  match st.find? owner name with
  | none => .error (.unknownSetting name)
  | some s =>
      match s.assign? value with
      | none => .error (.kindMismatch name s.current.kind value.kind)
      | some _ =>
          .ok (st.mapSettings (fun s => if s.isNamed owner name then s.assign value else s)
            (by intro s; split <;> simp))

/-! ## Reading one kind -/

/-- Reads a setting through a view that only one kind has.  The message names
the kind asked for before the kind found. -/
def getAs {α : Type} (st : Store) (kind : String) (view : SettingValue → Option α)
    (owner : Key) (name : String) : Except SettingsError α := do
  let value ← st.get owner name
  match view value with
  | some a => .ok a
  | none => .error (.kindMismatch name kind value.kind)

def checkbox (st : Store) : Key → String → Except SettingsError Bool :=
  st.getAs "checkbox" fun | .checkbox on => some on | _ => none

def slider (st : Store) : Key → String → Except SettingsError Float :=
  st.getAs "slider" fun | .slider position => some position | _ => none

def input (st : Store) : Key → String → Except SettingsError String :=
  st.getAs "input" fun | .input text => some text | _ => none

def combobox (st : Store) : Key → String → Except SettingsError (UInt64 × String) :=
  st.getAs "combobox" fun
    | .combobox index items => some (index, SettingValue.itemAt items index)
    | _ => none

def keybind (st : Store) : Key → String → Except SettingsError (String × String) :=
  st.getAs "keybind" fun | .keybind main alt => some (main, alt) | _ => none

/-! ## All settings of a mod -/

def ownedBy (st : Store) (owner : Key) : List Setting :=
  st.settings.filter (·.owner == owner)

def resetAll (st : Store) (owner : Key) : Store :=
  st.mapSettings (fun s => if s.owner == owner then s.reset else s)
    (by intro s; split <;> exact ⟨rfl, rfl⟩)

def removeMod (st : Store) (owner : Key) : Store :=
  st.keep (!·.owner == owner)

/-- The names a mod has declared, in the order of their code points. -/
def names (st : Store) (owner : Key) : List String :=
  ((st.ownedBy owner).map (·.name)).mergeSort fun a b => decide (a ≤ b)

end Store

end ModSettings
