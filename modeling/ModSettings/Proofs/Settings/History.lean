/-
The past of the settings.

What a store tells of a setting can be read off the changes made to it: the
last declaration of the setting that no removal of its mod followed, and the
last assignment since then that went through and that no reset undid.  This file
exists for `remembers_after`: after every run of changes a store tells what the
run says, and the changes that concern no other setting can be left out of it.
-/
import ModSettings.Exec.Shared
import ModSettings.Proofs.History
import ModSettings.Proofs.Settings.Agreement

namespace ModSettings

namespace SettingValue

/-- The value of a setting declared with default `d` once `v` is assigned to it.
A combobox takes the index alone. -/
def taking (d v : SettingValue) : SettingValue :=
  match d, v with
  | combobox _ items, combobox index _ => combobox index items
  | _, v => v

theorem assign?_eq (old new : SettingValue) :
    old.assign? new = if old.kind = new.kind then some (old.taking new) else none := by
  cases old <;> cases new <;> rfl

/-- Of the old value only the kind and the items tell. -/
theorem taking_eq {old d v : SettingValue} (kind : old.kind = d.kind) (items : old.items = d.items) :
    old.taking v = d.taking v := by
  cases v with
  | combobox index _ =>
    cases old with
    | combobox _ own =>
      cases d with
      | combobox _ given => exact congrArg (combobox index) items
      | _ => simp [SettingValue.kind] at kind
    | _ =>
      cases d with
      | combobox _ given => simp [SettingValue.kind] at kind
      | _ => rfl
  | _ => cases old <;> cases d <;> rfl

end SettingValue

namespace Setting

variable {s : Setting} {value : SettingValue}

theorem assign?_isSome_iff : (∃ s', s.assign? value = some s') ↔ value.kind = s.default.kind := by
  constructor
  · rintro ⟨s', assigned⟩
    have taken := (assign?_eq_some_iff.mp assigned).1
    rw [SettingValue.assign?_eq] at taken
    split at taken
    · rename_i same
      exact same.symm.trans s.kind_eq
    · exact nomatch taken
  · intro same
    have fits : s.current.kind = value.kind := s.kind_eq.trans same.symm
    cases assigned : s.assign? value with
    | some s' => exact ⟨s', rfl⟩
    | none =>
      unfold assign? at assigned
      split at assigned
      · rename_i refused
        rw [SettingValue.assign?_eq, if_pos fits] at refused
        exact nomatch refused
      · exact nomatch assigned

theorem assign_current (same : value.kind = s.default.kind) :
    (s.assign value).current = s.default.taking value := by
  obtain ⟨s', assigned⟩ := assign?_isSome_iff.mpr same
  have taken := (assign?_eq_some_iff.mp assigned).1
  rw [SettingValue.assign?_eq, if_pos (s.kind_eq.trans same.symm)] at taken
  rw [assign, assigned, Option.getD_some, ← Option.some.inj taken]
  exact SettingValue.taking_eq s.kind_eq s.items_eq

theorem assign_eq (other : value.kind ≠ s.default.kind) : s.assign value = s := by
  have refused : s.assign? value = none := by
    refine Option.eq_none_iff_forall_ne_some.mpr fun s' assigned => ?_
    exact other (assign?_isSome_iff.mp ⟨s', assigned⟩)
  rw [assign, refused, Option.getD_none]

end Setting

namespace Store

inductive Change where
  | declare (owner : Key) (name : String) (default : SettingValue)
  | set (owner : Key) (name : String) (value : SettingValue)
  | resetAll (owner : Key)
  | removeMod (owner : Key)

namespace Change

def owner : Change → Key
  | declare owner _ _ => owner
  | set owner _ _ => owner
  | resetAll owner => owner
  | removeMod owner => owner

/-- The change is one of the setting or one of all settings of its mod. -/
def concerns (key : Key) (name : String) : Change → Bool
  | declare owner n _ => owner == key && n == name
  | set owner n _ => owner == key && n == name
  | resetAll owner => owner == key
  | removeMod owner => owner == key

/-- What the change makes of a setting. -/
def effect (key : Key) (name : String) (c : Change) (found : Option Setting) : Option Setting :=
  if c.concerns key name then
    match c with
    | declare _ _ default => some (declared key name default)
    | set _ _ value => found.map (·.assign value)
    | resetAll _ => found.map Setting.reset
    | removeMod _ => none
  else found

end Change

/-- An assignment that is refused leaves the store as it was. -/
def apply (st : Store) : Change → Store
  | .declare owner name default => st.declare owner name default
  | .set owner name value =>
      match st.set owner name value with
      | .ok st' => st'
      | .error _ => st
  | .resetAll owner => st.resetAll owner
  | .removeMod owner => st.removeMod owner

def after (run : List Change) : Store := run.foldl apply .empty

theorem after_concat (run : List Change) (c : Change) : after (run ++ [c]) = (after run).apply c := by
  simp [after]

/-! ## One change -/

variable {st : Store} {key : Key} {name : String} {value d v : SettingValue} {c : Change}

theorem set_isOk_iff : (∃ st', st.set key name value = .ok st') ↔
    ∃ s, st.find? key name = some s ∧ value.kind = s.default.kind := by
  rw [set]
  cases found : st.find? key name with
  | none => simp
  | some s =>
    simp only [Option.some.injEq, exists_eq_left', ← Setting.assign?_isSome_iff]
    cases s.assign? value with
    | none => simp
    | some s' => simp

theorem find?_keep (test : Setting → Bool)
    (one : ∀ s : Setting, s.isNamed key name = true → test s = true) :
    (st.keep test).find? key name = st.find? key name := by
  have same : (fun s => decide (test s = true ∧ s.isNamed key name = true)) =
      (·.isNamed key name) := by
    funext s
    cases named : s.isNamed key name with
    | false => simp
    | true => simp [one s named]
  rw [find?, find?, keep, List.find?_filter, same]

theorem find?_keep_eq_none (test : Setting → Bool)
    (one : ∀ s : Setting, s.isNamed key name = true → test s = false) :
    (st.keep test).find? key name = none := by
  rw [find?, List.find?_eq_none]
  intro s member named
  have kept := (List.mem_filter.mp member).2
  rw [one s named] at kept
  cases kept

theorem find?_declare (owner : Key) (n : String) : (st.declare owner n d).find? key name =
    if owner = key ∧ n = name then some { owner := key, name, default := d }
    else st.find? key name := by
  have look : (st.declare owner n d).find? key name =
      ((st.keep (!·.isNamed owner n)).find? key name).or
        ([({ owner, name := n, default := d } : Setting)].find? (·.isNamed key name)) :=
    List.find?_append
  rw [look]
  by_cases here : owner = key ∧ n = name
  · obtain ⟨rfl, rfl⟩ := here
    rw [if_pos ⟨rfl, rfl⟩, find?_keep_eq_none _ fun s named => by simp [named], Option.none_or]
    exact List.find?_cons_of_pos (Setting.isNamed_iff.mpr ⟨rfl, rfl⟩)
  · have others (s : Setting) (named : s.isNamed key name = true) :
        (!s.isNamed owner n) = true := by
      obtain ⟨rfl, rfl⟩ := Setting.isNamed_iff.mp named
      have unlike : s.isNamed owner n ≠ true := fun same =>
        here ((Setting.isNamed_iff.mp same).imp Eq.symm Eq.symm)
      rw [Bool.eq_false_iff.mpr unlike]
      rfl
    have unseen : ({ owner, name := n, default := d } : Setting).isNamed key name ≠ true :=
      fun named => here (Setting.isNamed_iff.mp named)
    have none : [({ owner, name := n, default := d } : Setting)].find? (·.isNamed key name) =
        none := List.find?_cons_of_neg unseen
    rw [if_neg here, find?_keep _ others, none, Option.or_none]

theorem find?_set (owner : Key) (n : String) :
    (st.apply (.set owner n value)).find? key name =
      if owner = key ∧ n = name then (st.find? key name).map (·.assign value)
      else st.find? key name := by
  rw [apply]
  cases done : st.set owner n value with
  | error e =>
    by_cases here : owner = key ∧ n = name
    · obtain ⟨rfl, rfl⟩ := here
      rw [if_pos ⟨rfl, rfl⟩]
      cases found : st.find? owner n with
      | none => rfl
      | some s =>
        have other : value.kind ≠ s.default.kind := by
          intro same
          obtain ⟨st', ok⟩ := set_isOk_iff.mpr ⟨s, found, same⟩
          rw [done] at ok
          cases ok
        rw [Option.map_some, s.assign_eq other]
    · rw [if_neg here]
  | ok st' =>
    rw [set] at done
    split at done
    · cases done
    · split at done
      · cases done
      · cases done
        rw [find?_mapSettings]
        cases found : st.find? key name with
        | none => simp
        | some s =>
          have named := List.find?_some found
          obtain ⟨rfl, rfl⟩ := Setting.isNamed_iff.mp named
          rw [Option.map_some, Option.map_some, ← apply_ite some]
          exact congrArg some
            (if_congr (Setting.isNamed_iff.trans (and_congr eq_comm eq_comm)) rfl rfl)

theorem find?_resetAll (owner : Key) : (st.resetAll owner).find? key name =
    if owner = key then (st.find? key name).map Setting.reset else st.find? key name := by
  rw [resetAll, find?_mapSettings]
  cases found : st.find? key name with
  | none => simp
  | some s =>
    have named := List.find?_some found
    obtain ⟨rfl, rfl⟩ := Setting.isNamed_iff.mp named
    rw [Option.map_some, Option.map_some, ← apply_ite some]
    exact congrArg some (if_congr (beq_iff_eq.trans eq_comm) rfl rfl)

theorem find?_removeMod (owner : Key) : (st.removeMod owner).find? key name =
    if owner = key then none else st.find? key name := by
  by_cases here : owner = key
  · subst here
    rw [if_pos rfl]
    refine find?_keep_eq_none _ fun s named => ?_
    simp [(Setting.isNamed_iff.mp named).1]
  · rw [if_neg here]
    refine find?_keep _ fun s named => ?_
    simpa [(Setting.isNamed_iff.mp named).1] using Ne.symm here

theorem find?_apply (st : Store) (c : Change) (key : Key) (name : String) :
    (st.apply c).find? key name = c.effect key name (st.find? key name) := by
  cases c with
  | declare owner n default =>
    rw [apply, find?_declare]
    simp [Change.effect, Change.concerns, declared]
  | set owner n value =>
    rw [find?_set]
    simp [Change.effect, Change.concerns]
  | resetAll owner =>
    rw [apply, find?_resetAll]
    simp [Change.effect, Change.concerns]
  | removeMod owner =>
    rw [apply, find?_removeMod]
    simp [Change.effect, Change.concerns]

/-! ## What the past tells of a setting -/

/-- The default of the last declaration, unless the mod was removed since. -/
def Default (run : List Change) (key : Key) (name : String) (d : SettingValue) : Prop :=
  ∃ past later, Lasts (fun _ c => ∃ d, c = .declare key name d) (· = .removeMod key) run past
    (.declare key name d) later

def Accepted (past : List Change) (key : Key) (name : String) (c : Change) : Prop :=
  ∃ v st, c = .set key name v ∧ (after past).set key name v = .ok st

/-- The value of the last assignment that went through, unless the setting was
reset or declared again since. -/
def Assigned (run : List Change) (key : Key) (name : String) (v : SettingValue) : Prop :=
  ∃ past later, Lasts (fun past c => Accepted past key name c)
    (fun c => c = .resetAll key ∨ ∃ d, c = .declare key name d) run past (.set key name v) later

section

variable {run : List Change}

theorem default_concat : Default (run ++ [c]) key name d ↔ c = .declare key name d ∨
    (∀ d', c ≠ .declare key name d') ∧ c ≠ .removeMod key ∧ Default run key name d := by
  constructor
  · rintro ⟨past, later, lasts⟩
    rcases lasts_concat.mp lasts with ⟨_, _, same, _⟩ | ⟨earlier, _, other, stays, before⟩
    · exact Or.inl same.symm
    · exact Or.inr ⟨not_exists.mp other, stays, past, earlier, before⟩
  · rintro (rfl | ⟨other, stays, past, earlier, before⟩)
    · exact ⟨run, [], lasts_concat.mpr (Or.inl ⟨rfl, rfl, rfl, d, rfl⟩)⟩
    · exact ⟨past, earlier ++ [c], lasts_concat.mpr
        (Or.inr ⟨earlier, rfl, not_exists.mpr other, stays, before⟩)⟩

theorem assigned_concat : Assigned (run ++ [c]) key name v ↔
    (c = .set key name v ∧ Accepted run key name c) ∨
      ¬Accepted run key name c ∧ c ≠ .resetAll key ∧ (∀ d, c ≠ .declare key name d) ∧
        Assigned run key name v := by
  constructor
  · rintro ⟨past, later, lasts⟩
    rcases lasts_concat.mp lasts with ⟨_, _, same, ok⟩ | ⟨earlier, _, refused, stays, before⟩
    · exact Or.inl ⟨same.symm, ok⟩
    · obtain ⟨noReset, undeclared⟩ := not_or.mp stays
      exact Or.inr ⟨refused, noReset, not_exists.mp undeclared, past, earlier, before⟩
  · rintro (⟨rfl, ok⟩ | ⟨refused, noReset, undeclared, past, earlier, before⟩)
    · exact ⟨run, [], lasts_concat.mpr (Or.inl ⟨rfl, rfl, rfl, ok⟩)⟩
    · have stays := not_or.mpr ⟨noReset, not_exists.mpr undeclared⟩
      exact ⟨past, earlier ++ [c],
        lasts_concat.mpr (Or.inr ⟨earlier, rfl, refused, stays, before⟩)⟩

theorem default_iff : Default run key name d ↔
    ∃ s, (after run).find? key name = some s ∧ s.default = d := by
  induction run using List.reverseRecOn generalizing d with
  | nil =>
    constructor
    · rintro ⟨past, later, lasts⟩
      exact absurd lasts not_lasts_nil
    · rintro ⟨s, none, _⟩
      exact nomatch none
  | append_singleton run c ih =>
    rw [after_concat, find?_apply, default_concat, ih]
    cases c with
    | declare owner n d' =>
      by_cases here : owner = key ∧ n = name
      · obtain ⟨rfl, rfl⟩ := here
        simp [Change.effect, Change.concerns, declared]
      · have other (d' : SettingValue) : ¬(owner = key ∧ n = name ∧ d' = d) :=
          fun h => here ⟨h.1, h.2.1⟩
        simp [Change.effect, Change.concerns, here, other, ← and_assoc]
    | set owner n v =>
      by_cases here : owner = key ∧ n = name
      · simp [Change.effect, Change.concerns, here]
      · simp [Change.effect, Change.concerns, here]
    | resetAll owner =>
      by_cases here : owner = key
      · simp [Change.effect, Change.concerns, here, Setting.reset]
      · simp [Change.effect, Change.concerns, here]
    | removeMod owner =>
      by_cases here : owner = key
      · simp [Change.effect, Change.concerns, here]
      · simp [Change.effect, Change.concerns, here]

theorem accepted_set_iff : Accepted run key name (.set key name v) ↔
    ∃ s, (after run).find? key name = some s ∧ v.kind = s.default.kind := by
  rw [← set_isOk_iff]
  constructor
  · rintro ⟨v', st, same, ok⟩
    cases same
    exact ⟨st, ok⟩
  · rintro ⟨st, ok⟩
    exact ⟨v, st, rfl, ok⟩

theorem assigned_concat_of_not_concerns (other : c.concerns key name ≠ true) :
    Assigned (run ++ [c]) key name v ↔ Assigned run key name v := by
  have unaccepted : ¬Accepted run key name c := by
    rintro ⟨v, st, rfl, _⟩
    simp [Change.concerns] at other
  have noReset : c ≠ .resetAll key := by
    rintro rfl
    simp [Change.concerns] at other
  have undeclared (d : SettingValue) : c ≠ .declare key name d := by
    rintro rfl
    simp [Change.concerns] at other
  rw [assigned_concat]
  simp [unaccepted, noReset, undeclared]

/-- The present value of a setting is what the last assignment made of its default,
if there is one that counts. -/
theorem current_after {s : Setting} (found : (after run).find? key name = some s) :
    (∀ v, Assigned run key name v → s.current = s.default.taking v) ∧
      ((∀ v, ¬Assigned run key name v) → s.current = s.default) := by
  induction run using List.reverseRecOn generalizing s with
  | nil => cases found
  | append_singleton run c ih =>
    rw [after_concat, find?_apply, Change.effect.eq_def] at found
    -- by the last change: whatever concerns the setting assigns to it or undoes what
    -- was assigned, unless it is an assignment that is refused
    by_cases here : c.concerns key name = true
    · rw [if_pos here] at found
      cases c with
      | declare owner n d =>
        obtain ⟨rfl, rfl⟩ : owner = key ∧ n = name := by simpa [Change.concerns] using here
        cases found
        refine ⟨fun v assigned => ?_, fun _ => rfl⟩
        rcases assigned_concat.mp assigned with ⟨other, _⟩ | ⟨_, _, none, _⟩
        · cases other
        · exact absurd rfl (none d)
      | set owner n v =>
        obtain ⟨rfl, rfl⟩ : owner = key ∧ n = name := by simpa [Change.concerns] using here
        obtain ⟨old, before, rfl⟩ := Option.map_eq_some_iff.mp found
        by_cases fits : v.kind = old.default.kind
        · have accepted := accepted_set_iff.mpr ⟨old, before, fits⟩
          rw [Setting.assign_default, Setting.assign_current fits]
          constructor
          · intro v' assigned
            rcases assigned_concat.mp assigned with ⟨same, _⟩ | ⟨refused, _⟩
            · cases same
              rfl
            · exact absurd accepted refused
          · intro none
            exact absurd (assigned_concat.mpr (Or.inl ⟨rfl, accepted⟩)) (none v)
        · have refused : ¬Accepted run owner n (.set owner n v) := by
            intro accepted
            obtain ⟨s, there, same⟩ := accepted_set_iff.mp accepted
            rw [before, Option.some.injEq] at there
            exact fits (there ▸ same)
          have kept (v' : SettingValue) :
              Assigned (run ++ [.set owner n v]) owner n v' ↔ Assigned run owner n v' := by
            rw [assigned_concat]
            simp [refused]
          simp only [Setting.assign_eq fits, kept]
          exact ih before
      | resetAll owner =>
        obtain rfl : owner = key := by simpa [Change.concerns] using here
        obtain ⟨old, before, rfl⟩ := Option.map_eq_some_iff.mp found
        refine ⟨fun v assigned => ?_, fun _ => rfl⟩
        rcases assigned_concat.mp assigned with ⟨other, _⟩ | ⟨_, none, _⟩
        · cases other
        · exact absurd rfl none
      | removeMod owner => cases found
    · rw [if_neg here] at found
      simp only [assigned_concat_of_not_concerns here]
      exact ih found

end

/-! ## Names -/

theorem mem_names : name ∈ st.names key ↔ ∃ s, st.find? key name = some s := by
  rw [← Option.isSome_iff_exists, find?_isSome, names, List.mem_mergeSort, List.mem_map]
  simp only [ownedBy, List.mem_filter, beq_iff_eq, and_assoc]

theorem nodup_names (st : Store) (key : Key) : (st.names key).Nodup := by
  rw [names, (List.mergeSort_perm _ _).nodup_iff]
  refine List.pairwise_map.mpr ((st.distinct.filter _).imp_of_mem ?_)
  intro a b inA inB different same
  have owned {s : Setting} (member : s ∈ st.settings.filter (·.owner == key)) : s.owner = key :=
    eq_of_beq (List.mem_filter.mp member).2
  exact different ⟨(owned inA).trans (owned inB).symm, same⟩

theorem names_pairwise (st : Store) (key : Key) : (st.names key).Pairwise (· < ·) := by
  have ordered : (st.names key).Pairwise fun a b => decide (a ≤ b) = true := by
    refine List.pairwise_mergeSort ?_ ?_ _
    · intro a b c
      simpa using String.le_trans
    · intro a b
      simpa using String.le_total a b
  refine (ordered.and (nodup_names st key)).imp fun {a b} h => ?_
  have le : a ≤ b := of_decide_eq_true h.1
  by_contra notLess
  exact h.2 (String.le_antisymm le notLess)

/-- Names in order are told by their members. -/
theorem names_eq {st' : Store} (same : ∀ name, (∃ s, st.find? key name = some s) ↔
    ∃ s, st'.find? key name = some s) : st.names key = st'.names key := by
  refine List.Perm.eq_of_pairwise ?_ (names_pairwise st key) (names_pairwise st' key) ?_
  · intro a b _ _ less greater
    exact absurd greater (String.lt_asymm less)
  · refine (List.perm_ext_iff_of_nodup (nodup_names st key) (nodup_names st' key)).mpr ?_
    intro name
    rw [mem_names, mem_names, same]

theorem length_names (st : Store) (key : Key) :
    (st.names key).length = (st.ownedBy key).length := by
  rw [names, List.length_mergeSort, List.length_map]

/-! ## Changes that concern other settings -/

theorem find?_after (run : List Change) (key : Key) (name : String) :
    (after run).find? key name = run.foldl (fun found c => c.effect key name found) none := by
  induction run using List.reverseRecOn with
  | nil => rfl
  | append_singleton run c ih =>
    rw [after_concat, find?_apply, ih, List.foldl_append]
    rfl

theorem find?_after_filter (run : List Change) {test : Change → Bool}
    (concerned : ∀ c : Change, c.concerns key name = true → test c = true) :
    (after (run.filter test)).find? key name = (after run).find? key name := by
  rw [find?_after, find?_after, List.foldl_filter]
  congr 1
  funext found c
  by_cases here : c.concerns key name = true
  · rw [if_pos (concerned c here)]
  · rw [Change.effect.eq_def, if_neg here, ite_self]

theorem owner_of_concerns (h : c.concerns key name = true) : (c.owner == key) = true := by
  cases c with
  | declare owner n d => exact (Bool.and_eq_true_iff.mp h).1
  | set owner n v => exact (Bool.and_eq_true_iff.mp h).1
  | resetAll owner => exact h
  | removeMod owner => exact h

/-! ## The store and its past -/

/-- What the store tells after the run. -/
structure Remembers (run : List Change) (st : Store) : Prop where
  unknown : ∀ key name, st.get key name = .error (.unknownSetting name) ↔
    ∀ d, ¬Default run key name d
  known : ∀ key name e, st.get key name = .error e → e = .unknownSetting name
  assigned : ∀ key name d v, Default run key name d → Assigned run key name v →
    st.get key name = .ok (d.taking v)
  unassigned : ∀ key name d, Default run key name d → (∀ v, ¬Assigned run key name v) →
    st.get key name = .ok d
  accepts : ∀ key name v, (∃ st', st.set key name v = .ok st') ↔
    ∃ d, Default run key name d ∧ v.kind = d.kind
  /-- A refused assignment changes nothing. -/
  refuses : ∀ (s : Shared) key name v e, s.store = st →
    (Shared.setSetting key name v s).value = .error e →
      (Shared.setSetting key name v s).state = s
  resets : ∀ (s : Shared) key, s.store = st →
    (Shared.resetAll key s).value = (st.names key).length
  names : ∀ key name, name ∈ st.names key ↔ ∃ d, Default run key name d
  sorted : ∀ key, (st.names key).Pairwise (· < ·)

theorem remembers (run : List Change) : Remembers run (after run) := by
  have declared (key : Key) (name : String) : (∃ d, Default run key name d) ↔
      ∃ s, (after run).find? key name = some s := by
    simp only [default_iff]
    constructor
    · rintro ⟨_, s, found, _⟩
      exact ⟨s, found⟩
    · rintro ⟨s, found⟩
      exact ⟨s.default, s, found, rfl⟩
  refine
    { unknown := ?_
      known := ?_
      assigned := ?_
      unassigned := ?_
      accepts := ?_
      refuses := ?_
      resets := ?_
      names := fun key name => mem_names.trans (declared key name).symm
      sorted := names_pairwise _ }
  · intro key name
    rw [← not_exists, declared, get]
    cases (after run).find? key name <;> simp
  · intro key name e failed
    rw [get] at failed
    cases found : (after run).find? key name with
    | none =>
      rw [found] at failed
      cases failed
      rfl
    | some s =>
      rw [found] at failed
      cases failed
  · intro key name d v default assigned
    obtain ⟨s, found, rfl⟩ := default_iff.mp default
    rw [get, found, ← (current_after found).1 v assigned]
  · intro key name d default none
    obtain ⟨s, found, rfl⟩ := default_iff.mp default
    rw [get, found, ← (current_after found).2 none]
  · intro key name v
    rw [set_isOk_iff]
    constructor
    · rintro ⟨s, found, same⟩
      exact ⟨s.default, default_iff.mpr ⟨s, found, rfl⟩, same⟩
    · rintro ⟨d, default, same⟩
      obtain ⟨s, found, rfl⟩ := default_iff.mp default
      exact ⟨s, found, same⟩
  · intro s key name v e _ failed
    rw [Shared.setSetting] at failed ⊢
    cases done : s.store.set key name v with
    | error e' => rfl
    | ok st' =>
      rw [done] at failed
      cases failed
  · intro s key same
    rw [← same, length_names]
    rfl

/-- What a store tells follows from its past, and of that past what concerns other
settings does not count. -/
theorem remembers_after (run : List Change) : Remembers run (after run) ∧
    (∀ key name, let own := after (run.filter (·.concerns key name))
      own.get key name = (after run).get key name ∧
        ∀ v, (∃ st, own.set key name v = .ok st) ↔ ∃ st, (after run).set key name v = .ok st) ∧
    ∀ key, (after (run.filter (·.owner == key))).names key = (after run).names key := by
  refine ⟨remembers run, fun key name => ?_, fun key => names_eq fun name => ?_⟩
  · have same : (after (run.filter (·.concerns key name))).find? key name =
        (after run).find? key name := find?_after_filter run fun _ h => h
    refine ⟨?_, fun v => ?_⟩
    · rw [get, get, same]
    · rw [set_isOk_iff, set_isOk_iff, same]
  · rw [find?_after_filter run fun _ => owner_of_concerns]

end Store

end ModSettings
