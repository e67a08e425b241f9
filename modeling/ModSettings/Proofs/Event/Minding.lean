/-
Hooks that mind their own business.

Such hooks may do what they like with the settings of their own mod, remember what
they like and end as they like, but they change nothing else that mods share.  They
need not do so in every state: it is enough that they do while their mod is
registered, and as long as they remember only what came of such handling.
`minded_of_gated` says what a caller of such hooks leaves after any event.
-/
import ModSettings.Proofs.Event.Conduct
import ModSettings.Proofs.Event.Gate
import ModSettings.Proofs.Settings.History

namespace ModSettings

/-- The registry stays as it is, and so do the settings of other mods. -/
def Conduct.minding (key : Key) : Conduct Shared where
  allows s s' := s'.registry = s.registry ∧ s'.store.Agree (· ≠ key) s.store
  writes _ _ := True
  refl _ := ⟨rfl, fun _ _ _ => rfl⟩
  trans h h' := ⟨h'.1.trans h.1, fun k other name => (h'.2 k other name).trans (h.2 k other name)⟩
  writes_trans _ _ := trivial

/-- Among what the hooks remember is something that lasts, and with it in mind they
handle events for the mod of this key and main class without touching what is not
the mod's. -/
def Hooks.Minds (h : Hooks) (key : Key) (t : Ty) (catalog : Catalog) : Prop :=
  ∃ R : Value → Prop, R h.memory ∧ ∀ event (desk : Desk), R desk.memory →
    desk.shared.registry.Sound → desk.shared.registry.Stands key t →
      let after := (h.handle { key, catalog } event desk).state
      R after.memory ∧ (Conduct.minding key).allows desk.shared after.shared

variable {key : Key} {t : Ty} {catalog : Catalog}

/-! ## Hooks that mind -/

/-- Hooks mind that keep to their mod's settings in every state. -/
theorem Hooks.minds_of_obeys {h : Hooks}
    (obeys : ∀ event, Flow.Obeys (Conduct.minding key).onDesk (h.handle { key, catalog } event)) :
    h.Minds key t catalog :=
  ⟨fun _ => True, trivial, fun event desk _ _ _ => ⟨trivial, (obeys event desk).state⟩⟩

theorem Native.minding_setSetting (key : Key) (name : String) (value : SettingValue) :
    (Shared.setSetting key name value).Obeys (.minding key) := by
  intro s
  unfold Shared.setSetting
  cases done : s.store.set key name value with
  | error e => exact ⟨(Conduct.minding key).refl s, nofun⟩
  | ok store =>
    refine ⟨⟨rfl, fun k other n => ?_⟩, nofun⟩
    have found : (s.store.apply (.set key name value)).find? k n = _ := Store.find?_set key name
    rw [Store.apply, done, if_neg fun same => other same.1.symm] at found
    exact found

/-- A script minds if it calls no methods. -/
theorem Hooks.minds_scripted (capabilities : Capabilities) {script : EventKind → Action}
    (noCall : ∀ kind method args, script kind ≠ .call method args) :
    (Hooks.scripted capabilities script).Minds key t catalog := by
  refine minds_of_obeys fun event => ?_
  refine Run.obeys_bind Run.obeys_get fun desk => Run.obeys_bind ?_ fun _ => ?_
  · exact Run.obeys_ofFlow (Flow.obeys_write fun _ => trivial)
  · cases chosen : script event.kind with
    | call method args => exact absurd chosen (noCall _ _ _)
    | assign name value =>
      exact Run.obeys_bind (Flow.obeys_asHook (Native.minding_setSetting key name value)) fun _ =>
        Run.obeys_bind (Run.obeys_ofExcept _) fun _ => Flow.obeys_pure _
    | _ => exact Flow.obeys_pure _

/-! ## Their callers -/

namespace Caller

variable {α : Type} {c : Caller}

/-- What a turn of minding hooks leaves. -/
structure Minded (key : Key) (t : Ty) (catalog : Catalog) (ready after : Shared) (c : Caller) :
    Prop where
  own : c.key = key
  hooks : c.hooks.Minds key t catalog
  minding : (Conduct.minding key).allows ready after

theorem minded_of_gated (own : c.key = key) (minds : c.hooks.Minds key t catalog) {event : Event}
    {bound : Capabilities} {read : event.Answer → α} {otherwise : α} {ready : Shared}
    {before : Journal} {r : Step Shared (α × Caller)} (sound : ready.registry.Sound)
    (stands : ready.registry.Stands key t)
    (gated : c.Gated { key, catalog } event bound read otherwise ready before r) :
    Minded key t catalog ready r.state r.value.2 := by
  unfold Gated at gated
  by_cases hears : bound.handles event.kind = true
  · rw [if_pos hears] at gated
    obtain ⟨R, remembers, minds⟩ := minds
    obtain ⟨lasts, minding⟩ := minds event ⟨ready, c.hooks.memory⟩ remembers sound stands
    rw [gated.caller, gated.state]
    exact ⟨own, ⟨R, lasts, minds⟩, minding⟩
  · rw [if_neg hears] at gated
    rw [gated.caller, gated.state]
    exact ⟨own, minds, (Conduct.minding key).refl ready⟩

end Caller
end ModSettings
