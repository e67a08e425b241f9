/-
The context of running hooks.

Bodies and adapters find the handles of their mod through its main class.  The
theorem this file exists for is `context_of_entered`: whenever a hook runs, in
whichever operation of a run, the class of the mod that was last loaded under the
hook's key leads to this key, and so it does as long as the hook goes on and
whatever it calls.  This covers the hooks for loading and unloading, when the mod
is in some tables of the session only, and slots of the registry that other mods
had before.

What a hook calls is limited to so many open calls.  A body at the limit cannot
ask for anything, and that is the one way to fail.
-/
import Mathlib.Data.List.Induction
import ModSettings.Proofs.Bridge.Handles
import ModSettings.Proofs.Session.Orderly

namespace ModSettings

open Conduct

/-- In that state the main class of a mod leads to the handles of its key. -/
structure OwnContext (catalog : Catalog) (key : Key) (t : Ty) (now : Shared) : Prop where
  mod : ∀ a room, (Machine.mk a catalog).Pushes (room + 1)
    [.loadType t, .call Offer.getMod.method] (.mod key) now
  caller : ∀ a room, (Machine.mk a catalog).Pushes (room + 1)
    [.loadType t, .call Offer.getMod.method, .call Offer.getCaller.method] (.caller key) now
  injected : ∀ a room slot, (Machine.mk a catalog).Pushes (room + 1) (Bridge.injectCode t slot)
    (if !slot.isModHandle && slot.isCallerHandle then .caller key else .mod key) now
  /-- At the limit of open calls nothing that begins with asking gets further. -/
  limit : ∀ a more, (Machine.mk a catalog).Fails 0
    ([.loadType t, .call Offer.getMod.method] ++ more) (.callDepthExceeded callLimit) now

theorem ownContext_of_stands {catalog : Catalog} {key : Key} {t : Ty} {now : Shared}
    (stands : now.registry.Stands key t) (sound : now.registry.Sound) :
    OwnContext catalog key t now where
  mod _ _ := Machine.pushes_getMod stands sound
  caller _ _ := Machine.pushes_getCaller stands sound
  injected _ _ slot := Machine.pushes_injectCode stands sound slot
  limit _ more := Machine.fails_getMod _ t more now

namespace Session

/-- Every mod of the session stands in the registry with the class that it was
loaded with. -/
structure Standing (main : Key → Option Descriptor) (s : Session) : Prop where
  orderly : Orderly sameMods s
  stands : ∀ key ∈ s.order, ∃ d, main key = some d ∧
    s.shared.registry.Stands key d.mainType

/-- Where an entry tells of a hook, the hook's mod stood in the registry that the
hook could see. -/
def Hosted (main : Key → Option Descriptor) (e : Entry) : Prop :=
  ∀ key event seen, e = .entered key event seen → seen.registry.Sound ∧
    ∃ d, main key = some d ∧ seen.registry.Stands key d.mainType

section

variable {main : Key → Option Descriptor} {s s' : Session} {d : Descriptor} {key : Key}

theorem hosted_log (level : Level) (message : String) : Hosted main (.log level message) := nofun

/-- A hook that ran from a state in which its mod stood could see it standing. -/
theorem hosted_of_writes {opened : Shared} {e : Entry} (sound : opened.registry.Sound)
    (known : main key = some d) (stands : opened.registry.Stands key d.mainType)
    (h : (sameMods.ofCaller key).writes opened e) : Hosted main e := by
  intro k event seen same
  rcases h with other | began
  · exact absurd same (other k event seen)
  · obtain ⟨rfl, flagged⟩ := began k event seen same
    exact ⟨Registry.Flagged.sound flagged sound, d, known, stands.of_flagged flagged⟩

theorem Standing.of_calm (h : Standing main s) (calm : s.Calm sameMods s')
    (ruled : s'.Ruled sameMods) : Standing main s' where
  orderly := h.orderly.of_calm id calm ruled
  stands k member := by
    obtain ⟨d, known, stands⟩ := h.stands k (calm.order ▸ member)
    exact ⟨d, known, stands.of_flagged calm.shared⟩

theorem Standing.hosted (h : Standing main s) {e : Entry} (tells : s.Tells sameMods e) :
    Hosted main e := by
  intro k event seen same
  rcases tells with other | began
  · exact absurd same (other k event seen)
  · obtain ⟨member, flagged⟩ := began k event seen same
    obtain ⟨d, known, stands⟩ := h.stands k (h.orderly.keys ▸ member)
    exact ⟨Registry.Flagged.sound flagged h.orderly.sound, d, known, stands.of_flagged flagged⟩

theorem Loads.stands {opened : Shared} {step : Step Session (Except SessionError Key)}
    (loads : Loads sameMods d s key opened step) : opened.registry.Stands key d.mainType :=
  ⟨_, (loads.mods key).trans (if_pos rfl), rfl, rfl⟩

theorem Standing.of_loads (h : Standing main s) {opened : Shared}
    {step : Step Session (Except SessionError Key)}
    (loads : Loads sameMods d s key opened step) :
    Standing (fun k => if key = k then some d else main k) step.state where
  orderly := h.orderly.of_loads id loads
  stands k member := by
    by_cases new : key = k
    · rw [if_pos new, ← new]
      exact ⟨d, rfl, loads.stands.of_flagged loads.shared⟩
    · rw [if_neg new]
      rw [loads.order, List.mem_append, List.mem_singleton] at member
      obtain ⟨d', known, m, found, mainType, bound⟩ :=
        h.stands k (member.resolve_right fun same => new same.symm)
      have still : opened.registry.Stands k d'.mainType := by
        refine ⟨m, ?_, mainType, bound⟩
        rw [loads.mods, if_neg fun same => new same.symm]
        exact found
      exact ⟨d', known, still.of_flagged loads.shared⟩

theorem Standing.of_unloads (h : Standing main s) {told : Shared}
    {step : Step Session (Except SessionError Unit)}
    (unloads : Unloads sameMods s key told step) : Standing main step.state where
  orderly := h.orderly.of_unloads id unloads
  stands k member := by
    rw [unloads.order, List.mem_filter] at member
    have other : k ≠ key := fun same => by simp [same] at member
    obtain ⟨d, known, stands⟩ := h.stands k member.1
    obtain ⟨m, found, mainType, bound⟩ :=
      stands.of_flagged (Orderly.flagged_of_unloads id unloads)
    refine ⟨d, known, m, ?_, mainType, bound⟩
    rw [unloads.registry, Registry.get?_unregister, if_neg other]
    exact found

theorem Standing.hosted_of_unloads (h : Standing main s) {told : Shared}
    {step : Step Session (Except SessionError Unit)}
    (unloads : Unloads sameMods s key told step) : ∀ e ∈ step.journal, Hosted main e := by
  intro e member
  obtain ⟨d, known, stands⟩ := h.stands key (h.orderly.keys ▸ unloads.loaded)
  have flagged : s.shared.registry.Flagged (s.shared.registry.setApiLoaded key false) :=
    .setApiLoaded .refl key false
  exact hosted_of_writes (flagged.sound h.orderly.sound) known (stands.of_flagged flagged)
    (unloads.journal e member)

theorem Standing.of_cleared (h : Standing main s) (none : s.order = []) : Standing main
    { s with
      shared := { s.shared with registry := s.shared.registry.clear }
      menuBuilt := false
      isOpen := false } where
  orderly := h.orderly.of_cleared none
  stands k member := by
    rw [show k ∈ s.order ↔ k ∈ [] by rw [none]] at member
    exact nomatch member

end

/-! ## Runs -/

theorem stable_standing (main : Key → Option Descriptor) :
    Stable sameMods (Standing main) (Hosted main) where
  orderly h := h.orderly
  logs := hosted_log
  calm h := h.of_calm
  tells h := h.hosted
  unloads h unloads := ⟨h.of_unloads unloads, h.hosted_of_unloads unloads⟩
  cleared h := h.of_cleared

/-- Hooks run only where their mods stand, and after an operation all mods
do. -/
theorem standing_perform {main : Key → Option Descriptor} {s : Session} (h : Standing main s)
    {op : Operation} (obeys : op.Obeys sameMods) :
    let main' := fun key => (op.loads? s key).or (main key)
    Standing main' (op.perform s).state ∧ ∀ e ∈ (op.perform s).journal, Hosted main' e := by
  have others (other : op.isLoad = false) :
      Standing main (op.perform s).state ∧ ∀ e ∈ (op.perform s).journal, Hosted main e := by
    have done := (stable_standing main).obeys_perform lenient_sameMods other s
    exact ⟨done.state h, fun e member => done.journal e member h⟩
  cases op with
  | load d =>
    rcases load_cases lenient_sameMods h.orderly.ruled h.orderly.sound obeys with
      ⟨e, refused⟩ | ⟨key, opened, loads⟩
    · have nothing : (fun key => ((Operation.load d).loads? s key).or (main key)) = main := by
        funext key
        rw [Operation.loads?, refused]
        rfl
      show Standing _ (load d s).state ∧ ∀ e ∈ (load d s).journal, Hosted _ e
      rw [nothing, refused]
      exact ⟨h, nofun⟩
    · have loaded : (fun k => ((Operation.load d).loads? s k).or (main k)) =
          fun k => if key = k then some d else main k := by
        funext k
        rw [Operation.loads?, loads.value]
        dsimp only
        split <;> rfl
      show Standing _ (load d s).state ∧ ∀ e ∈ (load d s).journal, Hosted _ e
      rw [loaded]
      refine ⟨h.of_loads loads, fun e member => ?_⟩
      exact hosted_of_writes loads.sound (if_pos rfl) loads.stands (loads.journal e member)
  | _ => exact others rfl

theorem standing_after (config : Config) {catalog : Catalog} (offers : catalog.Obeys sameMods)
    {run : List Operation} (mods : ∀ op ∈ run, op.Obeys sameMods) :
    let s : Session := { config, catalog }
    Standing (fun key => s.loaded? key run) (s.after run) := by
  intro s
  induction run using List.reverseRecOn with
  | nil => exact ⟨orderly_fresh offers, nofun⟩
  | append_singleton run op ih =>
    obtain ⟨before, last⟩ := List.forall_mem_append.mp mods
    rw [after_concat]
    simp only [loaded?_concat]
    exact (standing_perform (ih before) (List.forall_mem_singleton.mp last)).1

/-- Whatever was loaded and unloaded before, and whatever mods do short of
registering and removing mods: when a hook runs, its key is that of a loaded
mod, and from then on the mod's main class leads to the mod's own handles.  The
adapters of the mod ask for them with the same code, once for every injected
slot. -/
theorem context_of_entered (config : Config) {catalog : Catalog}
    (offers : catalog.Obeys sameMods) {run : List Operation} {op : Operation}
    (mods : ∀ o ∈ run ++ [op], o.Obeys sameMods) {key : Key} {event : Event} {seen : Shared}
    (running : .entered key event seen ∈
      (op.perform (Session.after { config, catalog } run)).journal) :
    ∃ d, Session.loaded? { config, catalog } key (run ++ [op]) = some d ∧
      (∀ now, sameMods.allows seen now → OwnContext catalog key d.mainType now) ∧
      ∀ (b : Binding) (code : List Instruction) (set : MethodSet) (i : Nat) (slot : Ty),
        Bridge.synthesize b d.mainType = .ok code → b.target.arguments[i]? = some slot →
        b.mapping.sources[i]? = some .inject → ∃ before after,
          Bridge.promoteBody set (.code code) =
            .code (before ++ Bridge.injectCode d.mainType slot ++ after) := by
  obtain ⟨before, last⟩ := List.forall_mem_append.mp mods
  have hosted := (standing_perform (standing_after config offers before)
    (List.forall_mem_singleton.mp last)).2 _ running
  obtain ⟨sound, d, known, stands⟩ := hosted key event seen rfl
  refine ⟨d, (loaded?_concat _ key run op).trans known, fun now flagged => ?_,
    fun b code set i slot made wanted injected => ?_⟩
  · exact ownContext_of_stands (stands.of_flagged flagged) (Registry.Flagged.sound flagged sound)
  · exact Bridge.exists_injectCode made set wanted injected

def sampleGuest (name : String) : Descriptor where
  name := name
  displayName := name
  mainType := .cls name (some .mod) [] .concrete true
  hooks := some (.idle (.ofList EventKind.all))

/-- A hook of the mod began, for an event of that kind. -/
def tellsOf (key : Key) (kind : EventKind) : Entry → Bool
  | .entered k event _ => k == key && event.kind == kind
  | _ => false

/-- Told of its unloading, a mod in the slot of another one that was there before
finds its own handles. -/
theorem context_of_entered_sample : let s : Session := { config := {}, catalog := .standard }
    let run : List Operation :=
      [.load (sampleGuest "First"), .unload (.entry 1 1), .load (sampleGuest "Second")]
    let op : Operation := .unload (.entry 1 3)
    ∃ event seen, event.kind = .unload ∧
      .entered (.entry 1 3) event seen ∈ (op.perform (s.after run)).journal ∧
      OwnContext .standard (.entry 1 3) (sampleGuest "Second").mainType seen := by
  intro s run op
  have guest (name : String) : (sampleGuest name).Obeys sameMods := by
    refine ⟨fun h given => ?_, nofun⟩
    cases given
    exact Hooks.obeys_idle _
  have mods : ∀ o ∈ run ++ [op], o.Obeys sameMods := by
    simp only [run, op, List.cons_append, List.nil_append, List.forall_mem_cons]
    exact ⟨guest _, trivial, guest _, trivial, nofun⟩
  have told : (op.perform (s.after run)).journal.any (tellsOf (.entry 1 3) .unload) = true := by
    decide +kernel
  obtain ⟨e, running, tells⟩ := List.any_eq_true.mp told
  cases e with
  | entered key event seen =>
    obtain ⟨same, kind⟩ := Bool.and_eq_true_iff.mp tells
    obtain rfl := eq_of_beq same
    obtain ⟨d, known, context, _⟩ :=
      context_of_entered {} (Catalog.obeys_standard lenient_sameMods) mods running
    cases known
    exact ⟨event, seen, eq_of_beq kind, running, context seen (sameMods.refl seen)⟩
  | _ => exact absurd tells Bool.false_ne_true

def sampleDeepMain : Ty := .cls "Deep" (some .mod) [] .concrete true

def sampleSteps : Ty := .cls "Steps" none [] .concrete true

def sampleStep (n : Nat) : Signature :=
  { owner := sampleSteps, name := toString n, isStatic := true }

/-- The hook for loading calls a chain of methods, and the last of them, which is
at the limit of open calls, asks for its mod. -/
def sampleDeep : Assembly :=
  { name := "Deep"
    classes := [
      { type := sampleDeepMain
        declarations := [
          { name := EventKind.load.hookName, isStatic := true
            body := .code [.call (sampleStep 1), .ret] }] },
      { type := sampleSteps
        declarations :=
          (List.range' 1 62).map (fun n =>
            { name := toString n, isStatic := true
              body := .code [.call (sampleStep (n + 1)), .ret] }) ++
          [{ name := toString 63, isStatic := true
             body := .code [.loadType sampleDeepMain, .call Offer.getMod.method, .ret] }] }] }

def sampleDeepMod : Descriptor where
  name := "Deep"
  displayName := "Deep"
  mainType := sampleDeepMain
  assembly := some sampleDeep

/-- A hook began whose mod was registered, and it ends at the limit of open
calls. -/
def endsAtLimit (hooks : Hooks) : Entry → Bool
  | .entered key event seen =>
      seen.registry.keyOfType? sampleDeepMain == some key &&
        match (hooks.handle { key, catalog := .standard } event ⟨seen, .unit⟩).value with
        | .error (.exec e) => e.root == .callDepthExceeded callLimit
        | _ => false
  | _ => false

/-- The hook for loading asks for nothing but its own registered mod, and it
fails. -/
theorem load_sampleDeep : let s : Session := { config := {}, catalog := .standard }
    let hooks := (chooseHooks sampleDeepMod (.entry 1 1) s).value
    ∃ key event seen e, .entered key event seen ∈ (load sampleDeepMod s).journal ∧
      seen.registry.keyOfType? sampleDeepMain = some key ∧
      (hooks.handle { key, catalog := .standard } event ⟨seen, .unit⟩).value =
        .error (.exec e) ∧ e.root = .callDepthExceeded callLimit := by
  intro s hooks
  have fails : (load sampleDeepMod s).journal.any (endsAtLimit hooks) = true := by decide +kernel
  obtain ⟨e, running, ends⟩ := List.any_eq_true.mp fails
  cases e with
  | entered key event seen =>
    obtain ⟨known, ends⟩ := Bool.and_eq_true_iff.mp ends
    refine ⟨key, event, seen, ?_⟩
    split at ends
    · rename_i e failed
      exact ⟨e, running, eq_of_beq known, failed, eq_of_beq ends⟩
    · exact absurd ends Bool.false_ne_true
  | _ => exact absurd ends Bool.false_ne_true

end Session
end ModSettings
