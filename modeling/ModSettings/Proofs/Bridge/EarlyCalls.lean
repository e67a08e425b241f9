/-
Calls of stubs that stay early-bound.

Promotion binds late the calls of methods that were patched.  A stub may be
declared again and again along the base chain of a holder, and only the
declaration nearest to the holder is found and patched.  Calls that name another
one of them stay as they are, and an early-bound call runs the declaration it
names, not the patched one.
-/
import ModSettings.Proofs.Bridge.Install

namespace ModSettings

/-- Some body calls the method early-bound. -/
def Assembly.HasCall (a : Assembly) (q : Signature) : Prop :=
  ∃ m ∈ a.methods, ∃ code, m.body = .code code ∧
    ∃ target, .call target ∈ code ∧ (target == q) = true

namespace Bridge

variable {site : Site} {a : Assembly} {p q : Signature} {b : Binding}

/-- Promotion leaves exactly the calls of methods outside the set and of static
methods. -/
theorem hasCall_promote (set : MethodSet) (a : Assembly) (isInstance : q.isStatic = false) :
    (promote set a).HasCall q ↔ set.contains q = false ∧ a.HasCall q := by
  constructor
  · rintro ⟨m, member, code, body, target, called, same⟩
    rw [methods_promote] at member
    obtain ⟨m, before, rfl⟩ := List.mem_map.mp member
    rw [promoteMethod] at body
    cases was : m.body with
    | native run => rw [was] at body; cases body
    | missing => rw [was] at body; cases body
    | code instructions =>
      rw [was] at body
      cases body
      obtain ⟨i, inside, promoted⟩ := List.mem_map.mp called
      obtain ⟨rfl, early⟩ := promoteInstruction_eq_call_iff.mp promoted
      have targets : target.isStatic = false :=
        (Signature.beq_iff.mp same).2.2.2.2.trans isInstance
      refine ⟨?_, m, before, instructions, was, target, inside, same⟩
      rw [← set.contains_congr same]
      exact Bool.eq_false_iff.mpr fun contained => early ⟨targets, contained⟩
  · rintro ⟨outside, m, member, code, body, target, called, same⟩
    have early : ¬IsLate set target := fun late => by
      have contained := late.2
      rw [set.contains_congr same, outside] at contained
      exact nomatch contained
    refine ⟨promoteMethod set m, ?_, code.map (promoteInstruction set), ?_, target, ?_, same⟩
    · rw [methods_promote]
      exact List.mem_map_of_mem member
    · rw [promoteMethod, body]
      rfl
    · exact List.mem_map.mpr ⟨_, called, promoteInstruction_eq_call_iff.mpr ⟨rfl, early⟩⟩

/-- After an installation no early-bound call of a patched instance stub is left.
But calls of any other method that the stub overrides, such as the declaration
of the same stub on a base class, are left exactly as they were. -/
theorem hasCall_install_iff (enabled : site.config.enabled = true)
    (promotes : site.config.promoteCallSites = true) (patched : Patched site a p b)
    (overrides : p.overrides q = true) :
    (install site a).state.HasCall q ↔ (p == q) = false ∧ (settled site a).HasCall q := by
  have isInstance : q.isStatic = false := (Signature.overrides_iff.mp overrides).2.1
  have contains : (promoted site a).contains q = true ↔ (p == q) = true := by
    rw [promoted, if_pos promotes, contains_patchedSet]
    constructor
    · rintro ⟨p', b', patched', same⟩
      have both : p.overrides p' = true :=
        Signature.overrides_trans overrides
          (Signature.overrides_symm (Signature.overrides_of_beq same isInstance))
      rw [patched.unique patched' both]
      exact same
    · exact fun same => ⟨p, b, patched, same⟩
  rw [state_install, if_pos enabled, hasCall_promote _ _ isInstance, ← Bool.not_eq_true, contains,
    Bool.not_eq_true]

def sampleSite : Site :=
  { modName := "Heirs", modType := sampleHeir, holder := sampleHeir, catalog := .standard,
    config := {} }

/-- The stub of the lower class is patched, and the call of the upper class's
declaration stays early-bound. -/
theorem hasCall_install_sample : ∃ b, Patched sampleSite sampleHeirs (inWorldOn sampleHeir) b ∧
    (inWorldOn sampleHeir).overrides (inWorldOn sampleHome) = true ∧
    (install sampleSite sampleHeirs).state.HasCall (inWorldOn sampleHome) := by
  obtain ⟨a', set, done⟩ := settleAll_sampleHeirs sampleSite rfl (.inr rfl)
  have calls : (settled sampleSite sampleHeirs).HasCall (inWorldOn sampleHome) := by
    rw [settled, done]
    cases set
    refine ⟨_, .tail _ (.tail _ (.head _)), _, rfl, inWorldOn sampleHome, ?_, BEq.rfl⟩
    exact List.mem_cons_of_mem _ List.mem_cons_self
  have patched := patched_sampleHeirs sampleSite rfl (.inr rfl)
  exact ⟨_, patched, rfl, (hasCall_install_iff rfl rfl patched rfl).mpr ⟨rfl, calls⟩⟩

end Bridge

end ModSettings
