/-
Runs that go on and runs that end.

What follows a step matters only for the values with which the step can end, so
two continuations that agree on these give the same run.
-/
import ModSettings.Exec.Flow

namespace ModSettings
namespace Run

variable {σ ε α β : Type} {m : Run σ ε α}

theorem ok_bind (a : α) (f : α → Run σ ε β) : (Run.pure a >>= f) = f a := rfl

/-- Looking at the state makes no difference to a run that goes on alike in all
states. -/
theorem get_bind_eq {f : σ → Run σ ε α} (h : ∀ s, f s = m) : (Run.get >>= f) = m := by
  funext s
  show Step.mk (f s s).value (f s s).state ([] ++ (f s s).journal) = m s
  rw [List.nil_append, ← h s]

theorem bind_congr_ok {f g : α → Run σ ε β}
    (h : ∀ s a, (m s).value = .ok a → f a = g a) : (m >>= f) = (m >>= g) := by
  funext s
  show bind m f s = bind m g s
  cases ends : (m s).value with
  | ok a => rw [bind_of_ok ends, bind_of_ok ends, h s a ends]
  | error e => rw [bind_of_error ends, bind_of_error ends]
  | panic p => rw [bind_of_panic ends, bind_of_panic ends]

/-- A run that ends with a value went through a value of its first step. -/
theorem bind_eq_ok {f : α → Run σ ε β} {s : σ} {b : β}
    (h : ((m >>= f) s).value = .ok b) :
    ∃ a, (m s).value = .ok a ∧ (f a (m s).state).value = .ok b := by
  change (bind m f s).value = .ok b at h
  cases ends : (m s).value with
  | ok a =>
    rw [bind_of_ok ends] at h
    exact ⟨a, rfl, h⟩
  | error e => rw [bind_of_error ends] at h; exact nomatch h
  | panic p => rw [bind_of_panic ends] at h; exact nomatch h

/-- A run that fails failed in its first step or after it. -/
theorem bind_eq_error {f : α → Run σ ε β} {s : σ} {e : ε}
    (h : ((m >>= f) s).value = .error e) : (m s).value = .error e ∨
      ∃ a, (m s).value = .ok a ∧ (f a (m s).state).value = .error e := by
  change (bind m f s).value = .error e at h
  cases ends : (m s).value with
  | ok a =>
    rw [bind_of_ok ends] at h
    exact Or.inr ⟨a, rfl, h⟩
  | error e' =>
    rw [bind_of_error ends] at h
    cases h
    exact Or.inl rfl
  | panic p => rw [bind_of_panic ends] at h; exact nomatch h

theorem mapError_eq_error {ε' : Type} {f : ε → ε'} {s : σ} {e : ε'}
    (h : (m.mapError f s).value = .error e) : ∃ e', (m s).value = .error e' ∧ e = f e' := by
  change (m s).value.mapError f = .error e at h
  cases ends : (m s).value with
  | error e' =>
    rw [ends] at h
    cases h
    exact ⟨e', rfl, rfl⟩
  | _ => rw [ends] at h; exact nomatch h

end Run
end ModSettings
