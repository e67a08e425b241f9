/-
Steps over a state that write a journal.

`Flow σ α` takes a state and gives a value, the state after it and the entries
it wrote.  A flow cannot read the journal, so what is written never decides what
happens.  `Run σ ε α` is a flow that may end in an error or a panic; its state
and journal stay as they were at that point, for nothing is rolled back.
-/
import ModSettings.Exec.Journal

namespace ModSettings

structure Step (σ α : Type) where
  value : α
  state : σ
  journal : Journal

def Flow (σ α : Type) : Type := σ → Step σ α

namespace Flow

variable {σ τ α β : Type}

def pure (a : α) : Flow σ α := fun s => ⟨a, s, []⟩

def bind (m : Flow σ α) (f : α → Flow σ β) : Flow σ β := fun s =>
  let first := m s
  let second := f first.value first.state
  ⟨second.value, second.state, first.journal ++ second.journal⟩

instance : Monad (Flow σ) where
  pure := pure
  bind := bind

instance : LawfulMonad (Flow σ) := LawfulMonad.mk' (Flow σ)
  (by intro α m; funext s; simp [Functor.map, bind, pure])
  (by intro α β a f; funext s; simp [Bind.bind, Pure.pure, bind, pure])
  (by intro α β γ m f g; funext s; simp [Bind.bind, bind])

def get : Flow σ σ := fun s => ⟨s, s, []⟩

def set (s : σ) : Flow σ Unit := fun _ => ⟨(), s, []⟩

def modify (f : σ → σ) : Flow σ Unit := fun s => ⟨(), f s, []⟩

def write (e : Entry) : Flow σ Unit := fun s => ⟨(), s, [e]⟩

def writeAll (j : Journal) : Flow σ Unit := fun s => ⟨(), s, j⟩

def log (level : Level) (message : String) : Flow σ Unit := write (.log level message)

def zoom (part : τ → σ) (replace : τ → σ → τ) (m : Flow σ α) : Flow τ α := fun t =>
  let inner := m (part t)
  ⟨inner.value, replace t inner.state, inner.journal⟩

def forEach (f : α → Flow σ Unit) : List α → Flow σ Unit
  | [] => pure ()
  | a :: rest => bind (f a) fun _ => forEach f rest

end Flow

/-- What a panic carries: a text, or something that has none. -/
structure Panic where
  message? : Option String
  deriving DecidableEq, Repr

def Panic.text (p : Panic) : String := p.message?.getD "unknown panic"

inductive Outcome (ε α : Type) where
  | ok (value : α)
  | error (cause : ε)
  | panic (payload : Panic)

namespace Outcome

variable {ε ε' α β : Type}

def ofExcept : Except ε α → Outcome ε α
  | .ok a => ok a
  | .error e => error e

def map (f : α → β) : Outcome ε α → Outcome ε β
  | ok a => ok (f a)
  | error e => error e
  | panic p => panic p

def mapError (f : ε → ε') : Outcome ε α → Outcome ε' α
  | ok a => ok a
  | error e => error (f e)
  | panic p => panic p

end Outcome

def Run (σ ε α : Type) : Type := Flow σ (Outcome ε α)

namespace Run

variable {σ τ ε ε' α β : Type}

def pure (a : α) : Run σ ε α := Flow.pure (.ok a)

/-- Goes on with the value; an error or a panic ends the run where it is. -/
def bind (m : Run σ ε α) (f : α → Run σ ε β) : Run σ ε β := fun s =>
  let first := m s
  match first.value with
  | .ok a =>
      let second := f a first.state
      ⟨second.value, second.state, first.journal ++ second.journal⟩
  | .error e => ⟨.error e, first.state, first.journal⟩
  | .panic p => ⟨.panic p, first.state, first.journal⟩

instance : Monad (Run σ ε) where
  pure := pure
  bind := bind

theorem bind_of_ok {m : Run σ ε α} {f : α → Run σ ε β} {s : σ} {a : α}
    (h : (m s).value = .ok a) :
    bind m f s = ⟨(f a (m s).state).value, (f a (m s).state).state,
      (m s).journal ++ (f a (m s).state).journal⟩ := by
  show (match (m s).value with | .ok a => _ | .error e => _ | .panic p => _) = _
  rw [h]

theorem bind_of_error {m : Run σ ε α} {f : α → Run σ ε β} {s : σ} {e : ε}
    (h : (m s).value = .error e) : bind m f s = ⟨.error e, (m s).state, (m s).journal⟩ := by
  show (match (m s).value with | .ok a => _ | .error e => _ | .panic p => _) = _
  rw [h]

theorem bind_of_panic {m : Run σ ε α} {f : α → Run σ ε β} {s : σ} {p : Panic}
    (h : (m s).value = .panic p) : bind m f s = ⟨.panic p, (m s).state, (m s).journal⟩ := by
  show (match (m s).value with | .ok a => _ | .error e => _ | .panic p => _) = _
  rw [h]

theorem bind_pure_right (m : Run σ ε α) : bind m pure = m := by
  funext s
  cases h : (m s).value with
  | ok a =>
    rw [bind_of_ok h]
    show Step.mk (Outcome.ok a) (m s).state ((m s).journal ++ []) = m s
    rw [List.append_nil, ← h]
  | error e => rw [bind_of_error h, ← h]
  | panic p => rw [bind_of_panic h, ← h]

theorem pure_bind_left (a : α) (f : α → Run σ ε β) : bind (pure a) f = f a := rfl

theorem bind_assoc {γ : Type} (m : Run σ ε α) (f : α → Run σ ε β) (g : β → Run σ ε γ) :
    bind (bind m f) g = bind m fun a => bind (f a) g := by
  funext s
  cases h : (m s).value with
  | error e =>
    have inner : (bind m f s).value = .error e := by rw [bind_of_error h]
    rw [bind_of_error inner, bind_of_error h, bind_of_error h]
  | panic p =>
    have inner : (bind m f s).value = .panic p := by rw [bind_of_panic h]
    rw [bind_of_panic inner, bind_of_panic h, bind_of_panic h]
  | ok a =>
    rw [bind_of_ok h]
    cases k : (f a (m s).state).value with
    | ok b =>
      have inner : (bind m f s).value = .ok b := by rw [bind_of_ok h, k]
      rw [bind_of_ok inner, bind_of_ok k, bind_of_ok h, List.append_assoc]
    | error e =>
      have inner : (bind m f s).value = .error e := by rw [bind_of_ok h, k]
      rw [bind_of_error inner, bind_of_error k, bind_of_ok h]
    | panic p =>
      have inner : (bind m f s).value = .panic p := by rw [bind_of_ok h, k]
      rw [bind_of_panic inner, bind_of_panic k, bind_of_ok h]

instance : LawfulMonad (Run σ ε) :=
  LawfulMonad.mk' (Run σ ε) bind_pure_right pure_bind_left bind_assoc

def fail (e : ε) : Run σ ε α := Flow.pure (.error e)

def panic (p : Panic) : Run σ ε α := Flow.pure (.panic p)

def ofExcept (e : Except ε α) : Run σ ε α := Flow.pure (.ofExcept e)

/-- A flow is a run that always ends well. -/
def ofFlow (m : Flow σ α) : Run σ ε α := fun s =>
  let r := m s
  ⟨.ok r.value, r.state, r.journal⟩

def get : Run σ ε σ := ofFlow Flow.get

def write (e : Entry) : Run σ ε Unit := ofFlow (Flow.write e)

def note (line : String) : Run σ ε Unit := write (.note line)

def mapError (f : ε → ε') (m : Run σ ε α) : Run σ ε' α := fun s =>
  let r := m s
  ⟨r.value.mapError f, r.state, r.journal⟩

def zoom (part : τ → σ) (replace : τ → σ → τ) (m : Run σ ε α) : Run τ ε α :=
  Flow.zoom part replace m

end Run

end ModSettings
