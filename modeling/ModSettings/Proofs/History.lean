/-
What lasts of a run.

Of the changes made in the course of a run the last one to pass a test often
decides what holds at the end, unless a later change has ended what it did.  The
test may look at everything that came before the change.  Runs grow at their
end, so all that is ever needed of this is `lasts_concat`.
-/
import Mathlib.Data.List.Induction

namespace ModSettings

variable {α : Type} {test : List α → α → Prop} {ends : α → Prop}

/-- The change between `past` and `later` is the last one of the run to pass the
test, and nothing after it ends what it did. -/
structure Lasts (test : List α → α → Prop) (ends : α → Prop) (run past : List α) (c : α)
    (later : List α) : Prop where
  split : run = past ++ c :: later
  passes : test past c
  stays : ∀ between c' rest, later = between ++ c' :: rest →
    ¬test (past ++ c :: between) c' ∧ ¬ends c'

theorem concat_eq_append_cons {l front rest : List α} {a b : α} :
    l ++ [a] = front ++ b :: rest ↔ (rest = [] ∧ front = l ∧ b = a) ∨
      ∃ earlier, rest = earlier ++ [a] ∧ l = front ++ b :: earlier := by
  constructor
  · intro same
    rcases List.eq_nil_or_concat rest with rfl | ⟨earlier, last, rfl⟩
    · obtain ⟨rfl, last⟩ := List.append_inj' same rfl
      exact Or.inl ⟨rfl, rfl, (List.cons.inj last).1.symm⟩
    · rw [List.concat_eq_append, ← List.cons_append, ← List.append_assoc] at same
      obtain ⟨rfl, last⟩ := List.append_inj' same rfl
      rw [List.concat_eq_append, last]
      exact Or.inr ⟨earlier, rfl, rfl⟩
  · rintro (⟨rfl, rfl, rfl⟩ | ⟨earlier, rfl, rfl⟩)
    · rfl
    · rw [List.append_assoc, List.cons_append]

theorem not_lasts_nil {past later : List α} {c : α} : ¬Lasts test ends [] past c later := by
  intro lasts
  have split := lasts.split
  simp at split

theorem lasts_concat {run past later : List α} {c c' : α} :
    Lasts test ends (run ++ [c']) past c later ↔
      (later = [] ∧ past = run ∧ c = c' ∧ test run c') ∨
        ∃ earlier, later = earlier ++ [c'] ∧ ¬test run c' ∧ ¬ends c' ∧
          Lasts test ends run past c earlier := by
  constructor
  · rintro ⟨split, passes, stays⟩
    rcases concat_eq_append_cons.mp split with ⟨rfl, rfl, rfl⟩ | ⟨earlier, rfl, rfl⟩
    · exact Or.inl ⟨rfl, rfl, rfl, passes⟩
    · obtain ⟨fails, goesOn⟩ := stays earlier c' [] rfl
      refine Or.inr ⟨earlier, rfl, fails, goesOn, rfl, passes, fun between x rest split => ?_⟩
      exact stays between x (rest ++ [c']) (by rw [split, List.append_assoc, List.cons_append])
  · rintro (⟨rfl, rfl, rfl, passes⟩ | ⟨earlier, rfl, fails, goesOn, rfl, passes, stays⟩)
    · exact ⟨rfl, passes, fun between x rest split => by simp at split⟩
    · refine ⟨by simp, passes, fun between x rest split => ?_⟩
      rcases concat_eq_append_cons.mp split with ⟨rfl, rfl, rfl⟩ | ⟨front, rfl, rfl⟩
      · exact ⟨fails, goesOn⟩
      · exact stays between x front rfl

theorem not_exists_lasts_nil : ¬∃ past c later, Lasts test ends [] past c later := by
  rintro ⟨past, c, later, lasts⟩
  exact not_lasts_nil lasts

/-- Whether such a change lasts is told by the last one that matters. -/
theorem exists_lasts_concat {run : List α} {c' : α} :
    (∃ past c later, Lasts test ends (run ++ [c']) past c later) ↔
      test run c' ∨ ¬ends c' ∧ ∃ past c later, Lasts test ends run past c later := by
  constructor
  · rintro ⟨past, c, later, lasts⟩
    rcases lasts_concat.mp lasts with ⟨_, _, _, passes⟩ | ⟨earlier, _, _, goesOn, before⟩
    · exact Or.inl passes
    · exact Or.inr ⟨goesOn, past, c, earlier, before⟩
  · intro h
    by_cases passes : test run c'
    · exact ⟨run, c', [], lasts_concat.mpr (Or.inl ⟨rfl, rfl, rfl, passes⟩)⟩
    · obtain ⟨goesOn, past, c, earlier, before⟩ := h.resolve_left passes
      exact ⟨past, c, earlier ++ [c'],
        lasts_concat.mpr (Or.inr ⟨earlier, rfl, passes, goesOn, before⟩)⟩

end ModSettings
