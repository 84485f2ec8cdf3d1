import Mathlib.Data.Finset.Basic
import Mathlib.Data.List.Count

/-! # Resources that are acquired and released

A history of actions on resources is replayed with the set of those that are held.
What is held cannot be acquired, and what is not held can be neither used nor
released: `replay` fails on such an action. A lock is a resource that is acquired
more than once, an object one that is never acquired again. `UsedUnder` says that a
resource is used only while its lock is held.
-/

namespace Lib

/-- What can be done with a resource. -/
inductive Action (ρ : Type) where
  | acquire (r : ρ)
  | use (r : ρ)
  | release (r : ρ)
deriving DecidableEq, Repr

variable {ρ : Type} [DecidableEq ρ]

/-- What is held after an action, if the action is allowed. -/
def Action.next (held : Finset ρ) : Action ρ → Option (Finset ρ)
  | .acquire r => if r ∈ held then none else some (insert r held)
  | .use r => if r ∈ held then some held else none
  | .release r => if r ∈ held then some (held.erase r) else none

/-- What is held after a history, if all of its actions are allowed. -/
def replay (history : List (Action ρ)) : Option (Finset ρ) :=
  history.foldlM Action.next ∅

/-- A history with one more action. -/
theorem replay_concat {history : List (Action ρ)} {held : Finset ρ} (h : replay history = some held)
    (a : Action ρ) : replay (history ++ [a]) = a.next held := by
  rw [replay, List.foldlM_append, ← replay, h]
  exact bind_pure (a.next held)

/-- What is not held can be acquired, and is held then. -/
theorem replay_acquire {history : List (Action ρ)} {held : Finset ρ} {r : ρ}
    (h : replay history = some held) (hr : r ∉ held) :
    replay (history ++ [.acquire r]) = some (insert r held) := by
  rw [replay_concat h, Action.next, if_neg hr]

/-- What is held can be used, and stays held. -/
theorem replay_use {history : List (Action ρ)} {held : Finset ρ} {r : ρ}
    (h : replay history = some held) (hr : r ∈ held) :
    replay (history ++ [.use r]) = some held := by
  rw [replay_concat h, Action.next, if_pos hr]

/-- What is held can be released, and is not held then. -/
theorem replay_release {history : List (Action ρ)} {held : Finset ρ} {r : ρ}
    (h : replay history = some held) (hr : r ∈ held) :
    replay (history ++ [.release r]) = some (held.erase r) := by
  rw [replay_concat h, Action.next, if_pos hr]

/-- Whatever is held has been acquired once more than it has been released, and
whatever is not held as often as it has been released. -/
theorem count_acquire {history : List (Action ρ)} {held : Finset ρ}
    (h : replay history = some held) (r : ρ) :
    history.count (.acquire r) = history.count (.release r) + if r ∈ held then 1 else 0 := by
  induction history using List.reverseRecOn generalizing held with
  | nil =>
    cases h
    simp
  | append_singleton history a ih =>
    rw [replay, List.foldlM_append, ← replay] at h
    cases hbefore : replay history with
    | none =>
      rw [hbefore] at h
      cases h
    | some before =>
      rw [hbefore] at h
      have hnext : a.next before = some held := by
        rw [← h]
        exact (bind_pure (a.next before)).symm
      have ih := ih hbefore
      rw [List.count_append, List.count_append, ih]
      -- the histories that go wrong at the last action are excluded by `hnext`
      cases a with
      | acquire q =>
        by_cases hq : q ∈ before
        · rw [Action.next, if_pos hq] at hnext
          cases hnext
        · rw [Action.next, if_neg hq] at hnext
          cases hnext
          by_cases hqr : q = r
          · subst hqr
            simp [hq]
          · have hrq : r ≠ q := Ne.symm hqr
            simp [hqr, hrq]
      | use q =>
        by_cases hq : q ∈ before
        · rw [Action.next, if_pos hq] at hnext
          cases hnext
          simp
        · rw [Action.next, if_neg hq] at hnext
          cases hnext
      | release q =>
        by_cases hq : q ∈ before
        · rw [Action.next, if_pos hq] at hnext
          cases hnext
          by_cases hqr : q = r
          · subst hqr
            simp [hq]
          · have hrq : r ≠ q := Ne.symm hqr
            simp [hqr, hrq]
        · rw [Action.next, if_neg hq] at hnext
          cases hnext

/-! ## Locks -/

/-- Whatever has a lock is used only while the lock is held. -/
def UsedUnder (lockOf : ρ → Option ρ) (history : List (Action ρ)) : Prop :=
  ∀ before after r lock, history = before ++ .use r :: after → lockOf r = some lock →
    ∃ held, replay before = some held ∧ lock ∈ held

/-- Nothing has been used yet. -/
theorem usedUnder_nil (lockOf : ρ → Option ρ) : UsedUnder lockOf [] := by
  intro before after r lock heq _
  cases before <;> cases heq

/-- One more action, which is allowed if it is no use or the lock is held. -/
theorem UsedUnder.concat {lockOf : ρ → Option ρ} {history : List (Action ρ)}
    (h : UsedUnder lockOf history) {a : Action ρ}
    (ha : ∀ r lock, a = .use r → lockOf r = some lock →
      ∃ held, replay history = some held ∧ lock ∈ held) : UsedUnder lockOf (history ++ [a]) := by
  intro before after r lock heq hlock
  cases after using List.reverseRecOn with
  | nil =>
    rcases List.append_inj' heq rfl with ⟨rfl, hlast⟩
    cases hlast
    exact ha r lock rfl hlock
  | append_singleton after b =>
    have heq : history ++ [a] = (before ++ .use r :: after) ++ [b] := by
      rw [heq, List.append_assoc, List.cons_append]
    rcases List.append_inj' heq rfl with ⟨rfl, _⟩
    exact h before after r lock rfl hlock

end Lib
