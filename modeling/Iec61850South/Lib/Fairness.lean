import Mathlib.Logic.Relation
import Mathlib.Order.WellFounded
import Mathlib.Tactic.Common

/-! # Fair executions

An execution goes on for ever. In each of its steps one actor acts, or nobody does,
and then the environment may. It is fair if every actor that can act again and
again does act, and if nobody acts for ever in the middle of something that has an
end.

`Execution.Fair.eventually_of_rank` proves that a goal is reached: a rank never
rises, and the actor that is waited for lowers it, unless he is busy.
-/

namespace Lib

variable {σ τ : Type}

/-- An endless execution, with the actor of each of its steps. -/
structure Execution (acts : τ → σ → σ → Prop) (environment : σ → σ → Prop) where
  state : Nat → σ
  actor : Nat → Option τ
  acted : ∀ n actor_, actor n = some actor_ → acts actor_ (state n) (state (n + 1))
  rested : ∀ n, actor n = none →
    state (n + 1) = state n ∨ environment (state n) (state (n + 1))

namespace Execution

variable {acts : τ → σ → σ → Prop} {environment : σ → σ → Prop}

/-- What holds of each state if each step preserves it. -/
theorem always {I : σ → Prop} (e : Execution acts environment)
    (hacts : ∀ actor s s', I s → acts actor s s' → I s')
    (henvironment : ∀ s s', I s → environment s s' → I s') (hstart : I (e.state 0)) (n : Nat) :
    I (e.state n) := by
  induction n with
  | zero => exact hstart
  | succ n ih =>
    cases hactor : e.actor n with
    | some actor => exact hacts actor _ _ ih (e.acted n actor hactor)
    | none =>
      rcases e.rested n hactor with hsame | hstep
      · rw [hsame]
        exact ih
      · exact henvironment _ _ ih hstep

/-- Fairness. An actor may be busy with something that has an end, but takes any number of
steps. -/
structure Fair (e : Execution acts environment) (busy : τ → σ → Prop) : Prop where
  /-- Who can act again and again acts. -/
  acts : ∀ actor n, (∀ m, n ≤ m → ∃ k, m ≤ k ∧ ∃ s', acts actor (e.state k) s') →
    ∃ m, n ≤ m ∧ e.actor m = some actor
  /-- Nobody who is busy for ever acts for ever. -/
  ends : ∀ actor n, (∀ m, n ≤ m → busy actor (e.state m)) →
    ∃ m, n ≤ m ∧ ∀ k, m ≤ k → e.actor k ≠ some actor

section Rank

variable {α : Type}

/-- The state is another one, but what is waited for is the same. -/
structure Waits (busy : τ → σ → Prop) (rank : σ → α) (helper : σ → τ) (s s' : σ) : Prop where
  sameRank : rank s' = rank s
  sameHelper : helper s' = helper s
  stillBusy : busy (helper s) s → busy (helper s) s'

theorem Waits.refl (busy : τ → σ → Prop) (rank : σ → α) (helper : σ → τ) (s : σ) :
    Waits busy rank helper s s := ⟨rfl, rfl, id⟩

/-- **The rank rule.** From `start` on, as long as `P` holds, no step raises the rank, and
one of the helper lowers it, unless he is busy. Then the goal is reached, provided that
the helper can act again and again if nothing changes. -/
theorem Fair.eventually_of_rank [Preorder α] [WellFoundedLT α] {e : Execution acts environment}
    {busy : τ → σ → Prop} (hfair : e.Fair busy) {P goal : σ → Prop} {rank : σ → α}
    {helper : σ → τ} {start : Nat}
    (hstep : ∀ n, start ≤ n → P (e.state n) → goal (e.state (n + 1)) ∨
      P (e.state (n + 1)) ∧ (rank (e.state (n + 1)) < rank (e.state n) ∨
        Waits busy rank helper (e.state n) (e.state (n + 1)) ∧
          (e.actor n = some (helper (e.state n)) → busy (helper (e.state n)) (e.state n))))
    (henabled : ∀ n, start ≤ n →
      (∀ m, n ≤ m → P (e.state m) ∧ rank (e.state m) = rank (e.state n) ∧
        helper (e.state m) = helper (e.state n)) →
        ∃ k, n ≤ k ∧ ∃ s', acts (helper (e.state n)) (e.state k) s')
    {n : Nat} (hn : start ≤ n) (hP : P (e.state n)) : ∃ m, n ≤ m ∧ goal (e.state m) := by
  -- the states of one rank are left for a lower one
  induction hrank : rank (e.state n) using WellFoundedLT.induction generalizing n with
  | _ r ih =>
    subst hrank
    by_contra hno
    have hnever : ∀ m, n ≤ m → ¬ goal (e.state m) := fun m hm hgoal => hno ⟨m, hm, hgoal⟩
    have hstays : ∀ m, n ≤ m → P (e.state m) ∧ rank (e.state m) = rank (e.state n) ∧
        helper (e.state m) = helper (e.state n) := by
      intro m hm
      induction m, hm using Nat.le_induction with
      | base => exact ⟨hP, rfl, rfl⟩
      | succ m hm ihm =>
        rcases ihm with ⟨hPm, hrank, hhelper⟩
        rcases hstep m (Nat.le_trans hn hm) hPm with hgoal | ⟨hP', hlt | ⟨hwaits, _⟩⟩
        · exact absurd hgoal (hnever (m + 1) (by omega))
        · rw [hrank] at hlt
          rcases ih _ hlt (by omega) hP' rfl with ⟨k, hk, hgoal⟩
          exact absurd hgoal (hnever k (by omega))
        · exact ⟨hP', hwaits.sameRank.trans hrank, hwaits.sameHelper.trans hhelper⟩
    have hwaits : ∀ m, n ≤ m → Waits busy rank helper (e.state m) (e.state (m + 1)) ∧
        (e.actor m = some (helper (e.state n)) → busy (helper (e.state n)) (e.state m)) := by
      intro m hm
      rcases hstays m hm with ⟨hPm, hrank, hhelper⟩
      rcases hstays (m + 1) (by omega) with ⟨_, hrank', _⟩
      rcases hstep m (Nat.le_trans hn hm) hPm with hgoal | ⟨_, hlt | hwaits⟩
      · exact absurd hgoal (hnever (m + 1) (by omega))
      · rw [hrank, hrank'] at hlt
        exact absurd hlt (lt_irrefl _)
      · rw [hhelper] at hwaits
        exact hwaits
    have hacts : ∀ m, n ≤ m → ∃ k, m ≤ k ∧ e.actor k = some (helper (e.state n)) := by
      intro m hm
      refine hfair.acts _ m fun k hk => ?_
      rcases hstays k (by omega) with ⟨_, hrank, hhelper⟩
      have hfrom : ∀ i, k ≤ i → P (e.state i) ∧ rank (e.state i) = rank (e.state k) ∧
          helper (e.state i) = helper (e.state k) := by
        intro i hi
        rcases hstays i (by omega) with ⟨hPi, hrank', hhelper'⟩
        exact ⟨hPi, hrank'.trans hrank.symm, hhelper'.trans hhelper.symm⟩
      rcases henabled k (by omega) hfrom with ⟨i, hi, hable⟩
      rw [hhelper] at hable
      exact ⟨i, hi, hable⟩
    -- the helper acts without lowering the rank, so he is busy, and stays busy
    rcases hacts n (Nat.le_refl n) with ⟨m, hm, hactor⟩
    have hbusy : ∀ k, m ≤ k → busy (helper (e.state n)) (e.state k) := by
      intro k hk
      induction k, hk using Nat.le_induction with
      | base => exact (hwaits m hm).2 hactor
      | succ k hk ihk =>
        have hhelper : helper (e.state k) = helper (e.state n) := (hstays k (by omega)).2.2
        have hkept := (hwaits k (by omega)).1.stillBusy
        rw [hhelper] at hkept
        exact hkept ihk
    rcases hfair.ends _ m hbusy with ⟨k, hk, hidle⟩
    rcases hacts k (by omega) with ⟨i, hi, hactor'⟩
    exact hidle i hi hactor'

end Rank

/-! ## Executions that come to rest -/

/-- Nobody can act. -/
def Quiet (acts : τ → σ → σ → Prop) (s : σ) : Prop :=
  ∀ actor s', ¬ acts actor s s'

/-- Nothing happens any more. -/
def rest (s : σ) : Execution acts environment where
  state := fun _ => s
  actor := fun _ => none
  acted := by
    intro n actor h
    cases h
  rested := fun _ _ => .inl rfl

/-- A step in front of an execution. -/
def after (s : σ) (actor : Option τ) (e : Execution acts environment)
    (hacted : ∀ actor_, actor = some actor_ → acts actor_ s (e.state 0))
    (hrested : actor = none → e.state 0 = s ∨ environment s (e.state 0)) :
    Execution acts environment where
  state := fun n => n.casesOn s e.state
  actor := fun n => n.casesOn actor e.actor
  acted := by
    intro n
    cases n with
    | zero => exact hacted
    | succ n => exact e.acted n
  rested := by
    intro n
    cases n with
    | zero => exact hrested
    | succ n => exact e.rested n

theorem Quiet.rest_fair {busy : τ → σ → Prop} {s : σ} (h : Quiet acts s) :
    (rest s : Execution acts environment).Fair busy := by
  constructor
  case acts =>
    intro actor n hable
    rcases hable n (Nat.le_refl n) with ⟨k, _, s', hs'⟩
    exact absurd hs' (h actor s')
  case ends =>
    intro actor n _
    refine ⟨n, Nat.le_refl n, fun k _ hactor => ?_⟩
    cases hactor

theorem Fair.after {busy : τ → σ → Prop} {s : σ} {actor : Option τ}
    {e : Execution acts environment} (h : e.Fair busy)
    (hacted : ∀ actor_, actor = some actor_ → acts actor_ s (e.state 0))
    (hrested : actor = none → e.state 0 = s ∨ environment s (e.state 0)) :
    (after s actor e hacted hrested).Fair busy := by
  constructor
  case acts =>
    intro actor n hable
    have hable' : ∀ m, n ≤ m → ∃ k, m ≤ k ∧ ∃ s', acts actor (e.state k) s' := by
      intro m hm
      rcases hable (m + 1) (by omega) with ⟨k, hk, hs'⟩
      cases k with
      | zero => omega
      | succ k => exact ⟨k, by omega, hs'⟩
    rcases h.acts actor n hable' with ⟨m, hm, hactor⟩
    exact ⟨m + 1, by omega, hactor⟩
  case ends =>
    intro actor n hbusy
    rcases h.ends actor n fun m hm => hbusy (m + 1) (by omega) with ⟨m, hm, hidle⟩
    refine ⟨m + 1, by omega, fun k hk => ?_⟩
    cases k with
    | zero => omega
    | succ k => exact hidle k (by omega)

/-- From a state from which the execution can come to rest, there is a fair one. -/
theorem exists_fair {busy : τ → σ → Prop} {s s' : σ}
    (hrun : Relation.ReflTransGen (fun s s' => (∃ actor, acts actor s s') ∨ environment s s') s s')
    (hquiet : Quiet acts s') :
    ∃ e : Execution acts environment, e.state 0 = s ∧ e.Fair busy := by
  induction hrun using Relation.ReflTransGen.head_induction_on with
  | refl => exact ⟨rest s', rfl, hquiet.rest_fair⟩
  | @head s₁ s₂ hstep _ ih =>
    rcases ih with ⟨e, rfl, hfair⟩
    rcases hstep with ⟨actor, hactor⟩ | henvironment
    · refine ⟨after s₁ (some actor) e ?_ (by simp), rfl, hfair.after _ _⟩
      rintro _ ⟨⟩
      exact hactor
    · exact ⟨after s₁ none e (by simp) fun _ => .inr henvironment, rfl, hfair.after _ _⟩

end Execution

end Lib
