import Mathlib.Tactic.Common

/-! # Labelled transition systems

A system is a step relation with labels. A monitor watches the labels of a run
and gives up when they break a protocol; `Run.monitored` proves an invariant
that depends on the state of the monitor, for the runs that it accepts.
-/

namespace Lib

variable {σ ℓ β : Type}

/-- A run, with the labels of its steps. -/
inductive Run (step : σ → ℓ → σ → Prop) : σ → List ℓ → σ → Prop
  | nil (s : σ) : Run step s [] s
  | cons {s s' s'' : σ} {l : ℓ} {ls : List ℓ} :
      step s l s' → Run step s' ls s'' → Run step s (l :: ls) s''

variable {step : σ → ℓ → σ → Prop}

theorem Run.append {s s' s'' : σ} {ls ls' : List ℓ} (h : Run step s ls s')
    (h' : Run step s' ls' s'') : Run step s (ls ++ ls') s'' := by
  induction h with
  | nil s => exact h'
  | cons hfirst _ ih => exact .cons hfirst (ih h')

/-- A run falls apart where its labels do. -/
theorem Run.exists_of_append {s s'' : σ} {ls ls' : List ℓ} (h : Run step s (ls ++ ls') s'') :
    ∃ s', Run step s ls s' ∧ Run step s' ls' s'' := by
  induction ls generalizing s with
  | nil => exact ⟨s, .nil s, h⟩
  | cons l ls ih =>
    cases h with
    | cons hfirst hrest =>
      rcases ih hrest with ⟨s', hls, hls'⟩
      exact ⟨s', .cons hfirst hls, hls'⟩

/-- What every step with an allowed label preserves holds at the end of a run
with such labels. -/
theorem Run.invariant {I : σ → Prop} {allowed : ℓ → Prop}
    (hstep : ∀ s l s', I s → step s l s' → allowed l → I s') {s s' : σ} {ls : List ℓ}
    (hrun : Run step s ls s') (hs : I s) (hls : ∀ l ∈ ls, allowed l) : I s' := by
  induction hrun with
  | nil s => exact hs
  | cons hfirst _ ih =>
    rw [List.forall_mem_cons] at hls
    exact ih (hstep _ _ _ hs hfirst hls.1) hls.2

/-- A label that no step out of an invariant can have does not occur. -/
theorem Run.not_mem {I : σ → Prop} {allowed : ℓ → Prop}
    (hstep : ∀ s l s', I s → step s l s' → allowed l → I s') {l₀ : ℓ}
    (hno : ∀ s s', I s → ¬ step s l₀ s') {s s' : σ} {ls : List ℓ}
    (hrun : Run step s ls s') (hs : I s) (hls : ∀ l ∈ ls, allowed l) : l₀ ∉ ls := by
  induction hrun with
  | nil s => exact List.not_mem_nil
  | cons hfirst _ ih =>
    rw [List.forall_mem_cons] at hls
    rw [List.mem_cons, not_or]
    refine ⟨?_, ih (hstep _ _ _ hs hfirst hls.1) hls.2⟩
    rintro rfl
    exact hno _ _ hs hfirst

/-- An invariant that follows the state of a monitor. -/
theorem Run.monitored {I : β → σ → Prop} {next : β → ℓ → Option β}
    (hstep : ∀ b s l s' b', I b s → step s l s' → next b l = some b' → I b' s')
    {s s' : σ} {ls : List ℓ} {b b' : β} (hrun : Run step s ls s') (hs : I b s)
    (hls : ls.foldlM next b = some b') : I b' s' := by
  induction hrun generalizing b with
  | nil s =>
    cases hls
    exact hs
  | cons hfirst _ ih =>
    rw [List.foldlM_cons, Option.bind_eq_bind, Option.bind_eq_some_iff] at hls
    rcases hls with ⟨b₁, hb₁, hls⟩
    exact ih (hstep _ _ _ _ _ hs hfirst hb₁) hls

/-- A rank that some allowed step lowers until the goal is met leads a run there. -/
theorem Run.exists_of_rank {I : σ → Nat → Prop} {goal : σ → Prop} {allowed : ℓ → Prop}
    (hstep : ∀ s n, I s n →
      goal s ∨ ∃ l s' n', step s l s' ∧ allowed l ∧ n' < n ∧ I s' n')
    (n : Nat) (s : σ) (hs : I s n) :
    ∃ ls s', Run step s ls s' ∧ (∀ l ∈ ls, allowed l) ∧ ls.length ≤ n ∧ goal s' := by
  induction n using Nat.strongRecOn generalizing s with
  | _ n ih =>
    rcases hstep s n hs with hgoal | ⟨l, s', n', hfirst, hl, hlt, hs'⟩
    · exact ⟨[], s, .nil s, by simp, Nat.zero_le n, hgoal⟩
    · rcases ih n' hlt s' hs' with ⟨ls, s'', hrun, hls, hlength, hgoal⟩
      refine ⟨l :: ls, s'', .cons hfirst hrun, ?_, ?_, hgoal⟩
      · rw [List.forall_mem_cons]
        exact ⟨hl, hls⟩
      · rw [List.length_cons]
        omega

section Refinement

variable {σ' ℓ' ο : Type} {step' : σ' → ℓ' → σ' → Prop}

/-- In states that satisfy `I`, each step of the finer system is an unseen one that does
not show in the coarser state, or a step of the coarser system with the same sight. -/
def Refines (step : σ → ℓ → σ → Prop) (step' : σ' → ℓ' → σ' → Prop) (I : σ → Prop)
    (coarsen : σ → σ') (sight : ℓ → Option ο) (sight' : ℓ' → Option ο) : Prop :=
  ∀ s l s', I s → step s l s' →
    (sight l = none ∧ coarsen s' = coarsen s) ∨
      ∃ l', step' (coarsen s) l' (coarsen s') ∧ sight' l' = sight l

/-- Each run of the finer system is a run of the coarser one, in which the same can be
seen. -/
theorem Run.refined {I : σ → Prop} {coarsen : σ → σ'} {sight : ℓ → Option ο}
    {sight' : ℓ' → Option ο} (href : Refines step step' I coarsen sight sight')
    (hstep : ∀ s l s', I s → step s l s' → I s') {s s' : σ} {ls : List ℓ}
    (hrun : Run step s ls s') (hs : I s) :
    ∃ ls', Run step' (coarsen s) ls' (coarsen s') ∧
      ls'.filterMap sight' = ls.filterMap sight := by
  induction hrun with
  | nil s => exact ⟨[], .nil _, rfl⟩
  | @cons s s₁ s' l ls hfirst _ ih =>
    rcases ih (hstep _ _ _ hs hfirst) with ⟨ls', hrun', hsight⟩
    rcases href _ _ _ hs hfirst with ⟨hunseen, hsame⟩ | ⟨l', hfirst', hseen⟩
    · refine ⟨ls', by rwa [hsame] at hrun', ?_⟩
      rw [List.filterMap_cons_none hunseen]
      exact hsight
    · refine ⟨l' :: ls', .cons hfirst' hrun', ?_⟩
      rw [List.filterMap_cons, List.filterMap_cons, hseen, hsight]

end Refinement

/-- A run that one monitor accepts is accepted by another one, if an invariant that
follows both makes each step acceptable. -/
theorem Run.accepted {α : Type} {I : β → α → σ → Prop} {next : β → ℓ → Option β}
    {watch : α → ℓ → Option α}
    (hstep : ∀ b a s l s' b', I b a s → step s l s' → next b l = some b' →
      ∃ a', watch a l = some a' ∧ I b' a' s')
    {s s' : σ} {ls : List ℓ} {b b' : β} {a : α} (hrun : Run step s ls s') (hs : I b a s)
    (hls : ls.foldlM next b = some b') : ∃ a', ls.foldlM watch a = some a' ∧ I b' a' s' := by
  induction hrun generalizing b a with
  | nil s =>
    cases hls
    exact ⟨a, rfl, hs⟩
  | cons hfirst _ ih =>
    rw [List.foldlM_cons, Option.bind_eq_bind, Option.bind_eq_some_iff] at hls
    rcases hls with ⟨b₁, hb₁, hls⟩
    rcases hstep _ _ _ _ _ _ hs hfirst hb₁ with ⟨a₁, ha₁, hs₁⟩
    rcases ih hs₁ hls with ⟨a', ha', hs'⟩
    refine ⟨a', ?_, hs'⟩
    rw [List.foldlM_cons, Option.bind_eq_bind, Option.bind_eq_some_iff]
    exact ⟨a₁, ha₁, ha'⟩

end Lib
