import Iec61850South.Lib.Stateful

/-! # Preconditions and postconditions of computations that may throw

`Hoare P x Q E` bounds each outcome of `x`: it returns where `Q` holds of its
result, or throws an error for which `E` holds. The state that an error leaves
behind is part of the outcome, so the rules go through sequences and loops in the
same way on both exits.
-/

namespace Lib

variable {ε σ α β γ δ : Type}

/-- Run from a state with `P`, `x` returns with `Q` or throws with `E`. -/
def Hoare (P : σ → Prop) (x : EStateM ε σ α) (Q : α → σ → Prop) (E : ε → σ → Prop) : Prop :=
  ∀ s, P s → (∀ a s', x s = .ok a s' → Q a s') ∧ ∀ e s', x s = .error e s' → E e s'

variable {P P' : σ → Prop} {Q : α → σ → Prop} {E : ε → σ → Prop}

/-- A computation that always returns throws nothing, whatever `E` says. -/
theorem Hoare.of_ok {x : EStateM ε σ α} (h : ∀ s, P s → ∃ a s', x s = .ok a s' ∧ Q a s') :
    Hoare P x Q E := by
  intro s hs
  rcases h s hs with ⟨a, s', hx, hQ⟩
  rw [hx]
  constructor
  · intro a' s'' heq
    cases heq
    exact hQ
  · intro e s'' heq
    cases heq

/-- Returning a value leaves the state as it is. -/
theorem Hoare.pure {a : α} (h : ∀ s, P s → Q a s) :
    Hoare P (pure a : EStateM ε σ α) Q E :=
  .of_ok fun s hs => ⟨a, s, rfl, h s hs⟩

/-- Throwing leaves the state as it is, for the other exit. -/
theorem Hoare.throw {e : ε} (h : ∀ s, P s → E e s) :
    Hoare P (throw e : EStateM ε σ α) Q E := by
  intro s hs
  constructor
  · intro a s' heq
    cases heq
  · intro e' s' heq
    cases heq
    exact h s hs

/-- A write to the state. -/
theorem Hoare.modify {f : σ → σ} {Q : PUnit → σ → Prop} (h : ∀ s, P s → Q ⟨⟩ (f s)) :
    Hoare P (modify f : EStateM ε σ PUnit) Q E :=
  .of_ok fun s hs => ⟨⟨⟩, f s, rfl, h s hs⟩

/-- A read of the state gives the state itself. -/
theorem Hoare.get {Q : σ → σ → Prop} (h : ∀ s, P s → Q s s) :
    Hoare P (get : EStateM ε σ σ) Q E :=
  .of_ok fun s hs => ⟨s, s, rfl, h s hs⟩

/-- What is known of the state before may be known of some value only. -/
theorem Hoare.exists {ι : Type} {P : ι → σ → Prop} {x : EStateM ε σ α}
    (h : ∀ i, Hoare (P i) x Q E) : Hoare (fun s => ∃ i, P i s) x Q E := by
  rintro s ⟨i, hs⟩
  exact h i s hs

/-- A stronger precondition. -/
theorem Hoare.weaken {x : EStateM ε σ α} (h : Hoare P x Q E) (hP : ∀ s, P' s → P s) :
    Hoare P' x Q E :=
  fun s hs => h s (hP s hs)

/-- A fact that does not depend on the state. -/
theorem Hoare.fact {p : Prop} {x : EStateM ε σ α} (h : p → Hoare P x Q E) :
    Hoare (fun s => p ∧ P s) x Q E :=
  fun s hs => h hs.1 s hs.2

/-- A weaker postcondition. -/
theorem Hoare.post {Q' : α → σ → Prop} {x : EStateM ε σ α} (h : Hoare P x Q E)
    (hQ : ∀ a s, Q a s → Q' a s) : Hoare P x Q' E :=
  fun s hs => ⟨fun a s' hx => hQ a s' ((h s hs).1 a s' hx), (h s hs).2⟩

/-- A weaker condition on the errors. -/
theorem Hoare.error {E' : ε → σ → Prop} {x : EStateM ε σ α} (h : Hoare P x Q E)
    (hE : ∀ e s, E e s → E' e s) : Hoare P x Q E' :=
  fun s hs => ⟨(h s hs).1, fun e s' hx => hE e s' ((h s hs).2 e s' hx)⟩

/-- The postcondition of the first part is the precondition of the second one, and an error
of either part is one of the sequence. -/
theorem Hoare.bind {R : α → σ → Prop} {Q : β → σ → Prop} {x : EStateM ε σ α}
    {f : α → EStateM ε σ β} (hx : Hoare P x R E) (hf : ∀ a, Hoare (R a) (f a) Q E) :
    Hoare P (x >>= f) Q E := by
  intro s hs
  cases h : x s with
  | ok a s' =>
    rw [run_bind_ok h]
    exact hf a s' ((hx s hs).1 a s' h)
  | error e s' =>
    rw [run_bind_error h]
    refine ⟨fun b s'' heq => (by cases heq), ?_⟩
    intro e' s'' heq
    cases heq
    exact (hx s hs).2 e s' h

/-- Both branches, each from the whole precondition. -/
theorem Hoare.ite {c : Prop} [Decidable c] {x y : EStateM ε σ α} (hx : Hoare P x Q E)
    (hy : Hoare P y Q E) : Hoare P (if c then x else y) Q E := by
  by_cases h : c
  · rw [if_pos h]
    exact hx
  · rw [if_neg h]
    exact hy

/-- What holds before and after each round of a loop. -/
theorem Hoare.forM {f : γ → EStateM ε σ PUnit} {xs : List γ}
    (hf : ∀ a ∈ xs, Hoare P (f a) (fun _ => P) E) : Hoare P (forM xs f) (fun _ => P) E := by
  induction xs with
  | nil => exact .pure fun _ hs => hs
  | cons a xs ih =>
    rw [List.forM_cons]
    exact .bind (hf a List.mem_cons_self) fun _ => ih fun b hb => hf b (List.mem_cons_of_mem a hb)

/-- What holds before and after each round of a traversal. -/
theorem Hoare.mapM {f : γ → EStateM ε σ δ} {xs : List γ}
    (hf : ∀ a, Hoare P (f a) (fun _ => P) E) : Hoare P (xs.mapM f) (fun _ => P) E := by
  induction xs with
  | nil => exact .pure fun _ hs => hs
  | cons a xs ih =>
    rw [List.mapM_cons]
    exact .bind (hf a) fun _ => .bind ih fun _ => .pure fun _ hs => hs

/-- A traversal, with what each round says about its element and its result. -/
theorem Hoare.mapM_forall₂ {R : γ → δ → Prop} {f : γ → EStateM ε σ δ}
    (hf : ∀ a, Hoare P (f a) (fun b s => R a b ∧ P s) E) (xs : List γ) :
    Hoare P (xs.mapM f) (fun ys s => List.Forall₂ R xs ys ∧ P s) E := by
  induction xs with
  | nil => exact .pure fun _ hs => ⟨.nil, hs⟩
  | cons a xs ih =>
    rw [List.mapM_cons]
    refine .bind (hf a) fun b => .fact fun hb => .bind ih fun ys => .fact fun hys => ?_
    exact .pure fun _ hs => ⟨.cons hb hys, hs⟩

section Marks

variable {ζ : Type} {R : List ζ → σ → Prop}

/-- A traversal in which each round leaves the marks of its result. -/
theorem Hoare.mapM_marks {mark : δ → List ζ} {f : γ → EStateM ε σ δ}
    (hf : ∀ a marks, Hoare (R marks) (f a) (fun b => R (marks ++ mark b)) E) (xs : List γ)
    (marks : List ζ) :
    Hoare (R marks) (xs.mapM f) (fun ys => R (marks ++ ys.flatMap mark)) E := by
  induction xs generalizing marks with
  | nil =>
    refine .pure fun _ hs => ?_
    rw [List.reverse_nil, List.flatMap_nil, List.append_nil]
    exact hs
  | cons a xs ih =>
    rw [List.mapM_cons]
    refine .bind (hf a marks) fun b => .bind (ih (marks ++ mark b)) fun ys => ?_
    refine .pure fun _ hs => ?_
    rw [List.flatMap_cons, ← List.append_assoc]
    exact hs

/-- A loop in which each round leaves the marks of its element. -/
theorem Hoare.forM_marks {mark : γ → List ζ} {f : γ → EStateM ε σ PUnit}
    (hf : ∀ a marks, Hoare (R marks) (f a) (fun _ => R (marks ++ mark a)) E) (xs : List γ)
    (marks : List ζ) :
    Hoare (R marks) (ForM.forM xs f) (fun _ => R (marks ++ xs.flatMap mark)) E := by
  induction xs generalizing marks with
  | nil =>
    refine .pure fun _ hs => ?_
    rw [List.flatMap_nil, List.append_nil]
    exact hs
  | cons a xs ih =>
    rw [List.forM_cons, List.flatMap_cons, ← List.append_assoc]
    exact .bind (hf a marks) fun _ => ih (marks ++ mark a)

end Marks

/-- What holds before and after each round of a loop with an accumulator. -/
theorem Hoare.foldlM {f : δ → γ → EStateM ε σ δ} {xs : List γ} (d : δ)
    (hf : ∀ d a, Hoare P (f d a) (fun _ => P) E) : Hoare P (xs.foldlM f d) (fun _ => P) E := by
  induction xs generalizing d with
  | nil => exact .pure fun _ hs => hs
  | cons a xs ih =>
    rw [List.foldlM_cons]
    exact .bind (hf d a) fun d' => ih d'

end Lib
