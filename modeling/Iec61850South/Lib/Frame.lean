import Iec61850South.Lib.Stateful

/-! # Computations that do not see a part of their state

`Commutes g x`: changing the state by `g` before `x` comes to the same as changing it
afterwards. When `g` overwrites a part of the state, `x` neither reads that part nor
writes it.
-/

namespace Lib

variable {ε σ α β γ δ : Type} {g : σ → σ}

/-- The same outcome, in a changed state. -/
def mapState (g : σ → σ) : EStateM.Result ε σ α → EStateM.Result ε σ α
  | .ok a s => .ok a (g s)
  | .error e s => .error e (g s)

/-- A returned value is kept, in the changed state. -/
@[simp] theorem mapState_ok (a : α) (s : σ) :
    mapState g (.ok a s : EStateM.Result ε σ α) = .ok a (g s) := rfl

/-- A thrown error is kept, in the changed state. -/
@[simp] theorem mapState_error (e : ε) (s : σ) :
    mapState g (.error e s : EStateM.Result ε σ α) = .error e (g s) := rfl

/-- A change of the state passes through the computation. -/
def Commutes (g : σ → σ) (x : EStateM ε σ α) : Prop :=
  ∀ s, x (g s) = mapState g (x s)

/-- A run that returns, seen from the changed state. -/
theorem Commutes.eq_ok {x : EStateM ε σ α} (h : Commutes g x) {s s' : σ} {a : α}
    (hrun : x s = .ok a s') : x (g s) = .ok a (g s') := by
  rw [h, hrun, mapState_ok]

/-- Returning a value does not look at the state. -/
theorem Commutes.pure (a : α) : Commutes g (pure a : EStateM ε σ α) :=
  fun _ => rfl

/-- Throwing does not look at the state. -/
theorem Commutes.throw (e : ε) : Commutes g (throw e : EStateM ε σ α) :=
  fun _ => rfl

/-- A pure computation does not look at the state. -/
theorem Commutes.liftExcept (x : Except ε α) :
    Commutes g (liftExcept x : EStateM ε σ α) := by
  intro s
  cases x <;> rfl

/-- A sequence sees no more of the state than its two parts. -/
theorem Commutes.bind {x : EStateM ε σ α} {f : α → EStateM ε σ β} (hx : Commutes g x)
    (hf : ∀ a, Commutes g (f a)) : Commutes g (x >>= f) := by
  intro s
  rw [run_bind, run_bind, hx s]
  cases x s with
  | ok a s' => exact hf a s'
  | error e s' => rfl

/-- A branch on something that is not in the state. -/
theorem Commutes.ite {c : Prop} [Decidable c] {x y : EStateM ε σ α} (hx : Commutes g x)
    (hy : Commutes g y) : Commutes g (if c then x else y) := by
  split
  · exact hx
  · exact hy

/-- A traversal sees no more of the state than its rounds. -/
theorem Commutes.mapM {f : γ → EStateM ε σ δ} (hf : ∀ a, Commutes g (f a)) (xs : List γ) :
    Commutes g (xs.mapM f) := by
  induction xs with
  | nil => exact Commutes.pure []
  | cons a xs ih =>
    rw [List.mapM_cons]
    exact Commutes.bind (hf a) fun b => Commutes.bind ih fun bs => Commutes.pure (b :: bs)

/-- A loop with an accumulator sees no more of the state than its rounds. -/
theorem Commutes.foldlM {f : δ → γ → EStateM ε σ δ} (hf : ∀ d a, Commutes g (f d a))
    (xs : List γ) (d : δ) : Commutes g (xs.foldlM f d) := by
  induction xs generalizing d with
  | nil => exact Commutes.pure d
  | cons a xs ih =>
    rw [List.foldlM_cons]
    exact Commutes.bind (hf d a) fun d' => ih d'

end Lib
