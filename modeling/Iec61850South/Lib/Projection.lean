import Iec61850South.Lib.Stateful

/-! # Computations with and without a part of their state

`zoom` runs a computation on one component of a larger state. `Projects π f x y`:
seen through `π` and `f`, the computation `x` on the larger state does what `y` does
on the smaller one; what `x` does besides does not show. The rules follow the
structure of the two programs, which may differ by silent statements.
-/

namespace Lib

variable {ε σ τ α β γ δ α' β' : Type}

/-- A computation on a component of the state. -/
def zoom (view : σ → τ) (put : τ → σ → σ) (y : EStateM ε τ α) : EStateM ε σ α := fun s =>
  match y (view s) with
  | .ok a t => .ok a (put t s)
  | .error e t => .error e (put t s)

/-- The outcome, as it shows in the component. -/
def project (π : σ → τ) (f : α → β) : EStateM.Result ε σ α → EStateM.Result ε τ β
  | .ok a s => .ok (f a) (π s)
  | .error e s => .error e (π s)

def Projects (π : σ → τ) (f : α → β) (x : EStateM ε σ α) (y : EStateM ε τ β) : Prop :=
  ∀ s, y (π s) = project π f (x s)

variable {π : σ → τ} {f : α → β}

/-- A run that returns, seen through the view. -/
theorem Projects.of_ok {x : EStateM ε σ α} {y : EStateM ε τ β} (h : Projects π f x y) {s s' : σ}
    {a : α} (hrun : x s = .ok a s') : y (π s) = .ok (f a) (π s') := by
  rw [h s, hrun]
  rfl

/-- The smaller computation returns only where the larger one does. -/
theorem Projects.exists_of_ok {x : EStateM ε σ α} {y : EStateM ε τ β} (h : Projects π f x y)
    {s : σ} {b : β} {t : τ} (hrun : y (π s) = .ok b t) :
    ∃ a s', x s = .ok a s' ∧ f a = b ∧ π s' = t := by
  rw [h s] at hrun
  cases hx : x s with
  | ok a s' =>
    rw [hx] at hrun
    cases hrun
    exact ⟨a, s', rfl, rfl, rfl⟩
  | error e s' =>
    rw [hx] at hrun
    cases hrun

/-- Returning a value shows as returning its view. -/
theorem Projects.pure (a : α) : Projects π f (pure a : EStateM ε σ α) (pure (f a)) :=
  fun _ => rfl

/-- An error shows as the same error. -/
theorem Projects.throw (e : ε) : Projects π f (throw e : EStateM ε σ α) (throw e) :=
  fun _ => rfl

/-- A computation on the component shows as itself. -/
theorem Projects.zoom {put : τ → σ → σ} (hput : ∀ t s, π (put t s) = t) (y : EStateM ε τ α) :
    Projects π id (zoom π put y) y := by
  intro s
  unfold Lib.zoom
  cases h : y (π s) with
  | ok a t => simp [project, hput]
  | error e t => simp [project, hput]

/-- A sequence shows as the sequence of what its parts show. -/
theorem Projects.bind {g : α' → β'} {x : EStateM ε σ α} {y : EStateM ε τ β}
    {k : α → EStateM ε σ α'} {l : β → EStateM ε τ β'} (hx : Projects π f x y)
    (hk : ∀ a, Projects π g (k a) (l (f a))) : Projects π g (x >>= k) (y >>= l) := by
  intro s
  rw [run_bind, run_bind, hx s]
  cases x s with
  | ok a s' => exact hk a s'
  | error e s' => rfl

/-- A statement that does not show. -/
def Silent (π : σ → τ) (x : EStateM ε σ α) : Prop :=
  ∀ s, ∃ a s', x s = .ok a s' ∧ π s' = π s

/-- A write beside the component does not show. -/
theorem Silent.modify {g : σ → σ} (h : ∀ s, π (g s) = π s) :
    Silent π (modify g : EStateM ε σ PUnit) :=
  fun s => ⟨⟨⟩, g s, rfl, h s⟩

/-- Returning a value does not show. -/
theorem Silent.pure (a : α) : Silent π (pure a : EStateM ε σ α) :=
  fun s => ⟨a, s, rfl, rfl⟩

/-- Two parts that do not show. -/
theorem Silent.bind {x : EStateM ε σ α} {k : α → EStateM ε σ α'} (hx : Silent π x)
    (hk : ∀ a, Silent π (k a)) : Silent π (x >>= k) := by
  intro s
  rcases hx s with ⟨a, s₁, hrun, hsame⟩
  rcases hk a s₁ with ⟨b, s₂, hrun', hsame'⟩
  exact ⟨b, s₂, (run_bind_ok hrun).trans hrun', hsame'.trans hsame⟩

/-- A part that does not show may stand before anything. -/
theorem Projects.silent {g : α' → β'} {x : EStateM ε σ α} {k : α → EStateM ε σ α'}
    {y : EStateM ε τ β'} (hx : Silent π x) (hk : ∀ a, Projects π g (k a) y) :
    Projects π g (x >>= k) y := by
  intro s
  rcases hx s with ⟨a, s', hrun, hsame⟩
  rw [run_bind_ok hrun, ← hk a s', hsame]

/-- Statements at the end that only change how the result shows. -/
theorem Projects.silent_after {g : α' → β} {x : EStateM ε σ α} {k : α → EStateM ε σ α'}
    {y : EStateM ε τ β} (hx : Projects π f x y)
    (hk : ∀ a s, ∃ a' s', k a s = .ok a' s' ∧ g a' = f a ∧ π s' = π s) :
    Projects π g (x >>= k) y := by
  intro s
  rw [run_bind, hx s]
  cases x s with
  | ok a s' =>
    rcases hk a s' with ⟨a', s'', hrun, hresult, hsame⟩
    simp only [project, hrun, hresult, hsame]
  | error e s' => rfl

/-- Both programs take the same branch. -/
theorem Projects.ite {c : Prop} [Decidable c] {x x' : EStateM ε σ α} {y y' : EStateM ε τ β}
    (hx : Projects π f x y) (hx' : Projects π f x' y') :
    Projects π f (if c then x else x') (if c then y else y') := by
  by_cases h : c
  · rw [if_pos h, if_pos h]
    exact hx
  · rw [if_neg h, if_neg h]
    exact hx'

/-- A loop shows as the loop of what its rounds show. -/
theorem Projects.forM {k : γ → EStateM ε σ PUnit} {l : γ → EStateM ε τ PUnit}
    (h : ∀ a, Projects π id (k a) (l a)) (xs : List γ) :
    Projects π id (forM xs k) (forM xs l) := by
  induction xs with
  | nil => exact .pure PUnit.unit
  | cons a xs ih =>
    rw [List.forM_cons, List.forM_cons]
    exact .bind (h a) fun _ => ih

/-- A traversal shows as the traversal of what its rounds show. -/
theorem Projects.mapM {k : γ → EStateM ε σ δ} {l : γ → EStateM ε τ δ}
    (h : ∀ a, Projects π id (k a) (l a)) (xs : List γ) :
    Projects π id (xs.mapM k) (xs.mapM l) := by
  induction xs with
  | nil => exact .pure []
  | cons a xs ih =>
    rw [List.mapM_cons, List.mapM_cons]
    exact .bind (h a) fun b => .bind ih fun bs => .pure (b :: bs)

/-- A loop with an accumulator, the same in both programs. -/
theorem Projects.foldlM {k : δ → γ → EStateM ε σ δ} {l : δ → γ → EStateM ε τ δ}
    (h : ∀ d a, Projects π id (k d a) (l d a)) (xs : List γ) (d : δ) :
    Projects π id (xs.foldlM k d) (xs.foldlM l d) := by
  induction xs generalizing d with
  | nil => exact .pure d
  | cons a xs ih =>
    rw [List.foldlM_cons, List.foldlM_cons]
    exact .bind (h d a) fun d' => ih d'

end Lib
