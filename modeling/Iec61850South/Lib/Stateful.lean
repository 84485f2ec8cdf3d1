import Iec61850South.Lib.Emission
import Mathlib.Data.List.Forall2

/-! # Computations that keep their state when they throw

`EStateM ε σ` is the shape of imperative code with exceptions: whatever was
written before a `throw` stays written. Two ways of reasoning about it are
developed here.

* `Keeps P G x`: `x` preserves `P` on every exit, and every error it throws
  satisfies `G`. `Ends Q G x s` is about one start, and about the returns only.
* `Emits R J x s E`: started in `s`, the computation `x` does what the emission
  `E` says, where the effect `R` tells how a list of values shows in the state,
  and `J` holds if it returns. `Emits.forM` turns a loop over such steps into
  `Emission.seqAll`.
-/

namespace Lib

/-- The state left behind, whether the computation has returned or thrown. -/
def finalState {ε σ α : Type} : EStateM.Result ε σ α → σ
  | .ok _ s => s
  | .error _ s => s

@[simp] theorem finalState_ok {ε σ α : Type} (a : α) (s : σ) :
    finalState (.ok a s : EStateM.Result ε σ α) = s := rfl

@[simp] theorem finalState_error {ε σ α : Type} (e : ε) (s : σ) :
    finalState (.error e s : EStateM.Result ε σ α) = s := rfl

/-- Whether the computation has returned. -/
def returned {ε σ α : Type} : EStateM.Result ε σ α → Bool
  | .ok _ _ => true
  | .error _ _ => false

/-- A run that has returned, as an equation. -/
theorem eq_ok_of_returned {ε σ : Type} {r : EStateM.Result ε σ PUnit} (h : returned r = true) :
    r = .ok ⟨⟩ (finalState r) := by
  cases r with
  | ok a s => rfl
  | error e s => cases h

/-- The error that the computation has thrown. -/
def thrown {ε σ α : Type} : EStateM.Result ε σ α → Option ε
  | .ok _ _ => none
  | .error e _ => some e

/-- A run that has thrown, as an equation. -/
theorem eq_error_of_thrown {ε σ α : Type} {r : EStateM.Result ε σ α} {e : ε}
    (h : thrown r = some e) : r = .error e (finalState r) := by
  cases r with
  | ok a s => cases h
  | error e' s =>
    cases h
    rfl

section Run

variable {ε σ α β : Type}

@[simp] theorem run_pure (a : α) (s : σ) : (pure a : EStateM ε σ α) s = .ok a s := rfl

@[simp] theorem run_throw (e : ε) (s : σ) : (throw e : EStateM ε σ α) s = .error e s := rfl

@[simp] theorem run_get (s : σ) : (get : EStateM ε σ σ) s = .ok s s := rfl

@[simp] theorem run_modify (f : σ → σ) (s : σ) :
    (modify f : EStateM ε σ PUnit) s = .ok ⟨⟩ (f s) := rfl

/-- A sequence runs its second part from where the first one returned. -/
theorem run_bind (x : EStateM ε σ α) (f : α → EStateM ε σ β) (s : σ) :
    (x >>= f) s = match x s with
      | .ok a s' => f a s'
      | .error e s' => .error e s' := rfl

/-- The first part has returned. -/
theorem run_bind_ok {x : EStateM ε σ α} {f : α → EStateM ε σ β} {s s' : σ} {a : α}
    (h : x s = .ok a s') : (x >>= f) s = f a s' := by
  rw [run_bind, h]

/-- The first part has thrown, and the second one does not run. -/
theorem run_bind_error {x : EStateM ε σ α} {f : α → EStateM ε σ β} {s s' : σ} {e : ε}
    (h : x s = .error e s') : (x >>= f) s = .error e s' := by
  rw [run_bind, h]

/-- A sequence that returns has returned at each of its steps. -/
theorem run_bind_eq_ok {x : EStateM ε σ α} {f : α → EStateM ε σ β} {s s'' : σ} {b : β} :
    (x >>= f) s = .ok b s'' ↔ ∃ a s', x s = .ok a s' ∧ f a s' = .ok b s'' := by
  rw [run_bind]
  cases h : x s with
  | ok a s' => simp
  | error e s' => simp

@[simp] theorem liftExcept_ok (a : α) (s : σ) :
    (liftExcept (.ok a : Except ε α) : EStateM ε σ α) s = .ok a s := rfl

@[simp] theorem liftExcept_error (e : ε) (s : σ) :
    (liftExcept (.error e : Except ε α) : EStateM ε σ α) s = .error e s := rfl

end Run

/-! ## Loops that return -/

section Loops

variable {ε σ γ δ : Type}

/-- A traversal that returns has done so for each element. -/
theorem mapM_eq_ok {f : γ → EStateM ε σ δ} {xs : List γ} {ys : List δ} {s s' : σ}
    (h : xs.mapM f s = .ok ys s') : List.Forall₂ (fun a b => ∃ t t', f a t = .ok b t') xs ys := by
  induction xs generalizing ys s with
  | nil =>
    rw [List.mapM_nil] at h
    cases h
    exact .nil
  | cons a xs ih =>
    rw [List.mapM_cons] at h
    rcases run_bind_eq_ok.mp h with ⟨b, s₁, hb, h⟩
    rcases run_bind_eq_ok.mp h with ⟨bs, s₂, hbs, h⟩
    cases h
    exact .cons ⟨s, s₁, hb⟩ (ih hbs)

/-- A part of a traversal that returns returns the same part of the results. -/
theorem mapM_take_eq_ok {f : γ → EStateM ε σ δ} {xs : List γ} {ys : List δ} {s s' : σ}
    (h : xs.mapM f s = .ok ys s') {k : Nat} {a : γ} {b : δ} (ha : xs[k]? = some a)
    (hb : ys[k]? = some b) :
    ∃ t t', (xs.take k).mapM f s = .ok (ys.take k) t ∧ f a t = .ok b t' := by
  induction xs generalizing ys s k with
  | nil => cases ha
  | cons c xs ih =>
    rw [List.mapM_cons] at h
    rcases run_bind_eq_ok.mp h with ⟨d, s₁, hd, h⟩
    rcases run_bind_eq_ok.mp h with ⟨ds, s₂, hds, h⟩
    cases h
    cases k with
    | zero =>
      obtain rfl : c = a := Option.some.inj ha
      obtain rfl : d = b := Option.some.inj hb
      exact ⟨s, s₁, rfl, hd⟩
    | succ k =>
      rcases ih hds ha hb with ⟨t, t', htake, hround⟩
      refine ⟨t, t', ?_, hround⟩
      rw [List.take_succ_cons, List.mapM_cons, run_bind_ok hd, run_bind_ok htake]
      rfl

/-- A relation between the elements of two lists, with the index of each. -/
theorem forall₂_zipIdx_left {R : γ × Nat → δ → Prop} {xs : List γ} {ys : List δ}
    (hlength : xs.length = ys.length)
    (h : ∀ k a b, xs[k]? = some a → ys[k]? = some b → R (a, k) b) :
    List.Forall₂ R xs.zipIdx ys := by
  rw [List.forall₂_iff_get]
  refine ⟨by rw [List.length_zipIdx, hlength], ?_⟩
  intro k hx hy
  rw [List.length_zipIdx] at hx
  rw [List.get_eq_getElem, List.get_eq_getElem, List.getElem_zipIdx, Nat.zero_add]
  exact h k _ _ (List.getElem?_eq_getElem hx) (List.getElem?_eq_getElem hy)

/-- Every result belongs to an element. -/
theorem exists_of_forall₂ {R : γ → δ → Prop} {xs : List γ} {ys : List δ}
    (h : List.Forall₂ R xs ys) {y : δ} (hmem : y ∈ ys) : ∃ x ∈ xs, R x y := by
  induction h with
  | nil => cases hmem
  | @cons x b xs ys hR _ ih =>
    rcases List.mem_cons.mp hmem with rfl | hmem
    · exact ⟨x, List.mem_cons_self, hR⟩
    · rcases ih hmem with ⟨other, hother, hR⟩
      exact ⟨other, List.mem_cons_of_mem _ hother, hR⟩

/-- Elements that are related to the results are replaced by what `f` finds for them. -/
theorem forall₂_filterMap_left {ζ : Type} {R : γ → δ → Prop} {S : ζ → δ → Prop} {f : γ → Option ζ}
    {xs : List γ} {ys : List δ} (h : List.Forall₂ R xs ys)
    (hf : ∀ x y, R x y → ∃ z, f x = some z ∧ S z y) : List.Forall₂ S (xs.filterMap f) ys := by
  induction h with
  | nil => exact .nil
  | @cons x y xs ys hR _ ih =>
    rcases hf x y hR with ⟨z, hz, hS⟩
    rw [List.filterMap_cons, hz]
    exact .cons hS ih

/-- A relation between all pairs of elements carries over to the results. -/
theorem pairwise_of_forall₂ {D : γ → δ → Prop} {R : γ → γ → Prop} {S : δ → δ → Prop} {xs : List γ}
    {ys : List δ} (h : List.Forall₂ D xs ys)
    (hRS : ∀ a a' b b', D a b → D a' b' → R a a' → S b b') (hxs : xs.Pairwise R) :
    ys.Pairwise S := by
  induction h with
  | nil => exact .nil
  | @cons a b xs ys hD hrest ih =>
    rw [List.pairwise_cons] at hxs ⊢
    refine ⟨?_, ih hxs.2⟩
    intro b' hb'
    rcases exists_of_forall₂ hrest hb' with ⟨a', ha', hD'⟩
    exact hRS a a' b b' hD hD' (hxs.1 a' ha')

/-- A relation between all pairs of one list stays when another list is put beside it. -/
theorem pairwise_zip_right {R : δ → δ → Prop} (xs : List γ) {ys : List δ} (h : ys.Pairwise R) :
    (xs.zip ys).Pairwise fun p q => R p.2 q.2 := by
  induction h generalizing xs with
  | nil =>
    rw [List.zip_nil_right]
    exact .nil
  | cons hb _ ih =>
    cases xs with
    | nil => exact .nil
    | cons a xs =>
      rw [List.zip_cons_cons]
      exact .cons (fun q hq => hb _ (List.of_mem_zip hq).2) (ih xs)

/-- What every step of a fold preserves holds of its result. -/
theorem foldlM_eq_ok {f : δ → γ → EStateM ε σ δ} {I : δ → Prop} {xs : List γ} {d d' : δ} {s s' : σ}
    (hstep : ∀ d a t d' t', I d → f d a t = .ok d' t' → I d') (hd : I d)
    (h : xs.foldlM f d s = .ok d' s') : I d' := by
  induction xs generalizing d s with
  | nil =>
    rw [List.foldlM_nil] at h
    cases h
    exact hd
  | cons a xs ih =>
    rw [List.foldlM_cons] at h
    rcases run_bind_eq_ok.mp h with ⟨d₁, s₁, ha, h⟩
    exact ih (hstep d a s d₁ s₁ hd ha) h

/-- A loop returns when its first round and the rest of it do. -/
theorem forM_cons_eq_ok {f : γ → EStateM ε σ PUnit} {a : γ} {xs : List γ} {s s' : σ} :
    forM (a :: xs) f s = .ok ⟨⟩ s' ↔ ∃ t, f a s = .ok ⟨⟩ t ∧ forM xs f t = .ok ⟨⟩ s' := by
  rw [List.forM_cons, run_bind_eq_ok]
  constructor
  · rintro ⟨⟨⟩, t, ha, hxs⟩
    exact ⟨t, ha, hxs⟩
  · rintro ⟨t, ha, hxs⟩
    exact ⟨⟨⟩, t, ha, hxs⟩

end Loops

/-! ## Invariants -/

section Keeps

variable {ε σ α β : Type}

/-- `x` preserves `P` on every exit, and throws only errors that satisfy `G`. -/
def Keeps (P : σ → Prop) (G : ε → Prop) (x : EStateM ε σ α) : Prop :=
  ∀ s, P s → P (finalState (x s)) ∧ ∀ e s', x s = .error e s' → G e

variable {P : σ → Prop} {G : ε → Prop}

/-- What always returns, and keeps `P`. -/
theorem Keeps.of_eq_ok {x : EStateM ε σ α}
    (h : ∀ s, P s → ∃ a s', x s = .ok a s' ∧ P s') : Keeps P G x := by
  intro s hs
  rcases h s hs with ⟨a, s', hx, hs'⟩
  simp [hx, hs']

/-- Returning a value keeps anything. -/
theorem Keeps.pure (a : α) : Keeps P G (pure a : EStateM ε σ α) :=
  .of_eq_ok fun s hs => ⟨a, s, rfl, hs⟩

/-- Throwing such an error keeps anything. -/
theorem Keeps.throw {e : ε} (h : G e) : Keeps P G (throw e : EStateM ε σ α) := by
  intro s hs
  refine ⟨hs, ?_⟩
  intro e' s' heq
  cases heq
  exact h

/-- Two parts that keep `P`. -/
theorem Keeps.bind {x : EStateM ε σ α} {f : α → EStateM ε σ β}
    (hx : Keeps P G x) (hf : ∀ a, Keeps P G (f a)) : Keeps P G (x >>= f) := by
  intro s hs
  rcases hx s hs with ⟨hP, hG⟩
  cases h : x s with
  | ok a s' =>
    rw [run_bind_ok h]
    exact hf a s' (by simpa [h] using hP)
  | error e s' =>
    rw [run_bind_error h]
    refine ⟨by simpa [h] using hP, ?_⟩
    intro e' s'' heq
    cases heq
    exact hG e s' h

/-- The same, when the rest depends on which results are possible. -/
theorem Keeps.bindResult {x : EStateM ε σ α} {f : α → EStateM ε σ β} (hx : Keeps P G x)
    (hf : ∀ s a s', P s → x s = .ok a s' → Keeps P G (f a)) : Keeps P G (x >>= f) := by
  intro s hs
  rcases hx s hs with ⟨hP, hG⟩
  cases h : x s with
  | ok a s' =>
    rw [run_bind_ok h]
    rw [h] at hP
    exact hf s a s' hs h s' hP
  | error e s' =>
    rw [run_bind_error h]
    rw [h] at hP
    exact ⟨hP, fun e' s'' heq => by cases heq; exact hG e s' h⟩

/-- Reading the state keeps anything. -/
theorem Keeps.get : Keeps P G (get : EStateM ε σ σ) :=
  .of_eq_ok fun s hs => ⟨s, s, rfl, hs⟩

/-- A write that keeps `P`. -/
theorem Keeps.modify {f : σ → σ} (h : ∀ s, P s → P (f s)) :
    Keeps P G (modify f : EStateM ε σ PUnit) :=
  .of_eq_ok fun s hs => ⟨⟨⟩, f s, rfl, h s hs⟩

/-- A pure computation keeps anything, and throws its own errors. -/
theorem Keeps.liftExcept {x : Except ε α} (h : ∀ e, x = .error e → G e) :
    Keeps P G (liftExcept x : EStateM ε σ α) := by
  cases x with
  | ok a => exact Keeps.pure a
  | error e => exact Keeps.throw (h e rfl)

/-- A loop whose rounds keep `P`. -/
theorem Keeps.forM {γ : Type} {f : γ → EStateM ε σ PUnit} (xs : List γ)
    (h : ∀ a ∈ xs, Keeps P G (f a)) : Keeps P G (forM xs f) := by
  induction xs with
  | nil => exact Keeps.pure _
  | cons a xs ih =>
    rw [List.forM_cons]
    exact Keeps.bind (h a (by simp)) fun _ => ih fun b hb => h b (by simp [hb])

/-- A traversal whose rounds keep `P`. -/
theorem Keeps.mapM {γ δ : Type} {f : γ → EStateM ε σ δ} (xs : List γ)
    (h : ∀ a ∈ xs, Keeps P G (f a)) : Keeps P G (xs.mapM f) := by
  induction xs with
  | nil => exact Keeps.pure _
  | cons a xs ih =>
    rw [List.mapM_cons]
    exact Keeps.bind (h a (by simp)) fun _ =>
      Keeps.bind (ih fun b hb => h b (by simp [hb])) fun _ => Keeps.pure _

/-- Two branches that keep `P`. -/
theorem Keeps.ite {c : Prop} [Decidable c] {x y : EStateM ε σ α} (hx : Keeps P G x)
    (hy : Keeps P G y) : Keeps P G (if c then x else y) := by
  split
  · exact hx
  · exact hy

/-- A computation that cannot throw returns. -/
theorem Keeps.returns {x : EStateM ε σ α} (h : Keeps P (fun _ => False) x) {s : σ} (hs : P s) :
    ∃ a s', x s = .ok a s' ∧ P s' := by
  rcases h s hs with ⟨hP, hno⟩
  cases hx : x s with
  | ok a s' => exact ⟨a, s', rfl, by simpa [hx] using hP⟩
  | error e s' => exact (hno e s' hx).elim

/-- A loop with an accumulator whose rounds keep `P`. -/
theorem Keeps.foldlM {γ δ : Type} {f : δ → γ → EStateM ε σ δ} (xs : List γ) (d : δ)
    (h : ∀ d, ∀ a ∈ xs, Keeps P G (f d a)) : Keeps P G (xs.foldlM f d) := by
  induction xs generalizing d with
  | nil => exact Keeps.pure d
  | cons a xs ih =>
    rw [List.foldlM_cons]
    exact Keeps.bind (h d a (by simp)) fun d' => ih d' fun d b hb => h d b (by simp [hb])

/-- What holds after the first part of a sequence, whether or not it has
returned, is preserved by the rest. -/
theorem Keeps.andThen {x : EStateM ε σ α} {f : α → EStateM ε σ β} {s : σ}
    (hx : P (finalState (x s))) (hf : ∀ a, Keeps P G (f a)) : P (finalState ((x >>= f) s)) := by
  cases h : x s with
  | ok a s' =>
    rw [run_bind_ok h]
    rw [h] at hx
    exact (hf a s' hx).1
  | error e s' =>
    rw [run_bind_error h]
    rwa [h] at hx

/-! ## How a computation ends

Unlike `Keeps`, this says nothing of the state that an error leaves behind. -/

/-- Started in `s`, `x` leaves `Q` when it returns, and throws only errors that
satisfy `G`. -/
def Ends (Q : σ → Prop) (G : ε → Prop) (x : EStateM ε σ α) (s : σ) : Prop :=
  (∀ a s', x s = .ok a s' → Q s') ∧ ∀ e s', x s = .error e s' → G e

/-- What holds from every state with `P` holds from this one. -/
theorem Keeps.ends {x : EStateM ε σ α} (h : Keeps P G x) {s : σ} (hs : P s) : Ends P G x s := by
  rcases h s hs with ⟨hP, hG⟩
  refine ⟨?_, hG⟩
  intro a s' hrun
  rwa [hrun] at hP

/-- Throwing such an error, from any state. -/
theorem Ends.throw {e : ε} (h : G e) (s : σ) : Ends P G (throw e : EStateM ε σ α) s := by
  constructor
  · intro a s' heq
    cases heq
  · intro e' s' heq
    cases heq
    exact h

/-- The second part goes on from what the first one ended with. -/
theorem Ends.bind {Q : σ → Prop} {x : EStateM ε σ α} {f : α → EStateM ε σ β} {s : σ}
    (hx : Ends P G x s) (hf : ∀ a s', P s' → Ends Q G (f a) s') : Ends Q G (x >>= f) s := by
  unfold Ends
  cases hrun : x s with
  | ok a s' =>
    rw [run_bind_ok hrun]
    exact hf a s' (hx.1 a s' hrun)
  | error e s' =>
    rw [run_bind_error hrun]
    constructor
    · intro b s'' heq
      cases heq
    · intro e' s'' heq
      cases heq
      exact hx.2 e s' hrun

/-- A first step whose result is known. -/
theorem Ends.step {x : EStateM ε σ α} {f : α → EStateM ε σ β} {s s' : σ} {a : α}
    (hx : x s = .ok a s') (hf : Ends P G (f a) s') : Ends P G (x >>= f) s := by
  unfold Ends
  rw [run_bind_ok hx]
  exact hf

/-- Two branches from one state. -/
theorem Ends.ite {c : Prop} [Decidable c] {x y : EStateM ε σ α} {s : σ} (hx : Ends P G x s)
    (hy : Ends P G y s) : Ends P G (if c then x else y) s := by
  split
  · exact hx
  · exact hy

end Keeps

/-! ## Emissions of stateful loops -/

section Emits

variable {ε σ β γ : Type}

/-- How values put out one after the other show in the state. -/
structure Effect (σ β : Type) where
  rel : σ → List β → σ → Prop
  nil : ∀ s, rel s [] s
  append : ∀ {s s' s'' a b}, rel s a s' → rel s' b s'' → rel s (a ++ b) s''

/-- The effect of writing each value into the state. -/
def Effect.ofWrite (write : σ → β → σ) : Effect σ β where
  rel s out s' := s' = out.foldl write s
  nil _ := rfl
  append h h' := by rw [List.foldl_append, ← h]; exact h'

/-- The result of a computation that follows the emission and ends in `s`. -/
def Emission.result (E : Emission β ε) (s : σ) : EStateM.Result ε σ PUnit :=
  match E.stop with
  | none => .ok ⟨⟩ s
  | some e => .error e s

/-- An emission that goes through returns. -/
theorem Emission.result_of_go {E : Emission β ε} {s : σ} (h : E.stop = none) :
    E.result s = .ok ⟨⟩ s := by
  rw [Emission.result, h]

/-- An emission that stops throws what stopped it. -/
theorem Emission.result_of_stop {E : Emission β ε} {s : σ} {e : ε} (h : E.stop = some e) :
    E.result s = .error e s := by
  rw [Emission.result, h]

@[simp] theorem Emission.finalState_result (E : Emission β ε) (s : σ) :
    finalState (E.result s) = s := by
  rcases E with ⟨out, _ | e⟩ <;> rfl

/-- Started in `s`, `x` puts out and stops as `E` says; `J` holds if it returns. -/
def Emits (R : Effect σ β) (J : σ → Prop) (x : EStateM ε σ PUnit) (s : σ)
    (E : Emission β ε) : Prop :=
  ∃ s', R.rel s E.out s' ∧ x s = E.result s' ∧ (E.stop = none → J s')

variable {R : Effect σ β} {I J : σ → Prop}

/-- Returning emits nothing. -/
theorem Emits.pure {s : σ} (h : J s) : Emits R J (pure ⟨⟩ : EStateM ε σ PUnit) s .done :=
  ⟨s, R.nil s, rfl, fun _ => h⟩

/-- What the first part emits comes first. -/
theorem Emits.bind {x y : EStateM ε σ PUnit} {s : σ} {E F : Emission β ε}
    (hx : Emits R I x s E) (hy : ∀ s', I s' → Emits R J y s' F) :
    Emits R J (x >>= fun _ => y) s (E.seq F) := by
  rcases hx with ⟨s', hR, hrun, hI⟩
  cases hstop : E.stop with
  | none =>
    rcases hy s' (hI hstop) with ⟨s'', hR', hrun', hJ⟩
    rw [Emission.seq_of_go hstop]
    refine ⟨s'', R.append hR hR', ?_, hJ⟩
    rw [run_bind_ok (hrun.trans (Emission.result_of_go hstop)), hrun']
    rfl
  | some e =>
    rw [Emission.seq_of_stop hstop]
    refine ⟨s', hR, ?_, by simp [hstop]⟩
    rw [run_bind_error (hrun.trans (Emission.result_of_stop hstop)),
      Emission.result_of_stop hstop]

/-- A first step that returns and puts nothing out. -/
theorem Emits.step {α : Type} {x : EStateM ε σ α} {f : α → EStateM ε σ PUnit} {s s' : σ} {a : α}
    {E : Emission β ε} (hx : x s = .ok a s') (hR : R.rel s [] s') (hf : Emits R J (f a) s' E) :
    Emits R J (x >>= f) s E := by
  rcases hf with ⟨s'', hR', hrun, hJ⟩
  refine ⟨s'', by simpa using R.append hR hR', ?_, hJ⟩
  rw [run_bind_ok hx, hrun]

/-- A computation that starts with a pure result, or throws a pure error. -/
theorem Emits.after {α : Type} {x : Except ε α} {f : α → EStateM ε σ PUnit} {s : σ}
    {F : α → Emission β ε} (h : ∀ a, x = .ok a → Emits R J (f a) s (F a)) :
    Emits R J (liftExcept x >>= f) s (.after x F) := by
  cases x with
  | ok a => exact h a rfl
  | error e => exact ⟨s, R.nil s, rfl, by simp⟩

/-- A loop whose round `i` emits `E i`, under an invariant indexed by the round. -/
theorem Emits.forM {f : γ → EStateM ε σ PUnit} {E : Nat → γ → Emission β ε} (I : Nat → σ → Prop)
    (xs : List γ) (s : σ)
    (hstep : ∀ i a s, xs[i]? = some a → I i s → Emits R (I (i + 1)) (f a) s (E i a))
    (hs : I 0 s) :
    Emits R (I xs.length) (forM xs f) s (Emission.seqAll (xs.mapIdx E)) := by
  induction xs generalizing s E I with
  | nil => exact Emits.pure hs
  | cons a xs ih =>
    rw [List.forM_cons, List.mapIdx_cons, Emission.seqAll_cons]
    apply Emits.bind (hstep 0 a s (by simp) hs)
    intro s' hs'
    exact ih (fun i => I (i + 1)) s' (fun i b s hb hI => hstep (i + 1) b s (by simpa using hb) hI)
      hs'

/-- A loop whose rounds do not depend on their number. -/
theorem Emits.forM_map {f : γ → EStateM ε σ PUnit} {E : γ → Emission β ε} (xs : List γ) (s : σ)
    (hstep : ∀ a s, J s → Emits R J (f a) s (E a)) (hs : J s) :
    Emits R J (ForM.forM xs f) s (Emission.seqAll (xs.map E)) := by
  induction xs generalizing s with
  | nil => exact Emits.pure hs
  | cons a xs ih =>
    rw [List.forM_cons, List.map_cons, Emission.seqAll_cons]
    exact Emits.bind (hstep a s hs) fun s' hs' => ih s' hs'

/-- The invariant that is claimed on return may be weakened. -/
theorem Emits.mono {x : EStateM ε σ PUnit} {s : σ} {E : Emission β ε} (h : Emits R I x s E)
    (himp : ∀ s, I s → J s) : Emits R J x s E := by
  rcases h with ⟨s', hR, hrun, hI⟩
  exact ⟨s', hR, hrun, fun hgo => himp s' (hI hgo)⟩

end Emits

end Lib
