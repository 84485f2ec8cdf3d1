import Iec61850South.Lib.OrderedMap
import Iec61850South.Lib.Stateful
import Mathlib.Data.List.Induction

/-! # A list of writes, seen through one view

A program that carries out a list of writes changes several locations of its
state. A view `v` follows one of them, and `sel` tells what a write does to it,
if anything. Locations come in three kinds: `view_overwritten` by the last
write, `view_extended` by every write, or `view_keyed`.

A loop of a stateful program may write one entry of a map in each round;
`getElem?_forM` says what the map holds when the loop has returned.
-/

namespace Lib

open Std

variable {σ α β γ : Type}

/-- The value of a view after all writes, if each write either leaves the view
alone or acts on it as `g` with the value that `sel` selects. -/
theorem view_foldl {f : σ → α → σ} (v : σ → β) (sel : α → Option γ) (g : β → γ → β)
    (h : ∀ s a, v (f s a) = ((sel a).map (g (v s))).getD (v s)) (s : σ) (l : List α) :
    v (l.foldl f s) = (l.filterMap sel).foldl g (v s) := by
  induction l generalizing s with
  | nil => rfl
  | cons a l ih =>
    rw [List.foldl_cons, ih, h, List.filterMap_cons]
    cases sel a <;> rfl

/-- What a location holds after the values have been written to it in order. -/
def lastWritten (old : β) (values : List β) : β :=
  values.getLast?.getD old

@[simp] theorem lastWritten_nil (old : β) : lastWritten old [] = old := rfl

/-- Two old values make no difference exactly when they are equal or hidden. -/
theorem lastWritten_congr_iff {old old' : β} {values : List β} :
    lastWritten old values = lastWritten old' values ↔ values ≠ [] ∨ old = old' := by
  cases values using List.reverseRecOn <;> simp [lastWritten]

/-- A location keeps its value exactly when the last value written is that value. -/
theorem lastWritten_eq_self_iff {old : β} {values : List β} :
    lastWritten old values = old ↔ ∀ b, values.getLast? = some b → b = old := by
  cases h : values.getLast? <;> simp [lastWritten, h]

theorem view_overwritten {f : σ → α → σ} (v : σ → β) (sel : α → Option β)
    (h : ∀ s a, v (f s a) = (sel a).getD (v s)) (s : σ) (l : List α) :
    v (l.foldl f s) = lastWritten (v s) (l.filterMap sel) := by
  have hfold : ∀ (old : β) (values : List β),
      values.foldl (fun _ b => b) old = lastWritten old values := by
    intro old values
    cases values using List.reverseRecOn <;> simp [lastWritten]
  rw [view_foldl v sel (fun _ b => b) (by simpa using h), hfold]

theorem view_extended {f : σ → α → σ} (v : σ → List β) (sel : α → Option β)
    (h : ∀ s a, v (f s a) = v s ++ (sel a).toList) (s : σ) (l : List α) :
    v (l.foldl f s) = v s ++ l.filterMap sel := by
  have hfold : ∀ old values : List β,
      values.foldl (fun l b => l ++ [b]) old = old ++ values := by
    intro old values
    induction values generalizing old with
    | nil => simp
    | cons b values ih => simp [ih]
  rw [view_foldl v sel (fun l b => l ++ [b]) (fun s a => ?_), hfold]
  rw [h]
  cases sel a <;> simp

theorem view_keyed {κ ν : Type} [Ord κ] [TransOrd κ] {f : σ → α → σ} (v : σ → ExtTreeMap κ ν)
    (sel : α → Option (κ × ν)) (h : ∀ s a, v (f s a) = insertAll (v s) (sel a).toList) (s : σ)
    (l : List α) : v (l.foldl f s) = insertAll (v s) (l.filterMap sel) := by
  refine view_foldl v sel (fun m p => m.insert p.1 p.2) (fun s a => ?_) s l
  rw [h]
  cases sel a <;> rfl

/-! ## Loops that write one entry in each round -/

section Loops

variable {ε κ ν : Type} [Ord κ] [TransOrd κ] [LawfulEqOrd κ] {f : γ → EStateM ε σ PUnit}
  {key : γ → κ} {v : σ → ExtTreeMap κ ν} {R : γ → σ → ν → Prop}

/-- A key that is written in no round keeps its value. -/
theorem getElem?_forM_of_ne
    (hround : ∀ a t t', f a t = .ok ⟨⟩ t' → ∃ b, R a t b ∧ v t' = (v t).insert (key a) b)
    {xs : List γ} {s s' : σ} (hrun : forM xs f s = .ok ⟨⟩ s') {k : κ}
    (hk : ∀ a ∈ xs, key a ≠ k) : (v s')[k]? = (v s)[k]? := by
  induction xs generalizing s with
  | nil =>
    cases hrun
    rfl
  | cons a xs ih =>
    rcases forM_cons_eq_ok.mp hrun with ⟨t, ha, hxs⟩
    rcases hround a s t ha with ⟨b, _, hb⟩
    have hne : compare (key a) k ≠ .eq := by
      rw [ne_eq, LawfulEqOrd.compare_eq_iff_eq]
      exact hk a (by simp)
    rw [ih hxs fun c hc => hk c (by simp [hc]), hb, ExtTreeMap.getElem?_insert, if_neg hne]

variable (key) in
/-- When no key is written twice, each key has the value that its own round has
written, and that value was made from the state in which the round started. -/
theorem getElem?_forM
    (hround : ∀ a t t', f a t = .ok ⟨⟩ t' → ∃ b, R a t b ∧ v t' = (v t).insert (key a) b)
    {xs : List γ} {s s' : σ} (hrun : forM xs f s = .ok ⟨⟩ s')
    (hkeys : xs.Pairwise fun a b => key a ≠ key b) (i : Nat) (a : γ) (ha : xs[i]? = some a) :
    ∃ t b, forM (xs.take i) f s = .ok ⟨⟩ t ∧ R a t b ∧ (v s')[key a]? = some b := by
  induction xs generalizing s i with
  | nil => simp at ha
  | cons c xs ih =>
    rcases forM_cons_eq_ok.mp hrun with ⟨t₁, hc, hxs⟩
    rw [List.pairwise_cons] at hkeys
    cases i with
    | zero =>
      obtain rfl : c = a := by simpa using ha
      rcases hround c s t₁ hc with ⟨b, hR, hb⟩
      refine ⟨s, b, rfl, hR, ?_⟩
      -- the later rounds write other keys
      rw [getElem?_forM_of_ne hround hxs fun d hd => (hkeys.1 d hd).symm, hb]
      exact ExtTreeMap.getElem?_insert_self
    | succ i =>
      rcases ih hxs hkeys.2 i (by simpa using ha) with ⟨t, b, ht, hR, hb⟩
      refine ⟨t, b, ?_, hR, hb⟩
      rw [List.take_succ_cons]
      exact forM_cons_eq_ok.mpr ⟨t₁, hc, ht⟩

end Loops

end Lib
