import Iec61850South.Lib.Emission

/-! # Chains of checks

Rules for `Except` computations that are sequences of checks: when a chain
succeeds, where it fails, and which errors it can fail with. `ErrorsIn G x`
says that `x` fails only with errors that satisfy `G`; its rules follow the way
such a chain is written. `EndsWith abort found Q x` says more: `x` fails with the
first of the defects `found`, and without any it succeeds with a result in `Q`.
-/

namespace Lib

variable {ε α β : Type}

/-- A sequence returns when both parts do. -/
theorem except_bind_eq_ok {x : Except ε α} {f : α → Except ε β} {b : β} :
    (x >>= f) = .ok b ↔ ∃ a, x = .ok a ∧ f a = .ok b := by
  cases x <;> simp [bind, Except.bind]

/-- A sequence throws when one of its parts does. -/
theorem except_bind_eq_error {x : Except ε α} {f : α → Except ε β} {e : ε} :
    (x >>= f) = .error e ↔ x = .error e ∨ ∃ a, x = .ok a ∧ f a = .error e := by
  cases x <;> simp [bind, Except.bind]

@[simp] theorem except_pure_eq_ok {a b : α} : (pure a : Except ε α) = .ok b ↔ a = b := by
  simp [pure, Except.pure]

@[simp] theorem except_pure_ne_error {a : α} {e : ε} : (pure a : Except ε α) ≠ .error e := by
  simp [pure, Except.pure]

/-- A first step that does what another one does, and puts its result somewhere. -/
theorem bind_eq_bind_of_put {γ : Type} {x : Except ε α} {y : Except ε β} {put : β → α}
    (h : x = y >>= fun b => pure (put b)) {f : α → Except ε γ} {g : β → Except ε γ}
    (hfg : ∀ b, f (put b) = g b) : x >>= f = y >>= g := by
  rw [h, bind_assoc]
  refine congrArg _ (funext fun b => ?_)
  rw [pure_bind, hfg]

/-- A traversal fails at the first element that fails. -/
theorem except_mapM_eq_error {f : α → Except ε β} {xs : List α} {e : ε} :
    xs.mapM f = .error e ↔
      ∃ pre x post, xs = pre ++ x :: post ∧ (∀ y ∈ pre, ∃ b, f y = .ok b) ∧ f x = .error e := by
  induction xs with
  | nil => simp
  | cons x xs ih =>
    rw [List.mapM_cons, except_bind_eq_error]
    constructor
    · rintro (hx | ⟨b, hb, h⟩)
      · exact ⟨[], x, xs, rfl, by simp, hx⟩
      rcases except_bind_eq_error.mp h with hxs | ⟨bs, _, hpure⟩
      · rcases ih.mp hxs with ⟨pre, y, post, hsplit, hpre, hy⟩
        refine ⟨x :: pre, y, post, by rw [hsplit, List.cons_append], ?_, hy⟩
        intro z hz
        rcases List.mem_cons.mp hz with rfl | hz
        · exact ⟨b, hb⟩
        · exact hpre z hz
      · exact absurd hpure except_pure_ne_error
    · rintro ⟨pre, y, post, hsplit, hpre, hy⟩
      cases pre with
      | nil =>
        simp only [List.nil_append, List.cons.injEq] at hsplit
        exact Or.inl (hsplit.1 ▸ hy)
      | cons z pre =>
        simp only [List.cons_append, List.cons.injEq] at hsplit
        rcases hsplit with ⟨rfl, hsplit⟩
        rcases hpre x (by simp) with ⟨b, hb⟩
        have hxs := ih.mpr ⟨pre, y, post, hsplit, fun w hw => hpre w (by simp [hw]), hy⟩
        exact Or.inr ⟨b, hb, except_bind_eq_error.mpr (Or.inl hxs)⟩

/-- A traversal returns when each of its rounds does. -/
theorem except_mapM_isOk {f : α → Except ε β} {xs : List α} :
    (∃ ys, xs.mapM f = .ok ys) ↔ ∀ x ∈ xs, ∃ y, f x = .ok y := by
  induction xs with
  | nil => simp
  | cons x xs ih =>
    simp only [List.mapM_cons, except_bind_eq_ok, except_pure_eq_ok, List.forall_mem_cons, ← ih]
    constructor
    · rintro ⟨_, y, hy, ys, hys, _⟩
      exact ⟨⟨y, hy⟩, ys, hys⟩
    · rintro ⟨⟨y, hy⟩, ys, hys⟩
      exact ⟨_, y, hy, ys, hys, rfl⟩

/-- A traversal that succeeds has treated every element. -/
theorem except_mapM_forall₂ {f : α → Except ε β} {xs : List α} {ys : List β}
    (h : xs.mapM f = .ok ys) : List.Forall₂ (fun x y => f x = .ok y) xs ys := by
  induction xs generalizing ys with
  | nil =>
    cases h
    exact .nil
  | cons x xs ih =>
    rw [List.mapM_cons] at h
    rcases except_bind_eq_ok.mp h with ⟨y, hy, h⟩
    rcases except_bind_eq_ok.mp h with ⟨rest, hrest, h⟩
    cases h
    exact .cons hy (ih hrest)

/-- A fold of checks that do not depend on what has been folded succeeds if each does. -/
theorem except_foldlM_isOk {f : β → α → Except ε β} {P : α → Prop}
    (h : ∀ b x, (∃ b', f b x = .ok b') ↔ P x) (xs : List α) (b : β) :
    (∃ b', xs.foldlM f b = .ok b') ↔ ∀ x ∈ xs, P x := by
  induction xs generalizing b with
  | nil => simp
  | cons x xs ih =>
    rw [List.foldlM_cons, List.forall_mem_cons]
    constructor
    · rintro ⟨b', hb'⟩
      rcases except_bind_eq_ok.mp hb' with ⟨b₁, hx, hxs⟩
      exact ⟨(h b x).mp ⟨b₁, hx⟩, (ih b₁).mp ⟨b', hxs⟩⟩
    · rintro ⟨hx, hxs⟩
      rcases (h b x).mpr hx with ⟨b₁, hb₁⟩
      rcases (ih b₁).mpr hxs with ⟨b', hb'⟩
      exact ⟨b', except_bind_eq_ok.mpr ⟨b₁, hb₁, hb'⟩⟩

/-- One choice for each element is a choice for all. -/
theorem exists_forall₂ {R : α → β → Prop} {xs : List α} (h : ∀ x ∈ xs, ∃ y, R x y) :
    ∃ ys, List.Forall₂ R xs ys := by
  induction xs with
  | nil => exact ⟨[], .nil⟩
  | cons x xs ih =>
    rcases h x List.mem_cons_self with ⟨y, hy⟩
    rcases ih fun z hz => h z (List.mem_cons_of_mem x hz) with ⟨ys, hys⟩
    exact ⟨y :: ys, .cons hy hys⟩

/-- Where one relation holds element by element, a second one does if and only if the
elements on the left satisfy what it amounts to there. -/
theorem forall₂_congr_left {R S : α → β → Prop} {P : α → Prop} {xs : List α} {ys : List β}
    (h : List.Forall₂ R xs ys) (hiff : ∀ x y, R x y → (S x y ↔ P x)) :
    List.Forall₂ S xs ys ↔ ∀ x ∈ xs, P x := by
  induction h with
  | nil => simp
  | cons hR _ ih => rw [List.forall₂_cons, List.forall_mem_cons, ih, hiff _ _ hR]

/-- Two lists made of one, round by round. -/
theorem forall₂_mapIdx {γ : Type} {R : α → β → Prop} {xs : List γ} {f : Nat → γ → α}
    {g : Nat → γ → β} (h : ∀ k x, R (f k x) (g k x)) :
    List.Forall₂ R (xs.mapIdx f) (xs.mapIdx g) := by
  induction xs generalizing f g with
  | nil => exact .nil
  | cons x xs ih =>
    rw [List.mapIdx_cons, List.mapIdx_cons]
    exact .cons (h 0 x) (ih fun k y => h (k + 1) y)

/-- A loop that decodes every element stops where the traversal fails. -/
theorem seqAll_decode_stop {γ δ : Type} {decode : γ → Except ε α} {put : α → δ} {xs : List γ}
    {e : ε} :
    (Emission.seqAll (xs.map fun x => .after (decode x) fun a => .emit (put a))).stop = some e ↔
      xs.mapM decode = .error e := by
  induction xs with
  | nil => simp
  | cons x xs ih =>
    rw [List.map_cons, Emission.seqAll_cons, Emission.seq_stop_eq_some, ih, List.mapM_cons]
    cases decode x with
    | error e' => simp [bind, Except.bind]
    | ok a =>
      cases h : xs.mapM decode <;> simp [bind, Except.bind]

/-- `x` fails only with errors that satisfy `G`. -/
def ErrorsIn (G : ε → Prop) (x : Except ε α) : Prop :=
  ∀ e, x = .error e → G e

namespace ErrorsIn

variable {G : ε → Prop}

/-- What returns throws nothing. -/
theorem ok (a : α) : ErrorsIn G (.ok a : Except ε α) := by
  intro e h
  cases h

theorem pure (a : α) : ErrorsIn G (pure a : Except ε α) := ok a

/-- Such an error. -/
theorem error {e : ε} (h : G e) : ErrorsIn G (.error e : Except ε α) := by
  intro e' heq
  cases heq
  exact h

/-- In a chain, a later check may rely on what the earlier ones have returned. -/
theorem bind {x : Except ε α} {f : α → Except ε β} (hx : ErrorsIn G x)
    (hf : ∀ a, x = .ok a → ErrorsIn G (f a)) : ErrorsIn G (x >>= f) := by
  intro e h
  rcases except_bind_eq_error.mp h with h | ⟨a, ha, h⟩
  · exact hx e h
  · exact hf a ha e h

/-- Two branches, each throwing such errors. -/
theorem ite {c : Prop} [Decidable c] {x y : Except ε α} (hx : c → ErrorsIn G x)
    (hy : ¬ c → ErrorsIn G y) : ErrorsIn G (if c then x else y) := by
  split
  · exact hx ‹_›
  · exact hy ‹_›

/-- A loop whose rounds throw such errors. -/
theorem foldlM {γ : Type} {f : β → γ → Except ε β} (xs : List γ) (b : β)
    (h : ∀ b, ∀ x ∈ xs, ErrorsIn G (f b x)) : ErrorsIn G (xs.foldlM f b) := by
  induction xs generalizing b with
  | nil => exact pure b
  | cons x xs ih =>
    rw [List.foldlM_cons]
    exact bind (h b x (by simp)) fun b' _ => ih b' fun b y hy => h b y (by simp [hy])

end ErrorsIn

/-! ## The first defect -/

section EndsWith

variable {δ : Type} {abort : δ → ε} {found found' : List δ} {Q : α → Prop}

/-- `x` fails with the first defect, or succeeds with a value that satisfies `Q`. -/
def EndsWith (abort : δ → ε) (found : List δ) (Q : α → Prop) (x : Except ε α) : Prop :=
  match found with
  | [] => ∃ a, x = .ok a ∧ Q a
  | defect :: _ => x = .error (abort defect)

/-- Without a defect, it returns. -/
theorem EndsWith.ok {a : α} (h : Q a) : EndsWith abort [] Q (.ok a) :=
  ⟨a, rfl, h⟩

/-- What is returned is right, and nothing was wrong. -/
theorem EndsWith.of_eq_ok {x : Except ε α} (h : EndsWith abort found Q x) {a : α}
    (hx : x = .ok a) : found = [] ∧ Q a := by
  cases found with
  | nil =>
    rcases h with ⟨b, hb, hQ⟩
    rw [hx] at hb
    cases hb
    exact ⟨rfl, hQ⟩
  | cons defect found =>
    have herror : x = .error (abort defect) := h
    rw [hx] at herror
    cases herror

/-- It returns exactly when there is no defect. -/
theorem EndsWith.isOk_iff {x : Except ε α} (h : EndsWith abort found Q x) :
    (∃ a, x = .ok a) ↔ found = [] := by
  constructor
  · rintro ⟨a, hx⟩
    exact (h.of_eq_ok hx).1
  · intro hfound
    rw [hfound] at h
    rcases h with ⟨a, hx, _⟩
    exact ⟨a, hx⟩

/-- It throws exactly what the first defect says. -/
theorem EndsWith.eq_error_iff {x : Except ε α} (h : EndsWith abort found Q x) {e : ε} :
    x = .error e ↔ ∃ defect, found.head? = some defect ∧ abort defect = e := by
  cases found with
  | nil =>
    rcases h with ⟨a, hx, _⟩
    simp [hx]
  | cons defect found =>
    have herror : x = .error (abort defect) := h
    simp [herror]

/-- The defects of a chain are those of its parts, in order. -/
theorem EndsWith.bind {Q' : β → Prop} {x : Except ε α} {f : α → Except ε β}
    (h : EndsWith abort found Q x) (hf : ∀ a, Q a → EndsWith abort found' Q' (f a)) :
    EndsWith abort (found ++ found') Q' (x >>= f) := by
  cases found with
  | nil =>
    rcases h with ⟨a, rfl, ha⟩
    exact hf a ha
  | cons defect found =>
    have herror : x = .error (abort defect) := h
    rw [herror]
    rfl

/-- A last step that only changes the result. -/
theorem EndsWith.map {Q' : β → Prop} {x : Except ε α} {f : α → Except ε β}
    (h : EndsWith abort found Q x) (hf : ∀ a, Q a → ∃ b, f a = .ok b ∧ Q' b) :
    EndsWith abort found Q' (x >>= f) := by
  rw [← List.append_nil found]
  exact h.bind fun a ha => hf a ha

/-- The same defects under other names. -/
theorem EndsWith.rename {δ' : Type} {abort' : δ' → ε} {Q' : α → Prop} {x : Except ε α}
    (h : EndsWith abort found Q x) (f : δ → δ') (habort : ∀ defect, abort' (f defect) = abort defect)
    (hQ : ∀ a, Q a → Q' a) : EndsWith abort' (found.map f) Q' x := by
  cases found with
  | nil =>
    rcases h with ⟨a, hx, ha⟩
    exact ⟨a, hx, hQ a ha⟩
  | cons defect found =>
    have herror : x = .error (abort defect) := h
    rw [herror, ← habort]
    rfl

end EndsWith

/-! ## The first defect of a loop -/

section StopsWith

variable {δ : Type} {abort : δ → ε} {found found' : List δ}

/-- `x` stops with the first defect, and without any it goes on. -/
def StopsWith (abort : δ → ε) (found : List δ) (x : Emission β ε) : Prop :=
  x.stop = found.head?.map abort

/-- What goes through has no defect. -/
theorem StopsWith.of_go {x : Emission β ε} (h : x.stop = none) : StopsWith abort [] x := h

/-- One defect, which stops. -/
theorem StopsWith.halt (defect : δ) :
    StopsWith abort [defect] (Emission.halt (abort defect) : Emission β ε) := rfl

/-- The defects of the first part come first. -/
theorem StopsWith.seq {x y : Emission β ε} (hx : StopsWith abort found x)
    (hy : StopsWith abort found' y) : StopsWith abort (found ++ found') (x.seq y) := by
  cases found with
  | nil =>
    have hgo : x.stop = none := hx
    rw [Emission.seq_of_go hgo]
    exact hy
  | cons defect found =>
    have hstop : x.stop = some (abort defect) := hx
    rw [Emission.seq_of_stop hstop]
    exact hstop

/-- The defects of a loop are those of its rounds, in order. -/
theorem StopsWith.seqAll {founds : List (List δ)} {xs : List (Emission β ε)}
    (h : List.Forall₂ (StopsWith abort) founds xs) :
    StopsWith abort founds.flatten (Emission.seqAll xs) := by
  induction h with
  | nil => exact of_go rfl
  | cons hx _ ih => exact hx.seq ih

/-- What goes on after a computation adds its defects to those of the computation. -/
theorem StopsWith.after {Q : α → Prop} {c : Except ε α} {f : α → Emission β ε}
    (hc : EndsWith abort found Q c) (hf : ∀ a, Q a → StopsWith abort found' (f a)) :
    StopsWith abort (found ++ found') (.after c f) := by
  cases found with
  | nil =>
    rcases hc with ⟨a, rfl, ha⟩
    exact hf a ha
  | cons defect found =>
    have herror : c = .error (abort defect) := hc
    rw [herror]
    rfl

end StopsWith

end Lib
