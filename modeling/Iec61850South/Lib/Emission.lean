import Mathlib.Tactic.Common
import Mathlib.Data.List.Basic
import Mathlib.Data.List.Induction

/-! # Emissions: what a sequence of steps puts out before it stops

A loop whose body may put out a few values and may also stop the whole loop
is described by one `Emission` for each round: the values put out, and the
reason to stop, if any. `seqAll` is the loop: rounds are run in order until
the first one that stops. The lemmas say where the loop stops, what it has put
out by then, and which rounds see the effect of a change in another round.
-/

namespace Lib

/-- Values put out, and the reason to stop after the last of them, if any. -/
structure Emission (β : Type) (ε : Type) where
  out : List β
  stop : Option ε

namespace Emission

variable {β ε : Type}

/-- Put out nothing and go on. -/
def done : Emission β ε := ⟨[], none⟩

/-- Stop at once. -/
def halt (e : ε) : Emission β ε := ⟨[], some e⟩

/-- Put out one value and go on. -/
def emit (b : β) : Emission β ε := ⟨[b], none⟩

/-- Go on with the value of a computation, or stop with its error. -/
def after {α : Type} (x : Except ε α) (f : α → Emission β ε) : Emission β ε :=
  match x with
  | .ok a => f a
  | .error e => halt e

/-- `x`, then `y` unless `x` has stopped. -/
def seq (x y : Emission β ε) : Emission β ε :=
  match x.stop with
  | none => ⟨x.out ++ y.out, y.stop⟩
  | some _ => x

/-- The rounds of a loop, in order, until one of them stops. -/
def seqAll : List (Emission β ε) → Emission β ε
  | [] => done
  | x :: xs => x.seq (seqAll xs)

@[simp] theorem done_out : (done : Emission β ε).out = [] := rfl
@[simp] theorem done_stop : (done : Emission β ε).stop = none := rfl
@[simp] theorem halt_out (e : ε) : (halt e : Emission β ε).out = [] := rfl
@[simp] theorem halt_stop (e : ε) : (halt e : Emission β ε).stop = some e := rfl
@[simp] theorem emit_out (b : β) : (emit b : Emission β ε).out = [b] := rfl
@[simp] theorem emit_stop (b : β) : (emit b : Emission β ε).stop = none := rfl

@[simp] theorem after_ok {α : Type} (a : α) (f : α → Emission β ε) : after (.ok a) f = f a := rfl
@[simp] theorem after_error {α : Type} (e : ε) (f : α → Emission β ε) :
    after (.error e) f = halt e := rfl

@[simp] theorem seqAll_nil : seqAll ([] : List (Emission β ε)) = done := rfl

@[simp] theorem seqAll_cons (x : Emission β ε) (xs : List (Emission β ε)) :
    seqAll (x :: xs) = x.seq (seqAll xs) := rfl

/-- Behind a part that has gone through, the next one goes on. -/
theorem seq_of_go {x y : Emission β ε} (h : x.stop = none) :
    x.seq y = ⟨x.out ++ y.out, y.stop⟩ := by
  simp [seq, h]

/-- Behind a part that has stopped, nothing comes. -/
theorem seq_of_stop {x y : Emission β ε} {e : ε} (h : x.stop = some e) : x.seq y = x := by
  simp [seq, h]

/-- Nothing to emit before a part. -/
@[simp] theorem done_seq (x : Emission β ε) : done.seq x = x := by
  simp [seq, done]

/-- Nothing to emit behind a part. -/
@[simp] theorem seq_done (x : Emission β ε) : x.seq done = x := by
  cases x with
  | mk out stop => cases stop <;> simp [seq]

/-- The order matters, the grouping does not. -/
theorem seq_assoc (x y z : Emission β ε) : (x.seq y).seq z = x.seq (y.seq z) := by
  rcases x with ⟨xo, _ | xe⟩
  · rcases y with ⟨yo, _ | ye⟩ <;> simp [seq]
  · rfl

/-- Two lists of parts, one after the other. -/
theorem seqAll_append (xs ys : List (Emission β ε)) :
    seqAll (xs ++ ys) = (seqAll xs).seq (seqAll ys) := by
  induction xs with
  | nil => simp
  | cons x xs ih => simp [ih, seq_assoc]

/-- Parts of which none stops emit all they have. -/
theorem seqAll_map_go {γ : Type} (xs : List γ) (g : γ → List β) :
    seqAll (xs.map fun a => (⟨g a, none⟩ : Emission β ε)) = ⟨xs.flatMap g, none⟩ := by
  induction xs with
  | nil => rfl
  | cons a xs ih =>
    rw [List.map_cons, seqAll_cons, seq_of_go rfl, ih]
    rfl

/-- The same for parts that know their place. -/
theorem seqAll_mapIdx_go {γ : Type} (xs : List γ) (g : Nat → γ → List β) :
    seqAll (xs.mapIdx fun k a => (⟨g k a, none⟩ : Emission β ε)) =
      ⟨(xs.mapIdx g).flatten, none⟩ := by
  induction xs generalizing g with
  | nil => rfl
  | cons a xs ih =>
    rw [List.mapIdx_cons, seqAll_cons, seq_of_go rfl, ih, List.mapIdx_cons]
    rfl

/-- A loop puts out the values of its rounds, up to the first round that stops. -/
theorem seqAll_out_sublist (xs : List (Emission β ε)) :
    (seqAll xs).out.Sublist (xs.flatMap out) := by
  induction xs with
  | nil => exact .slnil
  | cons x xs ih =>
    rw [List.flatMap_cons, seqAll]
    cases hstop : x.stop with
    | none =>
      rw [seq_of_go hstop]
      exact (List.Sublist.refl _).append ih
    | some e =>
      rw [seq_of_stop hstop]
      exact List.sublist_append_left ..

/-- The first stop is that of the sequence. -/
theorem seq_stop_eq_some {x y : Emission β ε} {e : ε} :
    (x.seq y).stop = some e ↔ x.stop = some e ∨ (x.stop = none ∧ y.stop = some e) := by
  rcases x with ⟨xo, _ | xe⟩ <;> simp [seq]

/-- A sequence goes through when both parts do. -/
theorem seq_stop_eq_none {x y : Emission β ε} :
    (x.seq y).stop = none ↔ x.stop = none ∧ y.stop = none := by
  rcases x with ⟨xo, _ | xe⟩ <;> simp [seq]

/-- A list of parts goes through when each of them does. -/
theorem seqAll_stop_eq_none {xs : List (Emission β ε)} :
    (seqAll xs).stop = none ↔ ∀ x ∈ xs, x.stop = none := by
  induction xs with
  | nil => simp
  | cons x xs ih => simp [seq_stop_eq_none, ih]

/-- A part behind a pure step goes through when the step returns and the part goes on. -/
theorem after_stop_eq_none {α : Type} {x : Except ε α} {f : α → Emission β ε} :
    (after x f).stop = none ↔ ∃ a, x = .ok a ∧ (f a).stop = none := by
  cases x <;> simp

/-- A loop that decodes every element and puts out the results. -/
theorem seqAll_decode_of_go {α γ : Type} {decode : γ → Except ε α} {put : α → β} {xs : List γ}
    (h : (seqAll (xs.map fun x => after (decode x) fun a => emit (put a))).stop = none) :
    ∃ as, List.Forall₂ (fun x a => decode x = .ok a) xs as ∧
      (seqAll (xs.map fun x => after (decode x) fun a => emit (put a))).out = as.map put := by
  induction xs with
  | nil => exact ⟨[], .nil, rfl⟩
  | cons x xs ih =>
    rw [List.map_cons, seqAll_cons, seq_stop_eq_none] at h
    rcases after_stop_eq_none.mp h.1 with ⟨a, ha, _⟩
    rcases ih h.2 with ⟨as, has, hout⟩
    refine ⟨a :: as, .cons ha has, ?_⟩
    rw [List.map_cons, seqAll_cons, seq_of_go h.1, hout, ha]
    rfl

/-! ## Which reasons there are to stop -/

/-- `x` stops, if it does, for a reason that satisfies `G`. -/
def StopsIn (G : ε → Prop) (x : Emission β ε) : Prop :=
  ∀ e, x.stop = some e → G e

namespace StopsIn

variable {G : ε → Prop} {x y : Emission β ε}

/-- What goes through does not stop at all. -/
theorem of_go (h : x.stop = none) : StopsIn G x := by
  intro e he
  simp [h] at he

/-- A stop for a reason of the kind. -/
theorem halt {e : ε} (h : G e) : StopsIn G (halt e : Emission β ε) := by
  intro e' he
  cases he
  exact h

/-- A pure step and the part behind it, each stopping for a reason of the kind. -/
theorem after {α : Type} {c : Except ε α} {f : α → Emission β ε} (hc : ∀ e, c = .error e → G e)
    (hf : ∀ a, c = .ok a → StopsIn G (f a)) : StopsIn G (after c f) := by
  cases c with
  | ok a => exact hf a rfl
  | error e => exact halt (hc e rfl)

/-- Two parts, each stopping for a reason of the kind. -/
theorem seq (hx : StopsIn G x) (hy : StopsIn G y) : StopsIn G (x.seq y) := by
  intro e he
  rcases seq_stop_eq_some.mp he with h | ⟨_, h⟩
  · exact hx e h
  · exact hy e h

/-- A list of parts, each stopping for a reason of the kind. -/
theorem seqAll {xs : List (Emission β ε)} (h : ∀ x ∈ xs, StopsIn G x) :
    StopsIn G (seqAll xs) := by
  induction xs with
  | nil => exact of_go rfl
  | cons x xs ih => exact seq (h x (by simp)) (ih fun y hy => h y (by simp [hy]))

end StopsIn

/-! ## Which values are put out -/

/-- All that `x` puts out satisfies `G`, also when it stops. -/
def EmitsIn (G : β → Prop) (x : Emission β ε) : Prop :=
  ∀ b ∈ x.out, G b

namespace EmitsIn

variable {G : β → Prop} {x y : Emission β ε}

/-- What emits nothing. -/
theorem silent (h : x.out = []) : EmitsIn G x := by
  intro b hb
  rw [h] at hb
  cases hb

/-- A pure step emits nothing itself. -/
theorem after {α : Type} {c : Except ε α} {f : α → Emission β ε}
    (hf : ∀ a, c = .ok a → EmitsIn G (f a)) : EmitsIn G (after c f) := by
  cases c with
  | ok a => exact hf a rfl
  | error e => exact silent rfl

/-- Two parts, each emitting such elements. -/
theorem seq (hx : EmitsIn G x) (hy : EmitsIn G y) : EmitsIn G (x.seq y) := by
  intro b hb
  cases hstop : x.stop with
  | none =>
    rw [seq_of_go hstop] at hb
    rcases List.mem_append.mp hb with hb | hb
    · exact hx b hb
    · exact hy b hb
  | some e =>
    rw [seq_of_stop hstop] at hb
    exact hx b hb

/-- A list of parts, each emitting such elements. -/
theorem seqAll {xs : List (Emission β ε)} (h : ∀ x ∈ xs, EmitsIn G x) :
    EmitsIn G (seqAll xs) := by
  induction xs with
  | nil => exact silent rfl
  | cons x xs ih => exact seq (h x (by simp)) (ih fun y hy => h y (by simp [hy]))

end EmitsIn

/-! ## What each round of a loop gets to put out -/

/-- Round `j` stops the loop, if the loop gets there. -/
def stopsAt (xs : List (Emission β ε)) (j : Nat) : Bool :=
  (xs[j]?.bind stop).isSome

/-- What round `j` puts out, if the loop gets there. -/
def outAt (xs : List (Emission β ε)) (j : Nat) : List β :=
  (xs[j]?.map out).getD []

/-- What round `k` puts out in the run of the whole loop: nothing once an
earlier round has stopped. -/
def share (xs : List (Emission β ε)) (k : Nat) : List β :=
  if ∃ j < k, stopsAt xs j then [] else outAt xs k

/-- Behind a stop, a part has no share in what is emitted. -/
theorem share_of_stopped {xs : List (Emission β ε)} {k : Nat}
    (h : ∃ j < k, stopsAt xs j) : share xs k = [] := by
  simp [share, h]

/-- A part that is reached emits all it has. -/
theorem share_of_reached {xs : List (Emission β ε)} {k : Nat}
    (h : ∀ j < k, stopsAt xs j = false) : share xs k = outAt xs k := by
  have hno : ¬ ∃ j < k, stopsAt xs j := by
    rintro ⟨j, hj, hstop⟩
    rw [h j hj] at hstop
    simp at hstop
  rw [share, if_neg hno]

/-- Loops whose rounds before `k` stop alike give round `k` the same share, if it
puts out the same. -/
theorem share_congr {xs ys : List (Emission β ε)} {k : Nat}
    (hstops : ∀ j < k, stopsAt xs j = stopsAt ys j) (hout : outAt xs k = outAt ys k) :
    share xs k = share ys k := by
  by_cases hex : ∃ j < k, stopsAt xs j
  · have hex' : ∃ j < k, stopsAt ys j := by
      rcases hex with ⟨j, hj, hstop⟩
      exact ⟨j, hj, (hstops j hj).symm.trans hstop⟩
    rw [share_of_stopped hex, share_of_stopped hex']
  · push Not at hex
    have hreached : ∀ j < k, stopsAt xs j = false := fun j hj => by simpa using hex j hj
    have hreached' : ∀ j < k, stopsAt ys j = false :=
      fun j hj => (hstops j hj).symm.trans (hreached j hj)
    rw [share_of_reached hreached, share_of_reached hreached', hout]

/-- A round that puts out nothing when it is reached has no share. -/
theorem share_eq_nil {xs : List (Emission β ε)} {k : Nat}
    (h : (∀ j < k, stopsAt xs j = false) → outAt xs k = []) : share xs k = [] := by
  by_cases hex : ∃ j < k, stopsAt xs j
  · exact share_of_stopped hex
  · push Not at hex
    have hreached : ∀ j < k, stopsAt xs j = false := fun j hj => by simpa using hex j hj
    rw [share_of_reached hreached, h hreached]

/-- A loop stops with `e` exactly when its first stopping round stops with `e`. -/
theorem seqAll_stop_eq_some {xs : List (Emission β ε)} {e : ε} :
    (seqAll xs).stop = some e ↔
      ∃ k, xs[k]?.bind stop = some e ∧ ∀ j < k, stopsAt xs j = false := by
  induction xs with
  | nil => simp
  | cons x xs ih =>
    rw [seqAll_cons, seq_stop_eq_some, ih]
    constructor
    · rintro (hx | ⟨hx, k, hk, hbefore⟩)
      · exact ⟨0, by simpa using hx, fun j hj => absurd hj (Nat.not_lt_zero j)⟩
      · refine ⟨k + 1, by simpa using hk, ?_⟩
        intro j hj
        cases j with
        | zero => simp [stopsAt, hx]
        | succ j => simpa [stopsAt] using hbefore j (by omega)
    · rintro ⟨k, hk, hbefore⟩
      cases k with
      | zero => exact Or.inl (by simpa using hk)
      | succ k =>
        have hx : x.stop = none := by simpa [stopsAt] using hbefore 0 (by omega)
        refine Or.inr ⟨hx, k, by simpa using hk, ?_⟩
        intro j hj
        simpa [stopsAt] using hbefore (j + 1) (by omega)

/-- A list of parts goes through when no place stops. -/
theorem seqAll_stop_eq_none_iff_stopsAt {xs : List (Emission β ε)} :
    (seqAll xs).stop = none ↔ ∀ j < xs.length, stopsAt xs j = false := by
  rw [seqAll_stop_eq_none]
  constructor
  · intro h j hj
    simp [stopsAt, List.getElem?_eq_getElem hj, h xs[j] (List.getElem_mem hj)]
  · intro h x hx
    rcases List.mem_iff_getElem.mp hx with ⟨j, hj, rfl⟩
    simpa [stopsAt, List.getElem?_eq_getElem hj] using h j hj

/-- The loop puts out the shares of its rounds, in order. -/
theorem seqAll_out_eq_shares (xs : List (Emission β ε)) :
    (seqAll xs).out = (List.range xs.length).flatMap (share xs) := by
  induction xs using List.reverseRecOn with
  | nil => simp
  | append_singleton xs x ih =>
    have hstops : ∀ j < xs.length, stopsAt (xs ++ [x]) j = stopsAt xs j := by
      intro j hj
      rw [stopsAt, stopsAt, List.getElem?_append_left hj]
    have hinit : ∀ k < xs.length, share (xs ++ [x]) k = share xs k := by
      intro k hk
      apply share_congr
      · intro j hj
        exact hstops j (by omega)
      · rw [outAt, outAt, List.getElem?_append_left hk]
    have hflat : (List.range xs.length).flatMap (share (xs ++ [x])) =
        (List.range xs.length).flatMap (share xs) :=
      List.flatMap_congr fun k hk => hinit k (by simpa using hk)
    rw [seqAll_append, List.length_append, List.length_singleton, List.range_succ,
      List.flatMap_append, hflat, ← ih]
    -- the last part has a share only if none before it has stopped
    cases hstop : (seqAll xs).stop with
    | none =>
      have hgo := seqAll_stop_eq_none_iff_stopsAt.mp hstop
      have hlast : share (xs ++ [x]) xs.length = x.out := by
        rw [share_of_reached fun j hj => (hstops j hj).trans (hgo j hj)]
        simp [outAt]
      simp [seq_of_go hstop, hlast]
    | some e =>
      rcases seqAll_stop_eq_some.mp hstop with ⟨k, hk, _⟩
      have hlt : k < xs.length := by
        by_contra hge
        rw [List.getElem?_eq_none (by omega)] at hk
        simp at hk
      have hlast : share (xs ++ [x]) xs.length = [] :=
        share_of_stopped ⟨k, hlt, by rw [hstops k hlt]; simp [stopsAt, hk]⟩
      simp [seq_of_stop hstop, hlast]

/-- If one of two loops stops in round `i` and the other one reaches a later round
that puts something out, then this round has two shares. -/
theorem share_ne_of_stop {xs ys : List (Emission β ε)} {i j : Nat} (hij : i < j)
    (hgo : ∀ k < i, stopsAt xs k = false) (hstop : stopsAt xs i = false)
    (hstop' : stopsAt ys i = true) (hmid : ∀ k, i < k → k < j → stopsAt xs k = false)
    (hne : outAt xs j ≠ []) : share xs j ≠ share ys j := by
  have hreached : ∀ k < j, stopsAt xs k = false := by
    intro k hk
    rcases Nat.lt_trichotomy k i with hlt | rfl | hgt
    · exact hgo k hlt
    · exact hstop
    · exact hmid k hgt hk
  rw [share_of_reached hreached, share_of_stopped ⟨i, hij, hstop'⟩]
  exact hne

section OneRound

variable {xs ys : List (Emission β ε)} {i : Nat} (hsame : ∀ j, j ≠ i → xs[j]? = ys[j]?)

include hsame

/-- The other places stop as before. -/
theorem stopsAt_of_same {j : Nat} (hji : j ≠ i) : stopsAt xs j = stopsAt ys j := by
  rw [stopsAt, stopsAt, hsame j hji]

/-- The other places emit as before. -/
theorem outAt_of_same {j : Nat} (hji : j ≠ i) : outAt xs j = outAt ys j := by
  rw [outAt, outAt, hsame j hji]

end OneRound

/-- Two loops that differ in round `i` only give every other round the same
share exactly when the difference does not decide whether the loop goes on
to a round that has something to put out. -/
theorem share_congr_iff {xs ys : List (Emission β ε)} {i : Nat}
    (hsame : ∀ j, j ≠ i → xs[j]? = ys[j]?) :
    (∀ j, j ≠ i → share xs j = share ys j) ↔
      ((∃ j < i, stopsAt xs j) ∨ stopsAt xs i = stopsAt ys i ∨
        ∀ j, i < j → (∀ k, i < k → k < j → stopsAt xs k = false) → outAt xs j = []) := by
  have hstops : ∀ j, j ≠ i → stopsAt xs j = stopsAt ys j := fun j hji => stopsAt_of_same hsame hji
  constructor
  · intro h
    by_contra hno
    push Not at hno
    rcases hno with ⟨hgo, hdiff, j, hij, hmid, hne⟩
    have hgo : ∀ k < i, stopsAt xs k = false := fun k hk => by simpa using hgo k hk
    have hequal := h j (by omega)
    -- one of the two loops stops in round `i`, and the other goes on to round `j`
    cases hx : stopsAt xs i with
    | false =>
      have hy : stopsAt ys i = true := by simpa [hx] using hdiff
      exact share_ne_of_stop hij hgo hx hy hmid hne hequal
    | true =>
      have hy : stopsAt ys i = false := by simpa [hx] using hdiff
      have hgo' : ∀ k < i, stopsAt ys k = false :=
        fun k hk => (hstops k (by omega)).symm.trans (hgo k hk)
      have hmid' : ∀ k, i < k → k < j → stopsAt ys k = false :=
        fun k hik hkj => (hstops k (by omega)).symm.trans (hmid k hik hkj)
      rw [outAt_of_same hsame (by omega)] at hne
      exact share_ne_of_stop hij hgo' hy hx hmid' hne hequal.symm
  · intro h j hji
    have hout : outAt xs j = outAt ys j := outAt_of_same hsame hji
    rcases Nat.lt_or_gt_of_ne hji with hlt | hgt
    · exact share_congr (fun k _ => hstops k (by omega)) hout
    rcases h with ⟨k, hk, hstop⟩ | hequal | hquiet
    · have hstop' : stopsAt ys k = true := (hstops k (by omega)).symm.trans hstop
      rw [share_of_stopped ⟨k, by omega, hstop⟩, share_of_stopped ⟨k, by omega, hstop'⟩]
    · refine share_congr (fun k _ => ?_) hout
      by_cases hki : k = i
      · rw [hki, hequal]
      · exact hstops k hki
    · -- nothing is left to put out in round `j`, whichever loop gets there
      have hnil : share xs j = [] :=
        share_eq_nil fun hreached => hquiet j hgt fun k _ hkj => hreached k hkj
      have hnil' : share ys j = [] := by
        apply share_eq_nil
        intro hreached
        rw [← hout]
        apply hquiet j hgt
        intro k hik hkj
        rw [hstops k (by omega)]
        exact hreached k hkj
      rw [hnil, hnil']

end Emission

end Lib
