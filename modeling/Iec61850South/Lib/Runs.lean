import Mathlib.Data.List.Basic
import Mathlib.Data.List.Induction
import Mathlib.Tactic.Push

/-! # The maximal runs of a text

A text is cut at its delimiters; several delimiters in a row count as one, and
those at either end count for nothing. `mem_runs_iff` says what the pieces are,
and `Surrounded.runs` that any text laid out around given pieces is cut into them.
-/

namespace Lib

variable {α : Type} (p : α → Bool)

/-- The maximal runs of elements that are not delimiters, from left to right. -/
def runs (text : List α) : List (List α) :=
  (text.splitOnP p).filter fun run => ! run.isEmpty

/-- `run` is a maximal run somewhere in the text. -/
def IsRun (text run : List α) : Prop :=
  ∃ before after, text = before ++ run ++ after ∧ run ≠ [] ∧ (∀ c ∈ run, p c = false) ∧
    (∀ c ∈ before.getLast?, p c = true) ∧ ∀ c ∈ after.head?, p c = true

variable {p}

/-- A text without delimiters is one run, unless it is empty. -/
theorem runs_of_forall_not {run : List α} (h : ∀ c ∈ run, p c = false) :
    runs p run = [run].filter fun run => ! run.isEmpty := by
  rw [runs, List.splitOnP_eq_singleton h]

/-- A text without delimiters that is not empty is one run. -/
theorem runs_singleton {run : List α} (h : ∀ c ∈ run, p c = false) (hne : run ≠ []) :
    runs p run = [run] := by
  rw [runs_of_forall_not h]
  cases run with
  | nil => exact absurd rfl hne
  | cons c run => rfl

/-- At a delimiter the text falls apart. -/
theorem runs_append_cons (left right : List α) {c : α} (hc : p c = true) :
    runs p (left ++ c :: right) = runs p left ++ runs p right := by
  rw [runs, List.splitOnP_append_cons left right hc, List.filter_append]
  rfl

/-- Delimiters before a text add no run. -/
theorem runs_delimiters_append {gap : List α} (hgap : ∀ c ∈ gap, p c = true) (text : List α) :
    runs p (gap ++ text) = runs p text := by
  induction gap with
  | nil => rfl
  | cons c gap ih =>
    have hnil : runs p ([] : List α) = [] := by simp [runs]
    have hc : p c = true := hgap c List.mem_cons_self
    have hsplit := runs_append_cons ([] : List α) (gap ++ text) hc
    rw [hnil, List.nil_append, List.nil_append] at hsplit
    rw [List.cons_append, hsplit]
    exact ih fun d hd => hgap d (List.mem_cons_of_mem c hd)

/-- Delimiters alone have no run. -/
theorem runs_delimiters {gap : List α} (hgap : ∀ c ∈ gap, p c = true) : runs p gap = [] := by
  have happend := runs_delimiters_append hgap ([] : List α)
  rw [List.append_nil] at happend
  rw [happend]
  simp [runs]

/-- Delimiters behind a text add no run. -/
theorem runs_append_delimiters {gap : List α} (hgap : ∀ c ∈ gap, p c = true) (text : List α) :
    runs p (text ++ gap) = runs p text := by
  cases gap with
  | nil => rw [List.append_nil]
  | cons c gap =>
    rw [runs_append_cons text gap (hgap c List.mem_cons_self),
      runs_delimiters fun d hd => hgap d (List.mem_cons_of_mem c hd), List.append_nil]

/-! ## Which pieces these are -/

/-- What is found is a maximal stretch without delimiters. -/
theorem isRun_of_mem_runs {text run : List α} (h : run ∈ runs p text) : IsRun p text run := by
  induction hlength : text.length using Nat.strongRecOn generalizing text with
  | ind n ih =>
    by_cases hnone : ∀ c ∈ text, p c = false
    · -- without delimiters there is at most the text itself
      rw [runs_of_forall_not hnone, List.mem_filter, List.mem_singleton] at h
      rcases h with ⟨rfl, hne⟩
      refine ⟨[], [], by simp, ?_, hnone, by simp, by simp⟩
      rintro rfl
      cases hne
    · push Not at hnone
      rcases hnone with ⟨c, hmem, hc⟩
      have hc : p c = true := by simpa using hc
      -- the text is shorter on both sides of a delimiter
      rcases List.append_of_mem hmem with ⟨left, right, rfl⟩
      rw [List.length_append, List.length_cons] at hlength
      rw [runs_append_cons left right hc, List.mem_append] at h
      rcases h with hleft | hright
      · rcases ih left.length (by omega) hleft rfl with
          ⟨before, after, rfl, hne, hrun, hbefore, hafter⟩
        refine ⟨before, after ++ c :: right, by simp, hne, hrun, hbefore, ?_⟩
        cases after with
        | nil => simpa using hc
        | cons d after => exact hafter
      · rcases ih right.length (by omega) hright rfl with
          ⟨before, after, rfl, hne, hrun, hbefore, hafter⟩
        refine ⟨left ++ c :: before, after, by simp, hne, hrun, ?_, hafter⟩
        cases before with
        | nil => simpa using hc
        | cons d before =>
          rw [List.getLast?_append_cons, List.getLast?_cons_cons]
          exact hbefore

/-- Each maximal stretch without delimiters is found. -/
theorem mem_runs_of_isRun {text run : List α} (h : IsRun p text run) : run ∈ runs p text := by
  rcases h with ⟨before, after, rfl, hne, hrun, hbefore, hafter⟩
  have hright : run ∈ runs p (run ++ after) := by
    cases after with
    | nil =>
      rw [List.append_nil, runs_singleton hrun hne]
      exact List.mem_singleton_self run
    | cons c after =>
      rw [runs_append_cons run after (hafter c rfl), runs_singleton hrun hne]
      exact List.mem_append_left _ (List.mem_singleton_self run)
  cases before using List.reverseRecOn with
  | nil => exact hright
  | append_singleton before c =>
    have hc : p c = true := hbefore c (by simp)
    rw [List.append_assoc, List.append_assoc, List.singleton_append,
      runs_append_cons before (run ++ after) hc]
    exact List.mem_append_right _ hright

/-- The runs are the maximal stretches without delimiters. -/
theorem mem_runs_iff {text run : List α} : run ∈ runs p text ↔ IsRun p text run :=
  ⟨isRun_of_mem_runs, mem_runs_of_isRun⟩

/-! ## Texts around given pieces -/

variable (p) in
/-- The pieces one after the other, with delimiters in between. -/
inductive Separated : List (List α) → List α → Prop
  | one (piece : List α) : Separated [piece] piece
  | cons {piece gap : List α} {pieces : List (List α)} {text : List α} :
      gap ≠ [] → (∀ c ∈ gap, p c = true) → Separated pieces text →
      Separated (piece :: pieces) (piece ++ (gap ++ text))

variable (p) in
/-- The pieces one after the other, with delimiters in between and perhaps around. -/
inductive Surrounded : List (List α) → List α → Prop
  | none {gap : List α} : (∀ c ∈ gap, p c = true) → Surrounded [] gap
  | some {lead trail text : List α} {pieces : List (List α)} : (∀ c ∈ lead, p c = true) →
      (∀ c ∈ trail, p c = true) → Separated p pieces text →
      Surrounded pieces (lead ++ (text ++ trail))

/-- Pieces that are separated by delimiters are found again, in order. -/
theorem Separated.runs {pieces : List (List α)} {text : List α} (h : Separated p pieces text)
    (hpieces : ∀ piece ∈ pieces, piece ≠ [] ∧ ∀ c ∈ piece, p c = false) :
    runs p text = pieces := by
  induction h with
  | one piece =>
    rcases hpieces piece (List.mem_singleton_self piece) with ⟨hne, hpiece⟩
    exact runs_singleton hpiece hne
  | @cons piece gap pieces text hgap hdelimiters _ ih =>
    rcases hpieces piece List.mem_cons_self with ⟨hne, hpiece⟩
    have hrest := ih fun other hother => hpieces other (List.mem_cons_of_mem _ hother)
    cases gap with
    | nil => exact absurd rfl hgap
    | cons c gap =>
      rw [List.cons_append, runs_append_cons piece (gap ++ text) (hdelimiters c List.mem_cons_self),
        runs_singleton hpiece hne,
        runs_delimiters_append fun d hd => hdelimiters d (List.mem_cons_of_mem c hd), hrest]
      rfl

/-- A text that is laid out around pieces is cut into them. -/
theorem Surrounded.runs {pieces : List (List α)} {text : List α} (h : Surrounded p pieces text)
    (hpieces : ∀ piece ∈ pieces, piece ≠ [] ∧ ∀ c ∈ piece, p c = false) :
    runs p text = pieces := by
  cases h with
  | none hgap => exact runs_delimiters hgap
  | some hlead htrail hseparated =>
    rw [runs_delimiters_append hlead, runs_append_delimiters htrail, hseparated.runs hpieces]

end Lib
