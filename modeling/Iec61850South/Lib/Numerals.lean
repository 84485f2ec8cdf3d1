import Mathlib.Data.List.Forall2
import Mathlib.Data.Nat.Digits.Defs

/-! # Numerals

Numerals in bases of at most 16, most significant digit first, with the letters
of either case as digits from ten on. A reader that takes digits from the front of
a text stops at the first character that is none (`leadingValues_spec`,
`leadingValues_append`).
-/

namespace Lib

/-- The character is the digit `d`. -/
def IsDigit (base : Nat) (c : Char) (d : Nat) : Prop :=
  d < base ∧ (c = d.digitChar ∨ c = d.digitChar.toUpper)

/-- The characters are digits, and together the number. No digits are zero. -/
def Denotes (base : Nat) (chars : List Char) (n : Nat) : Prop :=
  ∃ digits, List.Forall₂ (IsDigit base) chars digits ∧ n = Nat.ofDigits base digits.reverse

variable {base : Nat}

/-- A digit of a base is one of each greater base. -/
theorem IsDigit.mono {base' : Nat} (hbase : base ≤ base') {c : Char} {d : Nat}
    (h : IsDigit base c d) : IsDigit base' c d :=
  ⟨Nat.lt_of_lt_of_le h.1 hbase, h.2⟩

/-- Reading the digits one after the other. -/
theorem foldl_eq_ofDigits (base : Nat) (digits : List Nat) :
    digits.foldl (fun acc d => acc * base + d) 0 = Nat.ofDigits base digits.reverse := by
  rw [Nat.ofDigits_eq_foldr, List.foldr_reverse]
  refine congrArg (fun f => List.foldl f 0 digits) (funext₂ fun acc d => ?_)
  rw [Nat.mul_comm, Nat.add_comm]
  rfl

/-- A numeral consists of digits. -/
theorem Denotes.digits {chars : List Char} {n : Nat} (h : Denotes base chars n) :
    ∀ c ∈ chars, ∃ d, IsDigit base c d := by
  rcases h with ⟨digits, hdigits, -⟩
  intro c hc
  induction hdigits with
  | nil => cases hc
  | cons hd _ ih =>
    rcases List.mem_cons.mp hc with rfl | hc
    · exact ⟨_, hd⟩
    · exact ih hc

/-! ## Reading digits from the front -/

section Leading

variable {α β : Type} (digit : α → Option β)

/-- The values of the digits in front of the first element that is none. -/
def leadingValues : List α → List β
  | [] => []
  | c :: text =>
    match digit c with
    | some d => d :: leadingValues text
    | none => []

variable {digit}

/-- A digit in front. -/
theorem leadingValues_cons_some {c : α} {d : β} (h : digit c = some d) (text : List α) :
    leadingValues digit (c :: text) = d :: leadingValues digit text := by
  rw [leadingValues, h]

/-- No digit in front. -/
theorem leadingValues_cons_none {c : α} (h : digit c = none) (text : List α) :
    leadingValues digit (c :: text) = [] := by
  rw [leadingValues, h]

variable (digit) in
/-- The text falls into the digits that are read and what is left. -/
theorem leadingValues_spec (text : List α) : ∃ chars rest, text = chars ++ rest ∧
    List.Forall₂ (fun c d => digit c = some d) chars (leadingValues digit text) ∧
    ∀ c ∈ rest.head?, digit c = none := by
  induction text with
  | nil => exact ⟨[], [], rfl, .nil, by simp⟩
  | cons c text ih =>
    cases hc : digit c with
    | none =>
      rw [leadingValues_cons_none hc]
      exact ⟨[], c :: text, rfl, .nil, by simpa using hc⟩
    | some d =>
      rw [leadingValues_cons_some hc]
      rcases ih with ⟨chars, rest, rfl, hchars, hrest⟩
      exact ⟨c :: chars, rest, rfl, .cons hc hchars, hrest⟩

/-- Digits, and behind them something that is none. -/
theorem leadingValues_append {chars rest : List α} {digits : List β}
    (hchars : List.Forall₂ (fun c d => digit c = some d) chars digits)
    (hrest : ∀ c ∈ rest.head?, digit c = none) : leadingValues digit (chars ++ rest) = digits := by
  induction hchars with
  | nil =>
    cases rest with
    | nil => rfl
    | cons c rest => exact leadingValues_cons_none (hrest c rfl) rest
  | @cons c d chars digits hc _ ih =>
    rw [List.cons_append, leadingValues_cons_some hc, ih]

end Leading

end Lib
