import Iec61850South.Client.Polling
import Mathlib.Data.List.Infix

/-! # Paths of data objects

How `find`, `substr` and the splitting of a dataset member behave. A position is
a `size_t`; no string is as long as `npos`, which is what `find` returns when
there is nothing to find.
-/

namespace Iec61850South

/-! ## Finding -/

/-- What is found begins inside the text. -/
theorem findFrom_lt (needle : List Char) (hne : needle ≠ []) (haystack : List Char) (pos : Nat) :
    findFrom needle haystack pos = npos ∨ findFrom needle haystack pos < pos + haystack.length := by
  induction haystack generalizing pos with
  | nil =>
    left
    cases needle with
    | nil => exact absurd rfl hne
    | cons c cs => rfl
  | cons c cs ih =>
    unfold findFrom
    split
    · right
      simp
    · rcases ih (pos + 1) with h | h
      · exact Or.inl h
      · right
        rw [List.length_cons]
        omega

/-- What is found is found within the string, and only what occurs is found. -/
theorem findFrom_ne_npos_iff {needle : List Char} (hne : needle ≠ []) {haystack : List Char}
    {pos : Nat} (hlen : pos + haystack.length ≤ npos) :
    findFrom needle haystack pos ≠ npos ↔ needle <:+: haystack := by
  induction haystack generalizing pos with
  | nil =>
    cases needle with
    | nil => exact absurd rfl hne
    | cons c cs => simp [findFrom]
  | cons c cs ih =>
    rw [List.length_cons] at hlen
    rw [List.infix_cons_iff]
    unfold findFrom
    split
    · -- found here, at a position before the end of the string
      next hhere =>
      refine iff_of_true ?_ (Or.inl (List.isPrefixOf_iff_prefix.mp hhere))
      omega
    · next hhere =>
      rw [ih (by omega), or_iff_right fun h => hhere (List.isPrefixOf_iff_prefix.mpr h)]

/-- A character that does not occur before. -/
theorem findFrom_singleton {c : Char} {before after : List Char} (h : c ∉ before) (pos : Nat) :
    findFrom [c] (before ++ c :: after) pos = pos + before.length := by
  induction before generalizing pos with
  | nil => simp [findFrom]
  | cons b before ih =>
    rw [List.mem_cons, not_or] at h
    rw [List.cons_append, findFrom, if_neg (by simp [h.1]), ih h.2, List.length_cons]
    omega

/-- `find` finds the needle exactly when it is somewhere in the text. -/
theorem find_ne_npos_iff {haystack needle : String} (hne : needle ≠ "")
    (hlen : haystack.length ≤ npos) :
    find haystack needle ≠ npos ↔ needle.toList <:+: haystack.toList := by
  unfold find
  refine findFrom_ne_npos_iff (by simpa using hne) ?_
  rwa [Nat.zero_add, String.length_toList]

/-! ## Splitting -/

/-- `substr` throws only for a start behind the end. -/
theorem substr_returns (s : String) {pos : Nat} (count : Nat) (h : pos ≤ s.length) :
    ∃ part, substr s pos count = .ok part := by
  unfold substr
  rw [if_neg (by omega)]
  exact ⟨_, rfl⟩

/-- The position behind an opening bracket, and 0 if there is none. -/
theorem behind_bracket_le (s : String) : (find s "[" + 1) % SIZE_T ≤ s.length := by
  have hfind := findFrom_lt "[".toList (by decide) s.toList 0
  rcases hfind with h | h
  · have hnpos : find s "[" = npos := h
    rw [hnpos]
    simp [npos, SIZE_T]
  · rw [Nat.zero_add, String.length_toList] at h
    exact Nat.le_trans (Nat.mod_le _ _) h

/-- `substr` is never called with a position behind the end, whatever the member
looks like. -/
theorem splitDoPathWithFC_returns (doPathWithFC : String) :
    ∃ parts, splitDoPathWithFC doPathWithFC = .ok parts := by
  rcases substr_returns doPathWithFC (find doPathWithFC "[") (Nat.zero_le _) with ⟨doPath, hpath⟩
  obtain ⟨fc, hfc⟩ := substr_returns doPathWithFC
    ((find doPathWithFC "]" + 2 * SIZE_T - find doPathWithFC "[" - 1) % SIZE_T)
    (behind_bracket_le doPathWithFC)
  refine ⟨(doPath, fc), ?_⟩
  unfold splitDoPathWithFC
  rw [hpath]
  show (substr doPathWithFC _ _ >>= fun functionalConstraintStr =>
    Except.ok (doPath, functionalConstraintStr)) = _
  rw [hfc]
  rfl

/-! ## A member as an IED writes it

The path, and its constraint in brackets. -/

section Bracketed

variable {doPath fc : String}

/-- The characters of `path[FC]`. -/
theorem toList_bracketed (doPath fc : String) : (doPath ++ "[" ++ fc ++ "]").toList =
    doPath.toList ++ '[' :: (fc.toList ++ [']']) := by
  simp

/-- The length of `path[FC]`. -/
theorem length_bracketed (doPath fc : String) :
    (doPath ++ "[" ++ fc ++ "]").length = doPath.length + 1 + fc.length + 1 := by
  have hp : doPath.toList.length = doPath.length := String.length_toList
  have hf : fc.toList.length = fc.length := String.length_toList
  rw [← String.length_toList, toList_bracketed, ← hp, ← hf]
  simp
  omega

/-- The first `[` ends the path. -/
theorem find_open_bracketed (hpath : '[' ∉ doPath.toList) :
    find (doPath ++ "[" ++ fc ++ "]") "[" = doPath.length := by
  have hp : doPath.toList.length = doPath.length := String.length_toList
  unfold find
  rw [toList_bracketed, ← hp, ← Nat.zero_add doPath.toList.length]
  exact findFrom_singleton hpath 0

/-- The first `]` ends the functional constraint. -/
theorem find_close_bracketed (hpath : ']' ∉ doPath.toList) (hfc : ']' ∉ fc.toList) :
    find (doPath ++ "[" ++ fc ++ "]") "]" = doPath.length + 1 + fc.length := by
  have hp : doPath.toList.length = doPath.length := String.length_toList
  have hf : fc.toList.length = fc.length := String.length_toList
  have h := @findFrom_singleton ']' (doPath.toList ++ '[' :: fc.toList) []
    (by simp [hpath, hfc]) 0
  unfold find
  rw [toList_bracketed, ← hp, ← hf]
  simpa [Nat.add_assoc, Nat.add_comm, Nat.add_left_comm] using h

/-- What stands before `[` is the path. -/
theorem substr_path_bracketed (doPath fc : String) :
    substr (doPath ++ "[" ++ fc ++ "]") 0 doPath.length = .ok doPath := by
  have hp : doPath.toList.length = doPath.length := String.length_toList
  unfold substr
  rw [if_neg (by omega), toList_bracketed, ← hp]
  simp

/-- What stands between the brackets is the functional constraint. -/
theorem substr_constraint_bracketed (doPath fc : String) :
    substr (doPath ++ "[" ++ fc ++ "]") (doPath.length + 1) fc.length = .ok fc := by
  have hp : doPath.toList.length = doPath.length := String.length_toList
  have hf : fc.toList.length = fc.length := String.length_toList
  have htotal := length_bracketed doPath fc
  have hdrop : (doPath.toList ++ '[' :: (fc.toList ++ [']'])).drop (doPath.length + 1) =
      fc.toList ++ [']'] := by
    rw [← hp, ← List.drop_drop, List.drop_left]
    rfl
  unfold substr
  rw [if_neg (by omega), toList_bracketed, hdrop, ← hf]
  simp

/-- Such a member is taken apart into its two parts. -/
theorem splitDoPathWithFC_bracketed (hpath : '[' ∉ doPath.toList) (hpath' : ']' ∉ doPath.toList)
    (hfc : ']' ∉ fc.toList) (hlen : (doPath ++ "[" ++ fc ++ "]").length ≤ npos) :
    splitDoPathWithFC (doPath ++ "[" ++ fc ++ "]") = .ok (doPath, fc) := by
  rw [length_bracketed] at hlen
  have hsize : SIZE_T = npos + 1 := rfl
  -- both positions and the length of the constraint fit into a `size_t`
  have hbehind : (doPath.length + 1) % SIZE_T = doPath.length + 1 := Nat.mod_eq_of_lt (by omega)
  have hcount : (doPath.length + 1 + fc.length + 2 * SIZE_T - doPath.length - 1) % SIZE_T =
      fc.length := by
    have hsum : doPath.length + 1 + fc.length + 2 * SIZE_T - doPath.length - 1 =
        fc.length + 2 * SIZE_T := by omega
    rw [hsum, Nat.add_mul_mod_self_right, Nat.mod_eq_of_lt (by omega)]
  unfold splitDoPathWithFC
  rw [find_open_bracketed hpath, find_close_bracketed hpath' hfc, substr_path_bracketed]
  show (substr _ _ _ >>= fun functionalConstraintStr =>
    Except.ok (doPath, functionalConstraintStr)) = _
  rw [hbehind, hcount, substr_constraint_bracketed]
  rfl

end Bracketed

end Iec61850South
