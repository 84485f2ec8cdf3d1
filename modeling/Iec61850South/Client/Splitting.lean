import Iec61850South.Client.DatasetLabels
import Mathlib.Algebra.Group.Nat.Defs
import Mathlib.Data.List.TakeWhile

/-! # Splitting the reference of a member

`buildConfigurationNameTrees` takes three substrings of a reference. Their positions
are sums and differences of searches that may find nothing, modulo `2 ^ 64`. None of
them is behind the end of its string, whatever the IED has sent
(`member_references_split`).
-/

namespace Iec61850South

open Lib IEC61850ClientConnection

/-! ## The path -/

/-- The part before the first opening bracket, or the whole string. -/
def pathPart (doPathWithFC : String) : String :=
  String.ofList (doPathWithFC.toList.takeWhile (· ≠ '['))

theorem length_pathPart_le (doPathWithFC : String) :
    (pathPart doPathWithFC).length ≤ doPathWithFC.length := by
  rw [pathPart, String.length_ofList, ← String.length_toList]
  exact (List.takeWhile_sublist _).length_le

/-- What is in front of the first occurrence, or everything. -/
theorem take_findFrom {c : Char} {haystack : List Char} (hlen : haystack.length ≤ npos) :
    haystack.take (findFrom [c] haystack 0) = haystack.takeWhile (· ≠ c) := by
  by_cases hmem : c ∈ haystack
  · rcases List.eq_append_cons_of_mem hmem with ⟨before, after, rfl, hbefore⟩
    rw [findFrom_singleton hbefore, takeWhile_ne_of_notMem hbefore, Nat.zero_add, List.take_left]
  · -- nothing is found, and `npos` characters are the whole string
    have hfind : findFrom [c] haystack 0 = npos := by
      by_contra hfound
      have hoccurs := (findFrom_ne_npos_iff (by simp) (by omega)).mp hfound
      exact hmem (hoccurs.subset (List.mem_singleton_self c))
    have hall : haystack.takeWhile (· ≠ c) = haystack := by
      rw [List.takeWhile_eq_self_iff]
      intro b hb
      exact decide_eq_true (ne_of_mem_of_not_mem hb hmem)
    rw [hfind, hall, List.take_of_length_le hlen]

/-- The path is what is in front of the brackets, whether there are any or not. -/
theorem splitDoPathWithFC_path {doPathWithFC : String} (hlen : doPathWithFC.length ≤ npos) :
    ∃ functionalConstraintStr, splitDoPathWithFC doPathWithFC =
      .ok (pathPart doPathWithFC, functionalConstraintStr) := by
  rcases splitDoPathWithFC_returns doPathWithFC with ⟨⟨doPath, functionalConstraintStr⟩, hsplit⟩
  refine ⟨functionalConstraintStr, ?_⟩
  have hpath : substr doPathWithFC 0 (find doPathWithFC "[") = .ok (pathPart doPathWithFC) := by
    rw [← String.length_toList] at hlen
    have htake : doPathWithFC.toList.take (find doPathWithFC "[") =
        doPathWithFC.toList.takeWhile (· ≠ '[') := take_findFrom hlen
    rw [substr, if_neg (by omega), List.drop_zero, htake, pathPart]
  have hfirst := hsplit
  rw [splitDoPathWithFC, hpath] at hfirst
  rcases except_bind_eq_ok.mp hfirst with ⟨path, hpath', hrest⟩
  rcases except_bind_eq_ok.mp hrest with ⟨_, _, hparts⟩
  cases hpath'
  cases hparts
  exact hsplit

/-! ## The last name -/

/-- The position of the last occurrence, or what has been found before. -/
def findLastFrom (c : Char) : (haystack : List Char) → (pos found : Nat) → Nat
  | [], _, found => found
  | d :: haystack, pos, found => findLastFrom c haystack (pos + 1) (if d = c then pos else found)

/-- `s.find_last_of(c)` -/
def findLastOf (s : String) (c : Char) : Nat :=
  findLastFrom c s.toList 0 npos

/-- The label of a DO when no DO is selected, with the positions that the source
computes. -/
def doNameOf (dataPath : String) : Except Abort String :=
  if findLastOf dataPath '.' ≠ npos then
    substr dataPath ((findLastOf dataPath '.' + 1) % SIZE_T) npos
  else
    .ok "noName"

theorem findLastFrom_of_notMem {c : Char} {haystack : List Char} (h : c ∉ haystack)
    (pos found : Nat) : findLastFrom c haystack pos found = found := by
  induction haystack generalizing pos with
  | nil => rfl
  | cons d haystack ih =>
    rw [List.mem_cons, not_or] at h
    rw [findLastFrom, if_neg (Ne.symm h.1), ih h.2]

theorem findLastFrom_singleton {c : Char} {after : List Char} (h : c ∉ after)
    (before : List Char) (pos found : Nat) :
    findLastFrom c (before ++ c :: after) pos found = pos + before.length := by
  induction before generalizing pos found with
  | nil => rw [List.nil_append, findLastFrom, if_pos rfl, findLastFrom_of_notMem h]; rfl
  | cons d before ih =>
    rw [List.cons_append, findLastFrom, ih, List.length_cons]
    omega

/-- The last name starts within the string, and it is the label of the model. -/
theorem doNameOf_eq {dataPath : String} (hlen : dataPath.length < npos) :
    doNameOf dataPath = .ok (pathLabel dataPath) := by
  unfold doNameOf pathLabel findLastOf
  rw [← String.length_toList] at hlen
  cases hpart : afterLastDot dataPath with
  | none =>
    rw [findLastFrom_of_notMem (afterLastDot_eq_none_iff.mp hpart), if_neg (by simp)]
    rfl
  | some part =>
    rcases afterLastDot_eq_some_iff.mp hpart with ⟨before, hpath, hdot⟩
    rw [hpath, List.length_append, List.length_cons] at hlen
    rw [hpath, findLastFrom_singleton hdot, Nat.zero_add, if_pos (by omega)]
    have hbehind : (before.length + 1) % SIZE_T = before.length + 1 :=
      Nat.mod_eq_of_lt (by unfold npos at hlen; omega)
    rw [hbehind, substr, ← String.length_toList, hpath, if_neg (by simp), ← List.drop_drop,
      List.drop_left, List.drop_one, List.tail_cons, List.take_of_length_le (by omega),
      String.ofList_toList]
    rfl

/-! ## All references -/

/-- The three substrings of a reference. -/
structure SplitsSafely (doPathWithFC : String) : Prop where
  /-- The constraint starts within the string. The path always starts at 0. -/
  starts : (find doPathWithFC "[" + 1) % SIZE_T ≤ doPathWithFC.length
  path : ∃ functionalConstraintStr, splitDoPathWithFC doPathWithFC =
    .ok (pathPart doPathWithFC, functionalConstraintStr)
  /-- So does the last name of the path, when there is a dot. -/
  name : doNameOf (pathPart doPathWithFC) = .ok (pathLabel (pathPart doPathWithFC))

theorem splitsSafely {doPathWithFC : String} (hlen : doPathWithFC.length < 2 ^ 63) :
    SplitsSafely doPathWithFC := by
  have hnpos : 2 ^ 63 < npos := by decide
  have hpart := length_pathPart_le doPathWithFC
  constructor
  · exact behind_bracket_le doPathWithFC
  · exact splitDoPathWithFC_path (by omega)
  · exact doNameOf_eq (by omega)

abbrev WithoutBrackets (s : String) : Prop :=
  '[' ∉ s.toList ∧ ']' ∉ s.toList

/-- **A reference is split safely and exactly.** No exception leaves the launch
thread, the path is what is in front of the first bracket, and a reference that is
put together from a path and a constraint is taken apart again. -/
theorem member_references_split (plat : Platform) (setup : ClientSetup) (env : Environment)
    (fuel rounds : Nat) :
    (∀ s e s', initializeConnection plat setup env fuel rounds s = .error e s' →
      e = .outOfFuel) ∧
    (∀ doPathWithFC : String, doPathWithFC.length < 2 ^ 63 → SplitsSafely doPathWithFC) ∧
    ∀ doPath fc : String, WithoutBrackets doPath → WithoutBrackets fc →
      (doPath ++ "[" ++ fc ++ "]").length < 2 ^ 63 →
      splitDoPathWithFC (doPath ++ "[" ++ fc ++ "]") = .ok (doPath, fc) := by
  refine ⟨fun s e s' h => initializeConnection_error h, fun _ hlen => splitsSafely hlen, ?_⟩
  intro doPath fc hpath hfc hlen
  have hnpos : 2 ^ 63 < npos := by decide
  exact splitDoPathWithFC_bracketed hpath.1 hpath.2 hfc.2 (by omega)

theorem member_references_split_sample :
    SplitsSafely "]Ind1[ST" ∧
      splitDoPathWithFC ("IED1LD0/GGIO1.Ind1" ++ "[" ++ "ST" ++ "]") =
        .ok ("IED1LD0/GGIO1.Ind1", "ST") := by
  have hsplit := member_references_split (.withDocuments []) (smallSetup .DO_READING []) smallIed 3 2
  constructor
  · exact hsplit.2.1 "]Ind1[ST" (by decide)
  · exact hsplit.2.2 "IED1LD0/GGIO1.Ind1" "ST" (by decide) (by decide) (by decide)

end Iec61850South
