import Std.Data.ExtTreeMap
import Mathlib.Data.List.Forall2

/-! # Ordered maps filled entry by entry

`insertAll m l` writes the entries of `l` into the ordered map `m` one after
the other, as a loop of `map[key] = value` does. A key that is written several
times keeps the last value (`getElem?_insertAll`); the two `iff` lemmas say
when the previous content is completely replaced and when nothing changes.
-/

namespace Lib

open Std

variable {κ ν : Type} [Ord κ] [TransOrd κ] [LawfulEqOrd κ] [DecidableEq κ]

/-- Write the entries into the map, in order. -/
def insertAll (m : ExtTreeMap κ ν) (l : List (κ × ν)) : ExtTreeMap κ ν :=
  l.foldl (fun m p => m.insert p.1 p.2) m

/-- The last value that the entries give to a key. -/
def lastValue (l : List (κ × ν)) (k : κ) : Option ν :=
  l.reverse.lookup k

omit [LawfulEqOrd κ] [DecidableEq κ] in
@[simp] theorem insertAll_nil (m : ExtTreeMap κ ν) : insertAll m [] = m := rfl

omit [LawfulEqOrd κ] [DecidableEq κ] in
@[simp] theorem insertAll_cons (m : ExtTreeMap κ ν) (p : κ × ν) (l : List (κ × ν)) :
    insertAll m (p :: l) = insertAll (m.insert p.1 p.2) l := rfl

omit [Ord κ] [TransOrd κ] [LawfulEqOrd κ] in
@[simp] theorem lastValue_nil (k : κ) : lastValue ([] : List (κ × ν)) k = none := rfl

omit [Ord κ] [TransOrd κ] [LawfulEqOrd κ] in
/-- The last value under a key is looked for behind the first entry, and then in it. -/
theorem lastValue_cons (p : κ × ν) (l : List (κ × ν)) (k : κ) :
    lastValue (p :: l) k = (lastValue l k).or (if k = p.1 then some p.2 else none) := by
  rcases p with ⟨pk, pv⟩
  rw [lastValue, lastValue, List.reverse_cons, List.lookup_append]
  by_cases h : k = pk
  · simp [h]
  · have hne : (k == pk) = false := by simpa using h
    simp [List.lookup_cons, hne, h]

omit [Ord κ] [TransOrd κ] [LawfulEqOrd κ] in
/-- There is a last value exactly when there is one. -/
theorem lastValue_isSome {l : List (κ × ν)} {k : κ} :
    (lastValue l k).isSome ↔ ∃ p ∈ l, p.1 = k := by
  induction l with
  | nil => simp
  | cons p l ih =>
    rw [lastValue_cons, Option.isSome_or, Bool.or_eq_true, ih]
    by_cases h : k = p.1
    · simp [h]
    · simp [h, Ne.symm h]

/-- What is found is an entry. -/
theorem mem_of_lookup {κ ν : Type} [BEq κ] [LawfulBEq κ] {l : List (κ × ν)} {k : κ} {v : ν}
    (h : l.lookup k = some v) : (k, v) ∈ l := by
  rcases List.lookup_eq_some_iff.mp h with ⟨before, after, hl, _⟩
  rw [hl]
  exact List.mem_append_right before List.mem_cons_self

omit [Ord κ] [TransOrd κ] [LawfulEqOrd κ] in
/-- The last value belongs to an entry. -/
theorem mem_of_lastValue {l : List (κ × ν)} {k : κ} {v : ν} (h : lastValue l k = some v) :
    (k, v) ∈ l := by
  have hmem : (k, v) ∈ l.reverse := mem_of_lookup h
  exact List.mem_reverse.mp hmem

omit [LawfulEqOrd κ] [DecidableEq κ] in
/-- A key that is there has a value. -/
theorem mem_iff_exists {m : ExtTreeMap κ ν} {k : κ} : k ∈ m ↔ ∃ v, m[k]? = some v := by
  rw [← ExtTreeMap.isSome_getElem?_iff_mem, Option.isSome_iff_exists]

/-- Writing one entry. -/
theorem getElem?_insert_eq (m : ExtTreeMap κ ν) (k : κ) (v : ν) (k' : κ) :
    (m.insert k v)[k']? = if k = k' then some v else m[k']? := by
  rw [ExtTreeMap.getElem?_insert]
  simp only [LawfulEqOrd.compare_eq_iff_eq]

/-- Removing one entry. -/
theorem getElem?_erase_eq (m : ExtTreeMap κ ν) (k k' : κ) :
    (m.erase k)[k']? = if k = k' then none else m[k']? := by
  rw [ExtTreeMap.getElem?_erase]
  simp only [LawfulEqOrd.compare_eq_iff_eq]

/-- Writing what is there. -/
theorem insert_self_eq {m : ExtTreeMap κ ν} {k : κ} {v : ν} (h : m[k]? = some v) :
    m.insert k v = m := by
  apply ExtTreeMap.ext_getElem?
  intro k'
  rw [getElem?_insert_eq]
  by_cases hk : k = k'
  · rw [if_pos hk, ← hk, h]
  · rw [if_neg hk]

/-- The values are mapped, the keys stay. -/
theorem map_insert_eq {μ : Type} (m : ExtTreeMap κ ν) (k : κ) (v : ν) (f : ν → μ) :
    (m.insert k v).map (fun _ v => f v) = (m.map fun _ v => f v).insert k (f v) := by
  apply ExtTreeMap.ext_getElem?
  intro k'
  rw [ExtTreeMap.getElem?_map, getElem?_insert_eq, getElem?_insert_eq, ExtTreeMap.getElem?_map]
  by_cases hk : k = k'
  · rw [if_pos hk, if_pos hk]
    rfl
  · rw [if_neg hk, if_neg hk]

/-- What is erased is erased from the mapped values too. -/
theorem map_erase_eq {μ : Type} (m : ExtTreeMap κ ν) (k : κ) (f : ν → μ) :
    (m.erase k).map (fun _ v => f v) = (m.map fun _ v => f v).erase k := by
  apply ExtTreeMap.ext_getElem?
  intro k'
  rw [ExtTreeMap.getElem?_map, getElem?_erase_eq, getElem?_erase_eq, ExtTreeMap.getElem?_map]
  by_cases hk : k = k'
  · rw [if_pos hk, if_pos hk]
    rfl
  · rw [if_neg hk, if_neg hk]

/-- The last writer of a key wins; a key that is not written keeps its value. -/
theorem getElem?_insertAll (m : ExtTreeMap κ ν) (l : List (κ × ν)) (k : κ) :
    (insertAll m l)[k]? = (lastValue l k).or m[k]? := by
  induction l generalizing m with
  | nil => simp
  | cons p l ih =>
    rw [insertAll_cons, ih, lastValue_cons, getElem?_insert_eq]
    cases hl : lastValue l k with
    | some v => simp
    | none =>
      by_cases h : k = p.1
      · simp [h]
      · rw [if_neg (Ne.symm h), if_neg h]
        simp

omit [DecidableEq κ] in
/-- No key is listed twice. -/
theorem toList_pairwise_ne (m : ExtTreeMap κ ν) : m.toList.Pairwise fun p q => p.1 ≠ q.1 :=
  ExtTreeMap.distinct_keys_toList.imp fun h heq => h (LawfulEqOrd.compare_eq_iff_eq.mpr heq)

/-- The keys after the insertions are the old ones and the new ones. -/
theorem mem_insertAll {m : ExtTreeMap κ ν} {l : List (κ × ν)} {k : κ} :
    k ∈ insertAll m l ↔ (∃ p ∈ l, p.1 = k) ∨ k ∈ m := by
  rw [← ExtTreeMap.isSome_getElem?_iff_mem, getElem?_insertAll, Option.isSome_or,
    Bool.or_eq_true, lastValue_isSome, ExtTreeMap.isSome_getElem?_iff_mem]

/-- Writing the entries of a map, each sent through `f`. -/
theorem getElem?_insertAll_toList {μ : Type} (m : ExtTreeMap κ ν) (t : ExtTreeMap κ μ) (f : μ → ν)
    (k : κ) :
    (insertAll m (t.toList.map fun s => (s.1, f s.2)))[k]? = (t[k]?.map f).or m[k]? := by
  rw [getElem?_insertAll]
  congr 1
  cases hlast : lastValue (t.toList.map fun s => (s.1, f s.2)) k with
  | some v =>
    rcases List.mem_map.mp (mem_of_lastValue hlast) with ⟨s, hs, heq⟩
    cases heq
    rw [ExtTreeMap.mem_toList_iff_getElem?_eq_some.mp hs]
    rfl
  | none =>
    cases hk : t[k]? with
    | none => rfl
    | some u =>
      have hmem : (k, f u) ∈ t.toList.map fun s => (s.1, f s.2) :=
        List.mem_map.mpr ⟨(k, u), ExtTreeMap.mem_toList_iff_getElem?_eq_some.mpr hk, rfl⟩
      have hsome := lastValue_isSome.mpr ⟨_, hmem, rfl⟩
      rw [hlast] at hsome
      simp at hsome

/-- The entries replace the whole content exactly when they write every old key. -/
theorem insertAll_eq_insertAll_empty_iff {m : ExtTreeMap κ ν} {l : List (κ × ν)} :
    insertAll m l = insertAll ∅ l ↔ ∀ k ∈ m, ∃ p ∈ l, p.1 = k := by
  constructor
  · intro h k hk
    have hmem : k ∈ insertAll m l := mem_insertAll.mpr (Or.inr hk)
    rw [h, mem_insertAll] at hmem
    simpa using hmem
  · intro h
    apply ExtTreeMap.ext_getElem?
    intro k
    rw [getElem?_insertAll, getElem?_insertAll]
    by_cases hk : k ∈ m
    · rcases Option.isSome_iff_exists.mp (lastValue_isSome.mpr (h k hk)) with ⟨v, hv⟩
      simp [hv]
    · simp [ExtTreeMap.getElem?_eq_none hk]

/-- Entries with the same keys leave related contents exactly when the first ones write
every old key, and the values written last are related. -/
theorem rel_insertAll_iff {μ : Type} {R : ν → μ → Prop} {m : ExtTreeMap κ ν} {l : List (κ × ν)}
    {l' : List (κ × μ)} (hkeys : l.map Prod.fst = l'.map Prod.fst) :
    (∀ k : κ, Option.Rel R (insertAll m l)[k]? (insertAll ∅ l')[k]?) ↔
      (∀ k ∈ m, ∃ p ∈ l, p.1 = k) ∧
        ∀ k v v', lastValue l k = some v → lastValue l' k = some v' → R v v' := by
  have hsome : ∀ k, (lastValue l k).isSome = true ↔ (lastValue l' k).isSome = true := by
    intro k
    rw [lastValue_isSome, lastValue_isSome, ← List.mem_map, ← List.mem_map, hkeys]
  simp only [getElem?_insertAll, ExtTreeMap.getElem?_empty, Option.or_none]
  constructor
  · intro h
    refine ⟨fun k hk => ?_, fun k v v' hv hv' => ?_⟩
    · refine lastValue_isSome.mp ?_
      -- an old value that is kept is related to nothing
      by_contra hnone
      have hrel := h k
      rw [Option.not_isSome_iff_eq_none.mp hnone,
        Option.not_isSome_iff_eq_none.mp fun hsome' => hnone ((hsome k).mpr hsome'),
        ExtTreeMap.getElem?_eq_some_getElem hk] at hrel
      cases hrel
    · have hrel := h k
      rw [hv, hv'] at hrel
      cases hrel with
      | some hR => exact hR
  · rintro ⟨hcovers, hvalues⟩ k
    cases hv : lastValue l k with
    | some v =>
      rcases Option.isSome_iff_exists.mp ((hsome k).mp (by rw [hv]; rfl)) with ⟨v', hv'⟩
      rw [hv', Option.some_or]
      exact .some (hvalues k v v' hv hv')
    | none =>
      have hnone' : lastValue l' k = none := by
        rw [← Option.not_isSome_iff_eq_none, ← hsome, hv]
        exact Bool.false_ne_true
      have hm : m[k]? = none := by
        refine ExtTreeMap.getElem?_eq_none fun hk => ?_
        have hwritten := lastValue_isSome.mpr (hcovers k hk)
        rw [hv] at hwritten
        cases hwritten
      rw [hnone', hm]
      exact .none

/-- Nothing changes exactly when each key is last given the value it has. -/
theorem insertAll_eq_self_iff {m : ExtTreeMap κ ν} {l : List (κ × ν)} :
    insertAll m l = m ↔ ∀ k v, lastValue l k = some v → m[k]? = some v := by
  constructor
  · intro h k v hv
    rw [← h, getElem?_insertAll, hv]
    rfl
  · intro h
    apply ExtTreeMap.ext_getElem?
    intro k
    rw [getElem?_insertAll]
    cases hv : lastValue l k with
    | none => simp
    | some v => simp [h k v hv]

/-! ## Entries that are decoded from a list -/

section Decoded

variable {α β : Type} {R : α → β → Prop} {key : α → Option κ} {entry : β → κ × ν} {xs : List α}
  {bs : List β} {k : κ} {v : ν}

/-- No later element of the list has the key of `x`. -/
def IsLastWith (key : α → Option κ) (k : κ) (xs : List α) (x : α) : Prop :=
  ∃ before after, xs = before ++ x :: after ∧ key x = some k ∧ ∀ y ∈ after, key y ≠ some k

omit [Ord κ] [TransOrd κ] [LawfulEqOrd κ] [DecidableEq κ] in
/-- There is only one last element. -/
theorem IsLastWith.unique {x y : α} (hx : IsLastWith key k xs x) (hy : IsLastWith key k xs y) :
    x = y := by
  rcases hx with ⟨before, after, hsplit, hkx, hafter⟩
  rcases hy with ⟨before', after', hsplit', hky, hafter'⟩
  rw [hsplit] at hsplit'
  -- the one that stands earlier would have the other one behind it
  rcases List.append_eq_append_iff.mp hsplit' with ⟨between, _, h⟩ | ⟨between, _, h⟩
  · cases between with
    | nil => exact (List.cons.inj h).1
    | cons z between =>
      have hmem : y ∈ after := by simp [(List.cons.inj h).2]
      exact absurd hky (hafter y hmem)
  · cases between with
    | nil => exact (List.cons.inj h).1.symm
    | cons z between =>
      have hmem : x ∈ after' := by simp [(List.cons.inj h).2]
      exact absurd hkx (hafter' x hmem)

omit [Ord κ] [TransOrd κ] [LawfulEqOrd κ] [DecidableEq κ] in
/-- Each element has left an entry under its key. -/
theorem exists_of_decoded (hkey : ∀ x b, R x b → key x = some (entry b).1)
    (h : List.Forall₂ R xs bs) {x : α} (hx : x ∈ xs) (hk : key x = some k) :
    ∃ p ∈ bs.map entry, p.1 = k := by
  induction h with
  | nil => cases hx
  | cons hxb _ ih =>
    rcases List.mem_cons.mp hx with rfl | hx
    · have heq : some _ = some k := (hkey _ _ hxb).symm.trans hk
      exact ⟨_, List.mem_cons_self, Option.some.inj heq⟩
    · rcases ih hx with ⟨p, hp, hpk⟩
      exact ⟨p, List.mem_cons_of_mem _ hp, hpk⟩

omit [Ord κ] [TransOrd κ] [LawfulEqOrd κ] in
/-- The last value of a key comes from the last element that has the key. -/
theorem lastValue_of_decoded (hkey : ∀ x b, R x b → key x = some (entry b).1)
    (h : List.Forall₂ R xs bs) (hlast : lastValue (bs.map entry) k = some v) :
    ∃ x b, IsLastWith key k xs x ∧ R x b ∧ entry b = (k, v) := by
  induction h with
  | nil => cases hlast
  | @cons x b xs bs hxb hrest ih =>
    rw [List.map_cons, lastValue_cons] at hlast
    cases hlater : lastValue (bs.map entry) k with
    | some w =>
      rw [hlater, Option.some_or] at hlast
      obtain ⟨y, c, ⟨before, after, hsplit, hy, hafter⟩, hyc, hentry⟩ := ih (hlater.trans hlast)
      exact ⟨y, c, ⟨x :: before, after, by rw [hsplit, List.cons_append], hy, hafter⟩, hyc, hentry⟩
    | none =>
      rw [hlater, Option.none_or] at hlast
      have hk : k = (entry b).1 := by
        by_contra hne
        rw [if_neg hne] at hlast
        cases hlast
      rw [if_pos hk] at hlast
      -- the key is not written later, so no later element has it
      have hnone : ∀ y ∈ xs, key y ≠ some k := by
        intro y hy hyk
        have hsome := lastValue_isSome.mpr (exists_of_decoded hkey hrest hy hyk)
        rw [hlater] at hsome
        cases hsome
      have hx : key x = some k := (hkey x b hxb).trans (congrArg some hk.symm)
      exact ⟨x, b, ⟨[], xs, rfl, hx, hnone⟩, hxb, Prod.ext hk.symm (Option.some.inj hlast)⟩

/-- A map that is filled from an empty one has the keys of the list, and for each
of them what the last element with the key is decoded to. -/
theorem getElem?_of_decoded (hkey : ∀ x b, R x b → key x = some (entry b).1)
    (h : List.Forall₂ R xs bs) (k : κ) :
    ((insertAll ∅ (bs.map entry))[k]?.isSome ↔ ∃ x ∈ xs, key x = some k) ∧
      ∀ v, (insertAll ∅ (bs.map entry))[k]? = some v →
        ∃ x b, IsLastWith key k xs x ∧ R x b ∧ entry b = (k, v) := by
  have hlookup : (insertAll ∅ (bs.map entry))[k]? = lastValue (bs.map entry) k := by
    rw [getElem?_insertAll]
    simp
  rw [hlookup]
  have hsource := fun v hv => lastValue_of_decoded (k := k) (v := v) hkey h hv
  refine ⟨⟨?_, ?_⟩, hsource⟩
  · intro hsome
    rcases Option.isSome_iff_exists.mp hsome with ⟨v, hv⟩
    obtain ⟨x, _, ⟨before, after, hsplit, hx, _⟩, _⟩ := hsource v hv
    exact ⟨x, by simp [hsplit], hx⟩
  · rintro ⟨x, hx, hk⟩
    exact lastValue_isSome.mpr (exists_of_decoded hkey h hx hk)

end Decoded

end Lib
