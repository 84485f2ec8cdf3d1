import Iec61850South.Client.Datasets

/-! # Which members of a dataset are selected

A data object is selected by its name, which the code looks for in the path of a
member. It asks for a dot before the name, but not for one behind it, so a name
is also found at the beginning of a longer one. `selection_exact_iff` says which
directories and selections this affects.
-/

namespace Iec61850South

open Lib Lib.Emission IEC61850ClientConnection

/-! ## Names within paths -/

/-- The name is a whole dotted part of the path: behind a dot, and followed by
another dot or by the end. -/
def IsWholePart (doName doPath : String) : Prop :=
  ∃ before after, doPath.toList = before ++ '.' :: (doName.toList ++ after) ∧
    ∀ c ∈ after.head?, c = '.'

theorem isWholePart_iff {doName doPath : String} : IsWholePart doName doPath ↔
    ∃ part ∈ doPath.toList.tails, ('.' :: doName.toList) <+: part ∧
      (part.drop (doName.toList.length + 1)).head?.all (· == '.') = true := by
  simp only [Option.all_eq_true, beq_iff_eq]
  constructor
  · rintro ⟨before, after, hpath, hafter⟩
    refine ⟨'.' :: (doName.toList ++ after), ?_, ⟨after, by simp⟩, by simpa using hafter⟩
    rw [List.mem_tails, hpath]
    exact List.suffix_append ..
  · rintro ⟨part, hpart, ⟨after, rfl⟩, hafter⟩
    rcases (List.mem_tails _ _).mp hpart with ⟨before, hpath⟩
    exact ⟨before, after, by simpa using hpath.symm, by simpa using hafter⟩

instance (doName doPath : String) : Decidable (IsWholePart doName doPath) :=
  decidable_of_iff _ isWholePart_iff.symm

/-- The first entry whose name is a whole part of the path. -/
def findWholePart (selection : ExchangedData) (doPath : String) : Option DatapointConfig :=
  selection.find? fun selectedDO => IsWholePart selectedDO.dataPath doPath

/-- A whole part is found by the code. -/
theorem find_of_isWholePart {doName doPath : String} (hsize : doPath.length ≤ npos)
    (h : IsWholePart doName doPath) : find doPath ("." ++ doName) ≠ npos := by
  rw [find_ne_npos_iff (by simp [String.ext_iff]) hsize]
  rcases h with ⟨before, after, hpath, _⟩
  exact ⟨before, after, by simp [hpath]⟩

section FirstMatch

variable {α : Type} {p q : α → Bool} {l : List α} {a : α}

/-- If the first match is also one for a narrower test, then it is the first one
for that test. -/
theorem find?_of_narrower (himp : ∀ b ∈ l, q b = true → p b = true) (h : l.find? p = some a)
    (ha : q a = true) : l.find? q = some a := by
  rw [List.find?_eq_some_iff_append] at h ⊢
  rcases h with ⟨_, before, after, rfl, hbefore⟩
  refine ⟨ha, before, after, rfl, ?_⟩
  intro b hb
  have hp := hbefore b hb
  cases hq : q b with
  | false => rfl
  | true =>
    rw [himp b (by simp [hb]) hq] at hp
    cases hp

theorem find?_none_of_narrower (himp : ∀ b ∈ l, q b = true → p b = true) (h : l.find? p = none) :
    l.find? q = none := by
  rw [List.find?_eq_none] at h ⊢
  exact fun b hb hq => h b hb (himp b hb hq)

end FirstMatch

/-! ## Entries and the selection -/

/-- What a member gets from the entry that selects it. -/
def selectedProperties (dpConfig : DatapointConfig) : String × String × DatapointTypeId :=
  (dpConfig.label, dpConfig.datapointType, dpConfig.datapointTypeId)

/-- The first entry that is found in the path is a whole part of it, or gives the
same properties as the first one that is. -/
def FirstMatchIsWhole (selection : ExchangedData) (doPath : String) : Prop :=
  ∀ selectedDO, findSelectedDO selection doPath = some selectedDO →
    IsWholePart selectedDO.dataPath doPath ∨
      (findWholePart selection doPath).map selectedProperties =
        some (selectedProperties selectedDO)

/-- The member has the properties of the first entry whose name is a whole part
of its path. If there is none, its label is empty and it is never exported. -/
def SelectedExactly (plat : Platform) (setup : ClientSetup) (selection : ExchangedData)
    (dpConfig : DatapointConfig) : Prop :=
  match findWholePart selection dpConfig.dataPath with
  | some selectedDO => selectedProperties dpConfig = selectedProperties selectedDO
  | none => dpConfig.label = "" ∧
    ∀ element, memberEmission plat setup (element, dpConfig) = .done

/-- If any member is selected, then all members are selected exactly. -/
def SelectionExact (plat : Platform) (setup : ClientSetup) (selection : ExchangedData)
    (exchangedDataset : ExchangedData) : Prop :=
  (∃ dpConfig ∈ exchangedDataset, (findSelectedDO selection dpConfig.dataPath).isSome) →
    ∀ dpConfig ∈ exchangedDataset, SelectedExactly plat setup selection dpConfig

/-- What the loop over the members leaves in an entry. -/
def Imported (selection : ExchangedData) (dpConfig : DatapointConfig) : Prop :=
  match findSelectedDO selection dpConfig.dataPath with
  | some selectedDO => selectedProperties dpConfig = selectedProperties selectedDO
  | none => dpConfig.label = ""

variable {plat : Platform} {setup : ClientSetup} {env : Environment} {fuel : Nat}
  {selection : ExchangedData}

theorem applySelection_imported (selection : ExchangedData) {dpConfig : DatapointConfig}
    (hlabel : dpConfig.label = "") :
    Imported selection (applySelection selection dpConfig) ∧
      (applySelection selection dpConfig).dataPath = dpConfig.dataPath := by
  unfold Imported applySelection
  cases h : findSelectedDO selection dpConfig.dataPath with
  | none => simp [h, hlabel]
  | some selectedDO => simp [h, selectedProperties]

/-- Whole parts are found, so both searches can be compared. -/
theorem findWholePart_of_findSelectedDO (selection : ExchangedData) {doPath : String}
    (hsize : doPath.length ≤ npos) :
    (findSelectedDO selection doPath = none → findWholePart selection doPath = none) ∧
      ∀ selectedDO, findSelectedDO selection doPath = some selectedDO →
        IsWholePart selectedDO.dataPath doPath →
          findWholePart selection doPath = some selectedDO := by
  -- a whole part is always found, so the search of the code is the wider one
  have himp : ∀ selectedDO ∈ selection, decide (IsWholePart selectedDO.dataPath doPath) = true →
      decide (find doPath ("." ++ selectedDO.dataPath) ≠ npos) = true := by
    intro selectedDO _ hwhole
    exact decide_eq_true (find_of_isWholePart hsize (of_decide_eq_true hwhole))
  constructor
  · exact find?_none_of_narrower himp
  · intro selectedDO hfound hwhole
    exact find?_of_narrower himp hfound (decide_eq_true hwhole)

/-- One member is selected exactly when its first match is a whole part. -/
theorem selectedExactly_iff (hlabels : ∀ selectedDO ∈ selection, selectedDO.label ≠ "")
    {dpConfig : DatapointConfig} (hsize : dpConfig.dataPath.length ≤ npos)
    (himported : Imported selection dpConfig) :
    SelectedExactly plat setup selection dpConfig ↔
      FirstMatchIsWhole selection dpConfig.dataPath := by
  rcases findWholePart_of_findSelectedDO selection hsize with ⟨hnone, hsome⟩
  unfold SelectedExactly FirstMatchIsWhole
  unfold Imported at himported
  cases hfound : findSelectedDO selection dpConfig.dataPath with
  | none =>
    -- nothing is found, so nothing is a whole part either
    rw [hfound] at himported
    rw [hnone hfound]
    refine iff_of_true ⟨himported, fun element => ?_⟩ (fun _ h => by cases h)
    simp [memberEmission, himported]
  | some selectedDO =>
    rw [hfound] at himported
    have hlabel : dpConfig.label ≠ "" := by
      have heq : dpConfig.label = selectedDO.label := congrArg Prod.fst himported
      rw [heq]
      exact hlabels selectedDO (List.mem_of_find?_eq_some hfound)
    cases hwhole : findWholePart selection dpConfig.dataPath with
    | none =>
      apply iff_of_false (fun h => hlabel h.1)
      intro h
      rcases h selectedDO rfl with hpart | hsame
      · rw [hsome selectedDO hfound hpart] at hwhole
        cases hwhole
      · cases hsame
    | some wholeDO =>
      constructor
      · rintro hexact _ ⟨⟩
        right
        rw [Option.map_some, ← himported, hexact]
      · intro h
        rcases h selectedDO rfl with hpart | hsame
        · rw [hsome selectedDO hfound hpart] at hwhole
          cases hwhole
          exact himported
        · have heq : selectedProperties wholeDO = selectedProperties selectedDO :=
            Option.some.inj hsame
          exact himported.trans heq.symm

/-! ## A whole dataset -/

/-- A part of a string is no longer than the string. -/
theorem substr_length_le {s part : String} {pos count : Nat} (h : substr s pos count = .ok part) :
    part.length ≤ s.length := by
  unfold substr at h
  split at h
  · cases h
  · cases h
    rw [String.length_ofList, List.length_take, List.length_drop, String.length_toList]
    omega

theorem splitDoPathWithFC_length_le {doPathWithFC doPath functionalConstraintStr : String}
    (h : splitDoPathWithFC doPathWithFC = .ok (doPath, functionalConstraintStr)) :
    doPath.length ≤ doPathWithFC.length := by
  rcases except_bind_eq_ok.mp h with ⟨path, hpath, h⟩
  rcases except_bind_eq_ok.mp h with ⟨fc, _, h⟩
  cases h
  exact substr_length_le hpath

/-- An entry that the loop over the members has left, and the path of its member. -/
theorem buildMember_imported {doPathWithFC : String} {dpConfig : DatapointConfig}
    {s s' : ClientState}
    (h : buildMember plat env fuel selection doPathWithFC s = .ok dpConfig s') :
    Imported selection dpConfig ∧ ∃ functionalConstraintStr,
      splitDoPathWithFC doPathWithFC = .ok (dpConfig.dataPath, functionalConstraintStr) := by
  rcases buildMember_eq_ok h with ⟨doPath, fcStr, nameTree, hsplit, _, rfl⟩
  have hlabel : ({ dataPath := doPath
                   functionalConstraint := plat.FunctionalConstraint_fromString fcStr
                   mmsNameTree := some nameTree } : DatapointConfig).label = "" := rfl
  rcases applySelection_imported selection hlabel with ⟨himported, hpath⟩
  refine ⟨himported, fcStr, ?_⟩
  rw [hpath, hsplit]

theorem Imported.label_ne {dpConfig : DatapointConfig}
    (hlabels : ∀ selectedDO ∈ selection, selectedDO.label ≠ "") (h : Imported selection dpConfig)
    (hfound : (findSelectedDO selection dpConfig.dataPath).isSome) : dpConfig.label ≠ "" := by
  rcases Option.isSome_iff_exists.mp hfound with ⟨selectedDO, hselected⟩
  unfold Imported at h
  rw [hselected] at h
  have heq : dpConfig.label = selectedDO.label := congrArg Prod.fst h
  rw [heq]
  exact hlabels selectedDO (List.mem_of_find?_eq_some hselected)

theorem selectAllIfNone_dataPath (entries : ExchangedData) :
    (selectAllIfNone entries).map DatapointConfig.dataPath =
      entries.map DatapointConfig.dataPath := by
  unfold selectAllIfNone
  split
  · rw [List.map_map]
    rfl
  · rfl

/-- With a label in the dataset, the entries stay as the selection has left them. -/
theorem selectAllIfNone_of_label {entries : ExchangedData} {dpConfig : DatapointConfig}
    (hmem : dpConfig ∈ entries) (hlabel : dpConfig.label ≠ "") :
    selectAllIfNone entries = entries := by
  unfold selectAllIfNone
  rw [if_neg]
  intro hall
  exact hlabel (of_decide_eq_true (List.all_eq_true.mp hall dpConfig hmem))

/-- What holds of the paths of all entries holds of the paths of all members. -/
theorem forall_members_iff {members : List String} {entries : ExchangedData}
    (h : List.Forall₂ (fun doPathWithFC dpConfig => ∃ functionalConstraintStr,
      splitDoPathWithFC doPathWithFC = .ok (dpConfig.dataPath, functionalConstraintStr))
      members entries) (Q : String → Prop) :
    (∀ doPathWithFC ∈ members, ∀ doPath functionalConstraintStr,
        splitDoPathWithFC doPathWithFC = .ok (doPath, functionalConstraintStr) → Q doPath) ↔
      ∀ dpConfig ∈ entries, Q dpConfig.dataPath := by
  induction h with
  | nil => simp
  | @cons doPathWithFC dpConfig members entries hsplit _ ih =>
    rcases hsplit with ⟨functionalConstraintStr, hsplit⟩
    rw [List.forall_mem_cons, List.forall_mem_cons, ih, hsplit]
    refine and_congr_left' ⟨fun h => h _ _ rfl, ?_⟩
    rintro h _ _ ⟨⟩
    exact h

/-- The first match is a whole part for the path of each member. -/
def FirstMatchesAreWhole (selection : ExchangedData) (members : List String) : Prop :=
  ∀ doPathWithFC ∈ members, ∀ doPath functionalConstraintStr,
    splitDoPathWithFC doPathWithFC = .ok (doPath, functionalConstraintStr) →
      FirstMatchIsWhole selection doPath

theorem DatasetBuilt.selectionExact_iff (hlabels : ∀ selectedDO ∈ selection, selectedDO.label ≠ "")
    {datasetRef : String} {t : ClientState}
    (hsize : ∀ doPathWithFC ∈ directoryAnswer env t.calls datasetRef, doPathWithFC.length ≤ npos)
    {exchangedDataset : ExchangedData}
    (h : DatasetBuilt plat env fuel (datasetRef, selection) t exchangedDataset) :
    SelectionExact plat setup selection exchangedDataset ↔
      FirstMatchesAreWhole selection (directoryAnswer env t.calls datasetRef) := by
  rcases h.members with ⟨entries, rfl, hentries⟩
  have hpaths := hentries.imp fun _ _ ⟨_, _, hrun⟩ => (buildMember_imported hrun).2
  have himported : ∀ dpConfig ∈ entries, Imported selection dpConfig := by
    intro dpConfig hmem
    rcases exists_of_forall₂ hentries hmem with ⟨_, _, _, _, hrun⟩
    exact (buildMember_imported hrun).1
  have hshort : ∀ dpConfig ∈ entries, dpConfig.dataPath.length ≤ npos := by
    intro dpConfig hmem
    rcases exists_of_forall₂ hpaths hmem with ⟨doPathWithFC, hmember, _, hsplit⟩
    exact Nat.le_trans (splitDoPathWithFC_length_le hsplit) (hsize doPathWithFC hmember)
  unfold FirstMatchesAreWhole SelectionExact
  -- the condition is about members, the property about the entries built from them
  rw [forall_members_iff hpaths (FirstMatchIsWhole selection)]
  by_cases hselected : ∃ dpConfig ∈ entries, (findSelectedDO selection dpConfig.dataPath).isSome
  · -- some member has a label, so the entries stay as they are
    rcases hselected with ⟨dpConfig, hmem, hfound⟩
    rw [selectAllIfNone_of_label hmem ((himported dpConfig hmem).label_ne hlabels hfound),
      forall_prop_of_true ⟨dpConfig, hmem, hfound⟩]
    exact forall₂_congr fun entry hentry =>
      selectedExactly_iff hlabels (hshort entry hentry) (himported entry hentry)
  · -- nothing is found in any path
    refine iff_of_true ?_ ?_
    · rintro ⟨dpConfig, hmem, hfound⟩
      have hpath : dpConfig.dataPath ∈ entries.map DatapointConfig.dataPath := by
        rw [← selectAllIfNone_dataPath]
        exact List.mem_map_of_mem hmem
      rcases List.mem_map.mp hpath with ⟨entry, hentry, heq⟩
      rw [← heq] at hfound
      exact absurd ⟨entry, hentry, hfound⟩ hselected
    · intro dpConfig hmem selectedDO hfound
      exact absurd ⟨dpConfig, hmem, by simp [hfound]⟩ hselected

/-- **When the selection is exact.** After a dataset has been built, its members
are selected exactly if and only if, for the path of each member of its
directory, the first entry of the selection that is found in it is a whole part
of it, or gives the same properties as the first one that is. -/
theorem selection_exact_iff (plat : Platform) (setup : ClientSetup) {env : Environment} (fuel : Nat)
    {datasetRef : String} {s : ClientState} (hs : HasConnection s)
    (hlabels : ∀ selectedDO ∈ selection, selectedDO.label ≠ "")
    (hsize : ∀ doPathWithFC ∈ directoryAnswer env s.calls datasetRef,
      doPathWithFC.length ≤ npos) :
    ((∀ fc path, DirectoryEnds env fc fuel path) →
      ∃ s', buildDataset plat env fuel datasetRef selection s = .ok ⟨⟩ s') ∧
    ∀ s', buildDataset plat env fuel datasetRef selection s = .ok ⟨⟩ s' →
      ∃ exchangedDataset, s'.m_localExchangedDatasets[datasetRef]? = some exchangedDataset ∧
        (SelectionExact plat setup selection exchangedDataset ↔
          FirstMatchesAreWhole selection (directoryAnswer env s.calls datasetRef)) := by
  constructor
  · intro hends
    -- the building keeps the connection, and its recursion ends with the directory
    have hP := hasConnection_stable env
    have htree : KeepsTrees env fuel HasConnection fun _ => False :=
      fun path fc nameTree => hP.steady.keeps_buildNameTree_of_ends fuel path (hends fc path) nameTree
    rcases (hP.keeps_buildDataset htree plat datasetRef selection).returns hs with ⟨⟨⟩, s', hrun, _⟩
    exact ⟨s', hrun⟩
  · intro s' hrun
    rcases buildDataset_eq_ok hrun with ⟨exchangedDataset, hbuilt, hlocal⟩
    refine ⟨exchangedDataset, ?_, hbuilt.selectionExact_iff hlabels hsize⟩
    rw [hlocal]
    exact Std.ExtTreeMap.getElem?_insert_self

/-! ## A name that is the beginning of another one -/

/-- The directory has `SPSSO1` and `SPSSO10`, and only the first one is selected. -/
def oneSelected : ExchangedData := [{ label := "TS1", datapointType := "SPS", dataPath := "SPSSO1" }]

@[irreducible] def afterBuild : ClientState :=
  finalState (buildDataset (.withDocuments []) smallIed 3 "IED1LD0/LLN0.DS1" oneSelected
    { m_connection := some {} })

theorem afterBuild_run : buildDataset (.withDocuments []) smallIed 3 "IED1LD0/LLN0.DS1" oneSelected
    { m_connection := some {} } = .ok ⟨⟩ afterBuild := by
  rw [afterBuild]
  exact eq_ok_of_returned (by decide +kernel)

theorem selection_exact_iff_sample :
    ((∀ fc path, DirectoryEnds smallIed fc 3 path) →
      ∃ s', buildDataset (.withDocuments []) smallIed 3 "IED1LD0/LLN0.DS1" oneSelected
        { m_connection := some {} } = .ok ⟨⟩ s') ∧
    ∀ s', buildDataset (.withDocuments []) smallIed 3 "IED1LD0/LLN0.DS1" oneSelected
        { m_connection := some {} } = .ok ⟨⟩ s' →
      ∃ exchangedDataset,
        s'.m_localExchangedDatasets["IED1LD0/LLN0.DS1"]? = some exchangedDataset ∧
        (SelectionExact (.withDocuments []) (smallSetup .DATASET_READING []) oneSelected
            exchangedDataset ↔
          FirstMatchesAreWhole oneSelected (directoryAnswer smallIed 0 "IED1LD0/LLN0.DS1")) :=
  selection_exact_iff (.withDocuments []) (smallSetup .DATASET_READING []) 3 rfl
    (by decide) (by decide +kernel)

/-- In the path of `SPSSO10` the code finds `SPSSO1`, which is no whole part of it. -/
theorem oneSelected_not_whole :
    ¬ FirstMatchesAreWhole oneSelected (directoryAnswer smallIed 0 "IED1LD0/LLN0.DS1") := by
  intro h
  have hmember : "IED1LD0/GGIO1.SPSSO10[ST]" ∈ directoryAnswer smallIed 0 "IED1LD0/LLN0.DS1" := by
    decide +kernel
  have hsplit : splitDoPathWithFC "IED1LD0/GGIO1.SPSSO10[ST]" =
      .ok ("IED1LD0/GGIO1.SPSSO10", "ST") := by decide +kernel
  have hfound : (findSelectedDO oneSelected "IED1LD0/GGIO1.SPSSO10").isSome := by decide +kernel
  rcases Option.isSome_iff_exists.mp hfound with ⟨selectedDO, hselected⟩
  rcases List.mem_singleton.mp (List.mem_of_find?_eq_some hselected) with rfl
  rcases h _ hmember _ _ hsplit _ hselected with hwhole | hsame
  · revert hwhole
    decide +kernel
  · revert hsame
    decide +kernel

/-- `SPSSO10` is selected by the entry for `SPSSO1`. -/
theorem prefix_selects_other :
    ∃ exchangedDataset,
      buildDataset (.withDocuments []) smallIed 3 "IED1LD0/LLN0.DS1" oneSelected
        { m_connection := some {} } = .ok ⟨⟩ afterBuild ∧
      afterBuild.m_localExchangedDatasets["IED1LD0/LLN0.DS1"]? = some exchangedDataset ∧
      exchangedDataset.map (fun dpConfig => (dpConfig.label, dpConfig.dataPath)) =
        [("TS1", "IED1LD0/GGIO1.SPSSO1"), ("TS1", "IED1LD0/GGIO1.SPSSO10")] ∧
      ¬ SelectionExact (.withDocuments []) (smallSetup .DATASET_READING []) oneSelected
        exchangedDataset := by
  rcases buildDataset_eq_ok afterBuild_run with ⟨exchangedDataset, hbuilt, hlocal⟩
  have hlookup : afterBuild.m_localExchangedDatasets["IED1LD0/LLN0.DS1"]? =
      some exchangedDataset := by
    rw [hlocal]
    exact Std.ExtTreeMap.getElem?_insert_self
  refine ⟨exchangedDataset, afterBuild_run, hlookup, ?_, ?_⟩
  · have hfields : afterBuild.m_localExchangedDatasets["IED1LD0/LLN0.DS1"]?.map
        (List.map fun dpConfig => (dpConfig.label, dpConfig.dataPath)) =
          some [("TS1", "IED1LD0/GGIO1.SPSSO1"), ("TS1", "IED1LD0/GGIO1.SPSSO10")] := by
      rw [afterBuild]
      decide +kernel
    rw [hlookup] at hfields
    exact Option.some.inj hfields
  · rw [hbuilt.selectionExact_iff (by decide) (by decide +kernel)]
    exact oneSelected_not_whole

end Iec61850South
