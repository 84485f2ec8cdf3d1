import Iec61850South.Client.NameTree
import Iec61850South.Lib.Writes

/-! # Datasets, from their directory to the Datapoints

The local configuration of a dataset has one entry for each member of its
directory, in order (`buildConfigurationNameTrees_datasets`). A cycle walks over
that configuration and the array that it has read together, so each member is
exported from its own element.
-/

namespace Iec61850South

open Lib Lib.Emission IEC61850ClientConnection

/-! ## The directory of a dataset -/

/-- The answer to the directory request of a dataset whose turn comes at question `n`. -/
def directoryAnswer (env : Environment) (n : Nat) (datasetRef : String) : List String :=
  if env.getState n then (env.getDataSetDirectory (n + 1) datasetRef).1.getD [] else []

/-- The attributes that the IED lists below a path whose turn comes at question `n`. -/
def attributesAnswer (env : Environment) (n : Nat) (path : String) (fc : FunctionalConstraint) :
    List String :=
  if env.getState n then (env.getDataDirectoryByFC (n + 1) path fc).1.getD [] else []

theorem getDoPathListWithFCFromDataset_run (env : Environment) (datasetRef : String)
    {s : ClientState} (hs : HasConnection s) :
    ∃ s', getDoPathListWithFCFromDataset env datasetRef s =
        .ok (directoryAnswer env s.calls datasetRef) s' ∧ HasConnection s' ∧
      s'.m_localExchangedDatasets = s.m_localExchangedDatasets ∧ s.calls < s'.calls := by
  unfold directoryAnswer getDoPathListWithFCFromDataset
  rw [run_bind_ok (isConnected_run env s)]
  cases env.getState s.calls with
  | false => exact ⟨_, rfl, hs, rfl, Nat.lt_succ_self _⟩
  | true =>
    rw [if_neg (by simp), if_pos rfl, getDataSetDirectory, run_bind_ok (request_run ..)]
    exact ⟨_, rfl, isSome_afterRead hs, rfl, Nat.lt_succ_of_lt (Nat.lt_succ_self _)⟩

theorem deref_eq_ok {s s' : ClientState} {connection : IEC61850ClientConnection}
    (h : deref s = .ok connection s') : s' = s ∧ s.m_connection = some connection := by
  cases hs : s.m_connection with
  | none =>
    rw [deref, run_bind_ok (run_get s), hs] at h
    cases h
  | some connection' =>
    rw [deref_run hs] at h
    cases h
    exact ⟨rfl, rfl⟩

/-! ## Entries and members -/

section Entries

variable {plat : Platform} {env : Environment} {fuel : Nat}

/-- An entry of the local configuration for a member of a directory, made in a round
that starts in `s`: its path, its constraint, and the tree that was built for it, with
the label at its root. -/
def BuiltFor (plat : Platform) (env : Environment) (fuel : Nat) (s : ClientState)
    (doPathWithFC : String) (dpConfig : DatapointConfig) : Prop :=
  ∃ doPath functionalConstraintStr nameTree s',
    splitDoPathWithFC doPathWithFC = .ok (doPath, functionalConstraintStr) ∧
    buildNameTree env fuel doPath (plat.FunctionalConstraint_fromString functionalConstraintStr)
      .empty s = .ok nameTree s' ∧
    dpConfig.dataPath = doPath ∧
    dpConfig.functionalConstraint = plat.FunctionalConstraint_fromString functionalConstraintStr ∧
    dpConfig.mmsNameTree = some (nameTree.setName dpConfig.label)

/-- The round of `buildDataset` for a dataset, up to the turn of member `k`. -/
def buildMembersUntil (plat : Platform) (env : Environment) (fuel : Nat)
    (it : String × ExchangedData) (k : Nat) : ClientM ExchangedData := do
  let _ ← deref
  let doPathListWithFC ← getDoPathListWithFCFromDataset env it.1
  (doPathListWithFC.take k).mapM (buildMember plat env fuel it.2)

/-- The entry for a member, made when its turn comes in the round of a dataset that
starts in `t`. -/
def BuiltInRound (plat : Platform) (env : Environment) (fuel : Nat) (it : String × ExchangedData)
    (t : ClientState) (member : String × Nat) (dpConfig : DatapointConfig) : Prop :=
  ∃ entries u, buildMembersUntil plat env fuel it member.2 t = .ok entries u ∧
    BuiltFor plat env fuel u member.1 dpConfig

/-- Children are added below the root, whose name stays. -/
theorem buildNameTree_mmsName {path : String} {fc : FunctionalConstraint}
    {nameTree nameTree' : MmsNameNode} {s s' : ClientState}
    (h : buildNameTree env fuel path fc nameTree s = .ok nameTree' s') :
    nameTree'.mmsName = nameTree.mmsName := by
  cases fuel with
  | zero => cases h
  | succ fuel =>
    cases hup : env.getState s.calls with
    | false =>
      rw [buildNameTree, run_bind_ok (isConnected_run env s), hup] at h
      cases h
      rfl
    | true =>
      rw [buildNameTree_run hup] at h
      -- no round of the loop touches the name
      refine foldlM_eq_ok (I := fun t => t.mmsName = nameTree.mmsName) ?_ rfl h
      intro t daName u t' u' ht hstep
      rcases run_bind_eq_ok.mp hstep with ⟨newNameNode, u₁, _, hpush⟩
      cases hpush
      rw [MmsNameNode.mmsName_pushBack, ht]

/-- Each round of the loop adds a child under the name that the IED has listed. -/
theorem addChildren_childNames {path : String} {fc : FunctionalConstraint} {names : List String}
    {nameTree nameTree' : MmsNameNode} {s s' : ClientState}
    (h : names.foldlM (addChild env fuel path fc) nameTree s = .ok nameTree' s') :
    nameTree'.childNames = nameTree.childNames ++ names.map some := by
  induction names generalizing nameTree s with
  | nil =>
    cases h
    rw [List.map_nil, List.append_nil]
  | cons daName names ih =>
    rw [List.foldlM_cons, addChild, bind_assoc] at h
    rcases run_bind_eq_ok.mp h with ⟨newNameNode, u, hchild, h⟩
    rw [pure_bind] at h
    have hname : newNameNode.mmsName = daName := buildNameTree_mmsName hchild
    rw [ih h, MmsNameNode.childNames_pushBack, hname, List.map_cons, List.append_assoc,
      List.singleton_append]

/-- The children of the root are the attributes that the IED has listed. -/
theorem buildNameTree_childNames {path : String} {fc : FunctionalConstraint}
    {nameTree nameTree' : MmsNameNode} {s s' : ClientState}
    (h : buildNameTree env fuel path fc nameTree s = .ok nameTree' s') :
    nameTree'.childNames =
      nameTree.childNames ++ (attributesAnswer env s.calls path fc).map some := by
  cases fuel with
  | zero => cases h
  | succ fuel =>
    unfold attributesAnswer
    cases hup : env.getState s.calls with
    | false =>
      rw [buildNameTree, run_bind_ok (isConnected_run env s), hup] at h
      cases h
      rw [if_neg (by simp), List.map_nil, List.append_nil]
    | true =>
      rw [buildNameTree_run hup] at h
      rw [if_pos rfl]
      exact addChildren_childNames h

/-- What one round of the loop over the members returns. -/
theorem buildMember_eq_ok {selection : ExchangedData} {doPathWithFC : String}
    {dpConfig : DatapointConfig} {s s' : ClientState}
    (h : buildMember plat env fuel selection doPathWithFC s = .ok dpConfig s') :
    ∃ doPath functionalConstraintStr nameTree,
      splitDoPathWithFC doPathWithFC = .ok (doPath, functionalConstraintStr) ∧
      buildNameTree env fuel doPath (plat.FunctionalConstraint_fromString functionalConstraintStr)
        .empty s = .ok nameTree s' ∧
      dpConfig = applySelection selection
        { dataPath := doPath
          functionalConstraint := plat.FunctionalConstraint_fromString functionalConstraintStr
          mmsNameTree := some nameTree } := by
  rcases splitDoPathWithFC_returns doPathWithFC with ⟨⟨doPath, fcStr⟩, hsplit⟩
  unfold buildMember at h
  rw [hsplit, run_bind_ok (liftExcept_ok ..)] at h
  rcases run_bind_eq_ok.mp h with ⟨connection, u, hderef, h⟩
  rcases run_bind_eq_ok.mp h with ⟨nameTree, u', htree, h⟩
  cases h
  rcases deref_eq_ok hderef with ⟨rfl, _⟩
  exact ⟨doPath, fcStr, nameTree, hsplit, htree, rfl⟩

/-- What one round of the loop over the DOs returns. -/
theorem buildDatapointNameTree_eq_ok {dpConfig dpConfig' : DatapointConfig} {s s' : ClientState}
    (h : buildDatapointNameTree env fuel dpConfig s = .ok dpConfig' s') :
    HasConnection s ∧ ∃ nameTree,
      buildNameTree env fuel dpConfig.dataPath dpConfig.functionalConstraint .empty s =
        .ok nameTree s' ∧
      dpConfig' = { dpConfig with mmsNameTree := some (nameTree.setName dpConfig.label) } := by
  rcases run_bind_eq_ok.mp h with ⟨connection, u, hderef, h⟩
  rcases run_bind_eq_ok.mp h with ⟨nameTree, u', htree, h⟩
  cases h
  rcases deref_eq_ok hderef with ⟨rfl, hconn⟩
  refine ⟨?_, nameTree, htree, rfl⟩
  rw [HasConnection, hconn]
  rfl

/-- Importing the properties of a selected DO moves no member. -/
theorem buildMember_builtFor {selection : ExchangedData} {doPathWithFC : String}
    {dpConfig : DatapointConfig} {s s' : ClientState}
    (h : buildMember plat env fuel selection doPathWithFC s = .ok dpConfig s') :
    BuiltFor plat env fuel s doPathWithFC dpConfig := by
  rcases buildMember_eq_ok h with ⟨doPath, fcStr, nameTree, hsplit, htree, rfl⟩
  refine ⟨doPath, fcStr, nameTree, s', hsplit, htree, ?_⟩
  unfold applySelection
  split
  · -- not selected: the label is empty, and so is the name of the root
    have hname : nameTree.mmsName = "" := buildNameTree_mmsName htree
    refine ⟨rfl, rfl, ?_⟩
    show some nameTree = some (nameTree.setName "")
    rw [← hname, MmsNameNode.setName_mmsName]
  · exact ⟨rfl, rfl, rfl⟩

/-- Nor does the labelling by paths. -/
theorem BuiltInRound.labelByPath {it : String × ExchangedData} {t : ClientState}
    {member : String × Nat} {dpConfig : DatapointConfig}
    (h : BuiltInRound plat env fuel it t member dpConfig) :
    BuiltInRound plat env fuel it t member (labelByPath dpConfig) := by
  rcases h with ⟨entries, u, hturn, doPath, fcStr, nameTree, u', hsplit, htree, hpath, hfc, hname⟩
  refine ⟨entries, u, hturn, doPath, fcStr, nameTree, u', hsplit, htree, hpath, hfc, ?_⟩
  simp [Iec61850South.labelByPath, hname]

theorem BuiltInRound.selectAllIfNone {it : String × ExchangedData} {t : ClientState}
    {members : List (String × Nat)} {exchangedDataset : ExchangedData}
    (h : List.Forall₂ (BuiltInRound plat env fuel it t) members exchangedDataset) :
    List.Forall₂ (BuiltInRound plat env fuel it t) members
      (selectAllIfNone exchangedDataset) := by
  unfold Iec61850South.selectAllIfNone
  split
  · exact List.forall₂_map_right_iff.mpr (h.imp fun _ _ hbuilt => hbuilt.labelByPath)
  · exact h

/-- The local configuration of a dataset, made in a round that starts in `t`: one entry
for each member that the IED has listed. -/
def DatasetBuilt (plat : Platform) (env : Environment) (fuel : Nat) (it : String × ExchangedData)
    (t : ClientState) (exchangedDataset : ExchangedData) : Prop :=
  ∃ entries, exchangedDataset = Iec61850South.selectAllIfNone entries ∧
    List.Forall₂ (fun member dpConfig => ∃ u u',
        buildMembersUntil plat env fuel it member.2 t = .ok (entries.take member.2) u ∧
        buildMember plat env fuel it.2 member.1 u = .ok dpConfig u')
      (directoryAnswer env t.calls it.1).zipIdx entries

theorem DatasetBuilt.builtFor {it : String × ExchangedData} {t : ClientState}
    {exchangedDataset : ExchangedData} (h : DatasetBuilt plat env fuel it t exchangedDataset) :
    List.Forall₂ (BuiltInRound plat env fuel it t) (directoryAnswer env t.calls it.1).zipIdx
      exchangedDataset := by
  rcases h with ⟨entries, rfl, hentries⟩
  refine BuiltInRound.selectAllIfNone (hentries.imp ?_)
  rintro member dpConfig ⟨u, u', hturn, hrun⟩
  exact ⟨_, u, hturn, buildMember_builtFor hrun⟩

/-- The entries without the rounds in which they were made. -/
theorem DatasetBuilt.members {it : String × ExchangedData} {t : ClientState}
    {exchangedDataset : ExchangedData} (h : DatasetBuilt plat env fuel it t exchangedDataset) :
    ∃ entries, exchangedDataset = Iec61850South.selectAllIfNone entries ∧
      List.Forall₂ (fun doPathWithFC dpConfig => ∃ u u',
          buildMember plat env fuel it.2 doPathWithFC u = .ok dpConfig u')
        (directoryAnswer env t.calls it.1) entries := by
  rcases h with ⟨entries, hdataset, hentries⟩
  refine ⟨entries, hdataset, ?_⟩
  rw [← List.zipIdx_map_fst 0 (directoryAnswer env t.calls it.1), List.forall₂_map_left_iff]
  exact hentries.imp fun _ _ ⟨u, u', _, hrun⟩ => ⟨u, u', hrun⟩

/-- A loop over the members that returns has built the dataset. -/
theorem datasetBuilt_of_mapM {it : String × ExchangedData} {t t₁ t₂ : ClientState}
    {connection : IEC61850ClientConnection} {entries : ExchangedData}
    (hderef : deref t = .ok connection t)
    (hdirectory : getDoPathListWithFCFromDataset env it.1 t =
      .ok (directoryAnswer env t.calls it.1) t₁)
    (h : (directoryAnswer env t.calls it.1).mapM (buildMember plat env fuel it.2) t₁ =
      .ok entries t₂) :
    DatasetBuilt plat env fuel it t (Iec61850South.selectAllIfNone entries) := by
  refine ⟨entries, rfl, forall₂_zipIdx_left (mapM_eq_ok h).length_eq ?_⟩
  intro k doPathWithFC dpConfig hmember hentry
  rcases mapM_take_eq_ok h hmember hentry with ⟨u, u', hturn, hrun⟩
  refine ⟨u, u', ?_, hrun⟩
  unfold buildMembersUntil
  rw [run_bind_ok hderef, run_bind_ok hdirectory]
  exact hturn

/-- Nothing that asks the IED writes the local datasets, or forgets a question. -/
theorem localDatasets_stable (env : Environment) (n : Nat) (datasets : ExchangedDatasets) :
    Stable env fun s => HasConnection s ∧ s.m_localExchangedDatasets = datasets ∧ n < s.calls where
  connection _ hs := hs.1
  event _ _ hs := hs
  calls _ hs := ⟨hs.1, hs.2.1, Nat.lt_succ_of_lt hs.2.2⟩
  answered _ event error _ hs :=
    ⟨hs.1.answered event error, hs.2.1, Nat.lt_succ_of_lt hs.2.2⟩

variable (plat env fuel) in
/-- One round of the loop over the selected datasets: the entries of the dataset
are written at its end, or not at all. -/
theorem buildDataset_run {s : ClientState} (hs : HasConnection s) (datasetRef : String)
    (selection : ExchangedData) :
    ∃ s', HasConnection s' ∧ s.calls < s'.calls ∧
      ((∃ e, buildDataset plat env fuel datasetRef selection s = .error e s' ∧ NoFault e ∧
          s'.m_localExchangedDatasets = s.m_localExchangedDatasets) ∨
        ∃ exchangedDataset, buildDataset plat env fuel datasetRef selection s = .ok ⟨⟩ s' ∧
          DatasetBuilt plat env fuel (datasetRef, selection) s exchangedDataset ∧
          s'.m_localExchangedDatasets =
            s.m_localExchangedDatasets.insert datasetRef exchangedDataset) := by
  rcases deref_run_of_isSome hs with ⟨connection, hderef⟩
  rcases getDoPathListWithFCFromDataset_run env datasetRef hs with
      ⟨t, hdirectory, hconn, hlocal, hcalls⟩
  -- the requests for the members do not touch the map
  have hP := (localDatasets_stable env s.calls s.m_localExchangedDatasets).steady
  have hmembers := (Keeps.mapM (G := NoFault) (directoryAnswer env s.calls datasetRef)
    fun doPathWithFC _ => hP.keeps_buildMember
      (hP.keeps_buildNameTree (fun f hf => by cases hf) fuel) plat selection doPathWithFC) t
    ⟨hconn, hlocal, hcalls⟩
  unfold buildDataset
  rw [run_bind_ok hderef, run_bind_ok hdirectory]
  cases hrun : (directoryAnswer env s.calls datasetRef).mapM
      (buildMember plat env fuel selection) t with
  | error e t' =>
    rw [hrun] at hmembers
    rcases hmembers with ⟨⟨hconn', hlocal', hcalls'⟩, herror⟩
    exact ⟨t', hconn', hcalls', Or.inl ⟨e, run_bind_error hrun, herror e t' rfl, hlocal'⟩⟩
  | ok entries t' =>
    rw [hrun] at hmembers
    rcases hmembers.1 with ⟨hconn', hlocal', hcalls'⟩
    have hbuilt : DatasetBuilt plat env fuel (datasetRef, selection) s (selectAllIfNone entries) :=
      datasetBuilt_of_mapM hderef hdirectory hrun
    refine ⟨_, ?_, ?_, Or.inr ⟨_, run_bind_ok hrun, hbuilt, ?_⟩⟩
    · exact hconn'
    · exact hcalls'
    · show t'.m_localExchangedDatasets.insert _ _ = _
      rw [show t'.m_localExchangedDatasets = s.m_localExchangedDatasets from hlocal']

theorem buildDataset_eq_ok {datasetRef : String} {selection : ExchangedData} {s s' : ClientState}
    (h : buildDataset plat env fuel datasetRef selection s = .ok ⟨⟩ s') :
    ∃ exchangedDataset,
      DatasetBuilt plat env fuel (datasetRef, selection) s exchangedDataset ∧
      s'.m_localExchangedDatasets =
        s.m_localExchangedDatasets.insert datasetRef exchangedDataset := by
  have hs : HasConnection s := by
    rcases run_bind_eq_ok.mp h with ⟨connection, t, hderef, _⟩
    rw [HasConnection, (deref_eq_ok hderef).2]
    rfl
  rcases buildDataset_run plat env fuel hs datasetRef selection with
      ⟨t, _, _, ⟨e, hrun, _⟩ | ⟨exchangedDataset, hrun, hbuilt, hlocal⟩⟩
  · rw [h] at hrun
    cases hrun
  · rw [h] at hrun
    cases hrun
    exact ⟨exchangedDataset, hbuilt, hlocal⟩

end Entries

/-! ## All datasets -/

section Build

variable (plat : Platform) (setup : ClientSetup) (env : Environment) (fuel : Nat)

/-- `buildConfigurationNameTrees`, up to the turn of dataset `i`. -/
def buildDatasetsUntil (i : Nat) : ClientM PUnit := do
  let exchangedData ← (← get).m_localExchangedData.mapM (buildDatapointNameTree env fuel)
  modify fun s => { s with m_localExchangedData := exchangedData }
  forM (setup.selectedDOInExchangedDatasets.toList.take i) fun selectionEntry =>
    buildDataset plat env fuel selectionEntry.1 selectionEntry.2

/-- **One entry for each member of a directory**, as the IED has listed them when
it was asked. -/
theorem buildConfigurationNameTrees_datasets {s s' : ClientState}
    (h : buildConfigurationNameTrees plat setup env fuel s = .ok ⟨⟩ s') (i : Nat)
    (it : String × ExchangedData) (hit : setup.selectedDOInExchangedDatasets.toList[i]? = some it) :
    ∃ t exchangedDataset, buildDatasetsUntil plat setup env fuel i s = .ok ⟨⟩ t ∧
      s'.m_localExchangedDatasets[it.1]? = some exchangedDataset ∧
      DatasetBuilt plat env fuel it t exchangedDataset := by
  unfold buildConfigurationNameTrees at h
  rw [run_bind_ok (run_get s)] at h
  rcases run_bind_eq_ok.mp h with ⟨exchangedData, s₁, hdata, h⟩
  rw [run_bind_ok (run_modify ..)] at h
  -- the references are pairwise different, so no later round overwrites an entry
  obtain ⟨t, exchangedDataset, ht, hbuilt, hlookup⟩ := getElem?_forM
    Prod.fst (v := ClientState.m_localExchangedDatasets)
    (R := fun it t exchangedDataset => DatasetBuilt plat env fuel it t exchangedDataset)
    (fun it t t' hrun => buildDataset_eq_ok hrun) h (toList_pairwise_ne _) i it hit
  refine ⟨t, exchangedDataset, ?_, hlookup, hbuilt⟩
  unfold buildDatasetsUntil
  rw [run_bind_ok (run_get s), run_bind_ok hdata, run_bind_ok (run_modify ..)]
  exact ht

/-- Every local dataset was built in an earlier round for a selected dataset. -/
def LocalBuilt (s : ClientState) : Prop :=
  ∀ datasetRef exchangedDataset, s.m_localExchangedDatasets[datasetRef]? = some exchangedDataset →
    ∃ selection t, setup.selectedDOInExchangedDatasets[datasetRef]? = some selection ∧
      HasConnection t ∧ t.calls < s.calls ∧
      DatasetBuilt plat env fuel (datasetRef, selection) t exchangedDataset

variable {plat setup env fuel}

theorem LocalBuilt.of_calls_le {s s' : ClientState} (hs : LocalBuilt plat setup env fuel s)
    (hcalls : s.calls ≤ s'.calls)
    (hlocal : s'.m_localExchangedDatasets = s.m_localExchangedDatasets) :
    LocalBuilt plat setup env fuel s' := by
  intro datasetRef exchangedDataset hlookup
  rw [hlocal] at hlookup
  rcases hs datasetRef exchangedDataset hlookup with ⟨selection, t, hselection, ht, hearlier, hbuilt⟩
  exact ⟨selection, t, hselection, ht, Nat.lt_of_lt_of_le hearlier hcalls, hbuilt⟩

theorem localBuilt_stable :
    Stable env fun s => HasConnection s ∧ LocalBuilt plat setup env fuel s where
  connection _ hs := hs.1
  event _ _ hs := ⟨hs.1, hs.2.of_calls_le (Nat.le_refl _) rfl⟩
  calls _ hs := ⟨hs.1, hs.2.of_calls_le (Nat.le_succ _) rfl⟩
  answered _ event error _ hs :=
    ⟨hs.1.answered event error, hs.2.of_calls_le (Nat.le_succ _) rfl⟩

theorem keeps_buildDataset_localBuilt {datasetRef : String} {selection : ExchangedData}
    (hselection : setup.selectedDOInExchangedDatasets[datasetRef]? = some selection) :
    Keeps (fun s => HasConnection s ∧ LocalBuilt plat setup env fuel s) NoFault
      (buildDataset plat env fuel datasetRef selection) := by
  intro s ⟨hs, hbuilt⟩
  rcases buildDataset_run plat env fuel hs datasetRef selection with
      ⟨s', hs', hcalls, ⟨e, hrun, he, hlocal⟩ | ⟨exchangedDataset, hrun, hnew, hlocal⟩⟩
  · rw [hrun]
    refine ⟨⟨hs', hbuilt.of_calls_le (Nat.le_of_lt hcalls) hlocal⟩, ?_⟩
    intro e' s'' heq
    cases heq
    exact he
  · rw [hrun]
    refine ⟨⟨hs', ?_⟩, fun e' s'' heq => by cases heq⟩
    intro ref dataset hlookup
    rw [finalState_ok, hlocal, Std.ExtTreeMap.getElem?_insert] at hlookup
    split at hlookup
    · -- the dataset of this round
      next href =>
      obtain rfl : datasetRef = ref := Std.LawfulEqOrd.compare_eq_iff_eq.mp href
      cases hlookup
      exact ⟨selection, s, hselection, hs, hcalls, hnew⟩
    · rcases hbuilt ref dataset hlookup with ⟨selection', t, hselection', ht, hearlier, hbuilt'⟩
      exact ⟨selection', t, hselection', ht, Nat.lt_trans hearlier hcalls, hbuilt'⟩

theorem localBuilt_invariant :
    ClientInvariant plat setup env fuel (LocalBuilt plat setup env fuel) where
  stable := localBuilt_stable
  replaced s connection hs := hs.of_calls_le (Nat.le_refl _) rfl
  built := by
    have hP : Steady env fun s => HasConnection s ∧ LocalBuilt plat setup env fuel s :=
      localBuilt_stable.steady
    have htree : KeepsTrees env fuel _ NoFault := hP.keeps_buildNameTree (fun f hf => by cases hf) fuel
    refine .bind .get fun s => .bind (.mapM _ fun _ _ => hP.keeps_buildDatapointNameTree htree _)
      fun _ => .bind (.modify fun s hs => ⟨hs.1, hs.2.of_calls_le (Nat.le_refl _) rfl⟩) fun _ => ?_
    exact .forM _ fun it hit => keeps_buildDataset_localBuilt
      (Std.ExtTreeMap.mem_toList_iff_getElem?_eq_some.mp hit)

end Build

/-! ## The building comes to an end

The recursion of `buildNameTree` follows the answers of the IED, so it ends when
the directory does. -/

/-- No path of the directory is `depth` members longer than `path`. -/
def DirectoryEnds (env : Environment) (fc : FunctionalConstraint) : Nat → String → Prop
  | 0, _ => False
  | depth + 1, path => ∀ n names, (env.getDataDirectoryByFC n path fc).1 = some names →
    ∀ daName ∈ names, DirectoryEnds env fc depth (path ++ "." ++ daName)

section Ends

variable {env : Environment} {P : ClientState → Prop} {G : Abort → Prop}

theorem Steady.keeps_buildNameTree_of_ends (hP : Steady env P) {fc : FunctionalConstraint}
    (fuel : Nat) (path : String) (h : DirectoryEnds env fc fuel path) (nameTree : MmsNameNode) :
    Keeps P G (buildNameTree env fuel path fc nameTree) := by
  induction fuel generalizing path nameTree with
  | zero => exact h.elim
  | succ fuel ih =>
    have hrequest : Keeps P G (getDataDirectory env path fc) :=
      hP.keeps_request rfl fun _ => .getDataDirectoryByFC path fc
    refine .bind hP.keeps_isConnected fun _ => .ite (.pure _) (.bindResult hrequest ?_)
    intro s answer s' _ hrun
    have hanswer : (env.getDataDirectoryByFC s.calls path fc).1 = answer := by
      rw [getDataDirectory, request_run] at hrun
      exact (EStateM.Result.ok.inj hrun).1
    cases answer with
    | none => exact .pure _
    | some dataAttributes =>
      -- the names are those of an answer, so the directory ends below each of them
      exact .foldlM dataAttributes nameTree fun _ daName hmem =>
        .bind (ih _ (h _ _ hanswer daName hmem) _) fun _ => .pure _

theorem buildConfigurationNameTrees_returns (plat : Platform) (setup : ClientSetup) {fuel : Nat}
    (hends : ∀ fc path, DirectoryEnds env fc fuel path) {s : ClientState} (hs : HasConnection s) :
    ∃ s', buildConfigurationNameTrees plat setup env fuel s = .ok ⟨⟩ s' := by
  have hP := hasConnection_stable env
  have htree : KeepsTrees env fuel HasConnection fun _ => False :=
    fun path fc nameTree => hP.steady.keeps_buildNameTree_of_ends fuel path (hends fc path) nameTree
  rcases (hP.keeps_buildConfigurationNameTrees htree plat setup).returns hs with ⟨⟨⟩, s', hrun, _⟩
  exact ⟨s', hrun⟩

end Ends

/-! ## What a cycle sends for the datasets -/

section Export

variable (plat : Platform) (setup : ClientSetup) (env : Environment) (fuel rounds : Nat)

/-- A member and its element: the Datapoint, unless there is no label or the
conversion is null. -/
def memberDatapoints (member : Option MmsValue × DatapointConfig) : List Datapoint :=
  if member.2.label ≠ "" then
    match convertMmsToDatapoint plat member.1 member.2 with
    | .ok datapoint => datapoint.toList
    | .error _ => []
  else []

/-- The turn of the dataset comes at question `n`, and it is read as this array. -/
def ReadAs (n : Nat) (datasetRef : String) (elements : List (Option MmsValue)) : Prop :=
  env.getState n = true ∧
    (env.readDataSetValues (n + 1) datasetRef).1 = some ⟨.aggregate .array elements⟩

/-- All conversions that are attempted succeed. -/
def ConversionsSucceed (members : List (Option MmsValue × DatapointConfig)) : Prop :=
  ∀ member ∈ members, member.2.label ≠ "" →
    ∃ datapoint, convertMmsToDatapoint plat member.1 member.2 = .ok datapoint

/-- A cycle that starts in `s` and reads its datasets as arrays of the right
sizes sends, dataset by dataset and member by member, the conversion of the
element with the configuration of the same index. -/
def ExportsInOrder (s : ClientState) : Prop :=
  ∀ arrays : Nat → List (Option MmsValue),
    (∀ k it, s.m_localExchangedDatasets.toList[k]? = some it →
      ReadAs env (callAt env (s.calls + 1) k) it.1 (arrays k) ∧
        (arrays k).length = it.2.length ∧ ConversionsSucceed plat ((arrays k).zip it.2)) →
    sent (finalState (pollCycle plat setup env fuel rounds s)).events = sent s.events ++
      (s.m_localExchangedDatasets.toList.mapIdx fun k it =>
        ((arrays k).zip it.2).flatMap (memberDatapoints plat)).flatten

/-- A dataset that is read as anything but an array of the size of its
configuration is rejected, and nothing of it is sent. -/
def RejectsOthers : Prop :=
  ∀ (s : ClientState) (datasetRef : String) (exchangedDataset : ExchangedData) (value : MmsValue),
    HasConnection s → env.getState s.calls = true →
    (env.readDataSetValues (s.calls + 1) datasetRef).1 = some ⟨value⟩ →
    (∀ elements, value = .aggregate .array elements → elements.length ≠ exchangedDataset.length) →
    ∃ s', readAndExportOneDataset plat setup env datasetRef exchangedDataset s =
        .error (.mmsParsingException "Dataset structure does not match") s' ∧
      sent s'.events = sent s.events

variable {plat setup env fuel rounds}

theorem memberEmission_eq (hreceiver : setup.hasReceiver = true)
    {member : Option MmsValue × DatapointConfig}
    (h : member.2.label ≠ "" →
      ∃ datapoint, convertMmsToDatapoint plat member.1 member.2 = .ok datapoint) :
    memberEmission plat setup member = ⟨memberDatapoints plat member, none⟩ := by
  unfold memberEmission memberDatapoints
  split
  · next hlabel =>
    rcases h hlabel with ⟨datapoint, hconvert⟩
    simp [hconvert, sends, hreceiver]
  · rfl

theorem datasetElements_array {elements : List (Option MmsValue)} {size : Nat}
    (h : elements.length = size) :
    datasetElements (some (.aggregate .array elements)) size = .ok elements := by
  unfold datasetElements
  simp [h]

theorem datasetElements_other {value : MmsValue} {size : Nat}
    (h : ∀ elements, value = .aggregate .array elements → elements.length ≠ size) :
    datasetElements (some value) size =
      .error (.mmsParsingException "Dataset structure does not match") := by
  unfold datasetElements
  split
  · next elements heq => rw [if_pos (h elements (Option.some.inj heq))]
  · rfl

/-- A dataset that has been read as an array of the right size. -/
theorem datasetEmission_array (hreceiver : setup.hasReceiver = true) {n : Nat}
    {it : String × ExchangedData} {elements : List (Option MmsValue)}
    (hread : ReadAs env n it.1 elements) (hlength : elements.length = it.2.length)
    (hconvert : ConversionsSucceed plat (elements.zip it.2)) :
    datasetEmission plat setup env n it =
      ⟨(elements.zip it.2).flatMap (memberDatapoints plat), none⟩ := by
  unfold datasetEmission membersEmission
  rw [if_pos hread.1, hread.2, getValues, after_ok, datasetElements_array hlength, after_ok]
  have hmembers : (elements.zip it.2).map (memberEmission plat setup) =
      (elements.zip it.2).map fun member => ⟨memberDatapoints plat member, none⟩ :=
    List.map_congr_left fun member hmem => memberEmission_eq hreceiver (hconvert member hmem)
  rw [hmembers, seqAll_map_go]

theorem exportsInOrder (hreceiver : setup.hasReceiver = true)
    (hmode : setup.applicationParams.readMode = .DATASET_READING) {s : ClientState}
    {connection : IEC61850ClientConnection} (hconn : s.m_connection = some connection)
    (hok : connection.isNoError = true) (hup : env.getState s.calls = true) :
    ExportsInOrder plat setup env fuel rounds s := by
  intro arrays harrays
  rw [(pollCycle_sent hconn hok hup plat setup fuel rounds).1]
  have hitems : itemEmissions plat setup env (s.calls + 1) s.m_localExchangedData
      s.m_localExchangedDatasets = s.m_localExchangedDatasets.toList.mapIdx fun k it =>
        ⟨((arrays k).zip it.2).flatMap (memberDatapoints plat), none⟩ := by
    -- item by item, each at the question where its turn comes
    apply List.ext_getElem?
    intro k
    rw [getElem?_itemEmissions_datasets hmode, List.getElem?_mapIdx]
    cases hit : s.m_localExchangedDatasets.toList[k]? with
    | none => rfl
    | some it =>
      rcases harrays k it hit with ⟨hread, hlength, hconvert⟩
      rw [Option.map_some, Option.map_some, datasetEmission_array hreceiver hread hlength hconvert]
  rw [hitems, seqAll_mapIdx_go]

theorem rejectsOthers : RejectsOthers plat setup env := by
  intro s datasetRef exchangedDataset value hconn hup hread hother
  obtain ⟨s', hsent, hrun, _⟩ : Emits sentEffect _ (readAndExportOneDataset plat setup env
    datasetRef exchangedDataset) s _ :=
    readAndExportOneDataset_emits ⟨hconn, rfl⟩ (datasetRef, exchangedDataset)
  -- the size is tested before any member is converted
  have hstop : datasetEmission plat setup env s.calls (datasetRef, exchangedDataset) =
      .halt (.mmsParsingException "Dataset structure does not match") := by
    unfold datasetEmission membersEmission
    rw [if_pos hup, hread, getValues, after_ok, datasetElements_other hother, after_error]
  rw [hstop] at hsent hrun
  refine ⟨s', hrun, ?_⟩
  simpa [sentEffect] using hsent

end Export

/-! ## Both passes together -/

/-- The two passes over the datasets: the building of the local configuration,
and the cycles that use it. -/
structure DatasetsExported (plat : Platform) (setup : ClientSetup) (env : Environment)
    (fuel rounds : Nat) : Prop where
  /-- The building returns if the directory of the IED is finite. -/
  returns : (∀ fc path, DirectoryEnds env fc fuel path) → ∀ s, HasConnection s →
    ∃ s', buildConfigurationNameTrees plat setup env fuel s = .ok ⟨⟩ s'
  /-- It leaves one entry for each member, in the order of the answer that the IED
  has given when the turn of the dataset came. -/
  entries : ∀ s s', buildConfigurationNameTrees plat setup env fuel s = .ok ⟨⟩ s' →
    ∀ i it, setup.selectedDOInExchangedDatasets.toList[i]? = some it →
      ∃ t exchangedDataset, buildDatasetsUntil plat setup env fuel i s = .ok ⟨⟩ t ∧
        s'.m_localExchangedDatasets[it.1]? = some exchangedDataset ∧
        List.Forall₂ (BuiltInRound plat env fuel it t) (directoryAnswer env t.calls it.1).zipIdx
          exchangedDataset
  /-- Whenever a cycle starts, its datasets have such entries, from an earlier round. -/
  later : ∀ s, ClientReachable plat setup env fuel rounds s →
    ∀ datasetRef exchangedDataset,
      s.m_localExchangedDatasets[datasetRef]? = some exchangedDataset → ∃ selection t,
        setup.selectedDOInExchangedDatasets[datasetRef]? = some selection ∧ HasConnection t ∧
        t.calls < s.calls ∧
        List.Forall₂ (BuiltInRound plat env fuel (datasetRef, selection) t)
          (directoryAnswer env t.calls datasetRef).zipIdx exchangedDataset
  order : ∀ s connection, s.m_connection = some connection → connection.isNoError = true →
    env.getState s.calls = true → ExportsInOrder plat setup env fuel rounds s
  rejects : RejectsOthers plat setup env

/-- **Members are exported from their own element, once, in order.** -/
theorem dataset_members_exported (plat : Platform) {setup : ClientSetup} (env : Environment)
    (fuel rounds : Nat) (hreceiver : setup.hasReceiver = true)
    (hmode : setup.applicationParams.readMode = .DATASET_READING) :
    DatasetsExported plat setup env fuel rounds where
  returns hends _ hs := buildConfigurationNameTrees_returns plat setup hends hs
  entries s s' hrun i it hit := by
    rcases buildConfigurationNameTrees_datasets plat setup env fuel hrun i it hit with
        ⟨t, exchangedDataset, ht, hlookup, hbuilt⟩
    exact ⟨t, exchangedDataset, ht, hlookup, hbuilt.builtFor⟩
  later s hs datasetRef exchangedDataset hlookup := by
    have hbuilt := (hs.invariant localBuilt_invariant fun _ _ _ h => by simp [newClient] at h).2
    rcases hbuilt datasetRef exchangedDataset hlookup with
        ⟨selection, t, hselection, ht, hearlier, hdataset⟩
    exact ⟨selection, t, hselection, ht, hearlier, hdataset.builtFor⟩
  order _ _ hconn hok hup := exportsInOrder hreceiver hmode hconn hok hup
  rejects := rejectsOthers

theorem dataset_members_exported_sample : DatasetsExported (.withDocuments [])
    (smallSetup .DATASET_READING [("IED1LD0/LLN0.DS1", [])]) smallIed 3 2 :=
  dataset_members_exported (.withDocuments []) smallIed 3 2 rfl rfl

end Iec61850South
