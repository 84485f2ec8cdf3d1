import Iec61850South.Client.Labels
import Iec61850South.Lib.Frame
import Iec61850South.Lib.Transition

/-! # Building the name trees again

`buildConfigurationNameTrees` runs once for each connection. The requests to the IED
do not see the local data (`Commutes`), so a run writes what it would write in a new
client: each tree is replaced, and each selected dataset too
(`buildConfigurationNameTrees_withLocal`).
-/

namespace Iec61850South

open Lib IEC61850ClientConnection
open Std (ExtTreeMap)

/-! ## The local data -/

/-- The two collections that the building writes. -/
structure LocalData where
  exchangedData : ExchangedData
  exchangedDatasets : ExchangedDatasets

/-- The local data, which the building writes. -/
def ClientState.localData (s : ClientState) : LocalData :=
  ⟨s.m_localExchangedData, s.m_localExchangedDatasets⟩

/-- Other local data in its place. -/
def ClientState.withLocal (l : LocalData) (s : ClientState) : ClientState :=
  { s with
    m_localExchangedData := l.exchangedData
    m_localExchangedDatasets := l.exchangedDatasets }

@[simp] theorem ClientState.localData_withLocal (l : LocalData) (s : ClientState) :
    (s.withLocal l).localData = l := rfl

@[simp] theorem ClientState.withLocal_localData (s : ClientState) :
    s.withLocal s.localData = s := rfl

@[simp] theorem ClientState.withLocal_withLocal (l l' : LocalData) (s : ClientState) :
    (s.withLocal l).withLocal l' = s.withLocal l' := rfl

/-! ## Requests do not see them -/

section Requests

variable (l : LocalData) (env : Environment)

/-- A request does not look at the local data. -/
theorem commutes_request {α : Type} (event : Event) (answer : Nat → α × IedClientError) :
    Commutes (ClientState.withLocal l) (request event answer) :=
  fun _ => rfl

/-- Neither does `m_connection->`. -/
theorem commutes_deref : Commutes (ClientState.withLocal l) deref := by
  intro s
  cases hs : s.m_connection with
  | none =>
    have hs' : (s.withLocal l).m_connection = none := hs
    rw [deref, run_bind_ok (run_get s), run_bind_ok (run_get _), hs, hs']
    rfl
  | some connection =>
    have hs' : (s.withLocal l).m_connection = some connection := hs
    rw [deref_run hs, deref_run hs', mapState_ok]

/-- Neither does the test of the connection. -/
theorem commutes_isConnected : Commutes (ClientState.withLocal l) (isConnected env) :=
  fun _ => rfl

/-- By induction on the depth: a name tree is built from the answers alone. -/
theorem commutes_buildNameTree (fuel : Nat) (path : String) (fc : FunctionalConstraint)
    (nameTree : MmsNameNode) :
    Commutes (ClientState.withLocal l) (buildNameTree env fuel path fc nameTree) := by
  induction fuel generalizing path nameTree with
  | zero => exact Commutes.throw _
  | succ fuel ih =>
    apply Commutes.bind (commutes_isConnected l env)
    intro connected
    apply Commutes.ite (Commutes.pure _)
    apply Commutes.bind (commutes_request l _ _)
    intro answer
    cases answer with
    | none => exact Commutes.pure _
    | some dataAttributes =>
      apply Commutes.foldlM
      intro nameTree daName
      exact Commutes.bind (ih _ _) fun _ => Commutes.pure _

/-- The name tree of a DO is built from its path alone. -/
theorem commutes_buildDatapointNameTree (fuel : Nat) (dpConfig : DatapointConfig) :
    Commutes (ClientState.withLocal l) (buildDatapointNameTree env fuel dpConfig) := by
  apply Commutes.bind (commutes_deref l)
  intro _
  exact Commutes.bind (commutes_buildNameTree l env fuel _ _ _) fun _ => Commutes.pure _

/-- That of a member of a dataset is built from its reference alone. -/
theorem commutes_buildMember (plat : Platform) (fuel : Nat) (selection : ExchangedData)
    (doPathWithFC : String) :
    Commutes (ClientState.withLocal l) (buildMember plat env fuel selection doPathWithFC) := by
  apply Commutes.bind (Commutes.liftExcept _)
  intro parts
  apply Commutes.bind (commutes_deref l)
  intro _
  exact Commutes.bind (commutes_buildNameTree l env fuel _ _ _) fun _ => Commutes.pure _

/-- The directory of a dataset is what the IED answers. -/
theorem commutes_getDoPathListWithFCFromDataset (datasetRef : String) :
    Commutes (ClientState.withLocal l) (getDoPathListWithFCFromDataset env datasetRef) := by
  apply Commutes.bind (commutes_isConnected l env)
  intro connected
  apply Commutes.ite (Commutes.pure _)
  exact Commutes.bind (commutes_request l _ _) fun _ => Commutes.pure _

end Requests

/-! ## One run -/

/-- The configuration of a DO, without the tree that is built for it. -/
def DatapointConfig.withoutTree (dpConfig : DatapointConfig) : DatapointConfig :=
  { dpConfig with mmsNameTree := none }

section Run

variable {plat : Platform} {setup : ClientSetup} {env : Environment} {fuel : Nat}

/-- An old tree makes no difference. -/
theorem mapM_buildDatapointNameTree_congr {data data' : ExchangedData}
    (h : data.map DatapointConfig.withoutTree = data'.map DatapointConfig.withoutTree) :
    data.mapM (buildDatapointNameTree env fuel) = data'.mapM (buildDatapointNameTree env fuel) := by
  have hround : ∀ data : ExchangedData, data.mapM (buildDatapointNameTree env fuel) =
      (data.map DatapointConfig.withoutTree).mapM (buildDatapointNameTree env fuel) := by
    intro data
    rw [List.mapM_map]
    rfl
  rw [hround data, hround data', h]

/-- Everything but the trees stays as it has been configured. -/
theorem withoutTree_of_built {data data' : ExchangedData} {s s' : ClientState}
    (h : data.mapM (buildDatapointNameTree env fuel) s = .ok data' s') :
    data'.map DatapointConfig.withoutTree = data.map DatapointConfig.withoutTree := by
  have hrounds := mapM_eq_ok h
  clear h
  induction hrounds with
  | nil => rfl
  | cons hround _ ih =>
    rcases hround with ⟨_, _, hround⟩
    rw [List.map_cons, List.map_cons, ih]
    exact congrArg₂ List.cons (buildDatapointNameTree_labels hround).2 rfl

/-- One round of the loop over the datasets writes one entry, the same over any
local data. -/
theorem buildDataset_withLocal {datasetRef : String} {selection : ExchangedData}
    {s t : ClientState} (h : buildDataset plat env fuel datasetRef selection s = .ok ⟨⟩ t) :
    ∃ exchangedDataset, ∀ l, buildDataset plat env fuel datasetRef selection (s.withLocal l) =
      .ok ⟨⟩ (t.withLocal ⟨l.exchangedData,
        l.exchangedDatasets.insert datasetRef exchangedDataset⟩) := by
  rcases run_bind_eq_ok.mp h with ⟨connection, s₁, hderef, h⟩
  rcases run_bind_eq_ok.mp h with ⟨doPathListWithFC, s₂, hdirectory, h⟩
  rcases run_bind_eq_ok.mp h with ⟨entries, s₃, hmembers, h⟩
  rw [run_modify] at h
  cases h
  refine ⟨selectAllIfNone entries, ?_⟩
  intro l
  have hmembers' := (Commutes.mapM (commutes_buildMember l env plat fuel selection) _).eq_ok hmembers
  unfold buildDataset
  rw [run_bind_ok ((commutes_deref l).eq_ok hderef),
    run_bind_ok ((commutes_getDoPathListWithFCFromDataset l env datasetRef).eq_ok hdirectory),
    run_bind_ok hmembers', run_modify]
  rfl

/-- The loop over the datasets writes one entry for each of them. -/
theorem forM_buildDataset_withLocal {datasets : List (String × ExchangedData)} {s t : ClientState}
    (h : forM datasets (fun it => buildDataset plat env fuel it.1 it.2) s = .ok ⟨⟩ t) :
    ∃ entries : List (String × ExchangedData), entries.map Prod.fst = datasets.map Prod.fst ∧
      ∀ l, forM datasets (fun it => buildDataset plat env fuel it.1 it.2) (s.withLocal l) =
        .ok ⟨⟩ (t.withLocal ⟨l.exchangedData, insertAll l.exchangedDatasets entries⟩) := by
  induction datasets generalizing s with
  | nil =>
    cases h
    exact ⟨[], rfl, fun l => rfl⟩
  | cons it datasets ih =>
    rcases forM_cons_eq_ok.mp h with ⟨u, hround, hrest⟩
    rcases buildDataset_withLocal hround with ⟨exchangedDataset, hround'⟩
    rcases ih hrest with ⟨entries, hkeys, hrest'⟩
    refine ⟨(it.1, exchangedDataset) :: entries, ?_, ?_⟩
    · rw [List.map_cons, List.map_cons, hkeys]
    · intro l
      rw [insertAll_cons]
      exact forM_cons_eq_ok.mpr ⟨_, hround' l, hrest' _⟩

/-- **What a run writes does not depend on the local data**, up to the configured
labels, types, paths and constraints, which it keeps. -/
theorem buildConfigurationNameTrees_withLocal {s t : ClientState}
    (h : buildConfigurationNameTrees plat setup env fuel s = .ok ⟨⟩ t) :
    ∃ (data : ExchangedData) (entries : List (String × ExchangedData)),
      data.map DatapointConfig.withoutTree =
        s.m_localExchangedData.map DatapointConfig.withoutTree ∧
      entries.map Prod.fst = setup.selectedDOInExchangedDatasets.toList.map Prod.fst ∧
      ∀ l, l.exchangedData.map DatapointConfig.withoutTree =
          s.m_localExchangedData.map DatapointConfig.withoutTree →
        buildConfigurationNameTrees plat setup env fuel (s.withLocal l) =
          .ok ⟨⟩ (t.withLocal ⟨data, insertAll l.exchangedDatasets entries⟩) := by
  unfold buildConfigurationNameTrees at h ⊢
  rw [run_bind_ok (run_get s)] at h
  rcases run_bind_eq_ok.mp h with ⟨data, s₁, hdata, h⟩
  rw [run_bind_ok (run_modify ..)] at h
  rcases forM_buildDataset_withLocal h with ⟨entries, hkeys, hdatasets⟩
  refine ⟨data, entries, withoutTree_of_built hdata, hkeys, ?_⟩
  intro l hl
  have hdata' : l.exchangedData.mapM (buildDatapointNameTree env fuel) (s.withLocal l) =
      .ok data (s₁.withLocal l) := by
    rw [mapM_buildDatapointNameTree_congr hl]
    exact (Commutes.mapM (commutes_buildDatapointNameTree l env fuel) _).eq_ok hdata
  rw [run_bind_ok (run_get _)]
  exact (run_bind_ok hdata').trans ((run_bind_ok (run_modify ..)).trans
    (hdatasets ⟨data, l.exchangedDatasets⟩))

/-- The local data came from the configuration: its DOs with any trees, and datasets
that are selected. -/
structure BuiltFrom (setup : ClientSetup) (exchangedData : ExchangedData) (l : LocalData) : Prop where
  configured : l.exchangedData.map DatapointConfig.withoutTree =
    exchangedData.map DatapointConfig.withoutTree
  selected : ∀ datasetRef ∈ l.exchangedDatasets, datasetRef ∈ setup.selectedDOInExchangedDatasets

/-- The local data of a client that has just been constructed. -/
def newLocalData (exchangedData : ExchangedData) : LocalData :=
  (newClient exchangedData).localData

/-- The constructor copies the configured DOs, and there are no datasets yet. -/
theorem newLocalData_builtFrom (setup : ClientSetup) (exchangedData : ExchangedData) :
    BuiltFrom setup exchangedData (newLocalData exchangedData) where
  configured := rfl
  selected _ hmem := absurd hmem ExtTreeMap.not_mem_empty

/-- A run ends as it would have ended in a new client, and leaves an entry for each
selected dataset, and no other. -/
theorem rebuilt {exchangedData : ExchangedData} {s t : ClientState}
    (hs : BuiltFrom setup exchangedData s.localData)
    (h : buildConfigurationNameTrees plat setup env fuel s = .ok ⟨⟩ t) :
    buildConfigurationNameTrees plat setup env fuel (s.withLocal (newLocalData exchangedData)) =
        .ok ⟨⟩ t ∧
      t.localData.exchangedData.map DatapointConfig.withoutTree =
        exchangedData.map DatapointConfig.withoutTree ∧
      ∀ datasetRef, datasetRef ∈ t.localData.exchangedDatasets ↔
        datasetRef ∈ setup.selectedDOInExchangedDatasets := by
  rcases buildConfigurationNameTrees_withLocal h with ⟨data, entries, hdata, hkeys, hrun⟩
  have hentries : ∀ datasetRef, (∃ p ∈ entries, p.1 = datasetRef) ↔
      datasetRef ∈ setup.selectedDOInExchangedDatasets := by
    intro datasetRef
    have hmem : (∃ p ∈ entries, p.1 = datasetRef) ↔ datasetRef ∈ entries.map Prod.fst := by
      rw [List.mem_map]
    rw [hmem, hkeys, ExtTreeMap.map_fst_toList_eq_keys, ExtTreeMap.mem_keys]
  -- over its own local data the run is the one that is given
  have hself := hrun s.localData rfl
  rw [ClientState.withLocal_localData, h] at hself
  have ht : t = t.withLocal ⟨data, insertAll s.m_localExchangedDatasets entries⟩ :=
    (EStateM.Result.ok.inj hself).2
  have hold : insertAll s.m_localExchangedDatasets entries = insertAll ∅ entries := by
    rw [insertAll_eq_insertAll_empty_iff]
    intro datasetRef hmem
    exact (hentries datasetRef).mpr (hs.selected datasetRef hmem)
  rw [hold] at ht
  refine ⟨?_, ?_, ?_⟩
  · have hnew := hrun (newLocalData exchangedData) hs.configured.symm
    rw [hnew]
    exact congrArg (EStateM.Result.ok PUnit.unit) ht.symm
  · rw [ht, ClientState.localData_withLocal]
    exact hdata.trans hs.configured
  · intro datasetRef
    rw [ht, ClientState.localData_withLocal, mem_insertAll, hentries]
    simp

/-- A building keeps what is configured. -/
theorem rebuilt_builtFrom {exchangedData : ExchangedData} {s t : ClientState}
    (hs : BuiltFrom setup exchangedData s.localData)
    (h : buildConfigurationNameTrees plat setup env fuel s = .ok ⟨⟩ t) :
    BuiltFrom setup exchangedData t.localData := by
  rcases rebuilt hs h with ⟨_, hconfigured, hselected⟩
  exact ⟨hconfigured, fun datasetRef hmem => (hselected datasetRef).mp hmem⟩

end Run

/-! ## Many runs -/

/-- A run of `buildConfigurationNameTrees` for one connection: the answers that the
IED gives in it, and the client apart from its local data. -/
structure BuildRun where
  env : Environment
  fuel : Nat
  client : ClientState

/-- A run takes over the local data that the run before it has left. -/
def BuildStep (plat : Platform) (setup : ClientSetup) (l : LocalData) (run : BuildRun)
    (l' : LocalData) : Prop :=
  ∃ t, buildConfigurationNameTrees plat setup run.env run.fuel (run.client.withLocal l) =
    .ok ⟨⟩ t ∧ t.localData = l'

section Runs

variable {plat : Platform} {setup : ClientSetup} {exchangedData : ExchangedData}

/-- A building from old local data gives the same as one from new local data. -/
theorem BuildStep.rebuilt {l l' : LocalData} {run : BuildRun} (hl : BuiltFrom setup exchangedData l)
    (h : BuildStep plat setup l run l') :
    BuildStep plat setup (newLocalData exchangedData) run l' ∧
      l'.exchangedData.map DatapointConfig.withoutTree =
        exchangedData.map DatapointConfig.withoutTree ∧
      ∀ datasetRef, datasetRef ∈ l'.exchangedDatasets ↔
        datasetRef ∈ setup.selectedDOInExchangedDatasets := by
  rcases h with ⟨t, hrun, rfl⟩
  have hbuilt : BuiltFrom setup exchangedData (run.client.withLocal l).localData := hl
  rcases Iec61850South.rebuilt hbuilt hrun with ⟨hnew, hconfigured, hselected⟩
  rw [ClientState.withLocal_withLocal] at hnew
  exact ⟨⟨t, hnew, rfl⟩, hconfigured, hselected⟩

/-- By induction on the buildings. -/
theorem builtFrom_of_run {runs : List BuildRun} {l : LocalData}
    (h : Run (BuildStep plat setup) (newLocalData exchangedData) runs l) :
    BuiltFrom setup exchangedData l := by
  have hstep : ∀ l run l', BuiltFrom setup exchangedData l → BuildStep plat setup l run l' →
      True → BuiltFrom setup exchangedData l' := by
    rintro l run l' hl ⟨t, hrun, rfl⟩ _
    have hbuilt : BuiltFrom setup exchangedData (run.client.withLocal l).localData := hl
    exact rebuilt_builtFrom hbuilt hrun
  exact Run.invariant hstep h (newLocalData_builtFrom setup exchangedData) fun _ _ => trivial

/-- Runs of a connected client come to an end where the directories do. -/
theorem exists_run {runs : List BuildRun} (hruns : ∀ run ∈ runs, HasConnection run.client ∧
      ∀ fc path, DirectoryEnds run.env fc run.fuel path) (l : LocalData) :
    ∃ l', Run (BuildStep plat setup) l runs l' := by
  induction runs generalizing l with
  | nil => exact ⟨l, .nil l⟩
  | cons run runs ih =>
    rw [List.forall_mem_cons] at hruns
    rcases hruns with ⟨⟨hconn, hends⟩, hruns⟩
    have hs : HasConnection (run.client.withLocal l) := hconn
    rcases buildConfigurationNameTrees_returns plat setup hends hs with ⟨t, ht⟩
    rcases ih hruns t.localData with ⟨l', hrest⟩
    exact ⟨l', .cons ⟨t, ht, rfl⟩ hrest⟩

end Runs

/-! ## The runs of a client -/

section Client

variable {plat : Platform} {setup : ClientSetup} {env : Environment} {fuel rounds : Nat}

/-- Using a connection does not write the local data. -/
theorem localData_stable (env : Environment) (l : LocalData) :
    Stable env fun s => HasConnection s ∧ s.localData = l where
  connection _ hs := hs.1
  event _ _ hs := hs
  calls _ hs := hs
  answered _ event error _ hs := ⟨hs.1.answered event error, hs.2⟩

/-- The local data change by runs of the building only. -/
def ChangedByRuns (plat : Platform) (setup : ClientSetup) (l l' : LocalData) : Prop :=
  ∃ runs, Run (BuildStep plat setup) l runs l'

/-- No building at all. -/
theorem ChangedByRuns.refl (l : LocalData) : ChangedByRuns plat setup l l :=
  ⟨[], .nil l⟩

/-- Some buildings, and then some more. -/
theorem ChangedByRuns.trans {l l' l'' : LocalData} (h : ChangedByRuns plat setup l l')
    (h' : ChangedByRuns plat setup l' l'') : ChangedByRuns plat setup l l'' := by
  rcases h with ⟨runs, hruns⟩
  rcases h' with ⟨runs', hruns'⟩
  exact ⟨runs ++ runs', hruns.append hruns'⟩

/-- One building. -/
theorem ChangedByRuns.build {s t : ClientState}
    (h : buildConfigurationNameTrees plat setup env fuel s = .ok ⟨⟩ t) :
    ChangedByRuns plat setup s.localData t.localData :=
  ⟨[⟨env, fuel, s⟩], .cons ⟨t, h, rfl⟩ (.nil _)⟩

/-- At the end of a round the loop is left, or it goes on. -/
theorem endOfRound_eq_ok {u t : ClientState} (h : (do
      if ! (← ask env.stopOrder) then
        let _ ← deref
        if ! (← isConnected env) then
          initializeConnection plat setup env fuel rounds) u = .ok ⟨⟩ t) :
    t.localData = u.localData ∨ ∃ u', u'.localData = u.localData ∧
      initializeConnection plat setup env fuel rounds u' = .ok ⟨⟩ t := by
  rcases run_bind_eq_ok.mp h with ⟨stopped, u₁, hask, h⟩
  cases hask
  split at h
  · rcases run_bind_eq_ok.mp h with ⟨_, u₂, hderef, h⟩
    obtain rfl := (deref_eq_ok hderef).1
    rw [run_bind_ok (isConnected_run env _)] at h
    split at h
    · right
      refine ⟨ClientState.afterGetState env _, ?_, h⟩
      rfl
    · left
      cases h
      rfl
  · left
    cases h
    rfl

/-- Each round of the loop that opens the connection is one run, or none. -/
theorem initializeConnection_changed {s t : ClientState}
    (h : initializeConnection plat setup env fuel rounds s = .ok ⟨⟩ t) :
    ChangedByRuns plat setup s.localData t.localData := by
  induction rounds generalizing s with
  | zero => cases h
  | succ rounds ih =>
    have hstable := localData_stable env s.localData
    have hreplaced : ∀ (s' : ClientState) (connection : Option IEC61850ClientConnection),
        s'.localData = s.localData →
        ClientState.localData { s' with m_connection := connection } = s.localData :=
      fun _ _ hs' => hs'
    rcases hstable.destroyConnection_run hreplaced rfl with ⟨s₁, hdestroy, hs₁⟩
    obtain ⟨s₂, hcreate, hconn, hs₂⟩ : ∃ s', createConnection setup env s₁ = .ok ⟨⟩ s' ∧
        HasConnection s' ∧ s'.localData = s.localData :=
      hstable.createConnection_run hreplaced hs₁
    rcases deref_run_of_isSome hconn with ⟨connection, hderef⟩
    rw [initializeConnection, run_bind_ok hdestroy, run_bind_ok hcreate, run_bind_ok hderef,
      run_bind_ok (isConnected_run env s₂)] at h
    -- the end of the round: the loop ends, or another round begins with the same data
    have hloop : ∀ u : ClientState, (do
        if ! (← ask env.stopOrder) then
          let _ ← deref
          if ! (← isConnected env) then
            initializeConnection plat setup env fuel rounds) u = .ok ⟨⟩ t →
        ChangedByRuns plat setup u.localData t.localData := by
      intro u hu
      rcases endOfRound_eq_ok hu with hsame | ⟨u', hsame, hagain⟩
      · rw [hsame]
        exact .refl _
      · rw [← hsame]
        exact ih hagain
    rw [← hs₂]
    split at h
    · rcases run_bind_eq_ok.mp h with ⟨_, u, hbuild, hu⟩
      exact (ChangedByRuns.build hbuild).trans (hloop u hu)
    · have hrest := hloop (s₂.afterGetState env) h
      exact hrest

/-- A cycle reads, or it starts over. -/
theorem pollCycle_changed {s t : ClientState} (hs : HasConnection s)
    (h : pollCycle plat setup env fuel rounds s = .ok ⟨⟩ t) :
    ChangedByRuns plat setup s.localData t.localData := by
  cases hup : env.getState s.calls with
  | true =>
    have hkept := @Steady.cycle_up plat setup env fuel rounds _
      (localData_stable env s.localData).steady s ⟨hs, rfl⟩ hup
    rw [h, finalState_ok] at hkept
    rw [hkept.2]
    exact .refl _
  | false =>
    have hrun : initializeConnection plat setup env fuel rounds (s.afterGetState env) = .ok ⟨⟩ t := by
      rw [pollCycle, cycle_down hs hup] at h
      cases hinit : initializeConnection plat setup env fuel rounds (s.afterGetState env) with
      | ok _ t' =>
        rw [hinit] at h
        exact h
      | error e t' =>
        -- nothing is thrown that the loop could catch
        rw [hinit, initializeConnection_error hinit] at h
        cases h
    exact initializeConnection_changed (s := s.afterGetState env) hrun

/-- **The local data of a client come from the configuration by runs of the
building.** -/
theorem ClientReachable.changedByRuns {s : ClientState}
    (h : ClientReachable plat setup env fuel rounds s) :
    ∃ exchangedData, ChangedByRuns plat setup (newLocalData exchangedData) s.localData := by
  induction h with
  | @launch exchangedData s hrun => exact ⟨exchangedData, initializeConnection_changed hrun⟩
  | @cycle s s' hs hrun ih =>
    rcases ih with ⟨exchangedData, hchanged⟩
    exact ⟨exchangedData, hchanged.trans (pollCycle_changed hs.hasConnection hrun)⟩

end Client

/-! ## No trace of earlier runs -/

/-- What any number of runs leaves in the local data of one client. -/
structure LeavesNoTrace (plat : Platform) (setup : ClientSetup) (exchangedData : ExchangedData) :
    Prop where
  /-- The runs of connected clients come to an end if the directories do. -/
  ends : ∀ runs : List BuildRun, (∀ run ∈ runs, HasConnection run.client ∧
      ∀ fc path, DirectoryEnds run.env fc run.fuel path) →
    ∃ l, Run (BuildStep plat setup) (newLocalData exchangedData) runs l
  /-- Only the last run counts. -/
  last : ∀ runs run l, Run (BuildStep plat setup) (newLocalData exchangedData) (runs ++ [run]) l →
    Run (BuildStep plat setup) (newLocalData exchangedData) [run] l
  /-- There is one entry for each DO, with everything as configured but its tree. -/
  configured : ∀ runs l, Run (BuildStep plat setup) (newLocalData exchangedData) runs l →
    l.exchangedData.map DatapointConfig.withoutTree =
      exchangedData.map DatapointConfig.withoutTree
  /-- There is one entry for each selected dataset, and no other. -/
  selected : ∀ runs run l,
    Run (BuildStep plat setup) (newLocalData exchangedData) (runs ++ [run]) l →
    ∀ datasetRef, datasetRef ∈ l.exchangedDatasets ↔
      datasetRef ∈ setup.selectedDOInExchangedDatasets

/-- **Reconnections leave no trace in the local data**, and these change by nothing
else in the life of a client. -/
theorem reconnections_leave_no_trace (plat : Platform) (setup : ClientSetup) :
    (∀ exchangedData, LeavesNoTrace plat setup exchangedData) ∧
    ∀ (env : Environment) (fuel rounds : Nat) (s : ClientState),
      ClientReachable plat setup env fuel rounds s →
      ∃ exchangedData, ChangedByRuns plat setup (newLocalData exchangedData) s.localData := by
  refine ⟨?_, fun env fuel rounds s hs => hs.changedByRuns⟩
  intro exchangedData
  -- a last run starts from local data that came from the configuration
  have hlast : ∀ runs run l,
      Run (BuildStep plat setup) (newLocalData exchangedData) (runs ++ [run]) l →
      BuildStep plat setup (newLocalData exchangedData) run l ∧
        l.exchangedData.map DatapointConfig.withoutTree =
          exchangedData.map DatapointConfig.withoutTree ∧
        ∀ datasetRef, datasetRef ∈ l.exchangedDatasets ↔
          datasetRef ∈ setup.selectedDOInExchangedDatasets := by
    intro runs run l h
    rcases h.exists_of_append with ⟨l', hruns, hrun⟩
    rcases hrun with _ | ⟨hstep, hnil⟩
    rcases hnil with _ | _
    exact hstep.rebuilt (builtFrom_of_run hruns)
  constructor
  · intro runs hruns
    exact exists_run hruns (newLocalData exchangedData)
  · intro runs run l h
    exact .cons (hlast runs run l h).1 (.nil l)
  · intro runs l h
    exact (builtFrom_of_run h).configured
  · intro runs run l h
    exact (hlast runs run l h).2.2

end Iec61850South
