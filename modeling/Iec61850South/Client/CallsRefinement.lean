import Iec61850South.Client.Calls

/-! # Both embeddings of the client agree

What the second embedding adds does not show in the state of the first one. So
each life of a client with its calls of libiec61850 is a life of a client, and each
life of a client is the view of one with its calls.
-/

namespace Iec61850South

open Lib Std

namespace Library

/-! ## Statements that do not show -/

section Statements

variable {α β α' β' : Type}

/-- What the first embedding does is done in the same way in the second one. -/
theorem lift_projects (x : ClientM α) : Projects LibraryState.client id (lift x) x :=
  Projects.zoom (fun _ _ => rfl) x

/-- An action on a resource is only recorded in the second embedding. -/
theorem act_silent (action : Action Resource) : Silent LibraryState.client (act action) :=
  Silent.modify fun _ => rfl

/-- The first embedding does not measure sleep. -/
theorem sleep_for_silent (timespan : Nat) : Silent LibraryState.client (sleep_for timespan) :=
  Silent.modify fun _ => rfl

/-- Reading the wider state changes nothing. -/
theorem get_silent : Silent LibraryState.client (get : LibraryM LibraryState) :=
  fun s => ⟨s, s, rfl, rfl⟩

/-- A fresh address is the business of the second embedding. -/
theorem allocate_silent (kind : Address → Resource) :
    Silent LibraryState.client (allocate kind) :=
  .bind (.modify fun _ => rfl) fun _ => .bind get_silent fun _ => .pure _

/-- The address of an answer, when there is one. -/
theorem allocateResult_silent (kind : Address → Resource) (result : Option α) :
    Silent LibraryState.client (allocateResult kind result) := by
  cases result with
  | none => exact .pure 0
  | some _ => exact allocate_silent kind

/-- A use of the connection is only recorded in the second embedding. -/
theorem useConnection_silent (connection : Address) :
    Silent LibraryState.client (useConnection connection) :=
  .bind (act_silent _) fun _ => act_silent _

/-- A destructor at the end of a scope does not show, on either exit. -/
theorem inScope_projects {f : α → β} {x : LibraryM α} {y : ClientM β}
    (h : Projects LibraryState.client f x y) (destructor : List (Action Resource)) :
    Projects LibraryState.client f (inScope destructor x) y := by
  intro s
  rw [h s]
  unfold inScope
  cases x s with
  | ok a s' => rfl
  | error e s' =>
    by_cases h : e.isCaught = true
    · simp only [h, if_true]
      rfl
    · simp only [h]
      rfl

/-- `lock_guard` only adds the lock and the unlock of the mutex. -/
theorem connectionGuard_projects {f : α → β} {x : LibraryM α} {y : ClientM β}
    (h : Projects LibraryState.client f x y) (connection : Address) :
    Projects LibraryState.client f (connectionGuard connection x) y :=
  .silent (act_silent _) fun _ => inScope_projects h _

/-- A statement after `m_connection->`. -/
theorem deref_projects {g : α' → β'} {k : Address → LibraryM α'} {l : ClientM β'}
    (h : ∀ connection, Projects LibraryState.client g (k connection) l) :
    Projects LibraryState.client g (deref >>= k) (Iec61850South.deref >>= fun _ => l) := by
  rw [deref, bind_assoc]
  refine .bind (lift_projects _) fun _ => ?_
  rw [bind_assoc]
  exact .silent get_silent fun s => h s.m_iedConnection

end Statements

/-! ## The methods of the connection -/

section Connection

variable (env : Environment) (connection : Address)

/-- `isConnected`, with its lock. -/
theorem isConnected_projects :
    Projects LibraryState.client id (isConnected env connection)
      (IEC61850ClientConnection.isConnected env) :=
  connectionGuard_projects (.silent (useConnection_silent _) fun _ => lift_projects _) _

/-- `openConnection`: the moment of the connect is recorded besides. -/
theorem openConnection_projects (connParam : ServerConnectionParameters) :
    Projects LibraryState.client id (openConnection env connection connParam)
      (IEC61850ClientConnection.openConnection env connParam) := by
  have hconnect : Projects LibraryState.client id (do
      useConnection connection
      modify fun s => { s with connects := s.connects ++ [s.slept] }
      lift (request (.connect connParam.ipAddress connParam.mmsPort)
        fun n => (PUnit.unit, env.connect n)))
      (request (.connect connParam.ipAddress connParam.mmsPort)
        fun n => (PUnit.unit, env.connect n)) :=
    .silent (useConnection_silent _) fun _ =>
      .silent (.modify fun _ => rfl) fun _ => lift_projects _
  refine connectionGuard_projects ?_ connection
  rw [IEC61850ClientConnection.openConnection]
  by_cases hosi : connParam.isOsiParametersEnabled = true
  · simp only [hosi, if_true]
    exact .silent (useConnection_silent _) fun _ => .bind (lift_projects _) fun _ => hconnect
  · simp only [hosi]
    exact hconnect

/-- `readDO`: the wrapper that it returns holds the value of the first embedding. -/
theorem readDO_projects (doPath : String) (functionalConstraint : FunctionalConstraint) :
    Projects LibraryState.client (Option.map WrappedMms.value)
      (readDO env connection doPath functionalConstraint)
      (IEC61850ClientConnection.readDO env doPath functionalConstraint) := by
  refine .bind (isConnected_projects env connection) fun connected => ?_
  cases connected with
  | false => exact .pure none
  | true =>
    refine connectionGuard_projects (.silent (useConnection_silent _) fun _ => ?_) connection
    refine .bind (lift_projects _) fun mmsValue => ?_
    exact .silent (allocateResult_silent _ mmsValue) fun _ => .pure _

/-- `readDataset`: the client dataset is created and destroyed on the way. -/
theorem readDataset_projects (datasetRef : String) :
    Projects LibraryState.client (Option.map WrappedMms.value)
      (readDataset env connection datasetRef)
      (IEC61850ClientConnection.readDataset env datasetRef) := by
  refine .bind (isConnected_projects env connection) fun connected => ?_
  cases connected with
  | false => exact .pure none
  | true =>
    refine connectionGuard_projects (.silent (useConnection_silent _) fun _ => ?_) connection
    refine .bind (lift_projects _) fun readDataset => ?_
    refine .silent (allocateResult_silent _ readDataset) fun _ => ?_
    refine .bind (lift_projects _) fun values => ?_
    exact .silent (act_silent _) fun _ => .silent (allocate_silent _) fun _ =>
      .silent (act_silent _) fun _ => .pure _

/-- A request for a list, and the list that it returns. -/
theorem requestList_projects (kind : Address → Resource) (x : ClientM (Option (List String))) :
    Projects LibraryState.client LinkedList.names
      (connectionGuard connection do
        useConnection connection
        let names ← lift x
        return ⟨names, ← allocateResult kind names⟩) x := by
  refine connectionGuard_projects (.silent (useConnection_silent _) fun _ => ?_) connection
  refine .silent_after (lift_projects x) fun names s => ?_
  rcases allocateResult_silent kind names s with ⟨a, s', hrun, hsame⟩
  exact ⟨⟨names, a⟩, s', run_bind_ok hrun, rfl, hsame⟩

/-- By induction on the depth, with the linked list of each level freed after its loop. -/
theorem buildNameTree_projects (fuel : Nat) (pathInDatamodel : String)
    (functionalConstraint : FunctionalConstraint) (nameTree : MmsNameNode) :
    Projects LibraryState.client id
      (buildNameTree env connection fuel pathInDatamodel functionalConstraint nameTree)
      (IEC61850ClientConnection.buildNameTree env fuel pathInDatamodel functionalConstraint
        nameTree) := by
  induction fuel generalizing pathInDatamodel nameTree with
  | zero => exact .throw Abort.outOfFuel
  | succ fuel ih =>
    refine .bind (isConnected_projects env connection) fun connected => ?_
    cases connected with
    | false => exact .pure nameTree
    | true =>
      refine .bind (requestList_projects connection .dataDirectory _) fun list => ?_
      cases list.names with
      | none =>
        exact .pure nameTree
      | some dataAttributes =>
        refine .silent_after (f := id) (.foldlM ?_ _ _) fun nameTree s => ⟨nameTree, _, rfl, rfl, rfl⟩
        intro nameTree daName
        exact .silent (act_silent _) fun _ => .bind (ih _ _) fun newNameNode =>
          .pure (nameTree.pushBack newNameNode)

/-- The directory of a dataset, with its linked list freed. -/
theorem getDoPathListWithFCFromDataset_projects (datasetRef : String) :
    Projects LibraryState.client id (getDoPathListWithFCFromDataset env connection datasetRef)
      (IEC61850ClientConnection.getDoPathListWithFCFromDataset env datasetRef) := by
  refine .bind (isConnected_projects env connection) fun connected => ?_
  cases connected with
  | false => exact .pure []
  | true =>
    refine .bind (requestList_projects connection .dataSetDirectory _) fun list => ?_
    cases list.names with
    | none =>
      exact .pure []
    | some dataSetMembers =>
      exact .silent (act_silent _) fun _ => .pure dataSetMembers

end Connection

/-! ## The client -/

section Client

variable (plat : Platform) (setup : ClientSetup) (env : Environment) (fuel : Nat)

/-- The name tree of a DO that is read by itself. -/
theorem buildDatapointNameTree_projects (dpConfig : DatapointConfig) :
    Projects LibraryState.client id (buildDatapointNameTree env fuel dpConfig)
      (Iec61850South.buildDatapointNameTree env fuel dpConfig) :=
  deref_projects fun connection =>
    .bind (buildNameTree_projects env connection fuel _ _ _) fun _ => .pure _

/-- The name tree of one member of a dataset. -/
theorem buildMember_projects (selection : ExchangedData) (doPathWithFC : String) :
    Projects LibraryState.client id (buildMember plat env fuel selection doPathWithFC)
      (Iec61850South.buildMember plat env fuel selection doPathWithFC) :=
  .bind (lift_projects _) fun _ => deref_projects fun connection =>
    .bind (buildNameTree_projects env connection fuel _ _ _) fun _ => .pure _

/-- The name trees of a dataset, member by member. -/
theorem buildDataset_projects (datasetRef : String) (selection : ExchangedData) :
    Projects LibraryState.client id (buildDataset plat env fuel datasetRef selection)
      (Iec61850South.buildDataset plat env fuel datasetRef selection) :=
  deref_projects fun connection =>
    .bind (getDoPathListWithFCFromDataset_projects env connection datasetRef) fun _ =>
      .bind (.mapM (buildMember_projects plat env fuel selection) _) fun _ => lift_projects _

/-- The state of the client is read. -/
theorem get_projects {α β : Type} {f : α → β} {k : LibraryState → LibraryM α}
    {l : ClientState → ClientM β}
    (h : ∀ s, Projects LibraryState.client f (k s) (l s.client)) :
    Projects LibraryState.client f (get >>= k) (get >>= l) :=
  .bind (f := LibraryState.client) (fun _ => rfl) h

/-- All the name trees, in the order of the source. -/
theorem buildConfigurationNameTrees_projects :
    Projects LibraryState.client id (buildConfigurationNameTrees plat setup env fuel)
      (Iec61850South.buildConfigurationNameTrees plat setup env fuel) := by
  rw [buildConfigurationNameTrees, Iec61850South.buildConfigurationNameTrees]
  refine get_projects fun s => .bind (.mapM (buildDatapointNameTree_projects env fuel) _) ?_
  intro exchangedData
  refine .bind (lift_projects _) fun _ => .forM ?_ _
  intro selectionEntry
  exact buildDataset_projects plat env fuel selectionEntry.1 selectionEntry.2

/-- The constructor of a connection. -/
theorem construct_projects (connParam : ServerConnectionParameters) :
    Projects LibraryState.client id (construct env connParam)
      (IEC61850ClientConnection.construct env connParam) :=
  .silent (allocate_silent _) fun connection => .silent (.modify fun _ => rfl) fun _ =>
    .bind (lift_projects _) fun _ => openConnection_projects env connection connParam

/-- A new connection in `m_connection`, the old one destroyed. -/
theorem createConnection_projects :
    Projects LibraryState.client id (createConnection setup env)
      (Iec61850South.createConnection setup env) :=
  get_projects fun _ => .ite (construct_projects env setup.connectionParam) (.pure PUnit.unit)

/-- The destructor of the connection, when there is one. -/
theorem destroyConnection_projects :
    Projects LibraryState.client id destroyConnection Iec61850South.destroyConnection := by
  refine get_projects fun s => .ite ?_ (.pure PUnit.unit)
  refine .silent get_silent fun s => ?_
  rw [destruct, bind_assoc]
  refine .bind (connectionGuard_projects (.silent (useConnection_silent _) fun _ =>
    lift_projects _) _) fun _ => .silent (act_silent _) fun _ => ?_
  exact fun _ => rfl

/-- By induction on the rounds, with the sleep between two of them. -/
theorem initializeConnection_projects (rounds : Nat) :
    Projects LibraryState.client id (initializeConnection plat setup env fuel rounds)
      (Iec61850South.initializeConnection plat setup env fuel rounds) := by
  induction rounds with
  | zero => exact .throw Abort.outOfFuel
  | succ rounds ih =>
    -- after the building
    have hloop : Projects LibraryState.client id (do
        sleep_for (SECOND_IN_MILLISEC / RECONNECTION_FREQUENCY_IN_HERTZ)
        if ! (← lift (ask env.stopOrder)) then
          let connection ← deref
          if ! (← isConnected env connection) then
            initializeConnection plat setup env fuel rounds) (do
        if ! (← ask env.stopOrder) then
          let _ ← Iec61850South.deref
          if ! (← IEC61850ClientConnection.isConnected env) then
            Iec61850South.initializeConnection plat setup env fuel rounds) :=
      .silent (sleep_for_silent _) fun _ => .bind (lift_projects _) fun _ =>
        .ite (deref_projects fun connection => .bind (isConnected_projects env connection) fun _ =>
          .ite ih (.pure PUnit.unit)) (.pure PUnit.unit)
    refine .bind destroyConnection_projects fun _ => .bind (createConnection_projects setup env)
      fun _ => deref_projects fun connection => .bind (isConnected_projects env connection) ?_
    intro connected
    cases connected with
    | false => exact hloop
    | true =>
      exact .bind (buildConfigurationNameTrees_projects plat setup env fuel) fun _ => hloop

/-- The reading of one DO, with the wrapped value destroyed at the end of its scope. -/
theorem readAndExportDO_projects (dpConfig : DatapointConfig) :
    Projects LibraryState.client id (readAndExportDO plat setup env dpConfig)
      (Iec61850South.readAndExportDO plat setup env dpConfig) := by
  refine deref_projects fun connection => .bind (readDO_projects env connection _ _) ?_
  intro wrapped_mms
  cases wrapped_mms with
  | none => exact .pure PUnit.unit
  | some wrapped_mms =>
    exact inScope_projects (.bind (lift_projects _) fun _ => lift_projects _) _

/-- The reading of one dataset, with the wrapped array destroyed at the end of its scope. -/
theorem readAndExportOneDataset_projects (datasetRef : String)
    (exchangedDataset : ExchangedData) :
    Projects LibraryState.client id
      (readAndExportOneDataset plat setup env datasetRef exchangedDataset)
      (Iec61850South.readAndExportOneDataset plat setup env datasetRef exchangedDataset) := by
  refine deref_projects fun connection => .bind (readDataset_projects env connection _) ?_
  intro wrapped_mms
  cases wrapped_mms with
  | none => exact .throw _
  | some wrapped_mms =>
    have hmembers : Projects LibraryState.client id (do
        let elements ← lift (liftExcept
          (datasetElements wrapped_mms.value.m_mmsValue exchangedDataset.length))
        forM (elements.zip exchangedDataset) fun member => lift (exportMember plat setup member))
        (do
        let elements ← liftExcept
          (datasetElements wrapped_mms.value.m_mmsValue exchangedDataset.length)
        forM (elements.zip exchangedDataset) (exportMember plat setup)) :=
      .bind (lift_projects _) fun _ => .forM (fun _ => lift_projects _) _
    exact inScope_projects hmembers _

/-- All the DOs of a cycle. -/
theorem readAndExportAllDO_projects :
    Projects LibraryState.client id (readAndExportAllDO plat setup env)
      (Iec61850South.readAndExportAllDO plat setup env) := by
  rw [readAndExportAllDO, Iec61850South.readAndExportAllDO]
  exact get_projects fun s => .forM (readAndExportDO_projects plat setup env) _

/-- All the datasets of a cycle. -/
theorem readAndExportAllDatasets_projects :
    Projects LibraryState.client id (readAndExportAllDatasets plat setup env)
      (Iec61850South.readAndExportAllDatasets plat setup env) := by
  rw [readAndExportAllDatasets, Iec61850South.readAndExportAllDatasets]
  refine get_projects fun s => .forM ?_ _
  intro it
  exact readAndExportOneDataset_projects plat setup env it.1 it.2

/-- The body of the reading loop: reconnect, read, and catch what is caught. -/
theorem readAndExportMms_projects (rounds : Nat) :
    Projects LibraryState.client id (readAndExportMms plat setup env fuel rounds)
      (Iec61850South.readAndExportMms plat setup env fuel rounds) := by
  refine deref_projects fun connection => .bind (isConnected_projects env connection) ?_
  intro connected
  cases connected with
  | false => exact initializeConnection_projects plat setup env fuel rounds
  | true =>
    refine .bind (lift_projects _) fun connection => ?_
    refine .ite (lift_projects _) ?_
    cases setup.applicationParams.readMode with
    | DATASET_READING => exact readAndExportAllDatasets_projects plat setup env
    | DO_READING => exact readAndExportAllDO_projects plat setup env

/-- A polling cycle of the second embedding is one of the first. -/
theorem pollCycle_projects (rounds : Nat) :
    Projects LibraryState.client id (pollCycle plat setup env fuel rounds)
      (Iec61850South.pollCycle plat setup env fuel rounds) := by
  refine .silent_after ?_ fun a s => ⟨PUnit.unit, _, rfl, rfl, rfl⟩
  intro s
  rw [Iec61850South.pollCycle, caught, readAndExportMms_projects plat setup env fuel rounds s]
  cases readAndExportMms plat setup env fuel rounds s with
  | ok a s' => rfl
  | error e s' =>
    by_cases h : e.isCaught = true
    · simp only [project, h, if_true]
    · simp only [project, h]
      rfl

end Client

end Library

/-- **The two embeddings of a client have the same lives**, seen without the calls of
libiec61850: what is proved of the lives of a client holds of those with its calls. -/
theorem library_life_iff {plat : Platform} {setup : ClientSetup} {env : Environment}
    (c : ClientState) :
    ClientLife plat setup env c ↔ ∃ s, LibraryLife plat setup env s ∧ s.client = c := by
  constructor
  · intro h
    induction h with
    | constructed exchangedData => exact ⟨_, .constructed exchangedData, rfl⟩
    | @initialized fuel rounds c c' _ hrun ih =>
      rcases ih with ⟨s, hlife, rfl⟩
      rcases (Library.initializeConnection_projects plat setup env fuel rounds).exists_of_ok hrun
        with ⟨_, s', hrun', _, hsame⟩
      exact ⟨s', .initialized hlife hrun', hsame⟩
    | @cycle fuel rounds c c' _ hrun ih =>
      rcases ih with ⟨s, hlife, rfl⟩
      rcases (Library.pollCycle_projects plat setup env fuel rounds).exists_of_ok hrun
        with ⟨_, s', hrun', _, hsame⟩
      exact ⟨s', .cycle hlife hrun', hsame⟩
    | destroyed _ hrun ih =>
      rcases ih with ⟨s, hlife, rfl⟩
      rcases Library.destroyConnection_projects.exists_of_ok hrun with ⟨_, s', hrun', _, hsame⟩
      exact ⟨s', .destroyed hlife hrun', hsame⟩
  · rintro ⟨s, hlife, rfl⟩
    induction hlife with
    | constructed exchangedData => exact .constructed exchangedData
    | @initialized fuel rounds s s' _ hrun ih =>
      exact .initialized ih
        ((Library.initializeConnection_projects plat setup env fuel rounds).of_ok hrun)
    | @cycle fuel rounds s s' _ hrun ih =>
      exact .cycle ih ((Library.pollCycle_projects plat setup env fuel rounds).of_ok hrun)
    | destroyed _ hrun ih => exact .destroyed ih (Library.destroyConnection_projects.of_ok hrun)

end Iec61850South
