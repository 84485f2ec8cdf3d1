import Iec61850South.Client.Cycle
import Iec61850South.Client.Paths

/-! # What no step of a client breaks

`Steady env P`: the connection is there, and no single step of its use (an
answer, a request, an event) breaks `P`. Then no computation that reads breaks
it either, and none of them uses a null `m_connection`. `Stable env P` holds of
the steps that open or close a connection too, and `DataStable` also of those
that write the local configuration.
-/

namespace Iec61850South

open Lib IEC61850ClientConnection

/-- The error codes that the environment may give at question `n`. -/
inductive AnswerCode (env : Environment) (n : Nat) : IedClientError → Prop
  | connect : AnswerCode env n (env.connect n)
  | readObject (doPath : String) (fc : FunctionalConstraint) :
      AnswerCode env n (env.readObject n doPath fc).2
  | readDataSetValues (datasetRef : String) :
      AnswerCode env n (env.readDataSetValues n datasetRef).2
  | getDataDirectoryByFC (path : String) (fc : FunctionalConstraint) :
      AnswerCode env n (env.getDataDirectoryByFC n path fc).2
  | getDataSetDirectory (datasetRef : String) :
      AnswerCode env n (env.getDataSetDirectory n datasetRef).2

/-- A property that implies a connection and survives every single step. -/
structure Stable (env : Environment) (P : ClientState → Prop) : Prop where
  connection : ∀ s, P s → s.m_connection.isSome
  event : ∀ s event, P s → P { s with events := s.events ++ [event] }
  calls : ∀ s, P s → P { s with calls := s.calls + 1 }
  answered : ∀ s event error, AnswerCode env s.calls error → P s → P (s.afterRequest event error)

/-- What is done with a connection that is open: it is neither opened nor closed. -/
def Event.isUse : Event → Bool
  | .getState _ => true
  | .readObject _ _ => true
  | .readDataSetValues _ => true
  | .getDataDirectoryByFC _ _ => true
  | .getDataSetDirectory _ => true
  | .logError _ => true
  | .ingest _ _ => true
  | _ => false

/-- A property that implies a connection and survives every step of its use. -/
structure Steady (env : Environment) (P : ClientState → Prop) : Prop where
  connection : ∀ s, P s → s.m_connection.isSome
  event : ∀ s event, event.isUse = true → P s → P { s with events := s.events ++ [event] }
  calls : ∀ s, P s → P { s with calls := s.calls + 1 }
  answered : ∀ s event error, event.isUse = true → AnswerCode env s.calls error → P s →
    P (s.afterRequest event error)

/-- What the whole life keeps, the readings keep. -/
theorem Stable.steady {env : Environment} {P : ClientState → Prop} (hP : Stable env P) :
    Steady env P where
  connection := hP.connection
  event s event _ hs := hP.event s event hs
  calls := hP.calls
  answered s event error _ hcode hs := hP.answered s event error hcode hs

/-- It also survives new local data. -/
structure DataStable (env : Environment) (P : ClientState → Prop) : Prop extends Stable env P where
  exchangedData : ∀ s data, P s → P { s with m_localExchangedData := data }
  exchangedDatasets : ∀ s data, P s → P { s with m_localExchangedDatasets := data }

/-- The connection object exists. -/
def HasConnection (s : ClientState) : Prop :=
  s.m_connection.isSome

/-- No answer of the library takes the connection away. -/
theorem HasConnection.answered {s : ClientState} (h : HasConnection s) (event : Event)
    (error : IedClientError) : HasConnection (s.afterRequest event error) :=
  (isSome_afterRequest event error s).trans h

/-- Nothing between two cycles takes the connection away. -/
theorem hasConnection_stable (env : Environment) : DataStable env HasConnection where
  connection _ h := h
  event _ _ h := h
  calls _ h := h
  answered _ event error _ h := h.answered event error
  exchangedData _ _ h := h
  exchangedDatasets _ _ h := h

/-- Not a use of an absent object. -/
def NoFault (e : Abort) : Prop :=
  ∀ f, e ≠ .fault f

section Steps

variable {env : Environment} {P : ClientState → Prop} (hP : Steady env P) {G : Abort → Prop}

include hP

/-- A use of the library. -/
theorem Steady.keeps_emitEvent {event : Event} (huse : event.isUse = true) :
    Keeps P G (emitEvent event) :=
  .modify fun s hs => hP.event s event huse hs

/-- A question. -/
theorem Steady.keeps_ask {α : Type} (answer : Nat → α) : Keeps P G (ask answer) :=
  .of_eq_ok fun s hs => ⟨_, _, rfl, hP.calls s hs⟩

/-- A question that leaves an error code behind. -/
theorem Steady.keeps_request {α : Type} {event : Event} {answer : Nat → α × IedClientError}
    (huse : event.isUse = true) (hcode : ∀ n, AnswerCode env n (answer n).2) :
    Keeps P G (request event answer) :=
  .of_eq_ok fun s hs =>
    ⟨_, _, request_run event answer s, hP.answered s event _ huse (hcode _) hs⟩

/-- `m_connection->` only reads. -/
theorem Steady.keeps_deref : Keeps P G deref :=
  .of_eq_ok fun s hs => by
    rcases deref_run_of_isSome (hP.connection s hs) with ⟨connection, hrun⟩
    exact ⟨connection, s, hrun, hs⟩

/-- The test that comes before each request. -/
theorem Steady.keeps_isConnected : Keeps P G (isConnected env) :=
  .bind (hP.keeps_ask _) fun _ => .bind (hP.keeps_emitEvent rfl) fun _ => .pure _

/-- The reading of a DO. -/
theorem Steady.keeps_readDO (doPath : String) (fc : FunctionalConstraint) :
    Keeps P G (readDO env doPath fc) :=
  .bind hP.keeps_isConnected fun _ => .ite (.pure _)
    (.bind (hP.keeps_request rfl fun _ => .readObject doPath fc) fun _ => .pure _)

/-- The reading of a dataset, which may meet a null client dataset. -/
theorem Steady.keeps_readDataset (datasetRef : String)
    (hG : G (.fault .nullClientDataSet)) : Keeps P G (readDataset env datasetRef) := by
  refine .bind hP.keeps_isConnected fun _ => .ite (.pure _)
    (.bind (hP.keeps_request rfl fun _ => .readDataSetValues datasetRef) fun r => ?_)
  refine .bind (.liftExcept fun e he => ?_) fun _ => .pure _
  cases r with
  | none =>
    cases he
    exact hG
  | some dataSet => cases he

/-- By induction on the depth of the name tree. -/
theorem Steady.keeps_buildNameTree (hG : G .outOfFuel) (fuel : Nat) (path : String)
    (fc : FunctionalConstraint) (nameTree : MmsNameNode) :
    Keeps P G (buildNameTree env fuel path fc nameTree) := by
  induction fuel generalizing path nameTree with
  | zero => exact .throw hG
  | succ fuel ih =>
    refine .bind hP.keeps_isConnected fun _ => .ite (.pure _)
      (.bind (hP.keeps_request rfl fun _ => .getDataDirectoryByFC path fc) fun r => ?_)
    cases r with
    | none => exact .pure _
    | some dataAttributes =>
      exact .foldlM dataAttributes nameTree fun _ _ _ => .bind (ih _ _) fun _ => .pure _

/-- A property that the building of name trees preserves. -/
def KeepsTrees (env : Environment) (fuel : Nat) (P : ClientState → Prop) (G : Abort → Prop) : Prop :=
  ∀ path fc nameTree, Keeps P G (buildNameTree env fuel path fc nameTree)

/-- The name tree of one DO. -/
theorem Steady.keeps_buildDatapointNameTree {fuel : Nat} (htree : KeepsTrees env fuel P G)
    (dpConfig : DatapointConfig) : Keeps P G (buildDatapointNameTree env fuel dpConfig) :=
  .bind hP.keeps_deref fun _ => .bind (htree _ _ _) fun _ => .pure _

/-- The name tree of one member of a dataset. -/
theorem Steady.keeps_buildMember {fuel : Nat} (htree : KeepsTrees env fuel P G) (plat : Platform)
    (selection : ExchangedData) (doPathWithFC : String) :
    Keeps P G (buildMember plat env fuel selection doPathWithFC) := by
  refine .bind (.liftExcept fun e he => ?_) fun parts => ?_
  · -- the positions given to `substr` are always within the string
    rcases splitDoPathWithFC_returns doPathWithFC with ⟨parts, hparts⟩
    rw [hparts] at he
    cases he
  · exact .bind hP.keeps_deref fun _ => .bind (htree _ _ _) fun _ => .pure _

/-- The directory of a dataset. -/
theorem Steady.keeps_getDoPathListWithFCFromDataset (datasetRef : String) :
    Keeps P G (getDoPathListWithFCFromDataset env datasetRef) :=
  .bind hP.keeps_isConnected fun _ => .ite (.pure _)
    (.bind (hP.keeps_request rfl fun _ => .getDataSetDirectory datasetRef) fun _ => .pure _)

/-- Sending a Datapoint to Fledge. -/
theorem Steady.keeps_sendData (setup : ClientSetup) (datapoint : Option Datapoint) :
    Keeps P G (sendData setup datapoint) := by
  unfold sendData
  cases datapoint with
  | none => exact .pure _
  | some d => exact .ite (hP.keeps_emitEvent rfl) (.pure _)

/-- The conversion is pure, so only the sending shows. -/
theorem Steady.keeps_convertAndSend (plat : Platform) (setup : ClientSetup)
    (mmsValue : Option MmsValue) (dpConfig : DatapointConfig) :
    Keeps P (fun _ => True)
      (liftExcept (convertMmsToDatapoint plat mmsValue dpConfig) >>= sendData setup) :=
  .bind (.liftExcept fun _ _ => trivial) fun _ => hP.keeps_sendData setup _

/-- The reading of one DO and its export. -/
theorem Steady.keeps_readAndExportDO (plat : Platform) (setup : ClientSetup)
    (dpConfig : DatapointConfig) :
    Keeps P (fun _ => True) (readAndExportDO plat setup env dpConfig) := by
  refine .bind hP.keeps_deref fun _ => .bind (hP.keeps_readDO _ _) fun wrapped_mms => ?_
  cases wrapped_mms with
  | none => exact .pure _
  | some wrapped_mms => exact hP.keeps_convertAndSend plat setup _ _

/-- What happens to a dataset after its request. -/
theorem Steady.keeps_exportMembers (plat : Platform) (setup : ClientSetup)
    (wrapped_mms : Option WrappedMms) (exchangedDataset : ExchangedData) :
    Keeps P (fun _ => True) (do
      let datasetMmsValue ← liftExcept (getMmsValue wrapped_mms)
      let elements ← liftExcept (datasetElements datasetMmsValue exchangedDataset.length)
      forM (elements.zip exchangedDataset) (exportMember plat setup)) := by
  refine .bind (.liftExcept fun _ _ => trivial) fun value => ?_
  refine .bind (.liftExcept fun _ _ => trivial) fun elements => .forM _ fun member _ => ?_
  unfold exportMember
  exact .ite (hP.keeps_convertAndSend plat setup _ _) (.pure _)

/-- The reading of one dataset and the export of its members. -/
theorem Steady.keeps_readAndExportOneDataset (plat : Platform) (setup : ClientSetup)
    (datasetRef : String) (exchangedDataset : ExchangedData) :
    Keeps P (fun _ => True)
      (readAndExportOneDataset plat setup env datasetRef exchangedDataset) :=
  .bind hP.keeps_deref fun _ => .bind (hP.keeps_readDataset _ trivial) fun _ =>
    hP.keeps_exportMembers plat setup _ _

/-- All the DOs of a cycle. -/
theorem Steady.keeps_readAndExportAllDO (plat : Platform) (setup : ClientSetup) :
    Keeps P (fun _ => True) (readAndExportAllDO plat setup env) :=
  .bind .get fun _ => .forM _ fun _ _ => hP.keeps_readAndExportDO plat setup _

/-- All the datasets of a cycle. -/
theorem Steady.keeps_readAndExportAllDatasets (plat : Platform) (setup : ClientSetup) :
    Keeps P (fun _ => True) (readAndExportAllDatasets plat setup env) :=
  .bind .get fun _ => .forM _ fun _ _ => hP.keeps_readAndExportOneDataset plat setup _ _

/-- Building a dataset writes the local datasets, and nothing else that is local. -/
theorem Steady.keeps_buildDataset {fuel : Nat} (htree : KeepsTrees env fuel P G)
    (hdatasets : ∀ s data, P s → P { s with m_localExchangedDatasets := data }) (plat : Platform)
    (datasetRef : String) (selection : ExchangedData) :
    Keeps P G (buildDataset plat env fuel datasetRef selection) := by
  refine .bind hP.keeps_deref fun _ =>
    .bind (hP.keeps_getDoPathListWithFCFromDataset _) fun doPathListWithFC => ?_
  exact .bind (.mapM _ fun _ _ => hP.keeps_buildMember htree plat _ _) fun _ =>
    .modify fun s hs => hdatasets s _ hs

omit hP in
/-- The name trees of one dataset, written at the end. -/
theorem DataStable.keeps_buildDataset (hP : DataStable env P) {fuel : Nat}
    (htree : KeepsTrees env fuel P G) (plat : Platform) (datasetRef : String)
    (selection : ExchangedData) : Keeps P G (buildDataset plat env fuel datasetRef selection) :=
  hP.steady.keeps_buildDataset htree hP.exchangedDatasets plat datasetRef selection

/-- All the name trees, where the writes of both maps are kept. -/
theorem Steady.keeps_buildConfigurationNameTrees {fuel : Nat} (htree : KeepsTrees env fuel P G)
    (hdata : ∀ s data, P s → P { s with m_localExchangedData := data })
    (hdatasets : ∀ s data, P s → P { s with m_localExchangedDatasets := data }) (plat : Platform)
    (setup : ClientSetup) : Keeps P G (buildConfigurationNameTrees plat setup env fuel) :=
  .bind .get fun _ => .bind (.mapM _ fun _ _ => hP.keeps_buildDatapointNameTree htree _) fun _ =>
    .bind (.modify fun s hs => hdata s _ hs) fun _ =>
      .forM _ fun _ _ => hP.keeps_buildDataset htree hdatasets plat _ _

omit hP in
/-- So it is for what keeps any data. -/
theorem DataStable.keeps_buildConfigurationNameTrees (hP : DataStable env P) {fuel : Nat}
    (htree : KeepsTrees env fuel P G) (plat : Platform) (setup : ClientSetup) :
    Keeps P G (buildConfigurationNameTrees plat setup env fuel) :=
  hP.steady.keeps_buildConfigurationNameTrees htree hP.exchangedData hP.exchangedDatasets plat setup

end Steps

/-- Opening a connection breaks nothing stable. -/
theorem Stable.keeps_openConnection {env : Environment} {P : ClientState → Prop}
    (hP : Stable env P) {G : Abort → Prop} (connParam : ServerConnectionParameters) :
    Keeps P G (openConnection env connParam) := by
  have hemit : ∀ event, Keeps P G (emitEvent event) :=
    fun event => .modify fun s hs => hP.event s event hs
  have hconnect : Keeps P G (request (.connect connParam.ipAddress connParam.mmsPort) fun n =>
      ((⟨⟩ : PUnit), env.connect n)) :=
    .of_eq_ok fun s hs => ⟨_, _, request_run .., hP.answered s _ _ .connect hs⟩
  have haddresses : Keeps P G (do
      emitEvent (.setRemoteAddresses connParam.osiParameters.remotePSelector
        connParam.osiParameters.remoteSSelector connParam.osiParameters.localTSelector)
      emitEvent (.setLocalAddresses connParam.osiParameters.localPSelector
        connParam.osiParameters.localSSelector connParam.osiParameters.remoteTSelector)) :=
    .bind (hemit _) fun _ => hemit _
  -- each of the two titles is set only if there is one
  have hosi : Keeps P G (setOsiConnectionParameters connParam.osiParameters) := by
    unfold setOsiConnectionParameters
    exact .ite
      (.bind (hemit _) fun _ => .ite (.bind (hemit _) fun _ => haddresses) haddresses)
      (.ite (.bind (hemit _) fun _ => haddresses) haddresses)
  unfold openConnection
  exact .ite (.bind hosi fun _ => hconnect) hconnect

/-! ## The connection object is always replaced, never left out -/

/-- Without a connection there is nothing to destroy. -/
theorem destroyConnection_cases (s : ClientState) :
    (s.m_connection = none ∧ destroyConnection s = .ok ⟨⟩ s) ∨
    (HasConnection s ∧ destroyConnection s =
      .ok ⟨⟩ { s with events := s.events ++ [.close], m_connection := none }) := by
  cases h : s.m_connection with
  | none =>
    left
    rw [destroyConnection, run_bind_ok (run_get s), h]
    exact ⟨rfl, rfl⟩
  | some connection =>
    right
    rw [destroyConnection, run_bind_ok (run_get s), h]
    exact ⟨by simp [HasConnection, h], rfl⟩

/-- A connection that is there stays, otherwise one is constructed. -/
theorem createConnection_cases (setup : ClientSetup) (env : Environment) (s : ClientState) :
    (HasConnection s ∧ createConnection setup env s = .ok ⟨⟩ s) ∨
    (s.m_connection = none ∧
      createConnection setup env s = construct env setup.connectionParam s) := by
  cases h : s.m_connection with
  | none =>
    right
    rw [createConnection, run_bind_ok (run_get s), h]
    exact ⟨rfl, rfl⟩
  | some connection =>
    left
    rw [createConnection, run_bind_ok (run_get s), h]
    exact ⟨by simp [HasConnection, h], rfl⟩

/-- A property that survives the replacement of the connection object, and the
building of the local configuration. -/
structure ClientInvariant (plat : Platform) (setup : ClientSetup) (env : Environment) (fuel : Nat)
    (D : ClientState → Prop) : Prop where
  stable : Stable env fun s => HasConnection s ∧ D s
  replaced : ∀ s connection, D s → D { s with m_connection := connection }
  built : Keeps (fun s => HasConnection s ∧ D s) NoFault
    (buildConfigurationNameTrees plat setup env fuel)

/-- What holds of every state is an invariant. -/
theorem true_invariant (plat : Platform) (setup : ClientSetup) (env : Environment) (fuel : Nat) :
    ClientInvariant plat setup env fuel fun _ => True := by
  have hP : DataStable env fun s => HasConnection s ∧ True := by
    simpa only [and_true] using hasConnection_stable env
  refine ⟨hP.toStable, fun _ _ _ => trivial, ?_⟩
  exact hP.keeps_buildConfigurationNameTrees
    (hP.steady.keeps_buildNameTree (fun f hf => by cases hf) fuel) plat setup

/-- What the two calls in front keep is kept by `initializeConnection`, whatever it
starts from. It ends only as the building does, and leaves a connection object behind. -/
theorem Steady.initializeConnection_keeps {plat : Platform} {setup : ClientSetup}
    {env : Environment} {fuel : Nat} {D : ClientState → Prop} {G : Abort → Prop}
    (hP : Steady env fun s => HasConnection s ∧ D s)
    (hdestroy : ∀ s, D s → ∃ s', destroyConnection s = .ok ⟨⟩ s' ∧ D s')
    (hcreate : ∀ s, D s →
      ∃ s', createConnection setup env s = .ok ⟨⟩ s' ∧ HasConnection s' ∧ D s')
    (hfuel : G .outOfFuel)
    (hbuilt : Keeps (fun s => HasConnection s ∧ D s) G
      (buildConfigurationNameTrees plat setup env fuel))
    (rounds : Nat) (s : ClientState) (h : 0 < rounds ∨ HasConnection s) (hs : D s) :
    (HasConnection (finalState (initializeConnection plat setup env fuel rounds s)) ∧
        D (finalState (initializeConnection plat setup env fuel rounds s))) ∧
      ∀ e s', initializeConnection plat setup env fuel rounds s = .error e s' → G e := by
  induction rounds generalizing s with
  | zero =>
    refine ⟨⟨h.resolve_left (Nat.lt_irrefl 0), hs⟩, ?_⟩
    intro e s' heq
    cases heq
    exact hfuel
  | succ rounds ih =>
    rcases hdestroy s hs with ⟨s₁, hdestroyed, hs₁⟩
    rcases hcreate s₁ hs₁ with ⟨s₂, hcreated, hs₂⟩
    rw [initializeConnection, run_bind_ok hdestroyed, run_bind_ok hcreated]
    -- the rest of the round keeps the new connection object
    have hretry : Keeps (fun s => HasConnection s ∧ D s) G
        (initializeConnection plat setup env fuel rounds) :=
      fun s hs => ih s (Or.inr hs.1) hs.2
    have hloop : Keeps (fun s => HasConnection s ∧ D s) G (do
        if ! (← ask env.stopOrder) then
          let _ ← deref
          if ! (← isConnected env) then
            initializeConnection plat setup env fuel rounds) :=
      .bind (hP.keeps_ask _) fun _ => .ite
        (.bind hP.keeps_deref fun _ => .bind hP.keeps_isConnected fun _ => .ite hretry (.pure _))
        (.pure _)
    refine Keeps.bind hP.keeps_deref (fun _ => .bind hP.keeps_isConnected fun _ => ?_) s₂ hs₂
    exact .ite (.bind hbuilt fun _ => hloop) hloop

section Initialize

variable {plat : Platform} {setup : ClientSetup} {env : Environment} {fuel : Nat}
  {D : ClientState → Prop} (hstable : Stable env fun s => HasConnection s ∧ D s)
  (hreplaced : ∀ s connection, D s → D { s with m_connection := connection })

include hstable hreplaced

/-- The destruction of the connection always returns. -/
theorem Stable.destroyConnection_run {s : ClientState} (hs : D s) :
    ∃ s', destroyConnection s = .ok ⟨⟩ s' ∧ D s' := by
  rcases destroyConnection_cases s with ⟨_, hrun⟩ | ⟨hconn, hrun⟩
  · exact ⟨s, hrun, hs⟩
  · have hclose := (hstable.event s .close ⟨hconn, hs⟩).2
    exact ⟨_, hrun, hreplaced _ none hclose⟩

/-- The creation always returns, and there is a connection then. -/
theorem Stable.createConnection_run {s : ClientState} (hs : D s) :
    ∃ s', createConnection setup env s = .ok ⟨⟩ s' ∧ HasConnection s' ∧ D s' := by
  rcases createConnection_cases setup env s with ⟨hconn, hrun⟩ | ⟨_, hrun⟩
  · exact ⟨s, hrun, hconn, hs⟩
  · -- a new object, which is then opened
    have hopen := hstable.keeps_openConnection (G := fun _ => False) setup.connectionParam
    have hnew : HasConnection { s with m_connection := some {} } ∧
        D { s with m_connection := some {} } := ⟨rfl, hreplaced s _ hs⟩
    rcases hopen.returns hnew with ⟨_, s', hopened, hs'⟩
    refine ⟨s', ?_, hs'⟩
    rw [hrun]
    exact (run_bind_ok (run_modify ..)).trans hopened

/-- Whatever it starts from, `initializeConnection` ends only as the building does,
and leaves a connection object behind. -/
theorem Stable.initializeConnection_keeps {G : Abort → Prop} (hfuel : G .outOfFuel)
    (hbuilt : Keeps (fun s => HasConnection s ∧ D s) G
      (buildConfigurationNameTrees plat setup env fuel))
    (rounds : Nat) (s : ClientState) (h : 0 < rounds ∨ HasConnection s) (hs : D s) :
    (HasConnection (finalState (initializeConnection plat setup env fuel rounds s)) ∧
        D (finalState (initializeConnection plat setup env fuel rounds s))) ∧
      ∀ e s', initializeConnection plat setup env fuel rounds s = .error e s' → G e :=
  hstable.steady.initializeConnection_keeps
    (fun _ hs => hstable.destroyConnection_run hreplaced hs)
    (fun _ hs => hstable.createConnection_run hreplaced hs) hfuel hbuilt rounds s h hs

end Initialize

/-- Nothing in `initializeConnection` uses an absent object. -/
theorem ClientInvariant.initializeConnection_keeps {plat : Platform} {setup : ClientSetup}
    {env : Environment} {fuel : Nat} {D : ClientState → Prop}
    (hD : ClientInvariant plat setup env fuel D) (rounds : Nat) (s : ClientState)
    (h : 0 < rounds ∨ HasConnection s) (hs : D s) :
    (HasConnection (finalState (initializeConnection plat setup env fuel rounds s)) ∧
        D (finalState (initializeConnection plat setup env fuel rounds s))) ∧
      ∀ e s', initializeConnection plat setup env fuel rounds s = .error e s' → NoFault e :=
  hD.stable.initializeConnection_keeps hD.replaced (fun _ hf => by cases hf) hD.built rounds s h hs

/-- `initializeConnection` throws no fault: it uses the connection after its creation only.
-/
theorem initializeConnection_safe (plat : Platform) (setup : ClientSetup) (env : Environment)
    (fuel rounds : Nat) (s : ClientState) (h : 0 < rounds ∨ HasConnection s) (e : Abort)
    (s' : ClientState) (hrun : initializeConnection plat setup env fuel rounds s = .error e s') :
    NoFault e :=
  ((true_invariant plat setup env fuel).initializeConnection_keeps rounds s h trivial).2 e s' hrun

/-- Nothing in `initializeConnection` throws. -/
theorem initializeConnection_error {plat : Platform} {setup : ClientSetup} {env : Environment}
    {fuel rounds : Nat} {s s' : ClientState} {e : Abort}
    (h : initializeConnection plat setup env fuel rounds s = .error e s') : e = .outOfFuel := by
  cases rounds with
  | zero =>
    cases h
    rfl
  | succ rounds =>
    have hP : DataStable env fun s => HasConnection s ∧ True := by
      simpa only [and_true] using hasConnection_stable env
    have htree : KeepsTrees env fuel (fun s => HasConnection s ∧ True) (fun e => e = .outOfFuel) :=
      hP.steady.keeps_buildNameTree (G := fun e => e = .outOfFuel) rfl fuel
    have hbuilt := hP.keeps_buildConfigurationNameTrees htree plat setup
    have hkeeps := hP.toStable.initializeConnection_keeps
      (G := fun e => e = .outOfFuel) (fun _ _ _ => trivial) rfl hbuilt
      (rounds + 1) s (Or.inl (Nat.succ_pos rounds)) trivial
    exact hkeeps.2 e s' h

/-! ## Whole cycles -/

variable {plat : Platform} {setup : ClientSetup} {env : Environment} {fuel rounds : Nat}

@[simp] theorem finalState_pollCycle (s : ClientState) :
    finalState (pollCycle plat setup env fuel rounds s) =
      finalState (readAndExportMms plat setup env fuel rounds s) := by
  unfold pollCycle
  cases readAndExportMms plat setup env fuel rounds s with
  | ok _ s' => rfl
  | error e s' =>
    dsimp only
    split <;> rfl

/-- The test of the state by itself. -/
theorem Steady.afterGetState {P : ClientState → Prop} (hP : Steady env P) {s : ClientState}
    (hs : P s) : P (s.afterGetState env) :=
  hP.event _ _ rfl (hP.calls s hs)

/-- A cycle that finds the connection up only uses it. -/
theorem Steady.cycle_up {P : ClientState → Prop} (hP : Steady env P) {s : ClientState} (hs : P s)
    (hup : env.getState s.calls = true) :
    P (finalState (pollCycle plat setup env fuel rounds s)) := by
  rcases deref_run_of_isSome (hP.connection s hs) with ⟨connection, hderef⟩
  rw [finalState_pollCycle, readAndExportMms, run_bind_ok hderef,
    run_bind_ok (isConnected_run env s), hup, if_neg (by simp)]
  refine (Keeps.bind (G := fun _ => True) hP.keeps_deref
    (fun connection => .ite (hP.keeps_emitEvent rfl) ?_) _ (hP.afterGetState hs)).1
  cases setup.applicationParams.readMode with
  | DO_READING => exact hP.keeps_readAndExportAllDO plat setup
  | DATASET_READING => exact hP.keeps_readAndExportAllDatasets plat setup

/-- A cycle that finds the connection down starts over. -/
theorem cycle_down {s : ClientState} (hs : HasConnection s) (hdown : env.getState s.calls = false) :
    readAndExportMms plat setup env fuel rounds s =
      initializeConnection plat setup env fuel rounds (s.afterGetState env) := by
  rcases deref_run_of_isSome hs with ⟨connection, hderef⟩
  rw [readAndExportMms, run_bind_ok hderef, run_bind_ok (isConnected_run env s), hdown]
  rfl

/-- **An invariant holds between any two cycles** if it holds of a new client.
The connection object exists there too. -/
theorem ClientReachable.invariant {D : ClientState → Prop}
    (hD : ClientInvariant plat setup env fuel D)
    (hnew : ∀ exchangedData, D (newClient exchangedData)) {s : ClientState}
    (h : ClientReachable plat setup env fuel rounds s) : HasConnection s ∧ D s := by
  induction h with
  | @launch exchangedData s hrun =>
    cases rounds with
    | zero => cases hrun
    | succ rounds =>
      -- a new client has no connection, but the first round makes one
      have hkeep := (hD.initializeConnection_keeps (rounds + 1) (newClient exchangedData)
        (Or.inl (Nat.succ_pos _)) (hnew exchangedData)).1
      rwa [hrun] at hkeep
  | @cycle s s' _ hrun ih =>
    have hfinal : HasConnection (finalState (pollCycle plat setup env fuel rounds s)) ∧
        D (finalState (pollCycle plat setup env fuel rounds s)) := by
      cases hup : env.getState s.calls with
      | true => exact hD.stable.steady.cycle_up ih hup
      | false =>
        rw [finalState_pollCycle, cycle_down ih.1 hup]
        have hafter := hD.stable.steady.afterGetState ih
        exact (hD.initializeConnection_keeps rounds _ (Or.inr hafter.1) hafter.2).1
    rwa [hrun] at hfinal

/-- Between two cycles of a client that has been launched there is a connection. -/
theorem ClientReachable.hasConnection {s : ClientState}
    (h : ClientReachable plat setup env fuel rounds s) : HasConnection s :=
  (h.invariant (true_invariant plat setup env fuel) fun _ => trivial).1

end Iec61850South
