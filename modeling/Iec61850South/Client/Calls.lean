import Iec61850South.Client.Numbers
import Iec61850South.Lib.Projection
import Iec61850South.Lib.Resources

/-! # The client with its calls of libiec61850

A second embedding of the client, with what the first one leaves out: the objects
that libiec61850 allocates and the code has to delete, the mutex of the connection,
and the time that the threads sleep. What it shares with the first one is taken
from it by `lift`.

A pointer is an address, 0 being null; an object that is allocated has an address
that has never been used. A destructor at the end of a scope is `inScope`: it runs
also when an exception leaves the scope.
-/

namespace Iec61850South

open Lib Std

/-- Where an object of libiec61850 lies. -/
abbrev Address := Nat

/-- What has to be given back. -/
inductive Resource where
  | iedConnection (a : Address)
  /-- `m_iedConnectionMutex` of the object that has this `m_iedConnection` -/
  | mutex (a : Address)
  | mmsValue (a : Address)
  | clientDataSet (a : Address)
  /-- a `LinkedList` of `IedConnection_getDataDirectoryByFC` -/
  | dataDirectory (a : Address)
  /-- a `LinkedList` of `IedConnection_getDataSetDirectory` -/
  | dataSetDirectory (a : Address)
deriving DecidableEq, Repr

/-- The state of the client, with the calls that it has made of the library. -/
structure LibraryState where
  client : ClientState
  /-- `m_connection->m_iedConnection` -/
  m_iedConnection : Address := 0
  allocated : Nat := 0
  actions : List (Action Resource) := []
  /-- the milliseconds that have been slept -/
  slept : Nat := 0
  /-- how much had been slept at each `IedConnection_connect` -/
  connects : List Nat := []

/-- A method of the client, with these calls. -/
abbrev LibraryM := EStateM Abort LibraryState

def SECOND_IN_MILLISEC : Nat := 1000

def RECONNECTION_FREQUENCY_IN_HERTZ : Nat := 1

namespace Library

/-! ## Resources -/

/-- The part of a statement that the first embedding has. -/
def lift {α : Type} (x : ClientM α) : LibraryM α :=
  zoom LibraryState.client (fun client s => { s with client := client }) x

/-- One action on a resource. -/
def act (action : Action Resource) : LibraryM PUnit :=
  modify fun s => { s with actions := s.actions ++ [action] }

/-- An object that a call of the library has created. -/
def allocate (kind : Address → Resource) : LibraryM Address := do
  modify fun s => { s with
    allocated := s.allocated + 1
    actions := s.actions ++ [.acquire (kind (s.allocated + 1))] }
  return (← get).allocated

/-- The address of what a call returns. -/
def allocateResult {α : Type} (kind : Address → Resource) : Option α → LibraryM Address
  | none => pure 0
  | some _ => allocate kind

/-- Nothing else shows the time. -/
def sleep_for (timespan : Nat) : LibraryM PUnit :=
  modify fun s => { s with slept := s.slept + timespan }

/-- The destructor gives a resource back when `x` has returned or thrown. -/
def inScope {α : Type} (destructor : List (Action Resource)) (x : LibraryM α) : LibraryM α := fun s =>
  match x s with
  | .ok a s' => .ok a { s' with actions := s'.actions ++ destructor }
  | .error e s' =>
    if e.isCaught then .error e { s' with actions := s'.actions ++ destructor } else .error e s'

/-- `std::unique_lock<std::mutex> connectionGuard(m_iedConnectionMutex)` -/
def connectionGuard {α : Type} (connection : Address) (x : LibraryM α) : LibraryM α := do
  act (.acquire (.mutex connection))
  inScope [.release (.mutex connection)] x

/-- A function of libiec61850 is given the connection, under the mutex. -/
def useConnection (connection : Address) : LibraryM PUnit := do
  act (.use (.mutex connection))
  act (.use (.iedConnection connection))

/-- `WrappedMms`, with the address of its value. -/
structure WrappedMms where
  value : Iec61850South.WrappedMms
  m_mmsValue : Address

/-- `~WrappedMms` -/
def WrappedMms.destructor (wrapped_mms : WrappedMms) : List (Action Resource) :=
  if wrapped_mms.m_mmsValue = 0 then [] else [.release (.mmsValue wrapped_mms.m_mmsValue)]

/-! ## `IEC61850ClientConnection` -/

section Connection

variable (env : Environment)

/-- `m_connection->` -/
def deref : LibraryM Address := do
  let _ ← lift Iec61850South.deref
  return (← get).m_iedConnection

/-- `IedConnection_getState`, under the mutex. -/
def isConnected (connection : Address) : LibraryM Bool :=
  connectionGuard connection do
    useConnection connection
    lift (IEC61850ClientConnection.isConnected env)

/-- Named `open` in the source. -/
def openConnection (connection : Address) (connParam : ServerConnectionParameters) :
    LibraryM PUnit :=
  connectionGuard connection do
    if connParam.isOsiParametersEnabled then
      useConnection connection
      lift (IEC61850ClientConnection.setOsiConnectionParameters connParam.osiParameters)
    useConnection connection
    modify fun s => { s with connects := s.connects ++ [s.slept] }
    lift (request (.connect connParam.ipAddress connParam.mmsPort) fun n => (⟨⟩, env.connect n))

/-- Locked like the others. -/
def close (connection : Address) : LibraryM PUnit :=
  connectionGuard connection do
    useConnection connection
    lift (emitEvent .close)

/-- The constructor. -/
def construct (connParam : ServerConnectionParameters) : LibraryM PUnit := do
  let connection ← allocate .iedConnection
  modify fun s => { s with m_iedConnection := connection }
  lift (modify fun s => { s with m_connection := some {} })
  openConnection env connection connParam

/-- `~IEC61850ClientConnection` -/
def destruct (connection : Address) : LibraryM PUnit := do
  close connection
  act (.release (.iedConnection connection))

/-- The answer is wrapped, and freed with its wrapper. -/
def readDO (connection : Address) (doPath : String) (functionalConstraint : FunctionalConstraint) :
    LibraryM (Option WrappedMms) := do
  if ! (← isConnected env connection) then
    return none
  connectionGuard connection do
    useConnection connection
    let mmsValue ← lift (request (.readObject doPath functionalConstraint) fun n =>
      env.readObject n doPath functionalConstraint)
    return some ⟨⟨mmsValue⟩, ← allocateResult .mmsValue mmsValue⟩

/-- The client dataset is destroyed when its values have been cloned. -/
def readDataset (connection : Address) (datasetRef : String) : LibraryM (Option WrappedMms) := do
  if ! (← isConnected env connection) then
    return none
  connectionGuard connection do
    useConnection connection
    let readDataset ← lift (request (.readDataSetValues datasetRef) fun n =>
      env.readDataSetValues n datasetRef)
    let dataSet ← allocateResult .clientDataSet readDataset
    let values ← lift (liftExcept (IEC61850ClientConnection.getValues readDataset))
    -- `MmsValue_clone`
    act (.use (.clientDataSet dataSet))
    let mmsValue ← allocate .mmsValue
    act (.release (.clientDataSet dataSet))
    return some ⟨⟨some values⟩, mmsValue⟩

/-- A `LinkedList` and the names in it. -/
structure LinkedList where
  names : Option (List String)
  address : Address

/-- The list belongs to the caller. -/
def getDataDirectory (connection : Address) (pathInDatamodel : String)
    (functionalConstraint : FunctionalConstraint) : LibraryM LinkedList :=
  connectionGuard connection do
    useConnection connection
    let dataAttributes ← lift
      (IEC61850ClientConnection.getDataDirectory env pathInDatamodel functionalConstraint)
    return ⟨dataAttributes, ← allocateResult .dataDirectory dataAttributes⟩

/-- The list belongs to the caller. -/
def getDataSetDirectory (connection : Address) (datasetRef : String) : LibraryM LinkedList :=
  connectionGuard connection do
    useConnection connection
    let dataSetMembers ← lift (IEC61850ClientConnection.getDataSetDirectory env datasetRef)
    return ⟨dataSetMembers, ← allocateResult .dataSetDirectory dataSetMembers⟩

/-- The list of each level is freed after its loop. -/
def buildNameTree (connection : Address) (fuel : Nat) (pathInDatamodel : String)
    (functionalConstraint : FunctionalConstraint) (nameTree : MmsNameNode) :
    LibraryM MmsNameNode := do
  match fuel with
  | 0 => throw .outOfFuel
  | fuel + 1 =>
    if ! (← isConnected env connection) then
      return nameTree
    let list ← getDataDirectory env connection pathInDatamodel functionalConstraint
    match list.names with
    | none => return nameTree
    | some dataAttributes =>
      let nameTree ← dataAttributes.foldlM (fun nameTree daName => do
        act (.use (.dataDirectory list.address))
        let newNameNode ← buildNameTree connection fuel (pathInDatamodel ++ "." ++ daName)
          functionalConstraint (.node daName [])
        return nameTree.pushBack newNameNode) nameTree
      act (.release (.dataDirectory list.address))
      return nameTree

/-- The list is not destroyed. -/
def getDoPathListWithFCFromDataset (connection : Address) (datasetRef : String) :
    LibraryM (List String) := do
  if ! (← isConnected env connection) then
    return []
  let list ← getDataSetDirectory env connection datasetRef
  match list.names with
  | none => return []
  | some dataSetMembers =>
    act (.use (.dataSetDirectory list.address))
    return dataSetMembers

end Connection

/-! ## `IEC61850Client` -/

section Client

variable (plat : Platform) (setup : ClientSetup) (env : Environment) (fuel : Nat)

def buildDatapointNameTree (dpConfig : DatapointConfig) : LibraryM DatapointConfig := do
  let connection ← deref
  let mmsNameTree ← buildNameTree env connection fuel dpConfig.dataPath
    dpConfig.functionalConstraint .empty
  return { dpConfig with mmsNameTree := some (mmsNameTree.setName dpConfig.label) }

def buildMember (selection : ExchangedData) (doPathWithFC : String) :
    LibraryM DatapointConfig := do
  let parts ← lift (liftExcept (splitDoPathWithFC doPathWithFC))
  let functionalConstraint := plat.FunctionalConstraint_fromString parts.2
  let connection ← deref
  let mmsNameTree ← buildNameTree env connection fuel parts.1 functionalConstraint .empty
  return applySelection selection
    { dataPath := parts.1, functionalConstraint := functionalConstraint,
      mmsNameTree := some mmsNameTree }

def buildDataset (datasetRef : String) (selection : ExchangedData) : LibraryM PUnit := do
  let connection ← deref
  let doPathListWithFC ← getDoPathListWithFCFromDataset env connection datasetRef
  let exchangedDataset ← doPathListWithFC.mapM (buildMember plat env fuel selection)
  lift (modify fun s => { s with
    m_localExchangedDatasets :=
      s.m_localExchangedDatasets.insert datasetRef (selectAllIfNone exchangedDataset) })

def buildConfigurationNameTrees : LibraryM PUnit := do
  let exchangedData ← (← get).client.m_localExchangedData.mapM (buildDatapointNameTree env fuel)
  lift (modify fun s => { s with m_localExchangedData := exchangedData })
  forM setup.selectedDOInExchangedDatasets.toList fun selectionEntry =>
    buildDataset plat env fuel selectionEntry.1 selectionEntry.2

/-- Only where there is none. -/
def createConnection : LibraryM PUnit := do
  if (← get).client.m_connection.isNone then
    construct env setup.connectionParam

/-- `close`, and then the destructor of the connection. -/
def destroyConnection : LibraryM PUnit := do
  if (← get).client.m_connection.isSome then
    destruct (← get).m_iedConnection
    modify fun s => { s with client := { s.client with m_connection := none }, m_iedConnection := 0 }

/-- It sleeps between a failed try and the next one. -/
def initializeConnection (rounds : Nat) : LibraryM PUnit := do
  match rounds with
  | 0 => throw .outOfFuel
  | rounds + 1 =>
    destroyConnection
    createConnection setup env
    let connection ← deref
    if ← isConnected env connection then
      buildConfigurationNameTrees plat setup env fuel
    sleep_for (SECOND_IN_MILLISEC / RECONNECTION_FREQUENCY_IN_HERTZ)
    if ! (← lift (ask env.stopOrder)) then
      let connection ← deref
      if ! (← isConnected env connection) then
        initializeConnection rounds

/-- One round of the loop over `m_localExchangedData`. -/
def readAndExportDO (dpConfig : DatapointConfig) : LibraryM PUnit := do
  let connection ← deref
  match ← readDO env connection dpConfig.dataPath dpConfig.functionalConstraint with
  | none => pure ⟨⟩
  | some wrapped_mms =>
    inScope wrapped_mms.destructor do
      let datapoint ← lift
        (liftExcept (convertMmsToDatapoint plat wrapped_mms.value.m_mmsValue dpConfig))
      lift (sendData setup datapoint)

def readAndExportAllDO : LibraryM PUnit := do
  forM (← get).client.m_localExchangedData (readAndExportDO plat setup env)

/-- The wrapped array is freed at the end of its scope. -/
def readAndExportOneDataset (datasetRef : String) (exchangedDataset : ExchangedData) :
    LibraryM PUnit := do
  let connection ← deref
  match ← readDataset env connection datasetRef with
  | none => throw (.fault .nullWrappedMms)
  | some wrapped_mms =>
    inScope wrapped_mms.destructor do
      let elements ← lift
        (liftExcept (datasetElements wrapped_mms.value.m_mmsValue exchangedDataset.length))
      forM (elements.zip exchangedDataset) fun member => lift (exportMember plat setup member)

def readAndExportAllDatasets : LibraryM PUnit := do
  forM (← get).client.m_localExchangedDatasets.toList fun it =>
    readAndExportOneDataset plat setup env it.1 it.2

/-- What it catches has freed its local variables before. -/
def readAndExportMms (rounds : Nat) : LibraryM PUnit := do
  let connection ← deref
  if ! (← isConnected env connection) then
    initializeConnection plat setup env fuel rounds
  else
    let connection ← lift Iec61850South.deref
    if ! connection.isNoError then
      lift connection.logError
    else
      match setup.applicationParams.readMode with
      | .DATASET_READING => readAndExportAllDatasets plat setup env
      | .DO_READING => readAndExportAllDO plat setup env

/-- `try … catch` -/
def caught (x : LibraryM PUnit) : LibraryM PUnit := fun s =>
  match x s with
  | .ok _ s' => .ok ⟨⟩ s'
  | .error e s' => if e.isCaught then .ok ⟨⟩ s' else .error e s'

/-- One round of `readMmsLoop`, with its sleep. -/
def pollCycle (rounds : Nat) : LibraryM PUnit := do
  caught (readAndExportMms plat setup env fuel rounds)
  sleep_for (pollingPeriodInMs setup.applicationParams).toNat

end Client

end Library

/-- What becomes of a client, as in `ClientLife`. -/
inductive LibraryLife (plat : Platform) (setup : ClientSetup) (env : Environment) :
    LibraryState → Prop
  | constructed (exchangedData : ExchangedData) :
      LibraryLife plat setup env { client := newClient exchangedData }
  | initialized {fuel rounds : Nat} {s s' : LibraryState} : LibraryLife plat setup env s →
      Library.initializeConnection plat setup env fuel rounds s = .ok ⟨⟩ s' →
      LibraryLife plat setup env s'
  | cycle {fuel rounds : Nat} {s s' : LibraryState} : LibraryLife plat setup env s →
      Library.pollCycle plat setup env fuel rounds s = .ok ⟨⟩ s' → LibraryLife plat setup env s'
  | destroyed {s s' : LibraryState} : LibraryLife plat setup env s →
      Library.destroyConnection s = .ok ⟨⟩ s' → LibraryLife plat setup env s'

end Iec61850South
