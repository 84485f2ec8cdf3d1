import Iec61850South.Client.Mms
import Iec61850South.Lib.Stateful

/-! # The connection of a client

`IEC61850ClientConnection` wraps one `IedConnection` of libiec61850. The library
and the IED behind it are the `Environment`: it answers the `n`-th question with
whatever it likes. Every request overwrites the error indicator of the
connection, `m_networkStack_error`; asking for the state does not.

The methods of the connection are computations on the state of the client that
owns it. `deref` is the `m_connection->` in front of each of them.
-/

namespace Iec61850South

open Lib

/-- `IedClientError`, of which the code only compares `IED_ERROR_OK`. -/
abbrev IedClientError := Nat

def IED_ERROR_OK : IedClientError := 0

/-- What `IedConnection_readDataSetValues` returns, by its `ClientDataSet_getValues`. -/
structure ClientDataSet where
  values : MmsValue

/-- An encapsulated `MmsValue` pointer. -/
structure WrappedMms where
  m_mmsValue : Option MmsValue

/-- The answers of libiec61850 to the `n`-th question, with the error code that
is written, and the value that the `n`-th test of the stop order sees. -/
structure Environment where
  /-- `IedConnection_getState(…) == IED_STATE_CONNECTED` -/
  getState : Nat → Bool
  connect : Nat → IedClientError
  readObject : Nat → String → FunctionalConstraint → Option MmsValue × IedClientError
  readDataSetValues : Nat → String → Option ClientDataSet × IedClientError
  getDataDirectoryByFC : Nat → String → FunctionalConstraint →
    Option (List String) × IedClientError
  getDataSetDirectory : Nat → String → Option (List String) × IedClientError
  stopOrder : Nat → Bool

/-- What a client does that can be seen from outside, or in its log. -/
inductive Event where
  | setRemoteApTitle (apTitle : String) (aeQualifier : Int)
  | setLocalApTitle (apTitle : String) (aeQualifier : Int)
  | setRemoteAddresses (psel : PSelector) (ssel : SSelector) (tsel : TSelector)
  | setLocalAddresses (psel : PSelector) (ssel : SSelector) (tsel : TSelector)
  | connect (hostname : String) (tcpPort : Int)
  | getState (connected : Bool)
  | readObject (doPath : String) (functionalConstraint : FunctionalConstraint)
  | readDataSetValues (datasetRef : String)
  | getDataDirectoryByFC (path : String) (functionalConstraint : FunctionalConstraint)
  | getDataSetDirectory (datasetRef : String)
  | close
  | logError (error : IedClientError)
  | ingest (readingAssetName : String) (datapoint : Datapoint)

/-- `m_networkStack_error` of a constructed connection. -/
structure IEC61850ClientConnection where
  m_networkStack_error : IedClientError := IED_ERROR_OK
deriving DecidableEq

/-- The members of a client that change. `calls` counts the questions that the
environment has answered. -/
structure ClientState where
  m_connection : Option IEC61850ClientConnection := none
  m_localExchangedData : ExchangedData := []
  m_localExchangedDatasets : ExchangedDatasets := ∅
  calls : Nat := 0
  events : List Event := []

abbrev ClientM := EStateM Abort ClientState

def emitEvent (event : Event) : ClientM PUnit :=
  modify fun s => { s with events := s.events ++ [event] }

/-- Ask the environment. -/
def ask {α : Type} (answer : Nat → α) : ClientM α := fun s =>
  .ok (answer s.calls) { s with calls := s.calls + 1 }

/-- Write the error indicator of the connection. -/
def setNetworkStackError (error : IedClientError) : ClientM PUnit :=
  modify fun s => { s with
    m_connection := s.m_connection.map fun c => { c with m_networkStack_error := error } }

/-- A request to the IED: it writes the error indicator. -/
def request {α : Type} (event : Event) (answer : Nat → α × IedClientError) : ClientM α := do
  emitEvent event
  let (value, error) ← ask answer
  setNetworkStackError error
  return value

/-- `m_connection->` -/
def deref : ClientM IEC61850ClientConnection := do
  match (← get).m_connection with
  | none => throw (.fault .nullConnection)
  | some connection => return connection

namespace IEC61850ClientConnection

variable (env : Environment)

def isNoError (connection : IEC61850ClientConnection) : Bool :=
  connection.m_networkStack_error = IED_ERROR_OK

def logError (connection : IEC61850ClientConnection) : ClientM PUnit :=
  emitEvent (.logError connection.m_networkStack_error)

def isConnected : ClientM Bool := do
  let connected ← ask env.getState
  emitEvent (.getState connected)
  return connected

def setOsiConnectionParameters (osiParams : OsiParameters) : ClientM PUnit := do
  if osiParams.remoteApTitle ≠ "" then
    emitEvent (.setRemoteApTitle osiParams.remoteApTitle osiParams.remoteAeQualifier)
  if osiParams.localApTitle ≠ "" then
    emitEvent (.setLocalApTitle osiParams.localApTitle osiParams.localAeQualifier)
  emitEvent (.setRemoteAddresses osiParams.remotePSelector osiParams.remoteSSelector
    osiParams.localTSelector)
  emitEvent (.setLocalAddresses osiParams.localPSelector osiParams.localSSelector
    osiParams.remoteTSelector)

/-- Named `open` in the source. -/
def openConnection (connParam : ServerConnectionParameters) : ClientM PUnit := do
  if connParam.isOsiParametersEnabled then
    setOsiConnectionParameters connParam.osiParameters
  request (.connect connParam.ipAddress connParam.mmsPort) fun n => (⟨⟩, env.connect n)

/-- `make_unique<IEC61850ClientConnection>(connParam)` -/
def construct (connParam : ServerConnectionParameters) : ClientM PUnit := do
  modify fun s => { s with m_connection := some {} }
  openConnection env connParam

def readDO (doPath : String) (functionalConstraint : FunctionalConstraint) :
    ClientM (Option WrappedMms) := do
  if ! (← isConnected env) then
    return none
  let mmsValue ← request (.readObject doPath functionalConstraint) fun n =>
    env.readObject n doPath functionalConstraint
  return some ⟨mmsValue⟩

/-- `ClientDataSet_getValues(readDataset)` -/
def getValues : Option ClientDataSet → Except Abort MmsValue
  | none => .error (.fault .nullClientDataSet)
  | some dataSet => .ok dataSet.values

def readDataset (datasetRef : String) : ClientM (Option WrappedMms) := do
  if ! (← isConnected env) then
    return none
  let readDataset ← request (.readDataSetValues datasetRef) fun n =>
    env.readDataSetValues n datasetRef
  let values ← liftExcept (getValues readDataset)
  return some ⟨some values⟩

def getDataDirectory (pathInDatamodel : String) (functionalConstraint : FunctionalConstraint) :
    ClientM (Option (List String)) :=
  request (.getDataDirectoryByFC pathInDatamodel functionalConstraint) fun n =>
    env.getDataDirectoryByFC n pathInDatamodel functionalConstraint

def getDataSetDirectory (datasetRef : String) : ClientM (Option (List String)) :=
  request (.getDataSetDirectory datasetRef) fun n => env.getDataSetDirectory n datasetRef

/-- `fuel` bounds the depth of the recursion, which follows the answers. -/
def buildNameTree (fuel : Nat) (pathInDatamodel : String)
    (functionalConstraint : FunctionalConstraint) (nameTree : MmsNameNode) :
    ClientM MmsNameNode := do
  match fuel with
  | 0 => throw .outOfFuel
  | fuel + 1 =>
    if ! (← isConnected env) then
      return nameTree
    match ← getDataDirectory env pathInDatamodel functionalConstraint with
    | none => return nameTree
    | some dataAttributes =>
      dataAttributes.foldlM (fun nameTree daName => do
        let newNameNode ← buildNameTree fuel (pathInDatamodel ++ "." ++ daName)
          functionalConstraint (.node daName [])
        return nameTree.pushBack newNameNode) nameTree

def getDoPathListWithFCFromDataset (datasetRef : String) : ClientM (List String) := do
  if ! (← isConnected env) then
    return []
  return (← getDataSetDirectory env datasetRef).getD []

end IEC61850ClientConnection

end Iec61850South
