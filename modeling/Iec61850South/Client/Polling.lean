import Iec61850South.Client.Connection
import Iec61850South.Client.Convert

/-! # The polling cycle of a client

`IEC61850Client`, without its threads: what is read in one polling cycle and
how a connection is initialised. `pollCycle` is one round of `readMmsLoop`, the
`catch` included.
-/

namespace Iec61850South

open Lib IEC61850ClientConnection

/-- The members of a client that do not change. -/
structure ClientSetup where
  connectionParam : ServerConnectionParameters
  applicationParams : ApplicationParameters
  selectedDOInExchangedDatasets : ExchangedDatasets
  /-- `m_iec61850` is not null -/
  hasReceiver : Bool

/-! ## Strings

Positions are `size_t`, that is, numbers modulo `2 ^ 64`. -/

def SIZE_T : Nat := UInt64.size

def npos : Nat := SIZE_T - 1

/-- The position of the first occurrence, from the given position on. -/
def findFrom (needle : List Char) : (haystack : List Char) → (pos : Nat) → Nat
  | [], pos => if needle.isEmpty then pos else npos
  | c :: cs, pos => if needle.isPrefixOf (c :: cs) then pos else findFrom needle cs (pos + 1)

/-- `haystack.find(needle)` -/
def find (haystack needle : String) : Nat :=
  findFrom needle.toList haystack.toList 0

/-- `s.substr(pos, count)` -/
def substr (s : String) (pos count : Nat) : Except Abort String :=
  if pos > s.length then .error .outOfRange
  else .ok (String.ofList ((s.toList.drop pos).take count))

/-- `s.find_last_of(".")` followed by `s.substr(pos + 1)`, if there is a dot. -/
def afterLastDot (s : String) : Option String :=
  if '.' ∈ s.toList then some (String.ofList (s.toList.reverse.takeWhile (· ≠ '.')).reverse)
  else none

/-! ## Name trees for the configuration -/

section NameTrees

variable (plat : Platform) (setup : ClientSetup) (env : Environment) (fuel : Nat)

/-- One round of the loop over `m_localExchangedData`. -/
def buildDatapointNameTree (dpConfig : DatapointConfig) : ClientM DatapointConfig := do
  let _ ← deref
  let mmsNameTree ← buildNameTree env fuel dpConfig.dataPath dpConfig.functionalConstraint .empty
  return { dpConfig with mmsNameTree := some (mmsNameTree.setName dpConfig.label) }

/-- Extract the DO path and the FC. -/
def splitDoPathWithFC (doPathWithFC : String) : Except Abort (String × String) := do
  let doPath ← substr doPathWithFC 0 (find doPathWithFC "[")
  let functionalConstraintStrLen :=
    (find doPathWithFC "]" + 2 * SIZE_T - find doPathWithFC "[" - 1) % SIZE_T
  let functionalConstraintStr ←
    substr doPathWithFC ((find doPathWithFC "[" + 1) % SIZE_T) functionalConstraintStrLen
  return (doPath, functionalConstraintStr)

/-- The first selected DO whose path, after a dot, occurs in the path. -/
def findSelectedDO (selection : ExchangedData) (doPath : String) : Option DatapointConfig :=
  selection.find? fun selectedDO => find doPath ("." ++ selectedDO.dataPath) ≠ npos

/-- Import the 'selected DO' properties to the Datapoint. -/
def applySelection (selection : ExchangedData) (newDpConfig : DatapointConfig) : DatapointConfig :=
  match findSelectedDO selection newDpConfig.dataPath with
  | none => newDpConfig
  | some selectedDO =>
    { newDpConfig with
      label := selectedDO.label
      mmsNameTree := newDpConfig.mmsNameTree.map (·.setName selectedDO.label)
      datapointType := selectedDO.datapointType
      datapointTypeId := selectedDO.datapointTypeId }

/-- One round of the loop over the members of a dataset. -/
def buildMember (selection : ExchangedData) (doPathWithFC : String) :
    ClientM DatapointConfig := do
  let parts ← liftExcept (splitDoPathWithFC doPathWithFC)
  let functionalConstraint := plat.FunctionalConstraint_fromString parts.2
  let _ ← deref
  let mmsNameTree ← buildNameTree env fuel parts.1 functionalConstraint .empty
  return applySelection selection
    { dataPath := parts.1, functionalConstraint := functionalConstraint,
      mmsNameTree := some mmsNameTree }

/-- The label of a DO when no DO is selected: its name is the last part of its path. -/
def labelByPath (dpConfig : DatapointConfig) : DatapointConfig :=
  let doName := (afterLastDot dpConfig.dataPath).getD "noName"
  { dpConfig with
    label := doName
    mmsNameTree := dpConfig.mmsNameTree.map (·.setName doName) }

/-- If no DO is selected, then select all DOs of the dataset. -/
def selectAllIfNone (exchangedDataset : ExchangedData) : ExchangedData :=
  if exchangedDataset.all fun dpConfig => dpConfig.label = "" then
    exchangedDataset.map labelByPath
  else
    exchangedDataset

/-- One round of the loop over `m_selectedDOInExchangedDatasets`. -/
def buildDataset (datasetRef : String) (selection : ExchangedData) : ClientM PUnit := do
  let _ ← deref
  let doPathListWithFC ← getDoPathListWithFCFromDataset env datasetRef
  let exchangedDataset ← doPathListWithFC.mapM (buildMember plat env fuel selection)
  modify fun s => { s with
    m_localExchangedDatasets :=
      s.m_localExchangedDatasets.insert datasetRef (selectAllIfNone exchangedDataset) }

def buildConfigurationNameTrees : ClientM PUnit := do
  let exchangedData ← (← get).m_localExchangedData.mapM (buildDatapointNameTree env fuel)
  modify fun s => { s with m_localExchangedData := exchangedData }
  forM setup.selectedDOInExchangedDatasets.toList fun selectionEntry =>
    buildDataset plat env fuel selectionEntry.1 selectionEntry.2

/-! ## Connections -/

def createConnection : ClientM PUnit := do
  if (← get).m_connection.isNone then
    construct env setup.connectionParam

def destroyConnection : ClientM PUnit := do
  if (← get).m_connection.isSome then
    emitEvent .close
    modify fun s => { s with m_connection := none }

/-- The `do … while` loop; `rounds` bounds the number of its rounds. -/
def initializeConnection (rounds : Nat) : ClientM PUnit := do
  match rounds with
  | 0 => throw .outOfFuel
  | rounds + 1 =>
    destroyConnection
    createConnection setup env
    let _ ← deref
    if ← isConnected env then
      buildConfigurationNameTrees plat setup env fuel
    if ! (← ask env.stopOrder) then
      let _ ← deref
      if ! (← isConnected env) then
        initializeConnection rounds

end NameTrees

/-! ## Reading -/

section Reading

variable (plat : Platform) (setup : ClientSetup) (env : Environment)

/-- Send a Datapoint to Fledge. -/
def sendData (datapoint : Option Datapoint) : ClientM PUnit :=
  match datapoint with
  | none => pure ⟨⟩
  | some datapoint =>
    if setup.hasReceiver then emitEvent (.ingest datapoint.getName datapoint) else pure ⟨⟩

/-- One round of the loop over `m_localExchangedData`. -/
def readAndExportDO (dpConfig : DatapointConfig) : ClientM PUnit := do
  let _ ← deref
  match ← readDO env dpConfig.dataPath dpConfig.functionalConstraint with
  | none => pure ⟨⟩
  | some wrapped_mms =>
    let datapoint ← liftExcept (convertMmsToDatapoint plat wrapped_mms.m_mmsValue dpConfig)
    sendData setup datapoint

def readAndExportAllDO : ClientM PUnit := do
  forM (← get).m_localExchangedData (readAndExportDO plat setup env)

/-- `wrapped_mms->getMmsValue()` -/
def getMmsValue : Option WrappedMms → Except Abort (Option MmsValue)
  | none => .error (.fault .nullWrappedMms)
  | some wrapped_mms => .ok wrapped_mms.m_mmsValue

/-- The elements of a dataset value: an array of the expected size. -/
def datasetElements (datasetMmsValue : Option MmsValue) (size : Nat) :
    Except Abort (List (Option MmsValue)) :=
  match datasetMmsValue with
  | some (.aggregate .array elements) =>
    if elements.length ≠ size then
      .error (.mmsParsingException "Dataset structure does not match")
    else .ok elements
  | _ => .error (.mmsParsingException "Dataset structure does not match")

/-- One round of the loop over the members of a dataset. -/
def exportMember (member : Option MmsValue × DatapointConfig) : ClientM PUnit :=
  if member.2.label ≠ "" then do
    let datapoint ← liftExcept (convertMmsToDatapoint plat member.1 member.2)
    sendData setup datapoint
  else pure ⟨⟩

def readAndExportOneDataset (datasetRef : String) (exchangedDataset : ExchangedData) :
    ClientM PUnit := do
  let _ ← deref
  let wrapped_mms ← readDataset env datasetRef
  let datasetMmsValue ← liftExcept (getMmsValue wrapped_mms)
  let elements ← liftExcept (datasetElements datasetMmsValue exchangedDataset.length)
  forM (elements.zip exchangedDataset) (exportMember plat setup)

def readAndExportAllDatasets : ClientM PUnit := do
  forM (← get).m_localExchangedDatasets.toList fun it =>
    readAndExportOneDataset plat setup env it.1 it.2

/-- `fuel` and `rounds` are the bounds of `initializeConnection`. -/
def readAndExportMms (fuel rounds : Nat) : ClientM PUnit := do
  let _ ← deref
  if ! (← isConnected env) then
    initializeConnection plat setup env fuel rounds
  else
    let connection ← deref
    if ! connection.isNoError then
      connection.logError
    else
      match setup.applicationParams.readMode with
      | .DATASET_READING => readAndExportAllDatasets plat setup env
      | .DO_READING => readAndExportAllDO plat setup env

/-- One round of `readMmsLoop`: exceptions are caught and logged. -/
def pollCycle (fuel rounds : Nat) : ClientM PUnit := fun s =>
  match readAndExportMms plat setup env fuel rounds s with
  | .ok _ s' => .ok ⟨⟩ s'
  | .error e s' => if e.isCaught then .ok ⟨⟩ s' else .error e s'

end Reading

end Iec61850South
