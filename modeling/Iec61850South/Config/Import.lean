import Iec61850South.Config.OsiSelector

/-! # Importing a configuration

The `importJson…` functions of `iec61850_client_config.cpp`. The state is the
configuration object; what has been assigned before a `throw` stays assigned.
A function that only fills a local record, and its checks up to the first
assignment, is a pure `Except` computation; `mandatory`, `optional` and
`objectMember` are the shapes that these checks come in.
-/

namespace Iec61850South

open Lib

/-- The platform that the plugin is built on. None of it is in the repository. -/
structure Platform where
  /-- `rapidjson::Document::Parse`; `none` is `HasParseError()`. -/
  parse : String → Option Json
  /-- `FunctionalConstraint_fromString` -/
  FunctionalConstraint_fromString : String → FunctionalConstraint
  /-- `MmsValue_toInt32` of an MMS integer -/
  toInt32 : Int → Int32
  /-- `MmsValue_toUint32` of an MMS unsigned -/
  toUint32 : Nat → UInt32
  /-- `MmsValue_printToBuffer` of an MMS bit string, with the size of the buffer -/
  printToBuffer : List Bool → Nat → String
  /-- What the struct members without initialiser hold when an import declares its
  `n`-th connection. The memory is that of a local, so no two connections share it. -/
  uninit : Nat → OsiParameters

/-- A platform whose parser knows the given documents and rejects every other
text, with conversions as libiec61850 makes them and zeroed memory. -/
def Platform.withDocuments (documents : List (String × Json)) : Platform where
  parse text := documents.lookup text
  FunctionalConstraint_fromString
    | "ST" => .ST | "MX" => .MX | "SP" => .SP | "SV" => .SV | "CF" => .CF | "DC" => .DC
    | "SG" => .SG | "SE" => .SE | "SR" => .SR | "OR" => .OR | "BL" => .BL | "EX" => .EX
    | "CO" => .CO | "US" => .US | "MS" => .MS | "RP" => .RP | "BR" => .BR | "LG" => .LG
    | "GO" => .GO | _ => .NONE
  toInt32 := Int32.ofInt
  toUint32 := UInt32.ofNat
  printToBuffer bits size :=
    String.ofList ((bits.take (size - 1)).map fun bit => if bit then '1' else '0')
  uninit _ :=
    let selector (capacity : Nat) : OsiSelector capacity := ⟨0, .replicate capacity 0⟩
    ⟨"", 0, "", 0, selector 4, selector 4, selector 16, selector 16, selector 16, selector 16⟩

/-- The platform as one import meets it: every import finds memory of its own. -/
def Platform.withMemory (plat : Platform) (uninit : Nat → OsiParameters) : Platform :=
  { plat with uninit := uninit }

@[simp] theorem Platform.withMemory_uninit (plat : Platform) :
    plat.withMemory plat.uninit = plat := rfl

/-- A Fledge configuration category: the values of its items, by name. -/
structure ConfigCategory where
  items : List (String × String)

def ConfigCategory.getValue? (config : ConfigCategory) (name : String) : Option String :=
  config.items.lookup name

/-! ## The checks -/

/-- `if (! condition) throw ConfigurationException(msg)` -/
def ensure (condition : Bool) (msg : String) : Except ImportStop Unit :=
  if condition then .ok () else .error (.configurationException msg)

/-- A member that has to be there and to have the right type. -/
def mandatory (v : Json) (name : String) (isType : Json → Bool) (notFound badFormat : String) :
    Except ImportStop Json := do
  ensure (← v.hasMember name) notFound
  let member ← v.at' name
  ensure (isType member) badFormat
  return member

/-- A member that is read only if it is there, and then has to have the right type. -/
def optional {α : Type} (v : Json) (name : String) (isType : Json → Bool) (badFormat : String)
    (absent : α) (read : Json → Except ImportStop α) : Except ImportStop α := do
  if ← v.hasMember name then
    let member ← v.at' name
    ensure (isType member) badFormat
    read member
  else
    return absent

/-- A member that has to be there and to be an object, with one message for both. -/
def objectMember (v : Json) (name msg : String) : Except ImportStop Json :=
  mandatory v name Json.isObject msg msg

/-! ## Connections -/

/-- Commas become dots; then only digits and dots may be left. -/
def readApTitle (notValid : String) (member : Json) : Except ImportStop String := do
  let apTitle := (← member.getString).toList.map fun c => if c = ',' then '.' else c
  ensure ((apTitle.filter (· ≠ '.')).all Char.isDigit) notValid
  return String.ofList apTitle

def importJsonConnectionOsiSelectors (connOsiConfig : Json) (osiParams : OsiParameters) :
    Except ImportStop OsiParameters := do
  let osiParams ← optional connOsiConfig "local_psel" Json.isString
    "bad format for 'local_psel'" osiParams fun m => do
      let sel ← parseOsiPSelector (← m.getString) osiParams.localPSelector
      return { osiParams with localPSelector := sel }
  let osiParams ← optional connOsiConfig "local_ssel" Json.isString
    "bad format for 'local_ssel'" osiParams fun m => do
      let sel ← parseOsiSSelector (← m.getString) osiParams.localSSelector
      return { osiParams with localSSelector := sel }
  let osiParams ← optional connOsiConfig "local_tsel" Json.isString
    "bad format for 'local_tsel'" osiParams fun m => do
      let sel ← parseOsiTSelector (← m.getString) osiParams.localTSelector
      return { osiParams with localTSelector := sel }
  let osiParams ← optional connOsiConfig "remote_psel" Json.isString
    "bad format for 'remote_psel'" osiParams fun m => do
      let sel ← parseOsiPSelector (← m.getString) osiParams.remotePSelector
      return { osiParams with remotePSelector := sel }
  let osiParams ← optional connOsiConfig "remote_ssel" Json.isString
    "bad format for 'remote_ssel'" osiParams fun m => do
      let sel ← parseOsiSSelector (← m.getString) osiParams.remoteSSelector
      return { osiParams with remoteSSelector := sel }
  optional connOsiConfig "remote_tsel" Json.isString
    "bad format for 'remote_tsel'" osiParams fun m => do
      let sel ← parseOsiTSelector (← m.getString) osiParams.remoteTSelector
      return { osiParams with remoteTSelector := sel }

def importJsonConnectionOsiConfig (connOsiConfig : Json)
    (iedConnectionParam : ServerConnectionParameters) :
    Except ImportStop ServerConnectionParameters := do
  ensure connOsiConfig.isObject "'OSI' section is not valid"
  let osiParams := iedConnectionParam.osiParameters
  let osiParams ← optional connOsiConfig "local_ae_qualifier" Json.isInt
    "bad format for 'local_ae_qualifier'" osiParams fun m => do
      let n ← m.getInt
      return { osiParams with localAeQualifier := n }
  let osiParams ← optional connOsiConfig "remote_ae_qualifier" Json.isInt
    "bad format for 'remote_ae_qualifier'" osiParams fun m => do
      let n ← m.getInt
      return { osiParams with remoteAeQualifier := n }
  let osiParams ← optional connOsiConfig "local_ap_title" Json.isString
    "bad format for 'local_ap_title'" osiParams fun m => do
      let title ← readApTitle "'local_ap_title' is not valid" m
      return { osiParams with localApTitle := title }
  let osiParams ← optional connOsiConfig "remote_ap_title" Json.isString
    "bad format for 'remote_ap_title'" osiParams fun m => do
      let title ← readApTitle "'remote_ap_title' is not valid" m
      return { osiParams with remoteApTitle := title }
  let osiParams ← importJsonConnectionOsiSelectors connOsiConfig osiParams
  return { iedConnectionParam with osiParameters := osiParams, isOsiParametersEnabled := true }

/-- The local `iedConnectionParam` that `importJsonConnectionConfig` fills. -/
def connectionOf (uninit : OsiParameters) (connConfig : Json) :
    Except ImportStop ServerConnectionParameters := do
  ensure connConfig.isObject "'Connection' is not valid"
  let srvIp ← mandatory connConfig "srv_ip" Json.isString
    "the mandatory 'srv_ip' not found" "bad format for the mandatory 'srv_ip'"
  let port ← mandatory connConfig "port" Json.isInt
    "the mandatory 'port' not found" "bad format for the mandatory 'port'"
  let ipAddress ← srvIp.getString
  ensure (isValidIPAddress ipAddress) "not a valid IP address for the mandatory 'srv_ip'"
  let mmsPort ← port.getInt
  let iedConnectionParam : ServerConnectionParameters :=
    { ServerConnectionParameters.declared uninit with
      ipAddress := ipAddress, mmsPort := mmsPort }
  if ← connConfig.hasMember "osi" then
    importJsonConnectionOsiConfig (← connConfig.at' "osi") iedConnectionParam
  else
    return iedConnectionParam

/-- Computations on the configuration object. -/
abbrev ImportM := EStateM ImportStop IEC61850ClientConfig

def importJsonConnectionConfig (uninit : OsiParameters) (connConfig : Json) : ImportM PUnit := do
  let iedConnectionParam ← liftExcept (connectionOf uninit connConfig)
  let key := buildKey iedConnectionParam
  modify fun c =>
    { c with serverConfigDict := c.serverConfigDict.insert key iedConnectionParam }

/-- The checks of the transport layer, with the two members they are about. -/
def transportLayerHeader (transportLayer : Json) : Except ImportStop (String × List Json) := do
  let iedName ← mandatory transportLayer "ied_name" Json.isString
    "the mandatory 'ied_name' not found" "bad format for the mandatory 'ied_name'"
  let connections ← mandatory transportLayer "connections" Json.isArray
    "'Transport Layer' parsing error: no 'connections'"
    "'connections' is not an array -> fail to parse 'Transport Layer'"
  return (← iedName.getString, ← connections.getArray)

variable (plat : Platform)

def importJsonTransportLayerConfig (transportLayer : Json) : ImportM PUnit := do
  let header ← liftExcept (transportLayerHeader transportLayer)
  modify fun c => { c with iedName := header.1 }
  forM header.2.zipIdx fun conn => importJsonConnectionConfig (plat.uninit conn.2) conn.1

/-! ## Application layer -/

/-- `unsigned int` from `int`: modulo `2 ^ 32`. -/
def toUnsigned (n : Int) : UInt32 :=
  UInt32.ofNat (n % 4294967296).toNat

def readingPeriodOf (applicationLayer : Json) : Except ImportStop (Option UInt32) :=
  optional applicationLayer "reading_period" Json.isInt "bad format for 'reading_period'"
    none fun m => do
      let n ← m.getInt
      return some (toUnsigned n)

def readModeOf (applicationLayer : Json) : Except ImportStop (Option ReadMode) :=
  optional applicationLayer "read_mode" Json.isString "bad format for 'read_mode'"
    none fun m => do
      let inputReadMode ← m.getString
      return some (if inputReadMode = "dataset" then .DATASET_READING else .DO_READING)

def importJsonApplicationLayerConfig (applicationLayer : Json) : ImportM PUnit := do
  let period ← liftExcept (readingPeriodOf applicationLayer)
  modify fun c => { c with applicationParams :=
    { c.applicationParams with
      readPollingPeriodInMs := period.getD c.applicationParams.readPollingPeriodInMs } }
  let mode ← liftExcept (readModeOf applicationLayer)
  modify fun c => { c with applicationParams :=
    { c.applicationParams with readMode := mode.getD c.applicationParams.readMode } }

/-- The checks on the document, up to the `protocol_stack` object. -/
def protocolHeader (protocolConfig : String) : Except ImportStop Json :=
  match plat.parse protocolConfig with
  | none => .error (.configurationException "'Protocol stack' parsing error")
  | some document => do
    ensure document.isObject "'Protocol stack' empty conf"
    objectMember document "protocol_stack" "'Protocol stack' empty conf"

def importJsonProtocolConfig (protocolConfig : String) : ImportM PUnit := do
  let protocolStack ← liftExcept (protocolHeader plat protocolConfig)
  let transportLayer ← liftExcept (objectMember protocolStack "transport_layer"
    "'transport layer' configuration is missing")
  importJsonTransportLayerConfig plat transportLayer
  let applicationLayer ← liftExcept (objectMember protocolStack "application_layer"
    "'application layer' configuration is missing")
  importJsonApplicationLayerConfig applicationLayer

/-! ## Datapoints and datasets -/

def setDatapointType (jsonConfig : Json) (dpConfigToComplete : DatapointConfig) :
    Except ImportStop DatapointConfig := do
  let strTypeId ← (← jsonConfig.at' "typeid").getString
  if strTypeId = "SPS" then
    return { dpConfigToComplete with
      datapointType := "SPS"
      datapointTypeId := .SPS_DATAPOINT_TYPE
      functionalConstraint := plat.FunctionalConstraint_fromString "ST" }
  else if strTypeId = "MV" then
    return { dpConfigToComplete with
      datapointType := "MV"
      datapointTypeId := .MV_DATAPOINT_TYPE
      functionalConstraint := plat.FunctionalConstraint_fromString "MX" }
  else
    return dpConfigToComplete

def IEC61850_PROTOCOL_NAME : String := "iec61850"

def importJsonDatapointProtocolConfig (datapointConfig : DatapointConfig)
    (datapointProtocolConfig : Json) : Except ImportStop DatapointConfig := do
  ensure datapointProtocolConfig.isObject "'protocol' is not valid"
  let name ← mandatory datapointProtocolConfig "name" Json.isString
    "the mandatory 'name' not found" "bad format for the mandatory 'name'"
  let _typeid ← mandatory datapointProtocolConfig "typeid" Json.isString
    "the mandatory 'typeid' not found" "bad format for the mandatory 'typeid'"
  let address ← mandatory datapointProtocolConfig "address" Json.isString
    "the mandatory 'address' not found" "bad format for the mandatory 'address'"
  if (← name.getString) ≠ IEC61850_PROTOCOL_NAME then
    return datapointConfig
  else
    let dataPath ← address.getString
    setDatapointType plat datapointProtocolConfig { datapointConfig with dataPath := dataPath }

/-- The local `newDatapointConfig` that `importJsonDatapointConfig` fills. -/
def datapointOf (jsonDatapointConfig : Json) : Except ImportStop DatapointConfig := do
  ensure jsonDatapointConfig.isObject "'datapoint' is not valid"
  let label ← mandatory jsonDatapointConfig "label" Json.isString
    "the mandatory 'label' not found" "bad format for the mandatory 'label'"
  let label ← label.getString
  let protocols ← mandatory jsonDatapointConfig "protocols" Json.isArray
    "'datapoints' parsing error: no 'protocols'"
    "'protocols' is not an array -> fail to parse 'datapoints'"
  let newDatapointConfig : DatapointConfig := { label := label }
  (← protocols.getArray).foldlM (importJsonDatapointProtocolConfig plat) newDatapointConfig

def importJsonDatapointConfig (jsonDatapointConfig : Json) : ImportM PUnit := do
  let newDatapointConfig ← liftExcept (datapointOf plat jsonDatapointConfig)
  modify fun c => { c with exchangedData := c.exchangedData ++ [newDatapointConfig] }

/-- One round of the loop over `data_objects`. The members are read without a
test of their type. -/
def dataObjectOf (jsonDataObject : Json) : Except ImportStop DatapointConfig := do
  ensure (← jsonDataObject.hasMember "label") "'label', in 'data_object' of 'dataset' is missing"
  let label ← (← jsonDataObject.at' "label").getString
  ensure (← jsonDataObject.hasMember "doName")
    "'do_name', in 'data_object' of 'dataset' is missing"
  let doName ← (← jsonDataObject.at' "doName").getString
  ensure (← jsonDataObject.hasMember "typeid")
    "'typeid', in 'data_object' of 'dataset' is missing"
  setDatapointType plat jsonDataObject { label := label, dataPath := doName }

/-- The `data_objects` that the loop runs over: none unless they are an array. -/
def dataObjectsOf (jsonDatasetConfig : Json) : List Json :=
  match jsonDatasetConfig.member? "data_objects" with
  | some (.array dataObjects) => dataObjects
  | _ => []

/-- The reference and the list that `importJsonDatasetConfig` stores. -/
def datasetOf (jsonDatasetConfig : Json) : Except ImportStop (String × ExchangedData) := do
  ensure jsonDatasetConfig.isObject "'dataset' is not valid"
  let datasetRef ← mandatory jsonDatasetConfig "dataset_ref" Json.isString
    "the mandatory 'dataset_ref' not found" "bad format for the mandatory 'dataset_ref'"
  let datasetRef ← datasetRef.getString
  ensure (datasetRef ≠ "") "the mandatory 'dataset_ref' is empty"
  let selectedDataObjectList ← (dataObjectsOf jsonDatasetConfig).mapM (dataObjectOf plat)
  return (datasetRef, selectedDataObjectList)

def importJsonDatasetConfig (jsonDatasetConfig : Json) : ImportM PUnit := do
  let dataset ← liftExcept (datasetOf plat jsonDatasetConfig)
  modify fun c => { c with
    selectedDOInExchangedDatasets :=
      c.selectedDOInExchangedDatasets.insert dataset.1 dataset.2 }

/-- The checks shared by `exchanged_data` and `exchanged_datasets`, up to the
array that is imported element by element. -/
def sectionArray (text sectionName arrayName parsingError emptyConf noArray notArray : String) :
    Except ImportStop (List Json) :=
  match plat.parse text with
  | none => .error (.configurationException parsingError)
  | some document => do
    ensure document.isObject emptyConf
    let jsonSection ← objectMember document sectionName emptyConf
    let elements ← mandatory jsonSection arrayName Json.isArray noArray notArray
    elements.getArray

def exchangedDataHeader (exchangedDataConfig : String) : Except ImportStop (List Json) :=
  sectionArray plat exchangedDataConfig "exchanged_data" "datapoints"
    "'Exchanged data' parsing error" "'Exchanged data' empty conf"
    "'ExchangedData' parsing error: no 'datapoints'"
    "'datapoints' is not an array -> fail to parse 'ExchangedData'"

def importJsonExchangedDataConfig (exchangedDataConfig : String) : ImportM PUnit := do
  let datapoints ← liftExcept (exchangedDataHeader plat exchangedDataConfig)
  forM datapoints (importJsonDatapointConfig plat)

def exchangedDatasetsHeader (exchangedDatasetsConfig : String) :
    Except ImportStop (List Json) :=
  sectionArray plat exchangedDatasetsConfig "exchanged_datasets" "datasets"
    "'Exchanged datasets' parsing error" "'Exchanged datasets' empty conf"
    "'ExchangedDatasets' parsing error: no 'datasets'"
    "'datasets' is not an array -> fail to parse 'ExchangedDatasets'"

def importJsonExchangedDatasetsConfig (exchangedDatasetsConfig : String) : ImportM PUnit := do
  let datasets ← liftExcept (exchangedDatasetsHeader plat exchangedDatasetsConfig)
  forM datasets (importJsonDatasetConfig plat)

def DEFAULT_LOG_MIN_LEVEL : String := "info"
def DEFAULT_ASSET_NAME : String := "iec61850"

/-- The `protocol_stack` item is mandatory. -/
def importProtocolStackItem (item : Option String) : ImportM PUnit :=
  match item with
  | none => throw (.configurationException "'Protocol stack' not found")
  | some inputProtocolStack => importJsonProtocolConfig plat inputProtocolStack

/-- `if (newConfig.itemExists(name)) import(newConfig.getValue(name))` -/
def importOptionalItem (item : Option String) (importItem : String → ImportM PUnit) :
    ImportM PUnit :=
  match item with
  | none => pure ⟨⟩
  | some text => importItem text

def importConfig (newConfig : ConfigCategory) : ImportM PUnit := do
  modify fun c => { c with
    logMinLevel := (newConfig.getValue? "log min level").getD DEFAULT_LOG_MIN_LEVEL }
  modify fun c => { c with assetName := DEFAULT_ASSET_NAME }
  modify fun c => { c with assetName := (newConfig.getValue? "asset").getD c.assetName }
  importProtocolStackItem plat (newConfig.getValue? "protocol_stack")
  importOptionalItem (newConfig.getValue? "exchanged_data")
    (importJsonExchangedDataConfig plat)
  importOptionalItem (newConfig.getValue? "exchanged_datasets")
    (importJsonExchangedDatasetsConfig plat)

end Iec61850South
