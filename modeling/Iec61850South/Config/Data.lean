import Std.Data.ExtTreeMap
import Mathlib.Tactic.Common

/-! # The configuration of the south plugin

The records of `iec61850_client_config.h`. `std::map` with string keys is an
ordered map, `std::vector` a list and a `std::shared_ptr` an `Option`.
-/

namespace Iec61850South

open Std

/-- The functional constraints of libiec61850. -/
inductive FunctionalConstraint where
  | ST | MX | SP | SV | CF | DC | SG | SE | SR | OR | BL | EX | CO | US | MS | RP | BR | LG | GO
  | ALL | NONE
deriving DecidableEq, Repr

/-- A P, S or T selector: `size` says how many bytes of `value` count. -/
structure OsiSelector (capacity : Nat) where
  size : UInt8
  value : Vector UInt8 capacity
deriving DecidableEq

abbrev TSelector := OsiSelector 4
abbrev SSelector := OsiSelector 16
abbrev PSelector := OsiSelector 16

/-- Lower layer parameters (below the MMS layer) for connection with server. -/
structure OsiParameters where
  localApTitle : String
  localAeQualifier : Int
  remoteApTitle : String
  remoteAeQualifier : Int
  localTSelector : TSelector
  remoteTSelector : TSelector
  localSSelector : SSelector
  remoteSSelector : SSelector
  localPSelector : PSelector
  remotePSelector : PSelector
deriving DecidableEq

/-- A declared `OsiParameters`. The selectors have no initialiser: they hold
what `uninit` says was in their memory. -/
def OsiParameters.declared (uninit : OsiParameters) : OsiParameters :=
  { uninit with
    localApTitle := "", localAeQualifier := 0, remoteApTitle := "", remoteAeQualifier := 0 }

/-- Parameters for creating a connection with 1 IEC61850 server. -/
structure ServerConnectionParameters where
  ipAddress : String
  mmsPort : Int
  isOsiParametersEnabled : Bool
  osiParameters : OsiParameters
deriving DecidableEq

def ServerConnectionParameters.declared (uninit : OsiParameters) :
    ServerConnectionParameters where
  ipAddress := ""
  mmsPort := 0
  isOsiParametersEnabled := false
  osiParameters := .declared uninit

/-- Defined types of Datapoint. -/
inductive DatapointTypeId where
  | MV_DATAPOINT_TYPE
  | SPS_DATAPOINT_TYPE
  | UNKNOWN_DATAPOINT_TYPE
deriving DecidableEq, Repr

/-- Node for the MMS name tree (name for each element of a complex MMS). -/
inductive MmsNameNode where
  | node (mmsName : String) (children : List (Option MmsNameNode))

namespace MmsNameNode

def mmsName : MmsNameNode → String
  | .node mmsName _ => mmsName

def children : MmsNameNode → List (Option MmsNameNode)
  | .node _ children => children

/-- The names of the children, of which none should be null. -/
def childNames (nameTree : MmsNameNode) : List (Option String) :=
  nameTree.children.map (Option.map mmsName)

/-- `make_shared<MmsNameNode>()`: no name, no children. -/
def empty : MmsNameNode := .node "" []

/-- `tree->mmsName = name` -/
def setName (name : String) : MmsNameNode → MmsNameNode
  | .node _ children => .node name children

/-- `tree->children.push_back(child)` -/
def pushBack : MmsNameNode → MmsNameNode → MmsNameNode
  | .node mmsName children, child => .node mmsName (children ++ [some child])

@[simp] theorem mmsName_node (n : String) (cs : List (Option MmsNameNode)) :
    (node n cs).mmsName = n := rfl
@[simp] theorem children_node (n : String) (cs : List (Option MmsNameNode)) :
    (node n cs).children = cs := rfl
@[simp] theorem setName_node (n n' : String) (cs : List (Option MmsNameNode)) :
    (node n cs).setName n' = node n' cs := rfl
@[simp] theorem mmsName_pushBack (t c : MmsNameNode) : (t.pushBack c).mmsName = t.mmsName := by
  cases t; rfl
@[simp] theorem setName_setName (n n' : String) (t : MmsNameNode) :
    (t.setName n).setName n' = t.setName n' := by cases t; rfl
theorem setName_mmsName (t : MmsNameNode) : t.setName t.mmsName = t := by cases t; rfl
@[simp] theorem pushBack_node (n : String) (cs : List (Option MmsNameNode)) (c : MmsNameNode) :
    (node n cs).pushBack c = node n (cs ++ [some c]) := rfl
@[simp] theorem childNames_setName (n : String) (t : MmsNameNode) :
    (t.setName n).childNames = t.childNames := by cases t; rfl
@[simp] theorem childNames_pushBack (t c : MmsNameNode) :
    (t.pushBack c).childNames = t.childNames ++ [some c.mmsName] := by
  cases t; simp [childNames]

end MmsNameNode

/-- Mode of the reading activity: list of DO or list of Dataset. -/
inductive ReadMode where
  | DO_READING
  | DATASET_READING
deriving DecidableEq, Repr

def DEFAULT_READ_POLLING_PERIOD_IN_MS : UInt32 := 1000

/-- Application parameters about the IEC61850 client. -/
structure ApplicationParameters where
  readPollingPeriodInMs : UInt32 := DEFAULT_READ_POLLING_PERIOD_IN_MS
  readMode : ReadMode := .DO_READING
deriving DecidableEq

/-- Parameters about the data to transfer to Fledge. -/
structure DatapointConfig where
  label : String := ""
  datapointType : String := ""
  datapointTypeId : DatapointTypeId := .UNKNOWN_DATAPOINT_TYPE
  dataPath : String := "NOT_DEFINED"
  functionalConstraint : FunctionalConstraint := .NONE
  mmsNameTree : Option MmsNameNode := none

abbrev ServerConfigDict := ExtTreeMap String ServerConnectionParameters
abbrev ExchangedData := List DatapointConfig
abbrev ExchangedDatasets := ExtTreeMap String ExchangedData

/-- All the configuration for the South plugin. -/
structure IEC61850ClientConfig where
  logMinLevel : String := ""
  assetName : String := ""
  iedName : String := ""
  serverConfigDict : ServerConfigDict := ∅
  applicationParams : ApplicationParameters := {}
  exchangedData : ExchangedData := []
  selectedDOInExchangedDatasets : ExchangedDatasets := ∅

/-- The key under which a connection is stored. -/
def buildKey (serverConn : ServerConnectionParameters) : String :=
  serverConn.ipAddress ++ "_" ++ toString serverConn.mmsPort

end Iec61850South
