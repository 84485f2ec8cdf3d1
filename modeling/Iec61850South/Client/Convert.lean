import Iec61850South.Client.Mms

/-! # From an MMS value to a datapoint

`buildDatapointFromMms` walks over the value and the name tree together. Only
the access error yields no datapoint, and the name `mag` drops all members but
the first one.
-/

namespace Iec61850South

/-- Name mapping between the DO attributes and the Reading attributes. -/
def DO_READING_MAPPING : List (String × String) :=
  [("cdc", "do_type"), ("stVal", "do_value"), ("mag.value", "do_value"), ("mag.f", "do_value"),
    ("q", "do_quality"), ("t", "do_ts")]

def createDatapoint (dataName : String) (value : DatapointValue Datapoint) : Datapoint :=
  .mk dataName value

def createComplexDatapoint (dataName : String) (values : List (Option Datapoint)) : Datapoint :=
  .mk dataName (.dpDict values)

/-- The renaming at the end of `buildDatapointFromMms`. -/
def renameDatapoint (datapoint : Datapoint) : Datapoint :=
  match DO_READING_MAPPING.lookup datapoint.getName with
  | some newName => datapoint.setName newName
  | none => datapoint

/-- The two statements of the branch for `mag` after the recursive call. -/
def concatenateNames (mmsName : String) : Option Datapoint → Except Abort (Option Datapoint)
  | none => .error (.fault .nullDatapoint)
  | some datapoint => .ok (some (datapoint.setName (mmsName ++ "." ++ datapoint.getName)))

variable (plat : Platform)

/-- The `switch` of `buildDatapointFromMms` for a value that is no structure
and no array. -/
def buildPrimitive (mmsName : String) : MmsPrimitive → Except Abort (Option Datapoint)
  | .boolean b => .ok (some (createDatapoint mmsName (.integer (if b then 1 else 0))))
  | .float bits => .ok (some (createDatapoint mmsName (.float bits)))
  | .unsigned n => .ok (some (createDatapoint mmsName (.integer (plat.toUint32 n).toNat)))
  | .integer n => .ok (some (createDatapoint mmsName (.integer (plat.toInt32 n).toInt)))
  | .utcTime seconds => .ok (some (createDatapoint mmsName (.integer seconds.toNat)))
  | .visibleString s => .ok (some (createDatapoint mmsName (.string s)))
  | .bitString bits => .ok (some (createDatapoint mmsName (.string (plat.printToBuffer bits 32))))
  | .dataAccessError _ => .ok none
  | .other typeString =>
    .error (.mmsParsingException ("Unsupported MMS data type: " ++ typeString))

mutual

def buildDatapointFromMms : Option MmsValue → Option MmsNameNode →
    Except Abort (Option Datapoint)
  | none, _ => .error (.mmsParsingException "the input MmsValue is null")
  | some _, none => .error (.mmsParsingException "the input MmsNameNode is null")
  | some mmsValue, some (.node mmsName children) => do
    return (← buildFromType mmsValue mmsName children).map renameDatapoint

/-- `switch (MmsValue_getType(mmsValue))` -/
def buildFromType : MmsValue → String → List (Option MmsNameNode) →
    Except Abort (Option Datapoint)
  | .aggregate _ elements, mmsName, children =>
    if elements.length ≠ children.length then
      .error (.mmsParsingException "MMS structure does not match")
    else if mmsName = "mag" then do
      -- keep only the 1st child, and concatenate the names
      concatenateNames mmsName (← buildFirst elements children)
    else do
      return some (createComplexDatapoint mmsName (← buildAll elements children))
  | .primitive value, mmsName, _ => buildPrimitive plat mmsName value

/-- `MmsValue_getElement(mmsValue, 0)` with `children[0]` -/
def buildFirst : List (Option MmsValue) → List (Option MmsNameNode) →
    Except Abort (Option Datapoint)
  | element :: _, child :: _ => buildDatapointFromMms element child
  | _, _ => .error (.fault .missingChild)

/-- The `for` loop over the elements and the children, which are as many. -/
def buildAll : List (Option MmsValue) → List (Option MmsNameNode) →
    Except Abort (List (Option Datapoint))
  | element :: elements, child :: children => do
    let dpChild ← buildDatapointFromMms element child
    let dpArray ← buildAll elements children
    return dpChild :: dpArray
  | _, _ => .ok []

end

def insertTypeInDatapoint (datapoint : Option Datapoint) (doType : String) : Option Datapoint :=
  match datapoint with
  | some (.mk name (.dpDict dpVec)) =>
    some (.mk name (.dpDict (some (createDatapoint "do_type" (.string doType)) :: dpVec)))
  | datapoint => datapoint

def convertMmsToDatapoint (mmsValue : Option MmsValue) (datapointConfig : DatapointConfig) :
    Except Abort (Option Datapoint) :=
  match mmsValue with
  | none => .ok none
  | some mmsValue => do
    let datapoint ← buildDatapointFromMms plat (some mmsValue) datapointConfig.mmsNameTree
    return insertTypeInDatapoint datapoint datapointConfig.datapointType

end Iec61850South
