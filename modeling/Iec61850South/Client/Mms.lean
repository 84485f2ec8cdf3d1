import Iec61850South.Config.Import

/-! # MMS values, datapoints, and how a computation can end

`MmsValue` is a value as libiec61850 hands it out: a pointer to a value is an
`Option`. `Datapoint` is the Fledge class, with pointers again as options.

C++ code that dereferences an absent object has no defined behaviour. Such a
`Fault` is kept apart from the exceptions: only the latter can be caught.
-/

namespace Iec61850South

/-- `MMS_STRUCTURE` or `MMS_ARRAY` -/
inductive AggregateType where
  | struct
  | array
deriving DecidableEq, Repr

/-- A value without elements. `other` is any type that is not converted, with its
`MmsValue_getTypeString`. -/
inductive MmsPrimitive where
  | boolean (b : Bool)
  /-- the bits of the single precision number that `MmsValue_toFloat` returns -/
  | float (bits : UInt32)
  | unsigned (n : Nat)
  | integer (n : Int)
  /-- seconds since the epoch, as `MmsValue_toUnixTimestamp` returns them -/
  | utcTime (seconds : UInt32)
  | visibleString (s : String)
  | bitString (bits : List Bool)
  | dataAccessError (code : Nat)
  | other (typeString : String)
deriving DecidableEq, Repr

/-- A value of libiec61850: an array or a structure of values, where an element may be null,
or a single one. -/
inductive MmsValue where
  | aggregate (type : AggregateType) (elements : List (Option MmsValue))
  | primitive (value : MmsPrimitive)

/-- The data of a Fledge `Datapoint` with elements of type `δ`. -/
inductive DatapointValue (δ : Type) where
  | integer (n : Int)
  | float (bits : UInt32)
  | string (s : String)
  /-- `T_DP_DICT`: a vector of pointers to datapoints -/
  | dpDict (datapoints : List (Option δ))

/-- The `Datapoint` of Fledge: a name with data. -/
inductive Datapoint where
  | mk (name : String) (data : DatapointValue Datapoint)

namespace Datapoint

def getName : Datapoint → String
  | .mk name _ => name

def getData : Datapoint → DatapointValue Datapoint
  | .mk _ data => data

def setName (name : String) : Datapoint → Datapoint
  | .mk _ data => .mk name data

@[simp] theorem getName_mk (name : String) (data : DatapointValue Datapoint) :
    (mk name data).getName = name := rfl
@[simp] theorem getData_mk (name : String) (data : DatapointValue Datapoint) :
    (mk name data).getData = data := rfl
@[simp] theorem setName_mk (name name' : String) (data : DatapointValue Datapoint) :
    (mk name data).setName name' = mk name' data := rfl
@[simp] theorem setName_setName (name name' : String) (d : Datapoint) :
    (d.setName name).setName name' = d.setName name' := by cases d; rfl
@[simp] theorem getName_setName (name : String) (d : Datapoint) :
    (d.setName name).getName = name := by cases d; rfl
@[simp] theorem getData_setName (name : String) (d : Datapoint) :
    (d.setName name).getData = d.getData := by cases d; rfl

end Datapoint

/-- A use of an object that is not there. -/
inductive Fault where
  /-- `m_connection->` while `m_connection` is null -/
  | nullConnection
  /-- `wrapped_mms->` while the shared pointer is null -/
  | nullWrappedMms
  /-- `ClientDataSet_getValues` of a null `ClientDataSet` -/
  | nullClientDataSet
  /-- `datapoint->` while the pointer is null -/
  | nullDatapoint
  /-- `children[0]` of a name node without children -/
  | missingChild
deriving DecidableEq, Repr

/-- How a computation of the client ends when it does not return. -/
inductive Abort where
  /-- `throw MmsParsingException(msg)` -/
  | mmsParsingException (msg : String)
  /-- `std::out_of_range`, thrown by `substr` -/
  | outOfRange
  | fault (f : Fault)
  /-- not an outcome of the code: the model has run out of steps -/
  | outOfFuel
deriving DecidableEq, Repr

/-- The code goes on after `catch`: the computation has thrown an exception. -/
def Abort.isCaught : Abort → Bool
  | mmsParsingException _ => true
  | outOfRange => true
  | fault _ => false
  | outOfFuel => false

end Iec61850South
