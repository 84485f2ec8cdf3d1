import Mathlib.Tactic.Common

/-! # JSON documents as rapidjson hands them out

The typed accessors of rapidjson check their precondition with
`RAPIDJSON_ASSERT`, which aborts the process. Each accessor is therefore a
partial operation: `assertion` is the abort, `configurationException` is what
the import code throws itself. Only the abort is not an exception.
-/

namespace Iec61850South

/-- How an import ends when it does not return. -/
inductive ImportStop where
  /-- `throw ConfigurationException(msg)` -/
  | configurationException (msg : String)
  /-- `RAPIDJSON_ASSERT` fails in the named accessor and the process aborts. -/
  | assertion (accessor : String)
deriving DecidableEq, Repr

/-- A parsed JSON value. `real` is any number that is not an integer of at most
64 bits, kept as its text: no accessor of the import code reads it. -/
inductive Json where
  | null
  | bool (b : Bool)
  | integer (n : Int)
  | real (literal : String)
  | string (s : String)
  | array (elements : List Json)
  | object (members : List (String × Json))

namespace Json

/-- `IsObject()` -/
def isObject : Json → Bool
  | .object _ => true
  | _ => false

/-- `IsArray()` -/
def isArray : Json → Bool
  | .array _ => true
  | _ => false

/-- `IsString()` -/
def isString : Json → Bool
  | .string _ => true
  | _ => false

/-- `IsInt()`: an integer that fits in 32 bits, signed. -/
def isInt : Json → Bool
  | .integer n => decide (-2147483648 ≤ n ∧ n ≤ 2147483647)
  | _ => false

/-- The first member of that name, as `FindMember` finds it. -/
def member? : Json → String → Option Json
  | .object members, name => members.lookup name
  | _, _ => none

/-- The characters before the first NUL: what a `const char *` shows of a text. -/
def cString (s : String) : String :=
  String.ofList (s.toList.takeWhile (· ≠ '\x00'))

/-- `HasMember(name)` asserts that the value is an object. -/
def hasMember : Json → String → Except ImportStop Bool
  | .object members, name => .ok (members.lookup name).isSome
  | _, _ => .error (.assertion "HasMember")

/-- `operator[](name)` asserts that the value is an object with that member. -/
def at' (v : Json) (name : String) : Except ImportStop Json :=
  match v.member? name with
  | some m => .ok m
  | none => .error (.assertion "operator[]")

/-- `GetString()`, read back into a `std::string` through its `const char *`. -/
def getString : Json → Except ImportStop String
  | .string s => .ok (cString s)
  | _ => .error (.assertion "GetString")

/-- `GetInt()` asserts that the value is an integer of 32 bits. -/
def getInt (v : Json) : Except ImportStop Int :=
  match v with
  | .integer n => if v.isInt then .ok n else .error (.assertion "GetInt")
  | _ => .error (.assertion "GetInt")

/-- `GetArray()` asserts that the value is an array. -/
def getArray : Json → Except ImportStop (List Json)
  | .array elements => .ok elements
  | _ => .error (.assertion "GetArray")

/-! ## When an accessor does not abort -/

/-- `HasMember` behind `IsObject` fails no assertion. -/
theorem hasMember_of_isObject {v : Json} (h : v.isObject) (name : String) :
    v.hasMember name = .ok (v.member? name).isSome := by
  cases v <;> simp [isObject] at h
  rfl

/-- Only an object has members. -/
theorem isObject_of_member? {v m : Json} {name : String} (h : v.member? name = some m) :
    v.isObject := by
  cases v <;> simp [member?] at h
  rfl

/-- `operator[]` behind `HasMember` fails no assertion. -/
theorem at'_of_member? {v m : Json} {name : String} (h : v.member? name = some m) :
    v.at' name = .ok m := by
  rw [at', h]

/-- `GetString` behind `IsString` fails no assertion. -/
theorem getString_of_isString {v : Json} (h : v.isString) :
    ∃ s, v = .string s ∧ v.getString = .ok (cString s) := by
  cases v <;> simp [isString] at h
  exact ⟨_, rfl, rfl⟩

/-- `GetInt` behind `IsInt` fails no assertion. -/
theorem getInt_of_isInt {v : Json} (h : v.isInt) : ∃ n, v = .integer n ∧ v.getInt = .ok n := by
  cases v <;> simp only [isInt, Bool.false_eq_true] at h
  exact ⟨_, rfl, by simp only [getInt, isInt, h, if_true]⟩

/-- `GetArray` behind `IsArray` fails no assertion. -/
theorem getArray_of_isArray {v : Json} (h : v.isArray) :
    ∃ elements, v = .array elements ∧ v.getArray = .ok elements := by
  cases v <;> simp [isArray] at h
  exact ⟨_, rfl, rfl⟩

end Json

end Iec61850South
