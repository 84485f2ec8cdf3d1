import Iec61850South.Client.NameTree

/-! # How a conversion ends

`buildDatapointFromMms` walks over a value and a name tree together. `defects`
lists what is wrong with them in the order of the walk, as if the walk did not
stop: the conversion ends with the first defect, and without one it returns
(`buildDatapointFromMms_outcome`). Most defects are thrown as exceptions. The two
of a node named `mag` are not: there the code uses an object that is absent.
-/

namespace Iec61850South

open Lib

/-! ## What can be wrong -/

/-- What is wrong with a value at a node of the name tree. -/
inductive Defect where
  | absentValue
  | absentName
  /-- not as many elements as names -/
  | mismatch
  | unsupported (typeString : String)
  /-- a `mag` without members -/
  | emptyMag
  /-- a `mag` whose first member is an access error -/
  | unreadMag
deriving DecidableEq, Repr

/-- The code tests for the defect, and throws. -/
def Defect.isThrown : Defect → Bool
  | .emptyMag => false
  | .unreadMag => false
  | _ => true

/-- How the conversion ends there. -/
def Defect.abort : Defect → Abort
  | .absentValue => .mmsParsingException "the input MmsValue is null"
  | .absentName => .mmsParsingException "the input MmsNameNode is null"
  | .mismatch => .mmsParsingException "MMS structure does not match"
  | .unsupported typeString =>
    .mmsParsingException ("Unsupported MMS data type: " ++ typeString)
  | .emptyMag => .fault .missingChild
  | .unreadMag => .fault .nullDatapoint

/-- A defect is thrown exactly when no absent object is used. -/
theorem Defect.isThrown_iff (defect : Defect) :
    defect.isThrown = true ↔ ∃ msg, defect.abort = .mmsParsingException msg := by
  cases defect <;> simp [Defect.isThrown, Defect.abort]

def isAccessError : Option MmsValue → Bool
  | some (.primitive (.dataAccessError _)) => true
  | _ => false

mutual

/-- The defects of a value along a name tree, in the order of the walk. -/
def defects : Option MmsValue → Option MmsNameNode → List Defect
  | none, _ => [.absentValue]
  | some _, none => [.absentName]
  | some mmsValue, some (.node mmsName children) => nodeDefects mmsValue mmsName children

def nodeDefects : MmsValue → String → List (Option MmsNameNode) → List Defect
  | .aggregate _ elements, mmsName, children =>
    if elements.length ≠ children.length then [.mismatch]
    else if mmsName = "mag" then magDefects elements children
    else memberDefects elements children
  | .primitive (.other typeString), _, _ => [.unsupported typeString]
  | .primitive _, _, _ => []

/-- Only the first member of a `mag` is visited, and it has to yield a datapoint. -/
def magDefects : List (Option MmsValue) → List (Option MmsNameNode) → List Defect
  | element :: _, child :: _ =>
    defects element child ++ if isAccessError element then [.unreadMag] else []
  | _, _ => [.emptyMag]

def memberDefects : List (Option MmsValue) → List (Option MmsNameNode) → List Defect
  | element :: elements, child :: children =>
    defects element child ++ memberDefects elements children
  | _, _ => []

end

/-! ## The conversion ends with the first defect -/

variable {plat : Platform}

/-- An attribute that is converted is null exactly for an access error. -/
theorem buildPrimitive_outcome (mmsName : String) (value : MmsPrimitive)
    (children : List (Option MmsNameNode)) :
    EndsWith Defect.abort (nodeDefects (.primitive value) mmsName children)
      (fun datapoint => datapoint.isNone = isAccessError (some (.primitive value)))
      (buildPrimitive plat mmsName value) := by
  cases value <;> first | exact ⟨_, rfl, rfl⟩ | rfl

mutual

/-- **The conversion ends with the first defect of the walk**, and without one it
returns a datapoint, or null for an access error. -/
theorem buildDatapointFromMms_outcome : ∀ (mmsValue : Option MmsValue)
    (nameNode : Option MmsNameNode),
    EndsWith Defect.abort (defects mmsValue nameNode)
      (fun datapoint => datapoint.isNone = isAccessError mmsValue)
      (buildDatapointFromMms plat mmsValue nameNode)
  | none, nameNode => by
    rw [defects, buildDatapointFromMms]
    rfl
  | some mmsValue, none => by
    rw [defects, buildDatapointFromMms]
    rfl
  | some mmsValue, some (.node mmsName children) => by
    rw [defects, buildDatapointFromMms]
    apply (buildFromType_outcome mmsValue mmsName children).map
    intro datapoint hnull
    -- the renaming at the end finds a datapoint or does nothing
    refine ⟨_, rfl, ?_⟩
    rwa [Option.isNone_map]

theorem buildFromType_outcome : ∀ (mmsValue : MmsValue) (mmsName : String)
    (children : List (Option MmsNameNode)),
    EndsWith Defect.abort (nodeDefects mmsValue mmsName children)
      (fun datapoint => datapoint.isNone = isAccessError (some mmsValue))
      (buildFromType plat mmsValue mmsName children)
  | .primitive value, mmsName, children => by
    rw [buildFromType]
    exact buildPrimitive_outcome mmsName value children
  | .aggregate type elements, mmsName, children => by
    rw [buildFromType, nodeDefects]
    by_cases hlength : elements.length ≠ children.length
    · rw [if_pos hlength, if_pos hlength]
      rfl
    · rw [if_neg hlength, if_neg hlength]
      by_cases hmag : mmsName = "mag"
      · rw [if_pos hmag, if_pos hmag]
        exact buildFirst_outcome mmsName elements children
      · rw [if_neg hmag, if_neg hmag]
        exact (buildAll_outcome elements children).map fun dpArray _ => ⟨_, rfl, rfl⟩

/-- The first member of a `mag` is converted, and its datapoint renamed. -/
theorem buildFirst_outcome (mmsName : String) : ∀ (elements : List (Option MmsValue))
    (children : List (Option MmsNameNode)),
    EndsWith Defect.abort (magDefects elements children) (fun datapoint => datapoint.isNone = false)
      (buildFirst plat elements children >>= concatenateNames mmsName)
  | [], children => by
    rw [magDefects, buildFirst]
    · rfl
    · simp
    · simp
  | element :: elements, [] => by
    rw [magDefects, buildFirst]
    · rfl
    · simp
    · simp
  | element :: elements, child :: children => by
    rw [magDefects, buildFirst]
    apply (buildDatapointFromMms_outcome element child).bind
    intro datapoint hnull
    rw [← hnull]
    -- no datapoint is null here, but nothing tests for it
    cases datapoint with
    | none => rfl
    | some d => exact ⟨_, rfl, rfl⟩

theorem buildAll_outcome : ∀ (elements : List (Option MmsValue))
    (children : List (Option MmsNameNode)),
    EndsWith Defect.abort (memberDefects elements children) (fun _ => True)
      (buildAll plat elements children)
  | [], children => by
    rw [memberDefects, buildAll]
    · exact .ok trivial
    · simp
    · simp
  | element :: elements, [] => by
    rw [memberDefects, buildAll]
    · exact .ok trivial
    · simp
    · simp
  | element :: elements, child :: children => by
    rw [memberDefects, buildAll]
    apply (buildDatapointFromMms_outcome element child).bind
    intro dpChild _
    exact (buildAll_outcome elements children).map fun dpArray _ => ⟨_, rfl, trivial⟩

end

/-! ## When no absent object is used -/

theorem buildDatapointFromMms_of_defect {mmsValue : Option MmsValue}
    {nameNode : Option MmsNameNode} {defect : Defect} {rest : List Defect}
    (h : defects mmsValue nameNode = defect :: rest) :
    buildDatapointFromMms plat mmsValue nameNode = .error defect.abort := by
  refine (buildDatapointFromMms_outcome mmsValue nameNode).eq_error_iff.mpr ⟨defect, ?_, rfl⟩
  rw [h]
  rfl

/-- What is converted is null exactly for an access error. -/
theorem isNone_of_converted {mmsValue : Option MmsValue} {nameNode : Option MmsNameNode}
    {datapoint : Option Datapoint}
    (h : buildDatapointFromMms plat mmsValue nameNode = .ok datapoint) :
    defects mmsValue nameNode = [] ∧ datapoint.isNone = isAccessError mmsValue :=
  (buildDatapointFromMms_outcome mmsValue nameNode).of_eq_ok h

variable (plat) in
/-- The conversion throws an `MmsParsingException`, or returns with or without a
datapoint. -/
def ConvertsSafely (mmsValue : Option MmsValue) (nameNode : Option MmsNameNode) : Prop :=
  (∃ msg, buildDatapointFromMms plat mmsValue nameNode = .error (.mmsParsingException msg)) ∨
    ∃ datapoint, buildDatapointFromMms plat mmsValue nameNode = .ok datapoint

/-- **A conversion is safe exactly when its first defect, if any, is thrown.** -/
theorem convertsSafely_iff (plat : Platform) (mmsValue : Option MmsValue)
    (nameNode : Option MmsNameNode) :
    ConvertsSafely plat mmsValue nameNode ↔
      ∀ defect, (defects mmsValue nameNode).head? = some defect → defect.isThrown = true := by
  have houtcome := @buildDatapointFromMms_outcome plat mmsValue nameNode
  constructor
  · rintro (⟨msg, hmsg⟩ | hok) defect hdefect
    · rcases houtcome.eq_error_iff.mp hmsg with ⟨first, hfirst, habort⟩
      rw [hdefect] at hfirst
      cases hfirst
      exact defect.isThrown_iff.mpr ⟨msg, habort⟩
    · rw [houtcome.isOk_iff.mp hok] at hdefect
      cases hdefect
  · intro hthrown
    cases hfirst : (defects mmsValue nameNode).head? with
    | none =>
      right
      exact houtcome.isOk_iff.mpr (List.head?_eq_none_iff.mp hfirst)
    | some defect =>
      left
      rcases defect.isThrown_iff.mp (hthrown defect hfirst) with ⟨msg, hmsg⟩
      exact ⟨msg, houtcome.eq_error_iff.mpr ⟨defect, hfirst, hmsg⟩⟩

theorem not_convertsSafely_of_fault {mmsValue : Option MmsValue} {nameNode : Option MmsNameNode}
    {fault : Fault} (h : buildDatapointFromMms plat mmsValue nameNode = .error (.fault fault)) :
    ¬ ConvertsSafely plat mmsValue nameNode := by
  unfold ConvertsSafely
  rw [h]
  rintro (⟨msg, hmsg⟩ | ⟨datapoint, hok⟩)
  · cases hmsg
  · cases hok

/-- A measured value whose magnitude could not be read. -/
def unreadMagnitude : MmsValue :=
  .aggregate .struct [some (.aggregate .struct [some (.primitive (.dataAccessError 3))])]

def magnitudeNames : MmsNameNode :=
  .node "TM1" [some (.node "mag" [some (.node "f" [])])]

/-- The conversion of a magnitude that could not be read renames a datapoint that
does not exist, and a magnitude without members has no first child. -/
theorem unread_magnitude_is_renamed :
    (buildDatapointFromMms (.withDocuments []) (some unreadMagnitude) (some magnitudeNames) =
        .error (.fault .nullDatapoint) ∧
      ¬ ConvertsSafely (.withDocuments []) (some unreadMagnitude) (some magnitudeNames)) ∧
    buildDatapointFromMms (.withDocuments []) (some (.aggregate .struct []))
        (some (.node "mag" [])) = .error (.fault .missingChild) ∧
      ¬ ConvertsSafely (.withDocuments []) (some (.aggregate .struct []))
        (some (.node "mag" [])) := by
  have hunread : defects (some unreadMagnitude) (some magnitudeNames) = [.unreadMag] := by decide
  have hempty : defects (some (.aggregate .struct [])) (some (.node "mag" [])) = [.emptyMag] := by
    decide
  have hnull := @buildDatapointFromMms_of_defect (.withDocuments []) _ _ _ _ hunread
  have hmissing := @buildDatapointFromMms_of_defect (.withDocuments []) _ _ _ _ hempty
  exact ⟨⟨hnull, not_convertsSafely_of_fault hnull⟩, hmissing, not_convertsSafely_of_fault hmissing⟩

end Iec61850South
