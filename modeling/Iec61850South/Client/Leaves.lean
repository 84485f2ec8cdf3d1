import Iec61850South.Client.Visits
import Mathlib.Algebra.Group.Int.Defs
import Mathlib.Algebra.Group.Nat.Defs

/-! # The leaves of a value and of its datapoint

The leaves of a datapoint are those of the visited part of the value, in order
(`exported_of_converted`). A leaf passes a 32-bit accessor or a buffer of 32
characters on its way, and `Narrow` says which ones get through unchanged.
-/

namespace Iec61850South

open Lib

/-! ## The two lists of leaves -/

/-- The leaf of a visited pair. An access error yields no datapoint. -/
def leafOf : Visit → Option MmsPrimitive
  | (some (.primitive (.dataAccessError _)), _) => none
  | (some (.primitive value), _) => some value
  | _ => none

/-- The leaves of a value that are converted, in the order of the walk. -/
def leaves (mmsValue : Option MmsValue) (nameNode : Option MmsNameNode) : List MmsPrimitive :=
  (visited mmsValue nameNode).filterMap leafOf

mutual

/-- The data at the leaves of a datapoint, in order. -/
def Datapoint.leaves : Datapoint → List (DatapointValue Datapoint)
  | .mk _ data => dataLeaves data

/-- The leaves of the data of a Datapoint. -/
def dataLeaves : DatapointValue Datapoint → List (DatapointValue Datapoint)
  | .dpDict datapoints => allLeaves datapoints
  | data => [data]

/-- The leaves of the entries of a dictionary, in order. -/
def allLeaves : List (Option Datapoint) → List (DatapointValue Datapoint)
  | [] => []
  | datapoint :: datapoints => entryLeaves datapoint ++ allLeaves datapoints

/-- A null entry has no leaves. -/
def entryLeaves : Option Datapoint → List (DatapointValue Datapoint)
  | none => []
  | some datapoint => datapoint.leaves

end

@[simp] theorem Datapoint.leaves_setName (name : String) (d : Datapoint) :
    (d.setName name).leaves = d.leaves := by
  cases d
  rw [setName_mk, leaves, leaves]

/-- The renaming keeps the data. -/
theorem entryLeaves_map_rename (datapoint : Option Datapoint) :
    entryLeaves (datapoint.map renameDatapoint) = entryLeaves datapoint := by
  cases datapoint with
  | none => rfl
  | some d =>
    rw [Option.map_some, entryLeaves, entryLeaves, renameDatapoint_eq, Datapoint.leaves_setName]

/-! ## A leaf of the value becomes a leaf of the datapoint -/

variable {plat : Platform}

variable (plat) in
/-- The `switch` yields a datapoint with this data, whatever its name. -/
def Exported (leaf : MmsPrimitive) (data : DatapointValue Datapoint) : Prop :=
  ∀ mmsName, buildPrimitive plat mmsName leaf = .ok (some (createDatapoint mmsName data))

/-- An attribute is exported with its own data, or it is an access error. -/
theorem exported_primitive {mmsName : String} {value : MmsPrimitive}
    {datapoint : Option Datapoint} (children : List (Option MmsNameNode))
    (h : buildPrimitive plat mmsName value = .ok datapoint) :
    List.Forall₂ (Exported plat)
      ([(some (.primitive value), some (.node mmsName children))].filterMap leafOf)
      (entryLeaves datapoint) := by
  cases value with
  | other typeString => cases h
  | dataAccessError code =>
    cases h
    exact List.Forall₂.nil
  | _ =>
    cases h
    exact List.Forall₂.cons (fun _ => rfl) List.Forall₂.nil

mutual

/-- **The leaves of a datapoint are those of the value that are visited**, in order. -/
theorem exported_of_converted : ∀ (mmsValue : Option MmsValue) (nameNode : Option MmsNameNode)
    {datapoint : Option Datapoint},
    buildDatapointFromMms plat mmsValue nameNode = .ok datapoint →
    List.Forall₂ (Exported plat) (leaves mmsValue nameNode) (entryLeaves datapoint)
  | none, nameNode => by
    intro h
    rw [buildDatapointFromMms] at h
    cases h
  | some mmsValue, none => by
    intro h
    rw [buildDatapointFromMms] at h
    cases h
  | some mmsValue, some (.node mmsName children) => by
    intro h
    rw [buildDatapointFromMms] at h
    rcases except_bind_eq_ok.mp h with ⟨built, hbuilt, hrename⟩
    rcases except_pure_eq_ok.mp hrename with rfl
    rw [entryLeaves_map_rename, leaves, visited]
    exact exported_of_node mmsValue mmsName children hbuilt

/-- The same below a node. -/
theorem exported_of_node : ∀ (mmsValue : MmsValue) (mmsName : String)
    (children : List (Option MmsNameNode)) {datapoint : Option Datapoint},
    buildFromType plat mmsValue mmsName children = .ok datapoint →
    List.Forall₂ (Exported plat)
      (((some mmsValue, some (.node mmsName children)) ::
        visitedBelow mmsValue mmsName children).filterMap leafOf)
      (entryLeaves datapoint)
  | .primitive value, mmsName, children => by
    intro h
    rw [buildFromType] at h
    rw [visitedBelow]
    exact exported_primitive children h
  | .aggregate type elements, mmsName, children => by
    intro h
    rw [buildFromType] at h
    rw [List.filterMap_cons_none rfl, visitedBelow]
    by_cases hlength : elements.length ≠ children.length
    · rw [if_pos hlength] at h
      cases h
    · rw [if_neg hlength] at h ⊢
      by_cases hmag : mmsName = "mag"
      -- the leaves of a magnitude are those of its first member, under another name
      · rw [if_pos hmag] at h ⊢
        rcases except_bind_eq_ok.mp h with ⟨first, hfirst, hconcatenate⟩
        have hleaves := exported_of_first elements children hfirst
        cases first with
        | none => cases hconcatenate
        | some d =>
          cases hconcatenate
          rwa [entryLeaves, Datapoint.leaves_setName]
      · rw [if_neg hmag] at h ⊢
        rcases except_bind_eq_ok.mp h with ⟨dpArray, hall, hcreate⟩
        rcases except_pure_eq_ok.mp hcreate with rfl
        rw [entryLeaves, createComplexDatapoint, Datapoint.leaves, dataLeaves]
        exact exported_of_all elements children hall

/-- The same below `mag`. -/
theorem exported_of_first : ∀ (elements : List (Option MmsValue))
    (children : List (Option MmsNameNode)) {datapoint : Option Datapoint},
    buildFirst plat elements children = .ok datapoint →
    List.Forall₂ (Exported plat) ((visitedFirst elements children).filterMap leafOf)
      (entryLeaves datapoint)
  | [], children => by
    intro h
    rw [buildFirst] at h
    · cases h
    · simp
  | element :: elements, [] => by
    intro h
    rw [buildFirst] at h
    · cases h
    · simp
  | element :: elements, child :: children => by
    intro h
    rw [buildFirst] at h
    rw [visitedFirst]
    exact exported_of_converted element child h

/-- The same for the members of any other node. -/
theorem exported_of_all : ∀ (elements : List (Option MmsValue))
    (children : List (Option MmsNameNode)) {dpArray : List (Option Datapoint)},
    buildAll plat elements children = .ok dpArray →
    List.Forall₂ (Exported plat) ((visitedMembers elements children).filterMap leafOf)
      (allLeaves dpArray)
  | [], children => by
    intro h
    rw [buildAll] at h
    · cases h
      rw [visitedMembers, allLeaves]
      · exact List.Forall₂.nil
      · simp
    · simp
  | element :: elements, [] => by
    intro h
    rw [buildAll] at h
    · cases h
      rw [visitedMembers, allLeaves]
      · exact List.Forall₂.nil
      · simp
    · simp
  | element :: elements, child :: children => by
    intro h
    rw [buildAll] at h
    rcases except_bind_eq_ok.mp h with ⟨dpChild, hchild, hrest⟩
    rcases except_bind_eq_ok.mp hrest with ⟨dpRest, hall, hcons⟩
    rcases except_pure_eq_ok.mp hcons with rfl
    rw [visitedMembers, List.filterMap_append, allLeaves]
    have hfirst := exported_of_converted element child hchild
    have hothers := exported_of_all elements children hall
    exact List.rel_append hfirst hothers

end

/-! ## What a leaf becomes -/

/-- The bits as characters, in order. -/
def bitText (bits : List Bool) : String :=
  String.ofList (bits.map fun bit => if bit then '1' else '0')

theorem length_bitText (bits : List Bool) : (bitText bits).length = bits.length := by
  rw [bitText, String.length_ofList, List.length_map]

/-- What the code relies on in the accessors of libiec61850: a number that fits is
returned as it is, and bits that fit in front of the terminating NUL are printed. -/
structure ReadsValues (plat : Platform) : Prop where
  toInt32_of_fits : ∀ n : Int, -2 ^ 31 ≤ n → n < 2 ^ 31 → (plat.toInt32 n).toInt = n
  toUint32_of_fits : ∀ n : Nat, n < 2 ^ 32 → (plat.toUint32 n).toNat = n
  printToBuffer_of_fits : ∀ (bits : List Bool) (size : Nat), bits.length < size →
    plat.printToBuffer bits size = bitText bits
  length_printToBuffer : ∀ (bits : List Bool) (size : Nat), 0 < size →
    (plat.printToBuffer bits size).length < size

/-- The data of a leaf is the number or the bits themselves, for an integer of 64
bits and an unsigned of 32 bits. -/
def Exact : MmsPrimitive → DatapointValue Datapoint → Prop
  | .integer n, data => -2 ^ 63 ≤ n → n < 2 ^ 63 → data = .integer n
  | .unsigned n, data => n < 2 ^ 32 → data = .integer n
  | .bitString bits, data => data = .string (bitText bits)
  | _, _ => True

/-- No integer of 64 bits needs more than 32, and a bit string has less than 32 bits. -/
def Narrow : MmsPrimitive → Prop
  | .integer n => -2 ^ 63 ≤ n → n < 2 ^ 63 → -2 ^ 31 ≤ n ∧ n < 2 ^ 31
  | .bitString bits => bits.length < 32
  | _ => True

/-- An integer is exact exactly when it fits in 32 bits. -/
theorem exact_integer_iff (hplat : ReadsValues plat) (n : Int) :
    Exact (.integer n) (.integer (plat.toInt32 n).toInt) ↔ Narrow (.integer n) := by
  rw [Exact, Narrow]
  constructor
  · intro hexact hlow hhigh
    have heq : (plat.toInt32 n).toInt = n := by simpa using hexact hlow hhigh
    have hle : -2 ^ 31 ≤ (plat.toInt32 n).toInt := (plat.toInt32 n).le_toInt
    have hlt : (plat.toInt32 n).toInt < 2 ^ 31 := (plat.toInt32 n).toInt_lt
    omega
  · intro hnarrow hlow hhigh
    rcases hnarrow hlow hhigh with ⟨hle, hlt⟩
    rw [hplat.toInt32_of_fits n hle hlt]

/-- An unsigned integer is exact always. -/
theorem exact_unsigned (hplat : ReadsValues plat) (n : Nat) :
    Exact (.unsigned n) (.integer (plat.toUint32 n).toNat) := by
  rw [Exact]
  intro hfits
  rw [hplat.toUint32_of_fits n hfits]

theorem exact_bitString_iff (hplat : ReadsValues plat) (bits : List Bool) :
    Exact (.bitString bits) (.string (plat.printToBuffer bits 32)) ↔ Narrow (.bitString bits) := by
  rw [Exact, Narrow]
  constructor
  · intro hexact
    have htext : plat.printToBuffer bits 32 = bitText bits := by simpa using hexact
    have hlength := hplat.length_printToBuffer bits 32 (by omega)
    rwa [htext, length_bitText] at hlength
  · intro hnarrow
    rw [hplat.printToBuffer_of_fits bits 32 hnarrow]

/-- A leaf is exported exactly if and only if it is narrow. -/
theorem exact_iff_narrow (hplat : ReadsValues plat) {leaf : MmsPrimitive}
    {data : DatapointValue Datapoint} (h : Exported plat leaf data) :
    Exact leaf data ↔ Narrow leaf := by
  have hname := h ""
  cases leaf with
  | integer n =>
    cases hname
    exact exact_integer_iff hplat n
  | unsigned n =>
    cases hname
    exact iff_of_true (exact_unsigned hplat n) trivial
  | bitString bits =>
    cases hname
    exact exact_bitString_iff hplat bits
  | _ => exact iff_of_true trivial trivial

/-- **The leaves of a value are exported exactly when they are narrow**, at every
depth of a value that is converted. -/
theorem leaf_values_exact_iff (plat : Platform) (hplat : ReadsValues plat)
    (mmsValue : Option MmsValue) (nameNode : Option MmsNameNode) (datapoint : Option Datapoint)
    (h : buildDatapointFromMms plat mmsValue nameNode = .ok datapoint) :
    List.Forall₂ Exact (leaves mmsValue nameNode) (entryLeaves datapoint) ↔
      ∀ leaf ∈ leaves mmsValue nameNode, Narrow leaf :=
  forall₂_congr_left (exported_of_converted mmsValue nameNode h)
    fun _ _ hexported => exact_iff_narrow hplat hexported

theorem withDocuments_printToBuffer (documents : List (String × Json)) (bits : List Bool)
    (size : Nat) : (Platform.withDocuments documents).printToBuffer bits size =
      bitText (bits.take (size - 1)) := rfl

theorem withDocuments_readsValues (documents : List (String × Json)) :
    ReadsValues (.withDocuments documents) where
  toInt32_of_fits n hle hlt := Int32.toInt_ofInt_of_le hle hlt
  toUint32_of_fits n hfits := UInt32.toNat_ofNat_of_lt' hfits
  printToBuffer_of_fits bits size hfits := by
    rw [withDocuments_printToBuffer, List.take_of_length_le (by omega)]
  length_printToBuffer bits size hpos := by
    rw [withDocuments_printToBuffer, length_bitText, List.length_take]
    omega

/-- A counter with flags. -/
def counterValue (n : Int) (bits : List Bool) : MmsValue :=
  .aggregate .struct [some (.primitive (.integer n)), some (.primitive (.bitString bits))]

def counterNames : MmsNameNode :=
  .node "TC1" [some (.node "actVal" []), some (.node "q" [])]

/-- The datapoint of a counter whose attributes have these data. -/
def counterDatapoint (n : Int) (bits : List Bool) : Datapoint :=
  .mk "TC1" (.dpDict [some (.mk "actVal" (.integer n)), some (.mk "do_quality" (.string (bitText bits)))])

theorem leaf_values_exact_iff_sample :
    List.Forall₂ Exact
        (leaves (some (counterValue 2147483647 (.replicate 31 true))) (some counterNames))
        (entryLeaves (some (counterDatapoint 2147483647 (.replicate 31 true)))) ↔
      ∀ leaf ∈ leaves (some (counterValue 2147483647 (.replicate 31 true))) (some counterNames),
        Narrow leaf := by
  apply leaf_values_exact_iff (.withDocuments []) (withDocuments_readsValues [])
  rfl

/-- The first integer that needs 33 bits changes its sign, and of 32 bits the last
one is lost. -/
theorem wide_leaves_are_changed :
    ReadsValues (.withDocuments []) ∧
    buildDatapointFromMms (.withDocuments [])
        (some (counterValue 2147483648 (.replicate 32 true))) (some counterNames) =
      .ok (some (counterDatapoint (-2147483648) (.replicate 31 true))) ∧
    ¬ List.Forall₂ Exact
      (leaves (some (counterValue 2147483648 (.replicate 32 true))) (some counterNames))
      (entryLeaves (some (counterDatapoint (-2147483648) (.replicate 31 true)))) := by
  refine ⟨withDocuments_readsValues [], rfl, ?_⟩
  intro hexact
  cases hexact with
  | cons hinteger _ => exact absurd (hinteger (by decide) (by decide)) (by simp)

end Iec61850South
