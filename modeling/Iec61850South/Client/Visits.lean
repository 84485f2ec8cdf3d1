import Iec61850South.Client.Conversion

/-! # The part of a value that is converted

`visited` lists the values and name nodes that the conversion looks at together:
all members of a structure, but only the first one of a node named `mag`. An
exception is thrown exactly when one of these pairs does not match
(`conversion_rejects_iff`).
-/

namespace Iec61850South

open Lib

/-- A value with the name node that it is converted along. -/
abbrev Visit := Option MmsValue × Option MmsNameNode

mutual

/-- The visited pairs, in the order of the walk. -/
def visited : Option MmsValue → Option MmsNameNode → List Visit
  | none, nameNode => [(none, nameNode)]
  | some mmsValue, none => [(some mmsValue, none)]
  | some mmsValue, some (.node mmsName children) =>
    (some mmsValue, some (.node mmsName children)) :: visitedBelow mmsValue mmsName children

/-- The pairs below a node: under `mag` those of the first member only. -/
def visitedBelow : MmsValue → String → List (Option MmsNameNode) → List Visit
  | .aggregate _ elements, mmsName, children =>
    if elements.length ≠ children.length then []
    else if mmsName = "mag" then visitedFirst elements children
    else visitedMembers elements children
  | .primitive _, _, _ => []

/-- The pairs at and below the first member. -/
def visitedFirst : List (Option MmsValue) → List (Option MmsNameNode) → List Visit
  | element :: _, child :: _ => visited element child
  | _, _ => []

/-- The pairs at and below all the members. -/
def visitedMembers : List (Option MmsValue) → List (Option MmsNameNode) → List Visit
  | element :: elements, child :: children => visited element child ++ visitedMembers elements children
  | _, _ => []

end

/-- The pair that the conversion starts with is visited. -/
theorem mem_visited_self (mmsValue : Option MmsValue) (nameNode : Option MmsNameNode) :
    (mmsValue, nameNode) ∈ visited mmsValue nameNode := by
  rcases mmsValue with _ | mmsValue
  · rw [visited]
    exact List.mem_singleton_self _
  · rcases nameNode with _ | ⟨mmsName, children⟩
    · rw [visited]
      exact List.mem_singleton_self _
    · rw [visited]
      exact List.mem_cons_self

/-! ## Pairs that do not match -/

/-- The value or the name is absent, there are not as many elements as names, or the
type of the value is not supported. -/
def Mismatch : Visit → Prop
  | (some (.aggregate _ elements), some nameNode) => elements.length ≠ nameNode.children.length
  | (some (.primitive (.other _)), some _) => True
  | (some (.primitive _), some _) => False
  | _ => True

/-- A structure or array at a node named `mag` has an element. -/
def MagHasElement : Visit → Prop
  | (some (.aggregate _ elements), some nameNode) => nameNode.mmsName = "mag" → elements ≠ []
  | _ => True

mutual

/-- A defect that is thrown is one of a visited pair that does not match. -/
theorem exists_mismatch_iff : ∀ (mmsValue : Option MmsValue) (nameNode : Option MmsNameNode),
    (∃ defect ∈ defects mmsValue nameNode, defect.isThrown = true) ↔
      ∃ visit ∈ visited mmsValue nameNode, Mismatch visit
  | none, nameNode => by
    rw [defects, visited]
    refine iff_of_true ⟨_, List.mem_singleton_self _, rfl⟩ ⟨_, List.mem_singleton_self _, ?_⟩
    rw [Mismatch]
    · trivial
    all_goals simp
  | some mmsValue, none => by
    rw [defects, visited]
    refine iff_of_true ⟨_, List.mem_singleton_self _, rfl⟩ ⟨_, List.mem_singleton_self _, ?_⟩
    rw [Mismatch]
    · trivial
    all_goals simp
  | some mmsValue, some (.node mmsName children) => by
    rw [defects, visited, List.exists_mem_cons_iff]
    exact exists_mismatch_node_iff mmsValue mmsName children

/-- The same below a node. -/
theorem exists_mismatch_node_iff : ∀ (mmsValue : MmsValue) (mmsName : String)
    (children : List (Option MmsNameNode)),
    (∃ defect ∈ nodeDefects mmsValue mmsName children, defect.isThrown = true) ↔
      Mismatch (some mmsValue, some (.node mmsName children)) ∨
        ∃ visit ∈ visitedBelow mmsValue mmsName children, Mismatch visit
  | .primitive value, mmsName, children => by
    rw [visitedBelow]
    cases value with
    | other typeString =>
      rw [nodeDefects]
      exact iff_of_true ⟨_, List.mem_singleton_self _, rfl⟩ (Or.inl trivial)
    | _ =>
      rw [nodeDefects]
      · simp [Mismatch]
      · simp
  | .aggregate type elements, mmsName, children => by
    rw [nodeDefects, visitedBelow, Mismatch, MmsNameNode.children_node]
    by_cases hlength : elements.length ≠ children.length
    · rw [if_pos hlength, if_pos hlength]
      exact iff_of_true ⟨_, List.mem_singleton_self _, rfl⟩ (Or.inl hlength)
    · rw [if_neg hlength, if_neg hlength, or_iff_right hlength]
      by_cases hmag : mmsName = "mag"
      · rw [if_pos hmag, if_pos hmag]
        exact exists_mismatch_first_iff elements children
      · rw [if_neg hmag, if_neg hmag]
        exact exists_mismatch_members_iff elements children

/-- The same below `mag`. -/
theorem exists_mismatch_first_iff : ∀ (elements : List (Option MmsValue))
    (children : List (Option MmsNameNode)),
    (∃ defect ∈ magDefects elements children, defect.isThrown = true) ↔
      ∃ visit ∈ visitedFirst elements children, Mismatch visit
  | [], children => by
    rw [magDefects, visitedFirst]
    · simp [Defect.isThrown]
    all_goals simp
  | element :: elements, [] => by
    rw [magDefects, visitedFirst]
    · simp [Defect.isThrown]
    all_goals simp
  | element :: elements, child :: children => by
    rw [magDefects, visitedFirst, ← exists_mismatch_iff element child]
    simp only [List.mem_append, or_and_right, exists_or]
    -- a first member that is an access error is no defect that is thrown
    apply or_iff_left
    rintro ⟨defect, hdefect, hthrown⟩
    split at hdefect
    · rcases List.mem_singleton.mp hdefect with rfl
      cases hthrown
    · cases hdefect

/-- The same below the members of any other node. -/
theorem exists_mismatch_members_iff : ∀ (elements : List (Option MmsValue))
    (children : List (Option MmsNameNode)),
    (∃ defect ∈ memberDefects elements children, defect.isThrown = true) ↔
      ∃ visit ∈ visitedMembers elements children, Mismatch visit
  | [], children => by
    rw [memberDefects, visitedMembers]
    · simp
    all_goals simp
  | element :: elements, [] => by
    rw [memberDefects, visitedMembers]
    · simp
    all_goals simp
  | element :: elements, child :: children => by
    rw [memberDefects, visitedMembers]
    simp only [List.mem_append, or_and_right, exists_or]
    rw [exists_mismatch_iff element child, exists_mismatch_members_iff elements children]

end

mutual

/-- Only the defects of a node named `mag` are not thrown: it has no element, or the
first one could not be read. -/
theorem isThrown_of_visited : ∀ (mmsValue : Option MmsValue) (nameNode : Option MmsNameNode),
    (∀ visit ∈ (visited mmsValue nameNode).tail, isAccessError visit.1 = false) →
    (∀ visit ∈ visited mmsValue nameNode, MagHasElement visit) →
    ∀ defect ∈ defects mmsValue nameNode, defect.isThrown = true
  | none, nameNode => by
    intro _ _ defect hdefect
    rw [defects] at hdefect
    rcases List.mem_singleton.mp hdefect with rfl
    rfl
  | some mmsValue, none => by
    intro _ _ defect hdefect
    rw [defects] at hdefect
    rcases List.mem_singleton.mp hdefect with rfl
    rfl
  | some mmsValue, some (.node mmsName children) => by
    rw [defects, visited, List.tail_cons, List.forall_mem_cons]
    intro hread hmag
    exact isThrown_of_visited_node mmsValue mmsName children hread hmag.1 hmag.2

/-- The same below a node. -/
theorem isThrown_of_visited_node : ∀ (mmsValue : MmsValue) (mmsName : String)
    (children : List (Option MmsNameNode)),
    (∀ visit ∈ visitedBelow mmsValue mmsName children, isAccessError visit.1 = false) →
    MagHasElement (some mmsValue, some (.node mmsName children)) →
    (∀ visit ∈ visitedBelow mmsValue mmsName children, MagHasElement visit) →
    ∀ defect ∈ nodeDefects mmsValue mmsName children, defect.isThrown = true
  | .primitive value, mmsName, children => by
    intro _ _ _ defect hdefect
    cases value with
    | other typeString =>
      rw [nodeDefects] at hdefect
      rcases List.mem_singleton.mp hdefect with rfl
      rfl
    | _ =>
      rw [nodeDefects] at hdefect
      · cases hdefect
      · simp
  | .aggregate type elements, mmsName, children => by
    rw [nodeDefects, visitedBelow, MagHasElement, MmsNameNode.mmsName_node]
    by_cases hlength : elements.length ≠ children.length
    · rw [if_pos hlength, if_pos hlength]
      intro _ _ _ defect hdefect
      rcases List.mem_singleton.mp hdefect with rfl
      rfl
    · rw [if_neg hlength, if_neg hlength]
      -- below `mag` only the first member is walked, and it has to be there
      by_cases hmag : mmsName = "mag"
      · rw [if_pos hmag, if_pos hmag]
        intro hread hne
        exact isThrown_of_visited_first elements children (hne hmag) (not_not.mp hlength) hread
      · rw [if_neg hmag, if_neg hmag]
        intro hread _
        exact isThrown_of_visited_members elements children hread

/-- The same below `mag`, which has a first member. -/
theorem isThrown_of_visited_first : ∀ (elements : List (Option MmsValue))
    (children : List (Option MmsNameNode)), elements ≠ [] → elements.length = children.length →
    (∀ visit ∈ visitedFirst elements children, isAccessError visit.1 = false) →
    (∀ visit ∈ visitedFirst elements children, MagHasElement visit) →
    ∀ defect ∈ magDefects elements children, defect.isThrown = true
  | [], children => by
    intro hne
    exact absurd rfl hne
  | element :: elements, [] => by
    intro _ hlength
    cases hlength
  | element :: elements, child :: children => by
    rw [magDefects, visitedFirst]
    intro _ _ hread hmag defect hdefect
    have hfirst : isAccessError element = false :=
      hread (element, child) (mem_visited_self element child)
    rw [hfirst, if_neg (by simp), List.append_nil] at hdefect
    exact isThrown_of_visited element child (fun visit hvisit =>
      hread visit (List.mem_of_mem_tail hvisit)) hmag defect hdefect

/-- The same below the members of any other node. -/
theorem isThrown_of_visited_members : ∀ (elements : List (Option MmsValue))
    (children : List (Option MmsNameNode)),
    (∀ visit ∈ visitedMembers elements children, isAccessError visit.1 = false) →
    (∀ visit ∈ visitedMembers elements children, MagHasElement visit) →
    ∀ defect ∈ memberDefects elements children, defect.isThrown = true
  | [], children => by
    intro _ _ defect hdefect
    rw [memberDefects] at hdefect
    · cases hdefect
    · simp
  | element :: elements, [] => by
    intro _ _ defect hdefect
    rw [memberDefects] at hdefect
    · cases hdefect
    · simp
  | element :: elements, child :: children => by
    rw [memberDefects, visitedMembers]
    simp only [List.forall_mem_append]
    rintro ⟨hread, hreads⟩ ⟨hmag, hmags⟩
    constructor
    · exact isThrown_of_visited element child (fun visit hvisit =>
        hread visit (List.mem_of_mem_tail hvisit)) hmag
    · exact isThrown_of_visited_members elements children hreads hmags

end

/-! ## The other members of a `mag` -/

mutual

/-- The two trees without what is below the other members of a node named `mag`. -/
def trimmed : Option MmsValue → Option MmsNameNode → Visit
  | some mmsValue, some (.node mmsName children) =>
    (some (trimmedBelow mmsValue mmsName children).1,
      some (.node mmsName (trimmedBelow mmsValue mmsName children).2))
  | mmsValue, nameNode => (mmsValue, nameNode)

/-- The members of a node, under `mag` without all but the first. -/
def trimmedBelow : MmsValue → String → List (Option MmsNameNode) →
    MmsValue × List (Option MmsNameNode)
  | .aggregate type elements, mmsName, children =>
    if mmsName = "mag" then
      (.aggregate type (trimmedFirst elements children).1, (trimmedFirst elements children).2)
    else
      (.aggregate type (trimmedMembers elements children).1, (trimmedMembers elements children).2)
  | .primitive value, _, children => (.primitive value, children)

/-- The first member trimmed, and absent objects in place of the others. -/
def trimmedFirst : List (Option MmsValue) → List (Option MmsNameNode) →
    List (Option MmsValue) × List (Option MmsNameNode)
  | element :: elements, child :: children =>
    ((trimmed element child).1 :: elements.map fun _ => none,
      (trimmed element child).2 :: children.map fun _ => none)
  | elements, children => (elements, children)

/-- Each member trimmed. -/
def trimmedMembers : List (Option MmsValue) → List (Option MmsNameNode) →
    List (Option MmsValue) × List (Option MmsNameNode)
  | element :: elements, child :: children =>
    ((trimmed element child).1 :: (trimmedMembers elements children).1,
      (trimmed element child).2 :: (trimmedMembers elements children).2)
  | elements, children => (elements, children)

end

/-- The numbers of members, which are compared, stay. -/
theorem length_trimmedFirst (elements : List (Option MmsValue))
    (children : List (Option MmsNameNode)) :
    (trimmedFirst elements children).1.length = elements.length ∧
      (trimmedFirst elements children).2.length = children.length := by
  cases elements <;> cases children <;> simp [trimmedFirst]

/-- The numbers of members stay. -/
theorem length_trimmedMembers (elements : List (Option MmsValue))
    (children : List (Option MmsNameNode)) :
    (trimmedMembers elements children).1.length = elements.length ∧
      (trimmedMembers elements children).2.length = children.length := by
  induction elements generalizing children with
  | nil => simp [trimmedMembers]
  | cons element elements ih => cases children <;> simp [trimmedMembers, ih]

mutual

/-- The conversion is the same without them, at every depth. -/
theorem buildDatapointFromMms_trimmed (plat : Platform) : ∀ (mmsValue : Option MmsValue)
    (nameNode : Option MmsNameNode),
    buildDatapointFromMms plat (trimmed mmsValue nameNode).1 (trimmed mmsValue nameNode).2 =
      buildDatapointFromMms plat mmsValue nameNode
  | none, nameNode => by simp only [trimmed]
  | some mmsValue, none => by simp only [trimmed]
  | some mmsValue, some (.node mmsName children) => by
    rw [trimmed, buildDatapointFromMms, buildDatapointFromMms,
      buildFromType_trimmed plat mmsValue mmsName children]

/-- The same below a node. -/
theorem buildFromType_trimmed (plat : Platform) : ∀ (mmsValue : MmsValue) (mmsName : String)
    (children : List (Option MmsNameNode)),
    buildFromType plat (trimmedBelow mmsValue mmsName children).1 mmsName
        (trimmedBelow mmsValue mmsName children).2 =
      buildFromType plat mmsValue mmsName children
  | .primitive value, mmsName, children => by rw [trimmedBelow]
  | .aggregate type elements, mmsName, children => by
    rw [trimmedBelow]
    by_cases hmag : mmsName = "mag"
    · rw [if_pos hmag, buildFromType, buildFromType, if_pos hmag, if_pos hmag,
        (length_trimmedFirst elements children).1, (length_trimmedFirst elements children).2,
        buildFirst_trimmed plat elements children]
    · rw [if_neg hmag, buildFromType, buildFromType, if_neg hmag, if_neg hmag,
        (length_trimmedMembers elements children).1, (length_trimmedMembers elements children).2,
        buildAll_trimmed plat elements children]

/-- The same below `mag`: the other members are never looked at. -/
theorem buildFirst_trimmed (plat : Platform) : ∀ (elements : List (Option MmsValue))
    (children : List (Option MmsNameNode)),
    buildFirst plat (trimmedFirst elements children).1 (trimmedFirst elements children).2 =
      buildFirst plat elements children
  | [], children => by simp only [trimmedFirst]
  | element :: elements, [] => by simp only [trimmedFirst]
  | element :: elements, child :: children => by
    rw [trimmedFirst, buildFirst, buildFirst, buildDatapointFromMms_trimmed plat element child]

/-- The same below the members of any other node. -/
theorem buildAll_trimmed (plat : Platform) : ∀ (elements : List (Option MmsValue))
    (children : List (Option MmsNameNode)),
    buildAll plat (trimmedMembers elements children).1 (trimmedMembers elements children).2 =
      buildAll plat elements children
  | [], children => by simp only [trimmedMembers]
  | element :: elements, [] => by simp only [trimmedMembers]
  | element :: elements, child :: children => by
    rw [trimmedMembers, buildAll, buildAll, buildDatapointFromMms_trimmed plat element child,
      buildAll_trimmed plat elements children]

end

/-! ## When an exception is thrown -/

/-- **A conversion is rejected exactly for a mismatch.** If below the top no visited
value is an access error, and every visited `mag` has an element, an exception is
thrown exactly when a visited pair does not match. The other members of a `mag`
never matter. -/
theorem conversion_rejects_iff (plat : Platform) (mmsValue : Option MmsValue)
    (nameNode : Option MmsNameNode)
    (hread : ∀ visit ∈ (visited mmsValue nameNode).tail, isAccessError visit.1 = false)
    (hmag : ∀ visit ∈ visited mmsValue nameNode, MagHasElement visit) :
    ((∃ msg, buildDatapointFromMms plat mmsValue nameNode = .error (.mmsParsingException msg)) ↔
      ∃ visit ∈ visited mmsValue nameNode, Mismatch visit) ∧
    buildDatapointFromMms plat (trimmed mmsValue nameNode).1 (trimmed mmsValue nameNode).2 =
      buildDatapointFromMms plat mmsValue nameNode := by
  refine ⟨?_, buildDatapointFromMms_trimmed plat mmsValue nameNode⟩
  rw [← exists_mismatch_iff]
  have hthrown := isThrown_of_visited mmsValue nameNode hread hmag
  have houtcome := @buildDatapointFromMms_outcome plat mmsValue nameNode
  constructor
  · rintro ⟨msg, hmsg⟩
    rcases houtcome.eq_error_iff.mp hmsg with ⟨defect, hfirst, _⟩
    have hmem : defect ∈ defects mmsValue nameNode := List.mem_of_head? hfirst
    exact ⟨defect, hmem, hthrown defect hmem⟩
  · rintro ⟨defect, hmem, _⟩
    -- the walk ends at the first defect, and this one is thrown as well
    cases hdefects : defects mmsValue nameNode with
    | nil =>
      rw [hdefects] at hmem
      cases hmem
    | cons first rest =>
      have hfirst : first ∈ defects mmsValue nameNode := by simp [hdefects]
      rcases first.isThrown_iff.mp (hthrown first hfirst) with ⟨msg, hmsg⟩
      exact ⟨msg, (buildDatapointFromMms_of_defect hdefects).trans (congrArg Except.error hmsg)⟩

/-- A measured value whose second magnitude could not be read. -/
def measuredValue : MmsValue :=
  .aggregate .struct [
    some (.aggregate .struct [some (.primitive (.float 0)), some (.primitive (.dataAccessError 3))]),
    some (.primitive (.bitString []))]

/-- The names of a measured value. -/
def measuredNames : MmsNameNode :=
  .node "TM1" [some (.node "mag" [some (.node "f" []), none]), some (.node "q" [])]

/-- The conversion of a measured value. -/
theorem conversion_rejects_iff_sample :
    ((∃ msg, buildDatapointFromMms (.withDocuments []) (some measuredValue) (some measuredNames) =
        .error (.mmsParsingException msg)) ↔
      ∃ visit ∈ visited (some measuredValue) (some measuredNames), Mismatch visit) ∧
    buildDatapointFromMms (.withDocuments []) (trimmed (some measuredValue) (some measuredNames)).1
        (trimmed (some measuredValue) (some measuredNames)).2 =
      buildDatapointFromMms (.withDocuments []) (some measuredValue) (some measuredNames) := by
  apply conversion_rejects_iff
  · simp [measuredValue, measuredNames, visited, visitedBelow, visitedMembers, visitedFirst,
      isAccessError]
  · simp [measuredValue, measuredNames, visited, visitedBelow, visitedMembers, visitedFirst,
      MagHasElement]

end Iec61850South
