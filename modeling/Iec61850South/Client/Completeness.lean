import Iec61850South.Client.Conversion

/-! # Attributes that could not be read

An access error is converted to no datapoint, and the loop over the members of a
structure puts what it gets into the dictionary. `hasUnread` finds such a member
along the walk of the conversion, and `leaveOut` is the value without them.
-/

namespace Iec61850South

open Lib

/-! ## Dictionaries without null entries -/

mutual

/-- No dictionary of the datapoint holds a null entry, at any depth. -/
def Datapoint.isComplete : Datapoint → Bool
  | .mk _ data => dataComplete data

/-- The same for the data of a Datapoint. -/
def dataComplete : DatapointValue Datapoint → Bool
  | .dpDict datapoints => allComplete datapoints
  | _ => true

/-- The same for the entries of a dictionary. -/
def allComplete : List (Option Datapoint) → Bool
  | [] => true
  | datapoint :: datapoints => entryComplete datapoint && allComplete datapoints

/-- An entry that is not null, and complete itself. -/
def entryComplete : Option Datapoint → Bool
  | none => false
  | some datapoint => datapoint.isComplete

end

@[simp] theorem Datapoint.isComplete_setName (name : String) (d : Datapoint) :
    (d.setName name).isComplete = d.isComplete := by
  cases d
  rw [setName_mk, isComplete, isComplete]

/-- A new name leaves the data. -/
theorem isComplete_renameDatapoint (d : Datapoint) :
    (renameDatapoint d).isComplete = d.isComplete := by
  rw [renameDatapoint_eq, Datapoint.isComplete_setName]

/-- The type is an entry of its own, and not null. -/
theorem isComplete_insertType {datapoint d : Datapoint} {doType : String}
    (h : insertTypeInDatapoint (some datapoint) doType = some d) :
    d.isComplete = datapoint.isComplete := by
  rcases datapoint with ⟨name, data⟩
  cases data with
  | dpDict dpVec =>
    cases h
    rw [Datapoint.isComplete, Datapoint.isComplete, dataComplete, dataComplete, allComplete,
      entryComplete, createDatapoint, Datapoint.isComplete, dataComplete, Bool.true_and]
    simp
  | _ =>
    cases h
    rfl

/-! ## Members that could not be read -/

mutual

/-- A member that the walk converts is an access error. -/
def hasUnread : Option MmsValue → Option MmsNameNode → Bool
  | some mmsValue, some (.node mmsName children) => nodeUnread mmsValue mmsName children
  | _, _ => false

/-- The same below a node. -/
def nodeUnread : MmsValue → String → List (Option MmsNameNode) → Bool
  | .aggregate _ elements, mmsName, children =>
    if mmsName = "mag" then firstUnread elements children else membersUnread elements children
  | .primitive _, _, _ => false

/-- The first member of a `mag` takes the place of the `mag` itself. -/
def firstUnread : List (Option MmsValue) → List (Option MmsNameNode) → Bool
  | element :: _, child :: _ => hasUnread element child
  | _, _ => false

/-- The same for the members of any other node. -/
def membersUnread : List (Option MmsValue) → List (Option MmsNameNode) → Bool
  | element :: elements, child :: children =>
    isAccessError element || hasUnread element child || membersUnread elements children
  | _, _ => false

end

mutual

/-- The value and the name tree without the members that could not be read. -/
def leaveOut : Option MmsValue → Option MmsNameNode → Option MmsValue × Option MmsNameNode
  | some mmsValue, some (.node mmsName children) =>
    let below := leaveOutBelow mmsValue mmsName children
    (some below.1, some (.node mmsName below.2))
  | mmsValue, nameNode => (mmsValue, nameNode)

/-- The members of a node without the unread ones. -/
def leaveOutBelow : MmsValue → String → List (Option MmsNameNode) →
    MmsValue × List (Option MmsNameNode)
  | .aggregate type elements, mmsName, children =>
    let kept :=
      if mmsName = "mag" then leaveOutFirst elements children
      else leaveOutMembers elements children
    (.aggregate type kept.1, kept.2)
  | .primitive value, _, children => (.primitive value, children)

/-- Below `mag` only the first member is looked at. -/
def leaveOutFirst : List (Option MmsValue) → List (Option MmsNameNode) →
    List (Option MmsValue) × List (Option MmsNameNode)
  | element :: elements, child :: children =>
    let kept := leaveOut element child
    (kept.1 :: elements, kept.2 :: children)
  | elements, children => (elements, children)

/-- The members that were read, each without its own unread ones. -/
def leaveOutMembers : List (Option MmsValue) → List (Option MmsNameNode) →
    List (Option MmsValue) × List (Option MmsNameNode)
  | element :: elements, child :: children =>
    let rest := leaveOutMembers elements children
    if isAccessError element then rest
    else
      let kept := leaveOut element child
      (kept.1 :: rest.1, kept.2 :: rest.2)
  | elements, children => (elements, children)

end

mutual

/-- A value whose members have all been read is left as it is. -/
theorem leaveOut_eq : ∀ (mmsValue : Option MmsValue) (nameNode : Option MmsNameNode),
    hasUnread mmsValue nameNode = false → leaveOut mmsValue nameNode = (mmsValue, nameNode)
  | none, nameNode, _ => by
    rw [leaveOut]
    simp
  | some mmsValue, none, _ => by
    rw [leaveOut]
    simp
  | some mmsValue, some (.node mmsName children), h => by
    rw [hasUnread] at h
    rw [leaveOut, leaveOutBelow_eq mmsValue mmsName children h]

/-- The same below a node. -/
theorem leaveOutBelow_eq : ∀ (mmsValue : MmsValue) (mmsName : String)
    (children : List (Option MmsNameNode)), nodeUnread mmsValue mmsName children = false →
    leaveOutBelow mmsValue mmsName children = (mmsValue, children)
  | .primitive value, mmsName, children, _ => by rw [leaveOutBelow]
  | .aggregate type elements, mmsName, children, h => by
    rw [nodeUnread] at h
    rw [leaveOutBelow]
    by_cases hmag : mmsName = "mag"
    · rw [if_pos hmag] at h
      rw [if_pos hmag, leaveOutFirst_eq elements children h]
    · rw [if_neg hmag] at h
      rw [if_neg hmag, leaveOutMembers_eq elements children h]

/-- The same below `mag`. -/
theorem leaveOutFirst_eq : ∀ (elements : List (Option MmsValue))
    (children : List (Option MmsNameNode)), firstUnread elements children = false →
    leaveOutFirst elements children = (elements, children)
  | [], children, _ => by
    rw [leaveOutFirst]
    simp
  | element :: elements, [], _ => by
    rw [leaveOutFirst]
    simp
  | element :: elements, child :: children, h => by
    rw [firstUnread] at h
    rw [leaveOutFirst, leaveOut_eq element child h]

/-- The same for the members of any other node. -/
theorem leaveOutMembers_eq : ∀ (elements : List (Option MmsValue))
    (children : List (Option MmsNameNode)), membersUnread elements children = false →
    leaveOutMembers elements children = (elements, children)
  | [], children, _ => by
    rw [leaveOutMembers]
    simp
  | element :: elements, [], _ => by
    rw [leaveOutMembers]
    simp
  | element :: elements, child :: children, h => by
    rw [membersUnread, Bool.or_eq_false_iff, Bool.or_eq_false_iff] at h
    rcases h with ⟨⟨hread, helement⟩, hrest⟩
    rw [leaveOutMembers, leaveOut_eq element child helement,
      leaveOutMembers_eq elements children hrest, hread, if_neg (by simp)]

end

/-! ## What the conversion makes of them -/

variable {plat : Platform}

/-- An attribute has no dictionary. -/
theorem isComplete_of_buildPrimitive {mmsName : String} {value : MmsPrimitive} {d : Datapoint}
    (h : buildPrimitive plat mmsName value = .ok (some d)) : d.isComplete = true := by
  cases value <;> cases h <;> rfl

mutual

/-- **A datapoint is complete exactly when all members that are converted have
been read.** -/
theorem isComplete_of_converted : ∀ (mmsValue : Option MmsValue)
    (nameNode : Option MmsNameNode) (d : Datapoint),
    buildDatapointFromMms plat mmsValue nameNode = .ok (some d) →
      d.isComplete = !hasUnread mmsValue nameNode
  | none, _, d, h => by
    rw [buildDatapointFromMms] at h
    cases h
  | some mmsValue, none, d, h => by
    rw [buildDatapointFromMms] at h
    cases h
  | some mmsValue, some (.node mmsName children), d, h => by
    rw [buildDatapointFromMms] at h
    rcases except_bind_eq_ok.mp h with ⟨datapoint, hbuild, hrename⟩
    rw [except_pure_eq_ok] at hrename
    rcases Option.map_eq_some_iff.mp hrename with ⟨d', rfl, rfl⟩
    rw [hasUnread, isComplete_renameDatapoint]
    exact isComplete_of_buildFromType mmsValue mmsName children d' hbuild

/-- The same below a node. -/
theorem isComplete_of_buildFromType : ∀ (mmsValue : MmsValue) (mmsName : String)
    (children : List (Option MmsNameNode)) (d : Datapoint),
    buildFromType plat mmsValue mmsName children = .ok (some d) →
      d.isComplete = !nodeUnread mmsValue mmsName children
  | .primitive value, mmsName, children, d, h => by
    rw [buildFromType] at h
    rw [nodeUnread, isComplete_of_buildPrimitive h]
    rfl
  | .aggregate type elements, mmsName, children, d, h => by
    rw [buildFromType] at h
    rw [nodeUnread]
    by_cases hlength : elements.length ≠ children.length
    · rw [if_pos hlength] at h
      cases h
    rw [if_neg hlength] at h
    by_cases hmag : mmsName = "mag"
    · -- the datapoint is that of the first member, under another name
      rw [if_pos hmag] at h
      rw [if_pos hmag]
      rcases except_bind_eq_ok.mp h with ⟨datapoint, hfirst, hname⟩
      cases datapoint with
      | none => cases hname
      | some d' =>
        cases hname
        rw [Datapoint.isComplete_setName]
        exact isComplete_of_buildFirst elements children d' hfirst
    · rw [if_neg hmag] at h
      rw [if_neg hmag]
      -- members without a Datapoint are left out, which is what makes it incomplete
      rcases except_bind_eq_ok.mp h with ⟨dpArray, hall, hdict⟩
      cases hdict
      rw [createComplexDatapoint, Datapoint.isComplete, dataComplete]
      exact allComplete_of_buildAll elements children dpArray hall

/-- The same below `mag`. -/
theorem isComplete_of_buildFirst : ∀ (elements : List (Option MmsValue))
    (children : List (Option MmsNameNode)) (d : Datapoint),
    buildFirst plat elements children = .ok (some d) →
      d.isComplete = !firstUnread elements children
  | [], children, d, h => by
    rw [buildFirst] at h
    · cases h
    · simp
  | element :: elements, [], d, h => by
    rw [buildFirst] at h
    · cases h
    · simp
  | element :: elements, child :: children, d, h => by
    rw [buildFirst] at h
    rw [firstUnread]
    exact isComplete_of_converted element child d h

/-- The same for the members of any other node. -/
theorem allComplete_of_buildAll : ∀ (elements : List (Option MmsValue))
    (children : List (Option MmsNameNode)) (dpArray : List (Option Datapoint)),
    buildAll plat elements children = .ok dpArray →
      allComplete dpArray = !membersUnread elements children
  | [], children, dpArray, h => by
    rw [buildAll] at h
    · cases h
      rw [membersUnread, allComplete]
      · rfl
      · simp
    · simp
  | element :: elements, [], dpArray, h => by
    rw [buildAll] at h
    · cases h
      rw [membersUnread, allComplete]
      · rfl
      · simp
    · simp
  | element :: elements, child :: children, dpArray, h => by
    rw [buildAll] at h
    rcases except_bind_eq_ok.mp h with ⟨dpChild, hchild, h⟩
    rcases except_bind_eq_ok.mp h with ⟨rest, hrest, hcons⟩
    cases hcons
    have hnull := (isNone_of_converted hchild).2
    rw [allComplete, membersUnread, allComplete_of_buildAll elements children rest hrest, ← hnull]
    -- a null child is an entry like any other
    cases dpChild with
    | none => rfl
    | some d =>
      rw [entryComplete, isComplete_of_converted element child d hchild]
      simp

end

/-! ## What is passed to Fledge -/

/-- The datapoint configuration for the value without the members that could not
be read. -/
def DatapointConfig.leaveOut (dpConfig : DatapointConfig) (mmsValue : Option MmsValue) :
    DatapointConfig :=
  { dpConfig with mmsNameTree := (Iec61850South.leaveOut mmsValue dpConfig.mmsNameTree).2 }

/-- Every Datapoint that is converted from the value and passed to Fledge has no
null entry, and is what the members that could be read are converted to. -/
def PublishedComplete (plat : Platform) (setup : ClientSetup) (s : ClientState)
    (mmsValue : Option MmsValue) (dpConfig : DatapointConfig) : Prop :=
  ∀ out, sent (finalState ((liftExcept (convertMmsToDatapoint plat mmsValue dpConfig) >>=
      sendData setup) s)).events = sent s.events ++ out →
    ∀ d ∈ out, d.isComplete = true ∧
      convertMmsToDatapoint plat (leaveOut mmsValue dpConfig.mmsNameTree).1
        (dpConfig.leaveOut mmsValue) = .ok (some d)

/-- What `convertMmsToDatapoint` returns is complete when all members have been read. -/
theorem isComplete_of_convert {mmsValue : Option MmsValue} {dpConfig : DatapointConfig}
    {d : Datapoint} (h : convertMmsToDatapoint plat mmsValue dpConfig = .ok (some d)) :
    defects mmsValue dpConfig.mmsNameTree = [] ∧
      d.isComplete = !hasUnread mmsValue dpConfig.mmsNameTree := by
  cases mmsValue with
  | none => cases h
  | some mmsValue =>
    rcases except_bind_eq_ok.mp h with ⟨datapoint, hbuild, htype⟩
    rw [except_pure_eq_ok] at htype
    cases datapoint with
    | none => cases htype
    | some d' =>
      refine ⟨(isNone_of_converted hbuild).1, ?_⟩
      rw [isComplete_insertType htype]
      exact isComplete_of_converted _ _ d' hbuild

/-- A value without defects is converted, if it is not an access error itself. -/
theorem convert_of_no_defects {mmsValue : Option MmsValue} {dpConfig : DatapointConfig}
    (hfound : defects mmsValue dpConfig.mmsNameTree = [])
    (hread : isAccessError mmsValue = false) :
    ∃ d, convertMmsToDatapoint plat mmsValue dpConfig = .ok (some d) := by
  have houtcome := @buildDatapointFromMms_outcome plat mmsValue dpConfig.mmsNameTree
  rw [hfound] at houtcome
  rcases houtcome with ⟨datapoint, hrun, hnull⟩
  cases mmsValue with
  | none =>
    rw [defects] at hfound
    cases hfound
  | some mmsValue =>
    rw [hread] at hnull
    cases datapoint with
    | none => cases hnull
    | some d =>
      have hsome : (insertTypeInDatapoint (some d) dpConfig.datapointType).isSome := by
        rcases d with ⟨name, data⟩
        cases data <;> rfl
      rcases Option.isSome_iff_exists.mp hsome with ⟨d', hd'⟩
      refine ⟨d', ?_⟩
      rw [convertMmsToDatapoint, hrun, ← hd']
      rfl

/-- An access error has no members. -/
theorem hasUnread_of_isAccessError {mmsValue : Option MmsValue} {nameNode : Option MmsNameNode}
    (h : isAccessError mmsValue = true) : hasUnread mmsValue nameNode = false := by
  rcases mmsValue with _ | _ | _
  · cases h
  · cases h
  rcases nameNode with _ | ⟨mmsName, children⟩
  · rw [hasUnread]
    simp
  · rw [hasUnread, nodeUnread]

/-- What is converted is passed to Fledge, unless it is null. -/
theorem convertAndSend_sent {setup : ClientSetup} (hreceiver : setup.hasReceiver = true)
    (s : ClientState) (x : Except Abort (Option Datapoint)) :
    sent (finalState ((liftExcept x >>= sendData setup) s)).events =
      sent s.events ++ (x.toOption.bind id).toList := by
  cases x with
  | error e =>
    rw [run_bind_error (liftExcept_error ..)]
    simp [Except.toOption]
  | ok datapoint =>
    rw [run_bind_ok (liftExcept_ok ..)]
    cases datapoint with
    | none => simp [sendData, Except.toOption]
    | some d =>
      have hsend : sendData setup (some d) s =
          .ok ⟨⟩ { s with events := s.events ++ [.ingest d.getName d] } := by
        rw [sendData.eq_def, hreceiver]
        rfl
      rw [hsend]
      exact sent_append ..

/-- **What is published is complete exactly when** nothing is published, because
the walk ends with a defect, **or every member that is converted has been read.** -/
theorem published_complete_iff (plat : Platform) {setup : ClientSetup}
    (hreceiver : setup.hasReceiver = true) (s : ClientState) (mmsValue : Option MmsValue)
    (dpConfig : DatapointConfig) :
    PublishedComplete plat setup s mmsValue dpConfig ↔
      defects mmsValue dpConfig.mmsNameTree ≠ [] ∨
        hasUnread mmsValue dpConfig.mmsNameTree = false := by
  unfold PublishedComplete
  rw [convertAndSend_sent hreceiver]
  constructor
  · intro hcomplete
    by_cases hfound : defects mmsValue dpConfig.mmsNameTree = []
    · refine Or.inr ?_
      by_contra hunread
      rw [Bool.not_eq_false] at hunread
      have hvalue : isAccessError mmsValue = false := by
        by_contra herror
        rw [Bool.not_eq_false] at herror
        rw [hasUnread_of_isAccessError herror] at hunread
        cases hunread
      -- without a defect something is converted, and it keeps the unread member as a null entry
      obtain ⟨d, hd⟩ : ∃ d, convertMmsToDatapoint plat mmsValue dpConfig = .ok (some d) :=
        convert_of_no_defects hfound hvalue
      rw [hd] at hcomplete
      have hpublished : d.isComplete = true := (hcomplete [d] rfl d (by simp)).1
      rw [(isComplete_of_convert hd).2, hunread] at hpublished
      cases hpublished
    · exact Or.inl hfound
  · intro hcond out hout d hd
    have hconvert : convertMmsToDatapoint plat mmsValue dpConfig = .ok (some d) := by
      rw [List.append_cancel_left_eq] at hout
      rw [← hout] at hd
      cases hrun : convertMmsToDatapoint plat mmsValue dpConfig with
      | error e =>
        rw [hrun] at hd
        cases hd
      | ok datapoint =>
        rw [hrun] at hd
        exact congrArg Except.ok (Option.mem_toList.mp hd)
    rcases isComplete_of_convert hconvert with ⟨hfound, hcomplete⟩
    -- something has been published, so that the walk has no defect
    have hread : hasUnread mmsValue dpConfig.mmsNameTree = false := by
      rcases hcond with hdefect | hread
      · exact absurd hfound hdefect
      · exact hread
    rw [hcomplete, hread, DatapointConfig.leaveOut, leaveOut_eq _ _ hread]
    exact ⟨rfl, hconvert⟩

/-- A status with its quality. -/
def status (quality : MmsPrimitive) : MmsValue :=
  .aggregate .struct [some (.primitive (.boolean true)), some (.primitive quality)]

/-- A DO with a status. -/
def statusDO : DatapointConfig :=
  { smallDO "TS1" "SPSSO1" with
    mmsNameTree := some (.node "TS1" [some (.node "stVal" []), some (.node "q" [])]) }

/-- A status whose value is an empty bit string. -/
theorem published_complete_iff_sample :
    PublishedComplete (.withDocuments []) (smallSetup .DO_READING []) {}
        (some (status (.bitString []))) statusDO ↔
      defects (some (status (.bitString []))) statusDO.mmsNameTree ≠ [] ∨
        hasUnread (some (status (.bitString []))) statusDO.mmsNameTree = false :=
  published_complete_iff (.withDocuments []) rfl {} (some (status (.bitString []))) statusDO

/-- A quality that could not be read is published as a null entry. -/
theorem unread_quality_is_published :
    convertMmsToDatapoint (.withDocuments []) (some (status (.dataAccessError 3))) statusDO =
        .ok (some (.mk "TS1" (.dpDict [some (.mk "do_type" (.string "SPS")),
          some (.mk "do_value" (.integer 1)), none]))) ∧
      ¬ PublishedComplete (.withDocuments []) (smallSetup .DO_READING []) {}
        (some (status (.dataAccessError 3))) statusDO := by
  have hrun : convertMmsToDatapoint (.withDocuments []) (some (status (.dataAccessError 3)))
      statusDO = .ok (some (.mk "TS1" (.dpDict [some (.mk "do_type" (.string "SPS")),
        some (.mk "do_value" (.integer 1)), none]))) := rfl
  refine ⟨hrun, ?_⟩
  intro hcomplete
  have hreceiver : (smallSetup .DO_READING []).hasReceiver = true := rfl
  have hsent := convertAndSend_sent hreceiver {}
    (convertMmsToDatapoint (.withDocuments []) (some (status (.dataAccessError 3))) statusDO)
  unfold PublishedComplete at hcomplete
  rw [hrun] at hsent hcomplete
  have hentry := (hcomplete _ hsent _ (List.mem_singleton_self _)).1
  cases hentry

end Iec61850South
