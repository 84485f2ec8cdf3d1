import Iec61850South.Client.Conversion
import Iec61850South.Client.Splitting

/-! # One DO in both reading modes

A DO may be configured in `exchanged_data` and selected in a dataset. The two records
come from different places: the constraint of one is given by its type, that of the
other is written in the reference of the member. They agree in everything that the
conversion reads (`BuiltTwice.convert_eq`), if the IED has answered both in one way.
-/

namespace Iec61850South

open Lib IEC61850ClientConnection

/-! ## Trees from the same answers -/

section Trees

variable {env env' : Environment} {fc : FunctionalConstraint} {fuel fuel' : Nat}

/-- The `count` questions from `n` on in one place and from `m` on in another place get
the same answers, about the connection and about the directory below the path. -/
def SameAnswers (env env' : Environment) (fc : FunctionalConstraint) (path : String)
    (n m count : Nat) : Prop :=
  ∀ k < count, env.getState (n + k) = env'.getState (m + k) ∧
    ∀ daPath : String, path.toList <+: daPath.toList →
      (env.getDataDirectoryByFC (n + k) daPath fc).1 =
        (env'.getDataDirectoryByFC (m + k) daPath fc).1

/-- A part of the questions, below a longer path. -/
theorem SameAnswers.part {path path' : String} {n m n' m' count count' : Nat}
    (h : SameAnswers env env' fc path n m count) (hpath : path.toList <+: path'.toList)
    (hstart : n' + m = m' + n) (hle : n ≤ n') (hcount : n' + count' ≤ n + count) :
    SameAnswers env env' fc path' n' m' count' := by
  intro k hk
  rcases h (n' - n + k) (by omega) with ⟨hstate, hdirectory⟩
  have hn : n + (n' - n + k) = n' + k := by omega
  have hm : m + (n' - n + k) = m' + k := by omega
  rw [hn, hm] at hstate hdirectory
  refine ⟨hstate, ?_⟩
  intro daPath hprefix
  exact hdirectory daPath (hpath.trans hprefix)

theorem prefix_member (path daName : String) :
    path.toList <+: (path ++ "." ++ daName).toList := by
  rw [String.toList_append, String.toList_append, List.append_assoc]
  exact List.prefix_append _ _

/-- Questions are counted, and only counted. -/
theorem calls_steady (env : Environment) (n : Nat) :
    Steady env fun s => HasConnection s ∧ n ≤ s.calls where
  connection _ hs := hs.1
  event _ _ _ hs := hs
  calls _ hs := ⟨hs.1, Nat.le_succ_of_le hs.2⟩
  answered _ event error _ _ hs := ⟨hs.1.answered event error, Nat.le_succ_of_le hs.2⟩

theorem calls_le_of_keeps {α : Type} {x : ClientM α} {a : α} {s s' : ClientState}
    (hs : HasConnection s)
    (hx : Keeps (fun t => HasConnection t ∧ s.calls ≤ t.calls) (fun _ => True) x)
    (h : x s = .ok a s') : HasConnection s' ∧ s.calls ≤ s'.calls := by
  have hfinal := (hx s ⟨hs, Nat.le_refl _⟩).1
  rwa [h] at hfinal

theorem keeps_calls_addChild (env : Environment) (n fuel : Nat) (path : String)
    (fc : FunctionalConstraint) (nameTree : MmsNameNode) (daName : String) :
    Keeps (fun s => HasConnection s ∧ n ≤ s.calls) (fun _ => True)
      (addChild env fuel path fc nameTree daName) :=
  .bind ((calls_steady env n).keeps_buildNameTree trivial fuel _ fc _) fun _ => .pure _

theorem keeps_calls_children (env : Environment) (n fuel : Nat) (path : String)
    (fc : FunctionalConstraint) (dataAttributes : List String) (nameTree : MmsNameNode) :
    Keeps (fun s => HasConnection s ∧ n ≤ s.calls) (fun _ => True)
      (dataAttributes.foldlM (addChild env fuel path fc) nameTree) :=
  .foldlM dataAttributes nameTree fun nameTree daName _ =>
    keeps_calls_addChild env n fuel path fc nameTree daName

/-- Two computations of a tree end with one tree, and with the same number of questions. -/
def EndAlike (path : String) (x y : ClientM MmsNameNode) (env env' : Environment)
    (fc : FunctionalConstraint) : Prop :=
  ∀ s u s' u' nameTree nameTree', HasConnection s → x s = .ok nameTree s' →
    y u = .ok nameTree' u' → SameAnswers env env' fc path s.calls u.calls (s'.calls - s.calls) →
    nameTree = nameTree' ∧ s'.calls + u.calls = u'.calls + s.calls

/-- The loop over the members, when the trees of the members agree. -/
theorem foldlM_addChild_same {path : String}
    (hmember : ∀ daName nameTree, EndAlike (path ++ "." ++ daName)
      (buildNameTree env fuel (path ++ "." ++ daName) fc nameTree)
      (buildNameTree env' fuel' (path ++ "." ++ daName) fc nameTree) env env' fc)
    (dataAttributes : List String) (nameTree : MmsNameNode) :
    EndAlike path (dataAttributes.foldlM (addChild env fuel path fc) nameTree)
      (dataAttributes.foldlM (addChild env' fuel' path fc) nameTree) env env' fc := by
  induction dataAttributes generalizing nameTree with
  | nil =>
    intro s u s' u' tree tree' _ h h' _
    cases h
    cases h'
    exact ⟨rfl, Nat.add_comm _ _⟩
  | cons daName dataAttributes ih =>
    intro s u s' u' tree tree' hs h h' hsame
    rw [List.foldlM_cons] at h h'
    rcases run_bind_eq_ok.mp h with ⟨grown, s₁, hround, hrest⟩
    rcases run_bind_eq_ok.mp h' with ⟨grown', u₁, hround', hrest'⟩
    have hfirst := calls_le_of_keeps hs (keeps_calls_addChild env _ fuel path fc _ daName) hround
    have hlater := calls_le_of_keeps hfirst.1
      (keeps_calls_children env _ fuel path fc dataAttributes grown) hrest
    -- the tree of the first member, from the first of the questions
    rcases run_bind_eq_ok.mp hround with ⟨node, s₂, hnode, hpush⟩
    rcases run_bind_eq_ok.mp hround' with ⟨node', u₂, hnode', hpush'⟩
    cases hpush
    cases hpush'
    have hpart : SameAnswers env env' fc (path ++ "." ++ daName) s.calls u.calls
        (s₁.calls - s.calls) :=
      hsame.part (prefix_member path daName) (Nat.add_comm _ _) (Nat.le_refl _) (by omega)
    rcases hmember daName _ s u s₁ u₁ node node' hs hnode hnode' hpart with ⟨rfl, hcalls⟩
    -- the other members, from the questions after them
    have hpart' : SameAnswers env env' fc path s₁.calls u₁.calls (s'.calls - s₁.calls) :=
      hsame.part (List.prefix_refl _) hcalls hfirst.2 (by omega)
    rcases ih _ s₁ u₁ s' u' tree tree' hfirst.1 hrest hrest' hpart' with ⟨htree, hcalls'⟩
    exact ⟨htree, by omega⟩

/-- **The same answers give the same tree.** -/
theorem buildNameTree_same (path : String) (nameTree : MmsNameNode) :
    EndAlike path (buildNameTree env fuel path fc nameTree)
      (buildNameTree env' fuel' path fc nameTree) env env' fc := by
  induction fuel generalizing path nameTree fuel' with
  | zero =>
    intro s u s' u' tree tree' _ h
    cases h
  | succ fuel ih =>
    intro s u s' u' tree tree' hs h h' hsame
    cases fuel' with
    | zero => cases h'
    | succ fuel' =>
      cases hup : env.getState s.calls with
      | false =>
        rw [buildNameTree, run_bind_ok (isConnected_run env s), hup] at h
        cases h
        -- a lost connection: both ask once and keep the tree as it is
        have hcount : (s.afterGetState env).calls = s.calls + 1 := rfl
        have hstate := (hsame 0 (by omega)).1
        rw [Nat.add_zero, Nat.add_zero, hup] at hstate
        rw [buildNameTree, run_bind_ok (isConnected_run env' u), ← hstate] at h'
        cases h'
        refine ⟨rfl, ?_⟩
        show s.calls + 1 + u.calls = u.calls + 1 + s.calls
        omega
      | true =>
        rw [buildNameTree_run hup] at h
        have hconn : HasConnection ((s.afterGetState env).afterRequest
            (.getDataDirectoryByFC path fc) (env.getDataDirectoryByFC (s.calls + 1) path fc).2) :=
          isSome_afterRead hs
        have hcalls : s.calls + 2 ≤ s'.calls :=
          (calls_le_of_keeps hconn (keeps_calls_children env _ fuel path fc _ nameTree) h).2
        have hstate := (hsame 0 (by omega)).1
        have hanswer := (hsame 1 (by omega)).2 path (List.prefix_refl _)
        rw [Nat.add_zero, Nat.add_zero, hup] at hstate
        rw [buildNameTree_run hstate.symm, ← hanswer] at h'
        -- the children ask from two questions further on, in both states
        have hpart : SameAnswers env env' fc path (s.calls + 2) (u.calls + 2)
            (s'.calls - (s.calls + 2)) :=
          hsame.part (List.prefix_refl _) (by omega) (by omega) (by omega)
        rcases foldlM_addChild_same (fun daName tree => ih _ _) _ _ _ _ s' u' tree tree' hconn h h'
          hpart with ⟨htree, hend⟩
        refine ⟨htree, ?_⟩
        have hend : s'.calls + (u.calls + 2) = u'.calls + (s.calls + 2) := hend
        omega

end Trees

/-! ## The two records of a DO -/

/-- The supported types, each with its functional constraint. -/
def typeConstraints : List (String × String) :=
  [("SPS", "ST"), ("MV", "MX")]

/-- A record with this label and path has been given its type, as both sections of the
configuration do it. -/
def IsTyped (plat : Platform) (label dataPath strTypeId : String) (dpConfig : DatapointConfig) :
    Prop :=
  ∃ (jsonConfig typeid : Json) (base : DatapointConfig),
    jsonConfig.at' "typeid" = .ok typeid ∧ typeid.getString = .ok strTypeId ∧
    base.label = label ∧
    setDatapointType plat jsonConfig { base with dataPath := dataPath } = .ok dpConfig

/-- A supported type determines what the conversion reads of the record, but for the tree. -/
theorem IsTyped.fields {plat : Platform} {label dataPath strTypeId constraintStr : String}
    {dpConfig : DatapointConfig} (h : IsTyped plat label dataPath strTypeId dpConfig)
    (htype : (strTypeId, constraintStr) ∈ typeConstraints) :
    dpConfig.label = label ∧ dpConfig.dataPath = dataPath ∧ dpConfig.datapointType = strTypeId ∧
      dpConfig.functionalConstraint = plat.FunctionalConstraint_fromString constraintStr := by
  rcases h with ⟨jsonConfig, typeid, base, hmember, hstring, rfl, hset⟩
  unfold setDatapointType at hset
  rw [hmember] at hset
  rcases except_bind_eq_ok.mp hset with ⟨_, hat, hset⟩
  cases hat
  rcases except_bind_eq_ok.mp hset with ⟨str, hget, hset⟩
  rw [hstring] at hget
  cases hget
  have hcases : strTypeId = "SPS" ∧ constraintStr = "ST" ∨
      strTypeId = "MV" ∧ constraintStr = "MX" := by
    simpa [typeConstraints] using htype
  rcases hcases with ⟨rfl, rfl⟩ | ⟨rfl, rfl⟩
  · cases hset
    exact ⟨rfl, rfl, rfl, rfl⟩
  · rw [if_neg (by decide), if_pos rfl] at hset
    cases hset
    exact ⟨rfl, rfl, rfl, rfl⟩

/-- A DO that is configured in `exchanged_data` and selected in a dataset, with what
`buildConfigurationNameTrees` has built for it in both places. -/
structure BuiltTwice (plat : Platform) where
  doPath : String
  label : String
  strTypeId : String
  constraintStr : String
  doPath_brackets : WithoutBrackets doPath
  label_ne : label ≠ ""
  supported : (strTypeId, constraintStr) ∈ typeConstraints
  /-- the record of `exchanged_data` -/
  doConfig : DatapointConfig
  doConfig_typed : IsTyped plat label doPath strTypeId doConfig
  /-- the `data_objects` of the dataset, with the first one that is found in the path -/
  selection : ExchangedData
  doName : String
  selectedDO : DatapointConfig
  selectedDO_typed : IsTyped plat label doName strTypeId selectedDO
  selectedDO_first : findSelectedDO selection doPath = some selectedDO
  /-- the round for the DO -/
  env : Environment
  fuel : Nat
  s : ClientState
  s' : ClientState
  doBuilt : DatapointConfig
  doBuilt_run : buildDatapointNameTree env fuel doConfig s = .ok doBuilt s'
  /-- the round for the member of the dataset -/
  env' : Environment
  fuel' : Nat
  u : ClientState
  u' : ClientState
  member : DatapointConfig
  member_run : buildMember plat env' fuel' selection (doPath ++ "[" ++ constraintStr ++ "]") u =
    .ok member u'
  member_length : (doPath ++ "[" ++ constraintStr ++ "]").length < 2 ^ 63
  same : SameAnswers env env' (plat.FunctionalConstraint_fromString constraintStr) doPath
    s.calls u.calls (s'.calls - s.calls)

section Records

variable {plat : Platform} (d : BuiltTwice plat)

/-- The two records agree in everything that the conversion reads. -/
theorem BuiltTwice.fields : ∃ nameTree : MmsNameNode,
    (d.doBuilt.dataPath = d.doPath ∧
      d.doBuilt.functionalConstraint = plat.FunctionalConstraint_fromString d.constraintStr ∧
      d.doBuilt.datapointType = d.strTypeId ∧ d.doBuilt.mmsNameTree = some nameTree) ∧
    d.member.label = d.label ∧ d.member.datapointType = d.strTypeId ∧
      d.member.mmsNameTree = some nameTree := by
  have hconstraint : WithoutBrackets d.constraintStr := by
    have htable : ∀ entry ∈ typeConstraints, WithoutBrackets entry.2 := by decide
    exact htable _ d.supported
  have hnpos : 2 ^ 63 < npos := by decide
  have hsplit := splitDoPathWithFC_bracketed d.doPath_brackets.1 d.doPath_brackets.2 hconstraint.2
    (Nat.le_of_lt (Nat.lt_trans d.member_length hnpos))
  rcases d.doConfig_typed.fields d.supported with ⟨hlabel, hpath, htype, hfc⟩
  rcases d.selectedDO_typed.fields d.supported with ⟨hlabel', _, htype', _⟩
  rcases buildDatapointNameTree_eq_ok d.doBuilt_run with ⟨hconn, tree, htree, hbuilt⟩
  rcases buildMember_eq_ok d.member_run with ⟨doPath, constraintStr, tree', hsplit', htree', hmember⟩
  rw [hsplit] at hsplit'
  cases hsplit'
  rw [hpath, hfc] at htree
  rcases buildNameTree_same d.doPath .empty d.s d.u d.s' d.u' tree tree' hconn htree htree' d.same
    with ⟨rfl, _⟩
  -- the selected record gives the member its label and its type
  rw [applySelection, d.selectedDO_first] at hmember
  refine ⟨tree.setName d.label, ⟨?_, ?_, ?_, ?_⟩, ?_, ?_, ?_⟩
  · rw [hbuilt, hpath]
  · rw [hbuilt, hfc]
  · rw [hbuilt, htype]
  · rw [hbuilt, hlabel]
  · rw [hmember, hlabel']
  · rw [hmember, htype']
  · rw [hmember, ← hlabel']
    rfl

/-- Every value is converted in the same way. -/
theorem BuiltTwice.convert_eq (mmsValue : Option MmsValue) :
    convertMmsToDatapoint plat mmsValue d.doBuilt =
      convertMmsToDatapoint plat mmsValue d.member := by
  rcases d.fields with ⟨nameTree, ⟨_, _, htype, htree⟩, _, htype', htree'⟩
  unfold convertMmsToDatapoint
  rw [htype, htree, htype', htree']

end Records

/-! ## What is published for it -/

/-- What a round of reading sends, and how it ends. -/
def Publishes (x : ClientM PUnit) (s : ClientState) (out : List Datapoint) (stop : Option Abort) :
    Prop :=
  sent (finalState (x s)).events = sent s.events ++ out ∧ thrown (x s) = stop

/-- Two rounds send one Datapoint, or nothing, or throw the same exception. -/
def PublishAlike (x : ClientM PUnit) (s : ClientState) (y : ClientM PUnit) (u : ClientState) :
    Prop :=
  (∃ datapoint, Publishes x s [datapoint] none ∧ Publishes y u [datapoint] none) ∨
  (Publishes x s [] none ∧ Publishes y u [] none) ∨
  ∃ msg, Publishes x s [] (some (.mmsParsingException msg)) ∧
    Publishes y u [] (some (.mmsParsingException msg))

theorem publishes_of_emits {x : ClientM PUnit} {s : ClientState} {J : ClientState → Prop}
    {E : Emission Datapoint Abort} (h : Emits sentEffect J x s E) : Publishes x s E.out E.stop := by
  rcases h with ⟨s', hsent, hrun, _⟩
  have hsent : sent s'.events = sent s.events ++ E.out := hsent
  constructor
  · rw [hrun, Emission.finalState_result, hsent]
  · rw [hrun]
    rcases E with ⟨out, _ | e⟩ <;> rfl

section Reading

variable (plat : Platform) (setup : ClientSetup)

/-- A value that is converted and sent. -/
def conversionEmission (mmsValue : Option MmsValue) (dpConfig : DatapointConfig) :
    Emission Datapoint Abort :=
  .after (convertMmsToDatapoint plat mmsValue dpConfig) (sends setup)

variable {plat setup}

theorem conversionEmission_ok {mmsValue : Option MmsValue} {dpConfig : DatapointConfig}
    {datapoint : Option Datapoint}
    (h : convertMmsToDatapoint plat mmsValue dpConfig = .ok datapoint) :
    conversionEmission plat setup mmsValue dpConfig = ⟨[], none⟩ ∨
      ∃ d, conversionEmission plat setup mmsValue dpConfig = ⟨[d], none⟩ := by
  rw [conversionEmission, h, Emission.after_ok, sends]
  cases datapoint with
  | none =>
    left
    rw [Option.toList_none, ite_self]
  | some d =>
    cases setup.hasReceiver with
    | false => exact Or.inl rfl
    | true => exact Or.inr ⟨d, rfl⟩

/-- The conversion of a value ends with its first defect. -/
theorem conversionEmission_defect {mmsValue : MmsValue} {dpConfig : DatapointConfig}
    {defect : Defect}
    (h : (defects (some mmsValue) dpConfig.mmsNameTree).head? = some defect) :
    conversionEmission plat setup (some mmsValue) dpConfig = .halt defect.abort := by
  have hbuild : buildDatapointFromMms plat (some mmsValue) dpConfig.mmsNameTree =
      .error defect.abort :=
    (buildDatapointFromMms_outcome (some mmsValue) dpConfig.mmsNameTree).eq_error_iff.mpr
      ⟨defect, h, rfl⟩
  rw [conversionEmission, convertMmsToDatapoint, hbuild]
  rfl

theorem conversion_of_no_defect {mmsValue : MmsValue} {dpConfig : DatapointConfig}
    (h : (defects (some mmsValue) dpConfig.mmsNameTree).head? = none) :
    ∃ datapoint, convertMmsToDatapoint plat (some mmsValue) dpConfig = .ok datapoint := by
  have houtcome := @buildDatapointFromMms_outcome plat (some mmsValue) dpConfig.mmsNameTree
  rcases houtcome.isOk_iff.mpr (List.head?_eq_none_iff.mp h) with ⟨datapoint, hbuild⟩
  rw [convertMmsToDatapoint, hbuild]
  exact ⟨_, rfl⟩

/-- Two rounds that end with one defect publish alike only if it is an exception. -/
theorem publishAlike_defect_iff {x y : ClientM PUnit} {s u : ClientState} {defect : Defect}
    (hx : Publishes x s [] (some defect.abort)) (hy : Publishes y u [] (some defect.abort)) :
    PublishAlike x s y u ↔ defect.isThrown = true := by
  rw [defect.isThrown_iff]
  constructor
  · rintro (⟨d, hx', _⟩ | ⟨hx', _⟩ | ⟨msg, hx', _⟩)
    · have hstop := hx.2.symm.trans hx'.2
      cases hstop
    · have hstop := hx.2.symm.trans hx'.2
      cases hstop
    · exact ⟨msg, Option.some.inj (hx.2.symm.trans hx'.2)⟩
  · rintro ⟨msg, hmsg⟩
    rw [hmsg] at hx hy
    exact Or.inr (Or.inr ⟨msg, hx, hy⟩)

/-- Two rounds with one conversion publish alike unless its first defect is not thrown. -/
theorem publishAlike_iff {x y : ClientM PUnit} {s u : ClientState} {mmsValue : Option MmsValue}
    {dpConfig : DatapointConfig}
    (hx : Publishes x s (conversionEmission plat setup mmsValue dpConfig).out
      (conversionEmission plat setup mmsValue dpConfig).stop)
    (hy : Publishes y u (conversionEmission plat setup mmsValue dpConfig).out
      (conversionEmission plat setup mmsValue dpConfig).stop) :
    PublishAlike x s y u ↔ ∀ defect,
      (defects mmsValue dpConfig.mmsNameTree).head? = some defect → defect.isThrown = true := by
  -- a conversion that returns publishes the same in both modes
  have hok : ∀ datapoint, convertMmsToDatapoint plat mmsValue dpConfig = .ok datapoint →
      PublishAlike x s y u := by
    intro datapoint hconvert
    rcases @conversionEmission_ok plat setup _ _ _ hconvert with hnothing | ⟨d, hone⟩
    · rw [hnothing] at hx hy
      exact Or.inr (Or.inl ⟨hx, hy⟩)
    · rw [hone] at hx hy
      exact Or.inl ⟨d, hx, hy⟩
  cases mmsValue with
  | none =>
    refine iff_of_true (hok none rfl) ?_
    intro defect hdefect
    rw [defects] at hdefect
    cases hdefect
    rfl
  | some mmsValue =>
    cases hfirst : (defects (some mmsValue) dpConfig.mmsNameTree).head? with
    | none =>
      rcases @conversion_of_no_defect plat _ _ hfirst with ⟨datapoint, hconvert⟩
      refine iff_of_true (hok datapoint hconvert) ?_
      intro defect hdefect
      cases hdefect
    | some defect =>
      rw [conversionEmission_defect hfirst] at hx hy
      rw [publishAlike_defect_iff hx hy]
      constructor
      · rintro hthrown _ ⟨⟩
        exact hthrown
      · intro hall
        exact hall defect rfl

/-- The DO that is read: its round converts the value that the IED has returned. -/
theorem BuiltTwice.doEmission_eq (d : BuiltTwice plat) {ied : Environment} {n : Nat}
    (hup : ied.getState n = true) :
    doEmission plat setup ied n d.doBuilt = conversionEmission plat setup
      (ied.readObject (n + 1) d.doPath (plat.FunctionalConstraint_fromString d.constraintStr)).1
      d.member := by
  rcases d.fields with ⟨_, ⟨hpath, hfc, _⟩, _⟩
  rw [doEmission, if_pos hup, hpath, hfc, d.convert_eq]
  rfl

/-- The member has a label, so its element is converted. -/
theorem BuiltTwice.memberEmission_eq (d : BuiltTwice plat) (element : Option MmsValue) :
    memberEmission plat setup (element, d.member) =
      conversionEmission plat setup element d.member := by
  rcases d.fields with ⟨_, _, hlabel, _⟩
  have hne : d.member.label ≠ "" := by
    rw [hlabel]
    exact d.label_ne
  exact if_pos hne

theorem BuiltTwice.readAndExportDO_publishes (d : BuiltTwice plat) {ied : Environment}
    {s : ClientState} (hs : HasConnection s) (hup : ied.getState s.calls = true) :
    let v := (ied.readObject (s.calls + 1) d.doPath
      (plat.FunctionalConstraint_fromString d.constraintStr)).1
    Publishes (readAndExportDO plat setup ied d.doBuilt) s
      (conversionEmission plat setup v d.member).out
      (conversionEmission plat setup v d.member).stop := by
  intro v
  have hemits : Emits sentEffect _ (readAndExportDO plat setup ied d.doBuilt) s _ :=
    readAndExportDO_emits ⟨hs, rfl⟩ d.doBuilt
  rw [d.doEmission_eq hup] at hemits
  exact publishes_of_emits hemits

theorem BuiltTwice.exportMember_publishes (d : BuiltTwice plat) {u : ClientState}
    (hu : HasConnection u) (element : Option MmsValue) :
    Publishes (exportMember plat setup (element, d.member)) u
      (conversionEmission plat setup element d.member).out
      (conversionEmission plat setup element d.member).stop := by
  have hemits : Emits sentEffect _ (exportMember plat setup (element, d.member)) u _ :=
    exportMember_emits ⟨hu, rfl⟩ (element, d.member)
  rw [d.memberEmission_eq] at hemits
  exact publishes_of_emits hemits

end Reading

/-- **Both reading modes do the same for a DO**, and they publish alike unless the
conversion uses an object that is absent. The label of the member is not replaced by
the labelling of whole datasets. -/
theorem reading_modes_agree_iff (plat : Platform) (setup : ClientSetup) (d : BuiltTwice plat)
    (v : Option MmsValue) (ied : Environment) (s u : ClientState) (hs : HasConnection s)
    (hup : ied.getState s.calls = true)
    (hread : (ied.readObject (s.calls + 1) d.doPath
      (plat.FunctionalConstraint_fromString d.constraintStr)).1 = v) (hu : HasConnection u) :
    (∀ exchangedDataset, d.member ∈ exchangedDataset →
      selectAllIfNone exchangedDataset = exchangedDataset) ∧
    doEmission plat setup ied s.calls d.doBuilt = memberEmission plat setup (v, d.member) ∧
    (∃ out stop, Publishes (readAndExportDO plat setup ied d.doBuilt) s out stop ∧
      Publishes (exportMember plat setup (v, d.member)) u out stop) ∧
    (PublishAlike (readAndExportDO plat setup ied d.doBuilt) s
        (exportMember plat setup (v, d.member)) u ↔
      ∀ defect, (defects v d.member.mmsNameTree).head? = some defect →
        defect.isThrown = true) := by
  have hdo := @BuiltTwice.readAndExportDO_publishes plat setup d ied s hs hup
  rw [hread] at hdo
  have hmember := @BuiltTwice.exportMember_publishes plat setup d u hu v
  refine ⟨?_, ?_, ⟨_, _, hdo, hmember⟩, publishAlike_iff hdo hmember⟩
  · intro exchangedDataset hmem
    rcases d.fields with ⟨_, _, hlabel, _⟩
    have hne : d.member.label ≠ "" := by
      rw [hlabel]
      exact d.label_ne
    exact selectAllIfNone_of_label hmem hne
  · rw [d.doEmission_eq hup, hread, d.memberEmission_eq]

/-! ## A measured value in both modes -/

/-- The analog input of the small IED, as a dataset selects it. -/
def analogSelection : ExchangedData :=
  [{ analogDO with dataPath := "AnIn1" }]

theorem analogSelection_first : findSelectedDO analogSelection "IED1LD0/GGIO1.AnIn1" =
    some { analogDO with dataPath := "AnIn1" } := by
  have hfound : find "IED1LD0/GGIO1.AnIn1" ("." ++ "AnIn1") ≠ npos := by decide +kernel
  exact List.find?_cons_of_pos (decide_eq_true hfound)

/-- A client after some questions. -/
def clientAt (calls : Nat) : ClientState :=
  { m_connection := some {}, calls := calls }

theorem analogTree_run (calls : Nat) :
    buildNameTree analogIed 3 "IED1LD0/GGIO1.AnIn1" .MX .empty (clientAt calls) =
      .ok (.node "" analogInput.nameTrees)
        (finalState (buildNameTree analogIed 3 "IED1LD0/GGIO1.AnIn1" .MX .empty (clientAt calls))) := by
  have hdepth : (DataModel.structure analogInput).depth < 3 := by decide
  rcases (DataModel.structure analogInput).buildNameTree_eq (fun _ _ => rfl) 3 _ ""
    (clientAt calls) (Nat.zero_le _) analogInput_answered hdepth with ⟨s', hrun, _⟩
  have hempty : MmsNameNode.empty = .node "" [] := rfl
  rw [hempty, hrun, finalState_ok, DataModel.nameTree_structure]

theorem analogDO_run (calls : Nat) :
    buildDatapointNameTree analogIed 3 analogDO (clientAt calls) =
      .ok (analogDO.withMembers analogInput)
        (finalState (buildNameTree analogIed 3 "IED1LD0/GGIO1.AnIn1" .MX .empty (clientAt calls))) := by
  have hderef : deref (clientAt calls) = .ok {} (clientAt calls) := rfl
  unfold buildDatapointNameTree
  rw [run_bind_ok hderef]
  exact run_bind_ok (analogTree_run calls)

theorem analogMember_run (calls : Nat) :
    buildMember (.withDocuments []) analogIed 3 analogSelection
        ("IED1LD0/GGIO1.AnIn1" ++ "[" ++ "MX" ++ "]") (clientAt calls) =
      .ok (analogDO.withMembers analogInput)
        (finalState (buildNameTree analogIed 3 "IED1LD0/GGIO1.AnIn1" .MX .empty (clientAt calls))) := by
  have hsplit : splitDoPathWithFC ("IED1LD0/GGIO1.AnIn1" ++ "[" ++ "MX" ++ "]") =
      .ok ("IED1LD0/GGIO1.AnIn1", "MX") :=
    splitDoPathWithFC_bracketed (by decide) (by decide) (by decide) (by decide)
  have hderef : deref (clientAt calls) = .ok {} (clientAt calls) := rfl
  unfold buildMember
  rw [hsplit, run_bind_ok (liftExcept_ok ..), run_bind_ok hderef]
  refine (run_bind_ok (analogTree_run calls)).trans ?_
  rw [applySelection, analogSelection_first]
  rfl

/-- The analog input in both sections of the configuration. -/
def analogTwice : BuiltTwice (.withDocuments []) where
  doPath := "IED1LD0/GGIO1.AnIn1"
  label := "TM1"
  strTypeId := "MV"
  constraintStr := "MX"
  doPath_brackets := by decide
  label_ne := by decide
  supported := by decide
  doConfig := analogDO
  doConfig_typed :=
    ⟨.object [("typeid", .string "MV")], .string "MV", { label := "TM1" }, rfl, rfl, rfl, rfl⟩
  selection := analogSelection
  doName := "AnIn1"
  selectedDO := { analogDO with dataPath := "AnIn1" }
  selectedDO_typed :=
    ⟨.object [("typeid", .string "MV")], .string "MV", { label := "TM1" }, rfl, rfl, rfl, rfl⟩
  selectedDO_first := analogSelection_first
  env := analogIed
  fuel := 3
  s := clientAt 0
  s' := finalState (buildNameTree analogIed 3 "IED1LD0/GGIO1.AnIn1" .MX .empty (clientAt 0))
  doBuilt := analogDO.withMembers analogInput
  doBuilt_run := analogDO_run 0
  env' := analogIed
  fuel' := 3
  u := clientAt 40
  u' := finalState (buildNameTree analogIed 3 "IED1LD0/GGIO1.AnIn1" .MX .empty (clientAt 40))
  member := analogDO.withMembers analogInput
  member_run := analogMember_run 40
  member_length := by decide
  same _ _ := ⟨rfl, fun _ _ => rfl⟩

/-- A value of the analog input, with or without its magnitude. -/
def analogValue (magnitude : MmsPrimitive) : MmsValue :=
  .aggregate .struct [some (.aggregate .struct [some (.primitive magnitude)]),
    some (.primitive (.bitString [])), some (.primitive (.utcTime 0))]

/-- The IED returns this value for every object. -/
def analogIedReturning (mmsValue : Option MmsValue) : Environment :=
  { analogIed with readObject := fun _ _ _ => (mmsValue, IED_ERROR_OK) }

theorem reading_modes_agree_iff_sample :
    PublishAlike
        (readAndExportDO (.withDocuments []) (smallSetup .DO_READING [])
          (analogIedReturning (some (analogValue (.float 0)))) (analogDO.withMembers analogInput))
        (clientAt 80)
        (exportMember (.withDocuments []) (smallSetup .DATASET_READING [])
          (some (analogValue (.float 0)), analogDO.withMembers analogInput))
        (clientAt 80) ↔
      ∀ defect, (defects (some (analogValue (.float 0)))
        (analogDO.withMembers analogInput).mmsNameTree).head? = some defect →
          defect.isThrown = true :=
  (reading_modes_agree_iff (.withDocuments []) (smallSetup .DO_READING []) analogTwice
    (some (analogValue (.float 0))) (analogIedReturning (some (analogValue (.float 0))))
    (clientAt 80) (clientAt 80) rfl rfl rfl rfl).2.2.2

/-- A magnitude that could not be read: both rounds rename a datapoint that does not
exist. -/
theorem unread_magnitude_in_both_modes :
    Publishes
        (readAndExportDO (.withDocuments []) (smallSetup .DO_READING [])
          (analogIedReturning (some (analogValue (.dataAccessError 3)))) analogTwice.doBuilt)
        (clientAt 80) [] (some (.fault .nullDatapoint)) ∧
      Publishes
        (exportMember (.withDocuments []) (smallSetup .DO_READING [])
          (some (analogValue (.dataAccessError 3)), analogTwice.member))
        (clientAt 80) [] (some (.fault .nullDatapoint)) ∧
      ¬ PublishAlike
        (readAndExportDO (.withDocuments []) (smallSetup .DO_READING [])
          (analogIedReturning (some (analogValue (.dataAccessError 3)))) analogTwice.doBuilt)
        (clientAt 80)
        (exportMember (.withDocuments []) (smallSetup .DO_READING [])
          (some (analogValue (.dataAccessError 3)), analogTwice.member))
        (clientAt 80) := by
  have hdefect : (defects (some (analogValue (.dataAccessError 3)))
      analogTwice.member.mmsNameTree).head? = some .unreadMag := by decide
  have hemission := @conversionEmission_defect (.withDocuments []) (smallSetup .DO_READING []) _ _
    _ hdefect
  have hdo : Publishes
      (readAndExportDO (.withDocuments []) (smallSetup .DO_READING [])
        (analogIedReturning (some (analogValue (.dataAccessError 3)))) analogTwice.doBuilt)
      (clientAt 80) _ _ := analogTwice.readAndExportDO_publishes rfl rfl
  have hmember := @BuiltTwice.exportMember_publishes _ (smallSetup .DO_READING []) analogTwice
    (clientAt 80) rfl (some (analogValue (.dataAccessError 3)))
  have halike := publishAlike_iff hdo hmember
  refine ⟨?_, ?_, ?_⟩
  · have hread : (analogIedReturning (some (analogValue (.dataAccessError 3)))).readObject = fun _ _ _ =>
        (some (analogValue (.dataAccessError 3)), IED_ERROR_OK) := rfl
    rw [hread, hemission] at hdo
    exact hdo
  · rw [hemission] at hmember
    exact hmember
  · rw [halike]
    intro hall
    exact absurd (hall .unreadMag hdefect) (by decide)

end Iec61850South
