import Iec61850South.Client.Stable
import Iec61850South.Lib.Checks

/-! # The name tree and the value have one shape

Two recursions over different data have to agree: `buildNameTree` follows the
answers to directory requests, `buildDatapointFromMms` walks over a value along
the tree that was built. A `DataModel` is what the IED holds below a path; both
are compared with it.
-/

namespace Iec61850South

open Lib IEC61850ClientConnection

/-! ## Data models -/

mutual

/-- What is below a path: an attribute, or a structure. -/
inductive DataModel where
  | attribute
  | structure (members : Members)

/-- The members of a structure, at least one. -/
inductive Members where
  | one (name : String) (model : DataModel)
  | cons (name : String) (model : DataModel) (rest : Members)

end

mutual

/-- How deep the questions for its name tree go. -/
def DataModel.depth : DataModel → Nat
  | .attribute => 0
  | .structure members => members.depth + 1

/-- The deepest of the members. -/
def Members.depth : Members → Nat
  | .one _ model => model.depth
  | .cons _ model rest => max model.depth rest.depth

end

/-- The names that the IED lists. -/
def Members.names : Members → List String
  | .one name _ => [name]
  | .cons name _ rest => name :: rest.names

/-- The name of the first member, which stands for a `mag`. -/
def Members.firstName : Members → String
  | .one name _ => name
  | .cons name _ _ => name

/-- The model of the first member. -/
def Members.firstModel : Members → DataModel
  | .one _ model => model
  | .cons _ model _ => model

mutual

/-- The tree of the names in the model. -/
def DataModel.nameTree (mmsName : String) : DataModel → MmsNameNode
  | .attribute => .node mmsName []
  | .structure members => .node mmsName members.nameTrees

/-- The trees of the members, in order. -/
def Members.nameTrees : Members → List (Option MmsNameNode)
  | .one name model => [some (model.nameTree name)]
  | .cons name model rest => some (model.nameTree name) :: rest.nameTrees

end

@[simp] theorem DataModel.nameTree_attribute (mmsName : String) :
    DataModel.attribute.nameTree mmsName = .node mmsName [] := by
  rw [DataModel.nameTree]

@[simp] theorem DataModel.nameTree_structure (mmsName : String) (members : Members) :
    (DataModel.structure members).nameTree mmsName = .node mmsName members.nameTrees := by
  rw [DataModel.nameTree]

/-! ## The directory of the model

From question `n₀` on, the answer for the dotted path of a node lists the names
of its members. For an attribute it lists nothing, or there is no answer. -/

section Directory

variable (env : Environment) (n₀ : Nat) (fc : FunctionalConstraint)

mutual

/-- The IED answers the questions below a path as the model has it. -/
def DataModel.Answered : DataModel → String → Prop
  | .attribute, path =>
    ∀ n, n₀ ≤ n → (env.getDataDirectoryByFC n path fc).1.getD [] = []
  | .structure members, path =>
    (∀ n, n₀ ≤ n → (env.getDataDirectoryByFC n path fc).1 = some members.names) ∧
      members.Answered path

/-- Each member below its own path. -/
def Members.Answered : Members → String → Prop
  | .one name model, path => model.Answered (path ++ "." ++ name)
  | .cons name model rest, path => model.Answered (path ++ "." ++ name) ∧ rest.Answered path

end

end Directory

section Build

variable {env : Environment} {n₀ : Nat} {fc : FunctionalConstraint}

/-- One round of the loop in `buildNameTree`. -/
def addChild (env : Environment) (fuel : Nat) (path : String) (fc : FunctionalConstraint)
    (nameTree : MmsNameNode) (daName : String) : ClientM MmsNameNode := do
  let newNameNode ← buildNameTree env fuel (path ++ "." ++ daName) fc (.node daName [])
  return nameTree.pushBack newNameNode

/-- One call of `buildNameTree` while connected: no answer is an empty answer. -/
theorem buildNameTree_run {s : ClientState} (hup : env.getState s.calls = true) (fuel : Nat)
    (path : String) (nameTree : MmsNameNode) :
    buildNameTree env (fuel + 1) path fc nameTree s =
      (((env.getDataDirectoryByFC (s.calls + 1) path fc).1.getD []).foldlM
        (addChild env fuel path fc) nameTree)
        ((s.afterGetState env).afterRequest (.getDataDirectoryByFC path fc)
          (env.getDataDirectoryByFC (s.calls + 1) path fc).2) := by
  have hcalls : (s.afterGetState env).calls = s.calls + 1 := rfl
  rw [buildNameTree, run_bind_ok (isConnected_run env s), hup, if_neg (by simp), getDataDirectory,
    run_bind_ok (request_run ..), hcalls]
  -- no answer adds no children
  cases (env.getDataDirectoryByFC (s.calls + 1) path fc).1 <;> rfl

/-- A computation started in `s` has returned `a` and has only asked questions. -/
def Asked {α : Type} (s : ClientState) (a : α) (r : EStateM.Result Abort ClientState α) : Prop :=
  ∃ s', r = .ok a s' ∧ s'.m_connection.isSome = s.m_connection.isSome ∧ s.calls ≤ s'.calls

/-- The first request is followed by a computation that only asks questions. -/
theorem Asked.afterRequest {α : Type} {s : ClientState} {a : α} {event : Event}
    {error : IedClientError} {r : EStateM.Result Abort ClientState α}
    (h : Asked ((s.afterGetState env).afterRequest event error) a r) : Asked s a r := by
  rcases h with ⟨s', hrun, hconn, hcalls⟩
  refine ⟨s', hrun, ?_, ?_⟩
  · exact hconn.trans (isSome_afterRequest ..)
  · have hcalls : s.calls + 1 + 1 ≤ s'.calls := hcalls
    omega

mutual

/-- **The tree that is built is the tree of the model**, with any fuel above its depth. -/
theorem DataModel.buildNameTree_eq (hup : ∀ n, n₀ ≤ n → env.getState n = true) :
    ∀ (model : DataModel) (fuel : Nat) (path name : String) (s : ClientState),
      n₀ ≤ s.calls → model.Answered env n₀ fc path → model.depth < fuel →
      Asked s (model.nameTree name) (buildNameTree env fuel path fc (.node name []) s)
  | _, 0, _, _, _, _, _, hfuel => absurd hfuel (Nat.not_lt_zero _)
  | .attribute, fuel + 1, path, name, s, hn, hans, _ => by
    rw [DataModel.Answered] at hans
    rw [buildNameTree_run (hup _ hn), hans _ (Nat.le_succ_of_le hn), DataModel.nameTree_attribute]
    exact Asked.afterRequest ⟨_, rfl, rfl, Nat.le_refl _⟩
  | .structure members, fuel + 1, path, name, s, hn, hans, hfuel => by
    rw [DataModel.Answered] at hans
    rw [DataModel.depth] at hfuel
    rw [buildNameTree_run (hup _ hn), hans.1 _ (Nat.le_succ_of_le hn),
      DataModel.nameTree_structure]
    have hn' : n₀ ≤ s.calls + 1 + 1 := Nat.le_succ_of_le (Nat.le_succ_of_le hn)
    exact (members.addChildren_eq hup fuel path name [] _ hn' hans.2
      (Nat.lt_of_succ_lt_succ hfuel)).afterRequest

/-- By induction on the members, with the children that are already there. -/
theorem Members.addChildren_eq (hup : ∀ n, n₀ ≤ n → env.getState n = true) :
    ∀ (members : Members) (fuel : Nat) (path name : String)
      (children : List (Option MmsNameNode)) (s : ClientState), n₀ ≤ s.calls →
      members.Answered env n₀ fc path → members.depth < fuel →
      Asked s (MmsNameNode.node name (children ++ members.nameTrees))
        (members.names.foldlM (addChild env fuel path fc) (.node name children) s)
  | .one daName model, fuel, path, name, children, s, hn, hans, hfuel => by
    rw [Members.Answered] at hans
    rw [Members.depth] at hfuel
    rcases model.buildNameTree_eq hup fuel _ daName s hn hans hfuel with ⟨s', hrun, hasked⟩
    refine ⟨s', ?_, hasked⟩
    rw [Members.names, List.foldlM_cons, addChild, bind_assoc, run_bind_ok hrun, Members.nameTrees]
    rfl
  | .cons daName model rest, fuel, path, name, children, s, hn, hans, hfuel => by
    rw [Members.Answered] at hans
    rw [Members.depth] at hfuel
    -- the first member's tree is built, and the loop goes on with one more child
    rcases model.buildNameTree_eq hup fuel _ daName s hn hans.1 (by omega) with
        ⟨s₁, hrun₁, hconn₁, hcalls₁⟩
    obtain ⟨s₂, hrun₂, hconn₂, hcalls₂⟩ := rest.addChildren_eq hup fuel path name
      (children ++ [some (model.nameTree daName)]) s₁ (Nat.le_trans hn hcalls₁) hans.2 (by omega)
    refine ⟨s₂, ?_, hconn₂.trans hconn₁, Nat.le_trans hcalls₁ hcalls₂⟩
    rw [Members.names, List.foldlM_cons, addChild, bind_assoc, run_bind_ok hrun₁, Members.nameTrees]
    simpa using hrun₂

end

end Build

/-! ## Values of the shape of the model -/

/-- The types that `buildDatapointFromMms` converts to an attribute. -/
def MmsPrimitive.isSupported : MmsPrimitive → Bool
  | .dataAccessError _ => false
  | .other _ => false
  | _ => true

mutual

/-- A value that follows the model, with attributes of supported types only. -/
inductive HasShape : DataModel → MmsValue → Prop
  | attribute {value : MmsPrimitive} : value.isSupported = true →
      HasShape .attribute (.primitive value)
  | structure {members : Members} {elements : List (Option MmsValue)} :
      HaveShape members elements →
      HasShape (.structure members) (.aggregate .struct elements)

/-- The elements have the shapes of the members, one by one. -/
inductive HaveShape : Members → List (Option MmsValue) → Prop
  | one {name : String} {model : DataModel} {element : MmsValue} : HasShape model element →
      HaveShape (.one name model) [some element]
  | cons {name : String} {model : DataModel} {rest : Members} {element : MmsValue}
      {elements : List (Option MmsValue)} : HasShape model element → HaveShape rest elements →
      HaveShape (.cons name model rest) (some element :: elements)

end

/-! ## Datapoints that mirror a value -/

/-- The name of the attribute of a Reading for the name of an attribute of a DO. -/
def readingName (name : String) : String :=
  (DO_READING_MAPPING.lookup name).getD name

/-- The mapping of the names, applied to the top. -/
theorem renameDatapoint_eq (datapoint : Datapoint) :
    renameDatapoint datapoint = datapoint.setName (readingName datapoint.getName) := by
  unfold renameDatapoint readingName
  cases DO_READING_MAPPING.lookup datapoint.getName with
  | some newName => rfl
  | none => cases datapoint; rfl

section Mirrors

variable (plat : Platform)

mutual

/-- A structure is mirrored by a dictionary with one attribute for each member,
in order. A structure named `mag` is mirrored by its first member alone, under
both names. -/
inductive Mirrors : String → DataModel → MmsValue → Datapoint → Prop
  | attribute {name : String} {value : MmsPrimitive} {data : DatapointValue Datapoint} :
      buildPrimitive plat name value = .ok (some (.mk name data)) →
      Mirrors name .attribute (.primitive value) (.mk (readingName name) data)
  | dictionary {name : String} {members : Members} {elements : List (Option MmsValue)}
      {datapoints : List (Option Datapoint)} : name ≠ "mag" →
      MirrorAll members elements datapoints →
      Mirrors name (.structure members) (.aggregate .struct elements)
        (.mk (readingName name) (.dpDict datapoints))
  | mag {members : Members} {element : MmsValue} {elements : List (Option MmsValue)}
      {datapoint : Datapoint} :
      Mirrors members.firstName members.firstModel element datapoint →
      Mirrors "mag" (.structure members) (.aggregate .struct (some element :: elements))
        (datapoint.setName (readingName ("mag." ++ datapoint.getName)))

/-- The Datapoints mirror the members, one by one. -/
inductive MirrorAll : Members → List (Option MmsValue) → List (Option Datapoint) → Prop
  | one {name : String} {model : DataModel} {element : MmsValue} {datapoint : Datapoint} :
      Mirrors name model element datapoint →
      MirrorAll (.one name model) [some element] [some datapoint]
  | cons {name : String} {model : DataModel} {rest : Members} {element : MmsValue}
      {elements : List (Option MmsValue)} {datapoint : Datapoint}
      {datapoints : List (Option Datapoint)} :
      Mirrors name model element datapoint → MirrorAll rest elements datapoints →
      MirrorAll (.cons name model rest) (some element :: elements) (some datapoint :: datapoints)

end

variable {plat}

/-- As many attributes as elements, and as many elements as members. -/
theorem MirrorAll.length : ∀ {members : Members} {elements : List (Option MmsValue)}
    {datapoints : List (Option Datapoint)}, MirrorAll plat members elements datapoints →
    datapoints.length = elements.length ∧ elements.length = members.nameTrees.length
  | .one _ _, _, _, .one _ => by
    rw [Members.nameTrees]
    exact ⟨rfl, rfl⟩
  | .cons _ _ rest, _, _, .cons _ hrest => by
    rcases hrest.length with ⟨hds, hes⟩
    rw [Members.nameTrees]
    exact ⟨congrArg (· + 1) hds, congrArg (· + 1) hes⟩

/-- The first attribute mirrors the first member. -/
theorem MirrorAll.first {members : Members} {elements : List (Option MmsValue)}
    {datapoints : List (Option Datapoint)} (h : MirrorAll plat members elements datapoints) :
    ∃ element rest datapoint others, elements = some element :: rest ∧
      datapoints = some datapoint :: others ∧
      Mirrors plat members.firstName members.firstModel element datapoint := by
  cases h with
  | one hfirst => exact ⟨_, _, _, _, rfl, rfl, hfirst⟩
  | cons hfirst _ => exact ⟨_, _, _, _, rfl, rfl, hfirst⟩

/-- Converting all elements converts the first one. -/
theorem buildFirst_of_buildAll {elements : List (Option MmsValue)}
    {children : List (Option MmsNameNode)} {datapoint : Option Datapoint}
    {datapoints : List (Option Datapoint)}
    (h : buildAll plat elements children = .ok (datapoint :: datapoints)) :
    buildFirst plat elements children = .ok datapoint := by
  cases elements with
  | nil =>
    rw [buildAll] at h
    · cases h
    · simp
  | cons element elements =>
    cases children with
    | nil =>
      rw [buildAll] at h
      · cases h
      · simp
    | cons child children =>
      rw [buildAll] at h
      rw [buildFirst]
      -- the loop has converted the first element before the others
      rcases except_bind_eq_ok.mp h with ⟨d, hd, h⟩
      rcases except_bind_eq_ok.mp h with ⟨ds, hds, h⟩
      cases h
      exact hd

/-- A supported attribute becomes a datapoint under the name of its node. -/
theorem buildPrimitive_supported (plat : Platform) (name : String) {value : MmsPrimitive}
    (h : value.isSupported = true) :
    ∃ data, buildPrimitive plat name value = .ok (some (.mk name data)) := by
  cases value with
  | dataAccessError code => cases h
  | other typeString => cases h
  | _ => exact ⟨_, rfl⟩

/-! ## The conversion follows the tree of the model -/

/-- What is built below a node is renamed at its top. -/
theorem buildDatapointFromMms_node {value : MmsValue} {name : String}
    {children : List (Option MmsNameNode)} {datapoint : Datapoint}
    (h : buildFromType plat value name children = .ok (some datapoint)) :
    buildDatapointFromMms plat (some value) (some (.node name children)) =
      .ok (some (datapoint.setName (readingName datapoint.getName))) := by
  rw [buildDatapointFromMms, h, ← renameDatapoint_eq]
  rfl

/-- A structure whose elements are converted, at the top or below. -/
theorem buildFromType_structure {name : String} {members : Members}
    {elements : List (Option MmsValue)} {datapoints : List (Option Datapoint)}
    (hmirror : MirrorAll plat members elements datapoints)
    (hall : buildAll plat elements members.nameTrees = .ok datapoints) (hmag : name ≠ "mag") :
    buildFromType plat (.aggregate .struct elements) name members.nameTrees =
      .ok (some (.mk name (.dpDict datapoints))) := by
  rw [buildFromType, if_neg (by simp [hmirror.length.2]), if_neg hmag, hall]
  rfl

/-- Below `mag` the first member stands for the whole, with `mag.` before its name. -/
theorem buildFromType_mag {members : Members} {elements : List (Option MmsValue)}
    {datapoint : Datapoint} {datapoints : List (Option Datapoint)}
    (hmirror : MirrorAll plat members elements (some datapoint :: datapoints))
    (hall : buildAll plat elements members.nameTrees = .ok (some datapoint :: datapoints)) :
    buildFromType plat (.aggregate .struct elements) "mag" members.nameTrees =
      .ok (some (datapoint.setName ("mag." ++ datapoint.getName))) := by
  rw [buildFromType, if_neg (by simp [hmirror.length.2]), if_pos rfl, buildFirst_of_buildAll hall]
  rfl

mutual

/-- **A value of the shape of the model is converted**, and its datapoint mirrors it. -/
theorem DataModel.convert : ∀ (model : DataModel) (name : String) (value : MmsValue),
    HasShape model value → ∃ datapoint, Mirrors plat name model value datapoint ∧
      buildDatapointFromMms plat (some value) (some (model.nameTree name)) = .ok (some datapoint)
  | .attribute, name, .primitive value, .attribute hsupported => by
    rcases buildPrimitive_supported plat name hsupported with ⟨data, hdata⟩
    refine ⟨_, .attribute hdata, ?_⟩
    have hbuild : buildFromType plat (.primitive value) name [] = .ok (some (.mk name data)) := by
      rw [buildFromType, hdata]
    rw [DataModel.nameTree_attribute]
    exact buildDatapointFromMms_node hbuild
  | .structure members, name, _, .structure hshape => by
    rcases members.convertAll _ hshape with ⟨datapoints, hmirror, hall⟩
    rw [DataModel.nameTree_structure]
    rcases eq_or_ne name "mag" with hmag | hmag
    · -- only the first of the members is kept
      subst hmag
      rcases hmirror.first with ⟨element, rest, datapoint, others, helements, hdatapoints, hfirst⟩
      subst helements hdatapoints
      -- it is renamed twice, and only the second name stays
      refine ⟨_, .mag hfirst, ?_⟩
      have hbuild := buildDatapointFromMms_node (buildFromType_mag hmirror hall)
      rwa [Datapoint.getName_setName, Datapoint.setName_setName] at hbuild
    · exact ⟨_, .dictionary hmag hmirror,
        buildDatapointFromMms_node (buildFromType_structure hmirror hall hmag)⟩

/-- By induction on the members, with the conversion of each. -/
theorem Members.convertAll : ∀ (members : Members) (elements : List (Option MmsValue)),
    HaveShape members elements → ∃ datapoints, MirrorAll plat members elements datapoints ∧
      buildAll plat elements members.nameTrees = .ok datapoints
  | .one name model, _, .one hshape => by
    rcases model.convert name _ hshape with ⟨datapoint, hmirror, hrun⟩
    refine ⟨_, .one hmirror, ?_⟩
    rw [Members.nameTrees, buildAll, hrun]
    rfl
  | .cons name model rest, _, .cons hshape hrest => by
    rcases model.convert name _ hshape with ⟨datapoint, hmirror, hrun⟩
    rcases rest.convertAll _ hrest with ⟨datapoints, hmirrors, hruns⟩
    refine ⟨_, .cons hmirror hmirrors, ?_⟩
    rw [Members.nameTrees, buildAll, hrun, hruns]
    rfl

end

end Mirrors

/-! ## Both recursions together -/

/-- The datapoint configuration with the tree of the model, its root renamed. -/
def DatapointConfig.withMembers (dpConfig : DatapointConfig) (members : Members) :
    DatapointConfig :=
  { dpConfig with mmsNameTree := some (.node dpConfig.label members.nameTrees) }

/-- **The tree and the conversion agree.** When the IED answers directory
requests by a model whose root is a structure, the tree that is built for a DO
is the tree of the model under the label of the DO, and every value of the shape
of the model is converted to a dictionary that mirrors it, behind the type. -/
theorem nameTree_conversion_agree (plat : Platform) {env : Environment} {s : ClientState}
    {dpConfig : DatapointConfig} {members : Members} {fuel : Nat}
    (hconn : s.m_connection.isSome) (hup : ∀ n, s.calls ≤ n → env.getState n = true)
    (hans : (DataModel.structure members).Answered env s.calls dpConfig.functionalConstraint
      dpConfig.dataPath)
    (hfuel : (DataModel.structure members).depth < fuel) (hlabel : dpConfig.label ≠ "mag") :
    (∃ s', buildDatapointNameTree env fuel dpConfig s = .ok (dpConfig.withMembers members) s') ∧
      ∀ elements, HaveShape members elements → ∃ datapoints,
        MirrorAll plat members elements datapoints ∧
        datapoints.length = elements.length ∧
        convertMmsToDatapoint plat (some (.aggregate .struct elements))
            (dpConfig.withMembers members) =
          .ok (some (.mk (readingName dpConfig.label) (.dpDict
            (some (createDatapoint "do_type" (.string dpConfig.datapointType)) :: datapoints)))) := by
  constructor
  · rcases deref_run_of_isSome hconn with ⟨connection, hderef⟩
    rcases (DataModel.structure members).buildNameTree_eq hup fuel
      dpConfig.dataPath "" s (Nat.le_refl _) hans hfuel with ⟨s', hrun, _, _⟩
    refine ⟨s', ?_⟩
    unfold buildDatapointNameTree
    -- the root gets its name after the tree has been built
    have hempty : MmsNameNode.empty = .node "" [] := rfl
    rw [run_bind_ok hderef, hempty, run_bind_ok hrun, DataModel.nameTree_structure]
    rfl
  · intro elements hshape
    rcases @Members.convertAll plat members elements hshape with ⟨datapoints, hmirror, hall⟩
    refine ⟨datapoints, hmirror, hmirror.length.1, ?_⟩
    have hbuild := buildDatapointFromMms_node (buildFromType_structure hmirror hall hlabel)
    unfold convertMmsToDatapoint
    show (buildDatapointFromMms plat _ (some (.node dpConfig.label members.nameTrees)) >>= _) = _
    rw [hbuild]
    rfl

/-! ## A measured value -/

/-- An analog input: its magnitude, a structure, with quality and time. -/
def analogInput : Members :=
  .cons "mag" (.structure (.one "f" .attribute)) (.cons "q" .attribute (.one "t" .attribute))

/-- An IED with one analog input. -/
def analogIed : Environment :=
  { smallIed with
    getDataDirectoryByFC := fun _ path _ =>
      if path = "IED1LD0/GGIO1.AnIn1" then (some ["mag", "q", "t"], IED_ERROR_OK)
      else if path = "IED1LD0/GGIO1.AnIn1.mag" then (some ["f"], IED_ERROR_OK)
      else (none, IED_ERROR_OK) }

/-- The DO of the analog input. -/
def analogDO : DatapointConfig where
  label := "TM1"
  datapointType := "MV"
  datapointTypeId := .MV_DATAPOINT_TYPE
  dataPath := "IED1LD0/GGIO1.AnIn1"
  functionalConstraint := .MX

/-- That IED answers as the model of an analog input has it. -/
theorem analogInput_answered :
    (DataModel.structure analogInput).Answered analogIed 0 .MX "IED1LD0/GGIO1.AnIn1" := by
  simp [analogInput, DataModel.Answered, Members.Answered, Members.names, analogIed]

/-- The name tree and the value of the analog input. -/
theorem nameTree_conversion_agree_sample :
    (∃ s', buildDatapointNameTree analogIed 3 analogDO { m_connection := some {} } =
        .ok (analogDO.withMembers analogInput) s') ∧
      ∀ elements, HaveShape analogInput elements → ∃ datapoints,
        MirrorAll (.withDocuments []) analogInput elements datapoints ∧
        datapoints.length = elements.length ∧
        convertMmsToDatapoint (.withDocuments []) (some (.aggregate .struct elements))
            (analogDO.withMembers analogInput) =
          .ok (some (.mk (readingName analogDO.label) (.dpDict
            (some (createDatapoint "do_type" (.string analogDO.datapointType)) :: datapoints)))) :=
  nameTree_conversion_agree (.withDocuments []) rfl (fun _ _ => rfl) analogInput_answered
    (by decide) (by decide)

end Iec61850South
