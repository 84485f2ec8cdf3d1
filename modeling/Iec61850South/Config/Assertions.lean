import Iec61850South.Config.Sections

/-! # Which documents abort the process

A rapidjson accessor that is applied to a value of another type aborts. Every
accessor of the import code stands behind a check of its own, except those for
the data objects of a dataset: there `HasMember` is the only check, and it is
itself an accessor. `importConfig_no_assertion_iff` says for which documents this
matters.
-/

namespace Iec61850South

open Lib

/-- The error is an exception that the import code throws. -/
def IsException (e : ImportStop) : Prop :=
  ∃ msg, e = .configurationException msg

/-- What the import throws is an exception, or an assertion of rapidjson fails. -/
theorem isException_iff {e : ImportStop} : IsException e ↔ ∀ accessor, e ≠ .assertion accessor := by
  cases e <;> simp [IsException]

/-! ## Guarded accessors throw, they do not abort -/

/-- A test of the import throws an exception. -/
theorem ensure_errors (condition : Bool) (msg : String) :
    ErrorsIn IsException (ensure condition msg) := by
  intro e h
  exact ⟨msg, (ensure_eq_error.mp h).2⟩

/-- `GetString` behind `IsString` fails no assertion. -/
theorem getString_errors {v : Json} (h : v.isString) : ErrorsIn IsException v.getString := by
  rcases Json.getString_of_isString h with ⟨_, _, hget⟩
  rw [hget]
  exact .ok _

/-- `GetInt` behind `IsInt` fails no assertion. -/
theorem getInt_errors {v : Json} (h : v.isInt) : ErrorsIn IsException v.getInt := by
  rcases Json.getInt_of_isInt h with ⟨_, _, hget⟩
  rw [hget]
  exact .ok _

/-- `GetArray` behind `IsArray` fails no assertion. -/
theorem getArray_errors {v : Json} (h : v.isArray) : ErrorsIn IsException v.getArray := by
  rcases Json.getArray_of_isArray h with ⟨_, _, hget⟩
  rw [hget]
  exact .ok _

/-- A member that has to be there is tested before it is read. -/
theorem mandatory_errors {v : Json} (h : v.isObject) (name : String) (isType : Json → Bool)
    (notFound badFormat : String) :
    ErrorsIn IsException (mandatory v name isType notFound badFormat) := by
  refine .bind ?_ fun b hb => .bind (ensure_errors _ _) fun _ hensure => .bind ?_ fun _ _ =>
    .bind (ensure_errors _ _) fun _ _ => .pure _
  · rw [Json.hasMember_of_isObject h]
    exact .ok _
  · -- `operator[]` is only applied to a member that has been found
    have hmember := (hasMember_eq_ok.mp hb).2
    rw [ensure_eq_ok.mp hensure, Option.isSome_iff_exists] at hmember
    rcases hmember with ⟨m, hm⟩
    rw [Json.at'_of_member? hm]
    exact .ok _

/-- So is one that may be missing, before it is read as `read` does. -/
theorem optional_errors {α : Type} {v : Json} (h : v.isObject) (name : String)
    {isType : Json → Bool} (badFormat : String) (absent : α) {read : Json → Except ImportStop α}
    (hread : ∀ m, isType m = true → ErrorsIn IsException (read m)) :
    ErrorsIn IsException (optional v name isType badFormat absent read) := by
  refine .bind ?_ fun b hb => .ite (fun htrue => ?_) fun _ => .pure _
  · rw [Json.hasMember_of_isObject h]
    exact .ok _
  · have hmember := (hasMember_eq_ok.mp hb).2
    rw [htrue, Option.isSome_iff_exists] at hmember
    rcases hmember with ⟨m, hm⟩
    rw [Json.at'_of_member? hm]
    exact .bind (.ok _) fun m' _ => .bind (ensure_errors _ _) fun _ hensure =>
      hread m' (ensure_eq_ok.mp hensure)

/-- A member that has to be an object. -/
theorem objectMember_errors {v : Json} (h : v.isObject) (name msg : String) :
    ErrorsIn IsException (objectMember v name msg) :=
  mandatory_errors h _ _ _ _

/-! ## The sections -/

/-- What a token throws comes from `stoul` or from its range. -/
theorem readToken_errors (nextToken : List Char) : ErrorsIn IsException (readToken nextToken) := by
  intro e h
  simp only [readToken] at h
  split at h
  · exact ⟨_, (Except.error.inj h).symm⟩
  · exact ⟨_, (Except.error.inj h).symm⟩
  · split at h
    · exact ⟨_, (Except.error.inj h).symm⟩
    · cases h

/-- Token by token, none fails an assertion. -/
theorem parseTokens_keeps (selectorSize : Nat) (toks : List (List Char)) (count : Nat) :
    Keeps (fun _ => True) IsException (parseTokens selectorSize toks count) := by
  induction toks generalizing count with
  | nil => exact .pure _
  | cons tok toks ih =>
    rw [parseTokens]
    split
    · exact .bind (.throw ⟨_, rfl⟩) fun _ => .bind (.liftExcept (readToken_errors tok)) fun _ =>
        .bind (.modify fun _ _ => trivial) fun _ => ih _
    · exact .bind (.liftExcept (readToken_errors tok)) fun _ =>
        .bind (.modify fun _ _ => trivial) fun _ => ih _

/-- Nor does a whole selector. -/
theorem parseOsiSelectorInto_errors {capacity : Nat} (inputOsiSelector : String)
    (selector : OsiSelector capacity) :
    ErrorsIn IsException (parseOsiSelectorInto inputOsiSelector selector) := by
  intro e h
  rw [parseOsiSelectorInto] at h
  split at h
  · cases h
  · rename_i e' s hrun
    cases h
    exact (parseTokens_keeps _ _ _ [] trivial).2 _ _ hrun

/-- An AP title is read behind `IsString`. -/
theorem readApTitle_errors (notValid : String) {member : Json} (h : member.isString) :
    ErrorsIn IsException (readApTitle notValid member) :=
  .bind (getString_errors h) fun _ _ => .bind (ensure_errors _ _) fun _ _ => .pure _

/-- The six selectors are read behind their tests. -/
theorem importJsonConnectionOsiSelectors_errors {connOsiConfig : Json} (h : connOsiConfig.isObject)
    (osiParams : OsiParameters) :
    ErrorsIn IsException (importJsonConnectionOsiSelectors connOsiConfig osiParams) := by
  have hread : ∀ {capacity : Nat} (m : Json), m.isString = true →
      ∀ (selector : OsiSelector capacity) (put : OsiSelector capacity → OsiParameters),
        ErrorsIn IsException (do
          let sel ← parseOsiSelectorInto (← m.getString) selector
          return put sel) :=
    fun m hm selector put => .bind (getString_errors hm) fun _ _ =>
      .bind (parseOsiSelectorInto_errors _ _) fun _ _ => .pure _
  refine .bind (optional_errors h _ _ _ fun m hm => hread m hm _ _) fun _ _ => ?_
  refine .bind (optional_errors h _ _ _ fun m hm => hread m hm _ _) fun _ _ => ?_
  refine .bind (optional_errors h _ _ _ fun m hm => hread m hm _ _) fun _ _ => ?_
  refine .bind (optional_errors h _ _ _ fun m hm => hread m hm _ _) fun _ _ => ?_
  refine .bind (optional_errors h _ _ _ fun m hm => hread m hm _ _) fun _ _ => ?_
  exact optional_errors h _ _ _ fun m hm => hread m hm _ _

/-- The OSI section, which is tested to be an object. -/
theorem importJsonConnectionOsiConfig_errors (connOsiConfig : Json)
    (iedConnectionParam : ServerConnectionParameters) :
    ErrorsIn IsException (importJsonConnectionOsiConfig connOsiConfig iedConnectionParam) := by
  refine .bind (ensure_errors _ _) fun _ hobj => ?_
  have h := ensure_eq_ok.mp hobj
  have hint : ∀ (m : Json), m.isInt = true → ∀ put : Int → OsiParameters,
      ErrorsIn IsException (do let n ← m.getInt; return put n) :=
    fun m hm put => .bind (getInt_errors hm) fun _ _ => .pure _
  have htitle : ∀ (m : Json), m.isString = true → ∀ (msg : String) (put : String → OsiParameters),
      ErrorsIn IsException (do let title ← readApTitle msg m; return put title) :=
    fun m hm msg put => .bind (readApTitle_errors msg hm) fun _ _ => .pure _
  refine .bind (optional_errors h _ _ _ fun m hm => hint m hm _) fun _ _ => ?_
  refine .bind (optional_errors h _ _ _ fun m hm => hint m hm _) fun _ _ => ?_
  refine .bind (optional_errors h _ _ _ fun m hm => htitle m hm _ _) fun _ _ => ?_
  refine .bind (optional_errors h _ _ _ fun m hm => htitle m hm _ _) fun _ _ => ?_
  exact .bind (importJsonConnectionOsiSelectors_errors h _) fun _ _ => .pure _

variable (plat : Platform)

/-- A connection is tested member by member. -/
theorem connectionOf_errors (uninit : OsiParameters) (connConfig : Json) :
    ErrorsIn IsException (connectionOf uninit connConfig) := by
  refine .bind (ensure_errors _ _) fun _ hobj => ?_
  have h := ensure_eq_ok.mp hobj
  refine .bind (mandatory_errors h _ _ _ _) fun srvIp hip => ?_
  refine .bind (mandatory_errors h _ _ _ _) fun port hport => ?_
  refine .bind (getString_errors (mandatory_eq_ok.mp hip).2) fun _ _ => ?_
  refine .bind (ensure_errors _ _) fun _ _ => ?_
  refine .bind (getInt_errors (mandatory_eq_ok.mp hport).2) fun _ _ => ?_
  rw [Json.hasMember_of_isObject h]
  refine .bind (.ok _) fun b hb => .ite (fun htrue => ?_) fun _ => .pure _
  rw [← Except.ok.inj hb, Option.isSome_iff_exists] at htrue
  rcases htrue with ⟨m, hm⟩
  rw [Json.at'_of_member? hm]
  exact .bind (.ok _) fun _ _ => importJsonConnectionOsiConfig_errors _ _

/-- The transport layer, up to the array of its connections. -/
theorem transportLayerHeader_errors {transportLayer : Json} (h : transportLayer.isObject) :
    ErrorsIn IsException (transportLayerHeader transportLayer) := by
  refine .bind (mandatory_errors h _ _ _ _) fun iedName hname => ?_
  refine .bind (mandatory_errors h _ _ _ _) fun connections hconns => ?_
  refine .bind (getString_errors (mandatory_eq_ok.mp hname).2) fun _ _ => ?_
  exact .bind (getArray_errors (mandatory_eq_ok.mp hconns).2) fun _ _ => .pure _

/-- The polling period is read behind its test. -/
theorem readingPeriodOf_errors {applicationLayer : Json} (h : applicationLayer.isObject) :
    ErrorsIn IsException (readingPeriodOf applicationLayer) :=
  optional_errors h _ _ _ fun _ hm => .bind (getInt_errors hm) fun _ _ => .pure _

/-- The reading mode is read behind its test. -/
theorem readModeOf_errors {applicationLayer : Json} (h : applicationLayer.isObject) :
    ErrorsIn IsException (readModeOf applicationLayer) :=
  optional_errors h _ _ _ fun _ hm => .bind (getString_errors hm) fun _ _ => .pure _

/-- The protocol stack, up to its two layers. -/
theorem protocolHeader_errors (protocolConfig : String) :
    ErrorsIn IsException (protocolHeader plat protocolConfig) := by
  rw [protocolHeader]
  cases plat.parse protocolConfig with
  | none => exact .error ⟨_, rfl⟩
  | some document =>
    exact .bind (ensure_errors _ _) fun _ hobj => objectMember_errors (ensure_eq_ok.mp hobj) _ _

/-- A section, up to the array that it holds. -/
theorem sectionArray_errors (text sectionName arrayName e₁ e₂ e₃ e₄ : String) :
    ErrorsIn IsException (sectionArray plat text sectionName arrayName e₁ e₂ e₃ e₄) := by
  rw [sectionArray]
  cases plat.parse text with
  | none => exact .error ⟨_, rfl⟩
  | some document =>
    refine .bind (ensure_errors _ _) fun _ hobj => ?_
    refine .bind (objectMember_errors (ensure_eq_ok.mp hobj) _ _) fun jsonSection hsection => ?_
    refine .bind (mandatory_errors (objectMember_eq_ok.mp hsection).2 _ _ _ _) fun elements harr => ?_
    exact getArray_errors (mandatory_eq_ok.mp harr).2

/-- The `typeid` has been tested by the caller. -/
theorem setDatapointType_errors {jsonConfig typeid : Json}
    (hm : jsonConfig.member? "typeid" = some typeid)
    (h : typeid.isString) (dpConfigToComplete : DatapointConfig) :
    ErrorsIn IsException (setDatapointType plat jsonConfig dpConfigToComplete) := by
  rw [setDatapointType, Json.at'_of_member? hm]
  refine .bind (.ok _) fun v hv => ?_
  rw [← Except.ok.inj hv]
  refine .bind (getString_errors h) fun _ _ => ?_
  exact .ite (fun _ => .pure _) fun _ => .ite (fun _ => .pure _) fun _ => .pure _

/-- A protocol of a datapoint is tested member by member. -/
theorem importJsonDatapointProtocolConfig_errors (datapointConfig : DatapointConfig)
    (datapointProtocolConfig : Json) :
    ErrorsIn IsException
      (importJsonDatapointProtocolConfig plat datapointConfig datapointProtocolConfig) := by
  refine .bind (ensure_errors _ _) fun _ hobj => ?_
  have h := ensure_eq_ok.mp hobj
  refine .bind (mandatory_errors h _ _ _ _) fun name hname => ?_
  refine .bind (mandatory_errors h _ _ _ _) fun typeid htypeid => ?_
  refine .bind (mandatory_errors h _ _ _ _) fun address haddress => ?_
  refine .bind (getString_errors (mandatory_eq_ok.mp hname).2) fun _ _ => ?_
  refine .ite (fun _ => .pure _) fun _ => ?_
  refine .bind (getString_errors (mandatory_eq_ok.mp haddress).2) fun _ _ => ?_
  rcases mandatory_eq_ok.mp htypeid with ⟨hm, hstring⟩
  exact setDatapointType_errors plat hm hstring _

/-- A datapoint is tested member by member. -/
theorem datapointOf_errors (jsonDatapointConfig : Json) :
    ErrorsIn IsException (datapointOf plat jsonDatapointConfig) := by
  refine .bind (ensure_errors _ _) fun _ hobj => ?_
  have h := ensure_eq_ok.mp hobj
  refine .bind (mandatory_errors h _ _ _ _) fun label hlabel => ?_
  refine .bind (getString_errors (mandatory_eq_ok.mp hlabel).2) fun _ _ => ?_
  refine .bind (mandatory_errors h _ _ _ _) fun protocols hprotocols => ?_
  refine .bind (getArray_errors (mandatory_eq_ok.mp hprotocols).2) fun elements _ => ?_
  exact .foldlM elements _ fun d x _ => importJsonDatapointProtocolConfig_errors plat d x

/-- The whole protocol stack stops with exceptions only. -/
theorem protocolStackItem_stopsIn (item : Option String) :
    Emission.StopsIn IsException (protocolStackItemAssignments plat item) := by
  cases item with
  | none => exact .halt ⟨_, rfl⟩
  | some text =>
    refine .after (protocolHeader_errors plat text) fun protocolStack hstack => ?_
    have hobj : protocolStack.isObject := by
      rw [protocolHeader] at hstack
      cases hparse : plat.parse text with
      | none => simp [hparse] at hstack
      | some document =>
        rw [hparse] at hstack
        rcases except_bind_eq_ok.mp hstack with ⟨_, _, hmember⟩
        exact (objectMember_eq_ok.mp hmember).2
    refine .after (objectMember_errors hobj _ _) fun transportLayer htransport => .seq ?_ ?_
    · refine .after (transportLayerHeader_errors (objectMember_eq_ok.mp htransport).2)
        fun header _ => .seq (.of_go rfl) (.seqAll fun x hx => ?_)
      rcases List.mem_map.mp hx with ⟨conn, _, rfl⟩
      exact .after (connectionOf_errors (plat.uninit conn.2) conn.1) fun _ _ => .of_go rfl
    · refine .after (objectMember_errors hobj _ _) fun applicationLayer happ => ?_
      have happ := (objectMember_eq_ok.mp happ).2
      exact .after (readingPeriodOf_errors happ) fun _ _ =>
        .seq (.of_go rfl) (.after (readModeOf_errors happ) fun _ _ => .of_go rfl)

/-- So do the exchanged data. -/
theorem exchangedDataItem_stopsIn (item : Option String) :
    Emission.StopsIn IsException
      (optionalItemAssignments item (exchangedDataAssignments plat)) := by
  cases item with
  | none => exact .of_go rfl
  | some text =>
    refine .after (sectionArray_errors plat _ _ _ _ _ _ _) fun datapoints _ => .seqAll fun x hx => ?_
    rcases List.mem_map.mp hx with ⟨jsonDatapointConfig, _, rfl⟩
    exact .after (datapointOf_errors plat jsonDatapointConfig) fun _ _ => .of_go rfl

/-! ## The data objects of a dataset -/

/-- The members that are read from a data object, in order. -/
def dataObjectMembers : List String := ["label", "doName", "typeid"]

/-- Every member that is read is there and is a string. -/
def wellTyped (jsonDataObject : Json) : Bool :=
  dataObjectMembers.all fun name => (stringMember jsonDataObject name).isSome

/-- Not an object, or the first member that is no string is there. -/
def illTyped (jsonDataObject : Json) : Bool :=
  !jsonDataObject.isObject ||
    match dataObjectMembers.find? fun name => (stringMember jsonDataObject name).isNone with
    | some name => (jsonDataObject.member? name).isSome
    | none => false

/-- The members with what is said when they are missing. -/
def dataObjectChecks : List (String × String) :=
  [("label", "'label', in 'data_object' of 'dataset' is missing"),
    ("doName", "'do_name', in 'data_object' of 'dataset' is missing"),
    ("typeid", "'typeid', in 'data_object' of 'dataset' is missing")]

/-- The members that are no strings. -/
def defectiveMembers (jsonDataObject : Json) (checks : List (String × String)) :
    List (String × String) :=
  checks.filter fun check => (stringMember jsonDataObject check.1).isNone

/-- How the reading ends there: a member that is missing is tested for, and one of
another type is not. -/
def memberAbort (jsonDataObject : Json) (check : String × String) : ImportStop :=
  if (jsonDataObject.member? check.1).isSome then .assertion "GetString"
  else .configurationException check.2

/-- The reading of one member. -/
def readMember (jsonDataObject : Json) (check : String × String) : Except ImportStop String := do
  ensure (← jsonDataObject.hasMember check.1) check.2
  (← jsonDataObject.at' check.1).getString

/-- One member of a data object: missing, of another type, or read. -/
theorem readMember_endsWith {v : Json} (hobj : v.isObject) (check : String × String) :
    EndsWith (memberAbort v) (defectiveMembers v [check]) (fun _ => True)
      (readMember v check) := by
  unfold readMember
  rw [Json.hasMember_of_isObject hobj]
  cases hm : v.member? check.1 with
  | none =>
    have hfound : defectiveMembers v [check] = [check] := by
      simp [defectiveMembers, stringMember, hm]
    rw [hfound]
    show Except.error (ImportStop.configurationException check.2) = .error (memberAbort v check)
    rw [memberAbort, hm]
    rfl
  | some m =>
    -- a member that is there is read, and has to be a string
    have hread : (do
        ensure (← (.ok (some m).isSome : Except ImportStop Bool)) check.2
        (← v.at' check.1).getString) = m.getString := by
      rw [Json.at'_of_member? hm]
      rfl
    rw [hread]
    cases m with
    | string s =>
      have hfound : defectiveMembers v [check] = [] := by
        simp [defectiveMembers, stringMember, hm]
      rw [hfound]
      exact .ok trivial
    | _ =>
      have hfound : defectiveMembers v [check] = [check] := by
        simp [defectiveMembers, stringMember, hm]
      rw [hfound]
      show Except.error (ImportStop.assertion "GetString") = .error (memberAbort v check)
      rw [memberAbort, hm]
      rfl

/-- Once its typeid has been read, the type of a datapoint can always be set. -/
theorem setDatapointType_eq (jsonConfig : Json) (d : DatapointConfig) :
    ∃ set : String → Except ImportStop DatapointConfig,
      setDatapointType plat jsonConfig d =
          (do (← jsonConfig.at' "typeid").getString) >>= set ∧
        ∀ typeid, ∃ d', set typeid = .ok d' := by
  unfold setDatapointType
  refine ⟨_, (bind_assoc _ _ _).symm, ?_⟩
  intro typeid
  split
  · exact ⟨_, rfl⟩
  · split
    · exact ⟨_, rfl⟩
    · exact ⟨_, rfl⟩

/-- **A data object is read member by member**, up to the first one that is no string. -/
theorem dataObjectOf_endsWith {jsonDataObject : Json} (hobj : jsonDataObject.isObject) :
    EndsWith (memberAbort jsonDataObject) (defectiveMembers jsonDataObject dataObjectChecks)
      (fun _ => True) (dataObjectOf plat jsonDataObject) := by
  have hread := fun check => readMember_endsWith hobj check
  -- the three members are checked one after the other, each before the next one is read
  have hsplit : defectiveMembers jsonDataObject dataObjectChecks =
      defectiveMembers jsonDataObject [dataObjectChecks[0]] ++
        (defectiveMembers jsonDataObject [dataObjectChecks[1]] ++
          defectiveMembers jsonDataObject [dataObjectChecks[2]]) := by
    unfold defectiveMembers
    rw [← List.filter_append, ← List.filter_append]
    rfl
  have hchain : dataObjectOf plat jsonDataObject =
      readMember jsonDataObject dataObjectChecks[0] >>= fun label =>
        readMember jsonDataObject dataObjectChecks[1] >>= fun doName =>
          (do
            ensure (← jsonDataObject.hasMember "typeid") dataObjectChecks[2].2
            setDatapointType plat jsonDataObject { label := label, dataPath := doName }) := by
    simp only [dataObjectOf, readMember, bind_assoc]
    rfl
  rw [hsplit, hchain]
  refine (hread _).bind fun label _ => (hread _).bind fun doName _ => ?_
  rcases setDatapointType_eq plat jsonDataObject { label := label, dataPath := doName } with
    ⟨set, hset, hok⟩
  have hlast : (do
      ensure (← jsonDataObject.hasMember "typeid") dataObjectChecks[2].2
      setDatapointType plat jsonDataObject { label := label, dataPath := doName }) =
      readMember jsonDataObject dataObjectChecks[2] >>= set := by
    simp only [hset, readMember, bind_assoc]
    rfl
  rw [hlast]
  apply (hread _).map
  intro typeid _
  rcases hok typeid with ⟨d, hd⟩
  exact ⟨d, hd, trivial⟩

/-- All members are strings when no defect is found. -/
theorem wellTyped_iff {jsonDataObject : Json} :
    wellTyped jsonDataObject = true ↔ defectiveMembers jsonDataObject dataObjectChecks = [] := by
  have hmembers : dataObjectMembers = dataObjectChecks.map Prod.fst := rfl
  rw [wellTyped, hmembers, List.all_eq_true, List.forall_mem_map, defectiveMembers,
    List.filter_eq_nil_iff]
  refine forall₂_congr fun check _ => ?_
  rw [Option.isSome_iff_ne_none, Option.isNone_iff_eq_none]

/-- The first defect is a member that is there. -/
theorem illTyped_iff {jsonDataObject : Json} (hobj : jsonDataObject.isObject) :
    illTyped jsonDataObject = true ↔
      ∃ check, (defectiveMembers jsonDataObject dataObjectChecks).head? = some check ∧
        (jsonDataObject.member? check.1).isSome := by
  have hmembers : dataObjectMembers = dataObjectChecks.map Prod.fst := rfl
  have hcompose : (fun name => (stringMember jsonDataObject name).isNone) ∘ Prod.fst =
      fun check : String × String => (stringMember jsonDataObject check.1).isNone := rfl
  rw [illTyped, hobj, hmembers, List.find?_map, hcompose, defectiveMembers, List.head?_filter]
  cases dataObjectChecks.find? fun check => (stringMember jsonDataObject check.1).isNone with
  | none => simp
  | some check => simp

/-- A value that is no object is not even searched for members. -/
theorem dataObjectOf_of_not_object {jsonDataObject : Json}
    (hobj : jsonDataObject.isObject = false) :
    dataObjectOf plat jsonDataObject = .error (.assertion "HasMember") := by
  cases jsonDataObject with
  | object members => cases hobj
  | _ => rfl

/-- A data object is read when its three members are strings. -/
theorem dataObjectOf_ok_iff {jsonDataObject : Json} :
    (∃ d, dataObjectOf plat jsonDataObject = .ok d) ↔ wellTyped jsonDataObject := by
  cases hobj : jsonDataObject.isObject with
  | true => rw [(dataObjectOf_endsWith plat hobj).isOk_iff, wellTyped_iff]
  | false =>
    rw [dataObjectOf_of_not_object plat hobj]
    apply iff_of_false
    · rintro ⟨d, hd⟩
      cases hd
    · cases jsonDataObject with
      | object members => cases hobj
      | _ => simp [wellTyped, dataObjectMembers, stringMember, Json.member?]

/-- The assertion fails on a value that is no object, and at a member of another type when
the ones before it are read. -/
theorem dataObjectOf_assertion_iff {jsonDataObject : Json} :
    (∃ accessor, dataObjectOf plat jsonDataObject = .error (.assertion accessor)) ↔
      illTyped jsonDataObject := by
  cases hobj : jsonDataObject.isObject with
  | true =>
    rw [illTyped_iff hobj]
    simp only [(dataObjectOf_endsWith plat hobj).eq_error_iff]
    constructor
    · rintro ⟨accessor, check, hfirst, habort⟩
      refine ⟨check, hfirst, ?_⟩
      by_contra hmissing
      rw [memberAbort, if_neg hmissing] at habort
      cases habort
    · rintro ⟨check, hfirst, hpresent⟩
      refine ⟨"GetString", check, hfirst, ?_⟩
      rw [memberAbort, if_pos hpresent]
  | false =>
    apply iff_of_true
    · exact ⟨"HasMember", dataObjectOf_of_not_object plat hobj⟩
    · rw [illTyped, hobj]
      rfl

/-- The dataset has a reference, and it is not empty. -/
def hasRef (jsonDatasetConfig : Json) : Prop :=
  ∃ datasetRef, stringMember jsonDatasetConfig "dataset_ref" = some datasetRef ∧ datasetRef ≠ ""

/-- The first data object that is not well typed is ill typed. -/
def meetsIllTyped (dataObjects : List Json) : Prop :=
  ∃ pre d post, dataObjects = pre ++ d :: post ∧ (∀ y ∈ pre, wellTyped y) ∧ illTyped d

/-- The checks on a dataset that come before its data objects. -/
theorem datasetOf_eq (jsonDatasetConfig : Json) :
    ∃ header : Except ImportStop String,
      datasetOf plat jsonDatasetConfig = (header >>= fun datasetRef => do
        let selected ← (dataObjectsOf jsonDatasetConfig).mapM (dataObjectOf plat)
        return (datasetRef, selected)) ∧
      ErrorsIn IsException header ∧ ((∃ datasetRef, header = .ok datasetRef) ↔
        hasRef jsonDatasetConfig) := by
  refine ⟨do
    ensure jsonDatasetConfig.isObject "'dataset' is not valid"
    let datasetRef ← mandatory jsonDatasetConfig "dataset_ref" Json.isString
      "the mandatory 'dataset_ref' not found" "bad format for the mandatory 'dataset_ref'"
    let datasetRef ← datasetRef.getString
    ensure (datasetRef ≠ "") "the mandatory 'dataset_ref' is empty"
    return datasetRef, ?_, ?_, ?_⟩
  · simp only [datasetOf, bind_assoc, pure_bind]
  · refine .bind (ensure_errors _ _) fun _ hobj => ?_
    refine .bind (mandatory_errors (ensure_eq_ok.mp hobj) _ _ _ _) fun m hm => ?_
    exact .bind (getString_errors (mandatory_eq_ok.mp hm).2) fun _ _ =>
      .bind (ensure_errors _ _) fun _ _ => .pure _
  · simp only [except_bind_eq_ok, ensure_eq_ok, mandatory_eq_ok, getString_eq_ok,
      except_pure_eq_ok, hasRef, stringMember]
    constructor
    · rintro ⟨_, _, _, m, ⟨hm, _⟩, s, ⟨text, rfl, rfl⟩, _, hne, rfl⟩
      exact ⟨_, by rw [hm], by simpa using hne⟩
    · rintro ⟨r, hr, hne⟩
      split at hr
      · rename_i text hm
        refine ⟨r, (), Json.isObject_of_member? hm, _, ⟨hm, rfl⟩, r, ⟨text, rfl, ?_⟩, (), ?_, rfl⟩
        · exact Option.some.inj hr
        · simpa using hne
      · cases hr

/-- A dataset is read when it has a reference and its data objects are well typed. -/
theorem datasetOf_ok_iff {jsonDatasetConfig : Json} :
    (∃ d, datasetOf plat jsonDatasetConfig = .ok d) ↔
      hasRef jsonDatasetConfig ∧ ∀ d ∈ dataObjectsOf jsonDatasetConfig, wellTyped d := by
  rcases datasetOf_eq plat jsonDatasetConfig with ⟨header, heq, _, href⟩
  have hobjects : (∃ ds, (dataObjectsOf jsonDatasetConfig).mapM (dataObjectOf plat) = .ok ds) ↔ _ :=
    except_mapM_isOk
  simp only [dataObjectOf_ok_iff] at hobjects
  rw [heq, ← href, ← hobjects]
  simp only [except_bind_eq_ok, except_pure_eq_ok]
  constructor
  · rintro ⟨_, r, hr, selected, hselected, _⟩
    exact ⟨⟨r, hr⟩, selected, hselected⟩
  · rintro ⟨⟨r, hr⟩, selected, hselected⟩
    exact ⟨_, r, hr, selected, hselected, rfl⟩

/-- The assertion fails at its first data object that is not well typed, when that one is
ill typed. -/
theorem datasetOf_assertion_iff {jsonDatasetConfig : Json} :
    (∃ accessor, datasetOf plat jsonDatasetConfig = .error (.assertion accessor)) ↔
      hasRef jsonDatasetConfig ∧ meetsIllTyped (dataObjectsOf jsonDatasetConfig) := by
  rcases datasetOf_eq plat jsonDatasetConfig with ⟨header, heq, herrors, href⟩
  simp only [heq, ← href, meetsIllTyped, ← dataObjectOf_ok_iff plat,
    ← dataObjectOf_assertion_iff plat, except_bind_eq_error, except_mapM_eq_error,
    except_pure_ne_error, and_false, exists_false, or_false]
  constructor
  · rintro ⟨accessor, herr | ⟨r, hr, pre, d, post, hsplit, hpre, hd⟩⟩
    · -- the checks before the data objects do not abort
      exact absurd rfl (isException_iff.mp (herrors _ herr) accessor)
    · exact ⟨⟨r, hr⟩, pre, d, post, hsplit, hpre, accessor, hd⟩
  · rintro ⟨⟨r, hr⟩, pre, d, post, hsplit, hpre, accessor, hd⟩
    exact ⟨accessor, Or.inr ⟨r, hr, pre, d, post, hsplit, hpre, hd⟩⟩

/-! ## The whole import -/

/-- The sections that are imported before the datasets are valid. -/
def PrecedingSectionsValid (newConfig : ConfigCategory) : Prop :=
  ProtocolStackValid plat newConfig ∧ ExchangedDataValid plat newConfig

/-- The first dataset that is not well formed has a reference, and its first data
object that is not well typed is ill typed. -/
def DatasetsMeetIllTyped (newConfig : ConfigCategory) : Prop :=
  ∃ pre x post, datasetEntries plat newConfig = pre ++ x :: post ∧
    (∀ y ∈ pre, hasRef y ∧ ∀ d ∈ dataObjectsOf y, wellTyped d) ∧
    hasRef x ∧ meetsIllTyped (dataObjectsOf x)

/-- The same for the array of datasets. -/
theorem datasetsItem_assertion_iff (newConfig : ConfigCategory) :
    (∃ accessor, (optionalItemAssignments (newConfig.getValue? "exchanged_datasets")
        (exchangedDatasetsAssignments plat)).stop = some (.assertion accessor)) ↔
      DatasetsMeetIllTyped plat newConfig := by
  simp only [DatasetsMeetIllTyped, ← datasetOf_ok_iff plat, ← datasetOf_assertion_iff plat,
    datasetEntries, documentArray, documentValue]
  cases hitem : newConfig.getValue? "exchanged_datasets" with
  | none => simp [optionalItemAssignments]
  | some text =>
    rw [Option.bind_some, optionalItemAssignments, exchangedDatasetsAssignments]
    cases hheader : exchangedDatasetsHeader plat text with
    | error e =>
      -- without the array there is no dataset to be of another type
      have hno : ∀ elements, (plat.parse text).bind (fun document =>
          ["exchanged_datasets", "datasets"].foldlM Json.member? document) ≠
          some (.array elements) := by
        intro elements helements
        rw [exchangedDatasetsHeader, sectionArray_eq_ok.mpr helements] at hheader
        cases hheader
      have hexception := isException_iff.mp (sectionArray_errors plat _ _ _ _ _ _ _ e hheader)
      split
      · rename_i elements helements
        exact absurd helements (hno elements)
      · simp [hexception]
    | ok elements =>
      rw [sectionArray_eq_ok.mp hheader, Emission.after_ok]
      have hloop : ∀ e, (Emission.seqAll (elements.map (datasetAssignments plat))).stop = some e ↔
          elements.mapM (datasetOf plat) = .error e := fun e => seqAll_decode_stop
      simp only [hloop, except_mapM_eq_error]
      constructor
      · rintro ⟨accessor, pre, x, post, hsplit, hpre, hx⟩
        exact ⟨pre, x, post, hsplit, hpre, accessor, hx⟩
      · rintro ⟨pre, x, post, hsplit, hpre, accessor, hx⟩
        exact ⟨accessor, pre, x, post, hsplit, hpre, hx⟩

/-- The datasets are imported last, so the sections before them have to be valid. -/
theorem configAssignments_assertion_iff (newConfig : ConfigCategory) :
    (∃ accessor, (configAssignments plat newConfig).stop = some (.assertion accessor)) ↔
      PrecedingSectionsValid plat newConfig ∧ DatasetsMeetIllTyped plat newConfig := by
  rw [← datasetsItem_assertion_iff, PrecedingSectionsValid, ← protocolStack_go_iff,
    ← exchangedData_go_iff]
  constructor
  · rintro ⟨accessor, h⟩
    rw [configAssignments, Emission.seq_stop_eq_some, Emission.seq_stop_eq_some,
      Emission.seq_stop_eq_some] at h
    rcases h with h | ⟨_, h | ⟨hprotocol, h | ⟨hdata, h⟩⟩⟩
    · cases h
    · exact absurd rfl (isException_iff.mp (protocolStackItem_stopsIn plat _ _ h) accessor)
    · exact absurd rfl (isException_iff.mp (exchangedDataItem_stopsIn plat _ _ h) accessor)
    · exact ⟨⟨hprotocol, hdata⟩, accessor, h⟩
  · rintro ⟨⟨hprotocol, hdata⟩, accessor, h⟩
    refine ⟨accessor, ?_⟩
    rw [configAssignments, Emission.seq_of_go rfl, Emission.seq_of_go hprotocol,
      Emission.seq_of_go hdata]
    exact h

/-- **The import never aborts, except for an ill-typed data object that it
reaches.** -/
theorem importConfig_no_assertion_iff (newConfig : ConfigCategory) (c : IEC61850ClientConfig) :
    (∀ accessor c', importConfig plat newConfig c ≠ .error (.assertion accessor) c') ↔
      ¬ (PrecedingSectionsValid plat newConfig ∧ DatasetsMeetIllTyped plat newConfig) := by
  rw [← configAssignments_assertion_iff, importConfig_run]
  cases hstop : (configAssignments plat newConfig).stop with
  | none => simp [Emission.result_of_go hstop]
  | some e => simp [Emission.result_of_stop hstop]

/-! ## A label that is a number -/

/-- A protocol stack that the import takes. -/
def plainProtocolStack : String :=
  "\x7b\"protocol_stack\":\x7b\"transport_layer\":\x7b\"ied_name\":\"IED1\",\"connections\":[]\x7d,\"application_layer\":\x7b\x7d\x7d\x7d"

/-- A dataset of one data object, whose label is the number 1. -/
def numericLabel : String :=
  "\x7b\"exchanged_datasets\":\x7b\"datasets\":[\x7b\"dataset_ref\":\"IED1LD0/LLN0.DS1\",\"data_objects\":[\x7b\"label\":1\x7d]\x7d]\x7d\x7d"

/-- The parser of the two documents. -/
def numericLabelPlatform : Platform :=
  .withDocuments
    [(plainProtocolStack, .object [("protocol_stack", .object
        [("transport_layer", .object
          [("ied_name", .string "IED1"), ("connections", .array [])]),
          ("application_layer", .object [])])]),
      (numericLabel, .object [("exchanged_datasets", .object [("datasets", .array
        [.object [("dataset_ref", .string "IED1LD0/LLN0.DS1"),
          ("data_objects", .array [.object [("label", .integer 1)]])]])])])]

/-- The label of a data object is read without a test of its type. -/
theorem numeric_label_aborts :
    ∃ c', importConfig numericLabelPlatform
      ⟨[("protocol_stack", plainProtocolStack), ("exchanged_datasets", numericLabel)]⟩ {} =
        .error (.assertion "GetString") c' := by
  rw [importConfig_run]
  have hstop : (configAssignments numericLabelPlatform
      ⟨[("protocol_stack", plainProtocolStack), ("exchanged_datasets", numericLabel)]⟩).stop =
        some (.assertion "GetString") := by decide +kernel
  exact ⟨_, Emission.result_of_stop hstop⟩

end Iec61850South
