import Iec61850South.Config.Assignments
import Iec61850South.Lib.Checks

/-! # What an accepted configuration lists

The entries of a configuration are read off its JSON documents directly, by
member names: `connectionEntries`, `datapointEntries`, `datasetEntries`,
`readingPeriod`, `readMode`. For a configuration that the import accepts, the
assignments of the import are these entries, decoded one by one.
-/

namespace Iec61850South

open Lib

/-! ## The checks, when they pass -/

/-- A test passes exactly when its condition holds. -/
theorem ensure_eq_ok {condition : Bool} {msg : String} {u : Unit} :
    ensure condition msg = .ok u ↔ condition = true := by
  cases condition <;> simp [ensure]

/-- A test that fails throws its own message. -/
theorem ensure_eq_error {condition : Bool} {msg : String} {e : ImportStop} :
    ensure condition msg = .error e ↔
      condition = false ∧ e = .configurationException msg := by
  cases condition <;> simp [ensure, eq_comm]

/-- `HasMember` asks an object only. -/
theorem hasMember_eq_ok {v : Json} {name : String} {b : Bool} :
    v.hasMember name = .ok b ↔ v.isObject = true ∧ (v.member? name).isSome = b := by
  cases v <;> simp [Json.hasMember, Json.isObject, Json.member?]

/-- `operator[]` gives a member that is there. -/
theorem at'_eq_ok {v m : Json} {name : String} :
    v.at' name = .ok m ↔ v.member? name = some m := by
  rw [Json.at']
  cases v.member? name <;> simp

/-- `GetString` gives the characters before the first null. -/
theorem getString_eq_ok {v : Json} {s : String} :
    v.getString = .ok s ↔ ∃ text, v = .string text ∧ Json.cString text = s := by
  cases v <;> simp [Json.getString]

/-- `GetArray` gives the elements of an array. -/
theorem getArray_eq_ok {v : Json} {elements : List Json} :
    v.getArray = .ok elements ↔ v = .array elements := by
  cases v <;> simp [Json.getArray]

/-- `GetInt` gives an integer of 32 bits. -/
theorem getInt_eq_ok {v : Json} {n : Int} :
    v.getInt = .ok n ↔ v = .integer n ∧ v.isInt = true := by
  cases v with
  | integer m =>
    rw [Json.getInt]
    by_cases h : (Json.integer m).isInt = true
    · simp [h]
    · simp only [h, Bool.false_eq_true, if_false, reduceCtorEq, Json.integer.injEq, false_iff,
        not_and]
      simp
  | _ => simp [Json.getInt]

/-- A member that has to be there, with its type. -/
theorem mandatory_eq_ok {v m : Json} {name notFound badFormat : String} {isType : Json → Bool} :
    mandatory v name isType notFound badFormat = .ok m ↔
      v.member? name = some m ∧ isType m = true := by
  simp only [mandatory, except_bind_eq_ok, ensure_eq_ok, hasMember_eq_ok, at'_eq_ok,
    except_pure_eq_ok]
  constructor
  · rintro ⟨_, ⟨_, _⟩, _, rfl, m', hm, _, htype, rfl⟩
    exact ⟨hm, htype⟩
  · rintro ⟨hm, htype⟩
    exact ⟨true, ⟨Json.isObject_of_member? hm, by simp [hm]⟩, (), rfl, m, hm, (), htype, rfl⟩

/-- A member that may be missing, but not be of another type. -/
theorem optional_eq_ok {α : Type} {v : Json} {name badFormat : String} {isType : Json → Bool}
    {absent a : α} {read : Json → Except ImportStop α} :
    optional v name isType badFormat absent read = .ok a ↔
      v.isObject = true ∧
        ((v.member? name = none ∧ a = absent) ∨
          ∃ m, v.member? name = some m ∧ isType m = true ∧ read m = .ok a) := by
  simp only [optional, except_bind_eq_ok, hasMember_eq_ok]
  constructor
  · rintro ⟨b, ⟨hobj, hb⟩, h⟩
    refine ⟨hobj, ?_⟩
    cases hm : v.member? name with
    | none =>
      simp only [hm, Option.isSome_none] at hb
      simp only [← hb, Bool.false_eq_true, if_false, except_pure_eq_ok] at h
      exact Or.inl ⟨rfl, h.symm⟩
    | some m =>
      simp only [hm, Option.isSome_some] at hb
      simp only [← hb, if_true, except_bind_eq_ok, at'_eq_ok, ensure_eq_ok] at h
      rcases h with ⟨m', hm', _, htype, hread⟩
      rw [hm] at hm'
      cases hm'
      exact Or.inr ⟨m, rfl, htype, hread⟩
  · rintro ⟨hobj, ⟨hm, rfl⟩ | ⟨m, hm, htype, hread⟩⟩
    · exact ⟨false, ⟨hobj, by simp [hm]⟩, by simp⟩
    · refine ⟨true, ⟨hobj, by simp [hm]⟩, ?_⟩
      simp only [if_true, except_bind_eq_ok, at'_eq_ok, ensure_eq_ok]
      exact ⟨m, hm, (), htype, hread⟩

/-- A member that has to be an object. -/
theorem objectMember_eq_ok {v m : Json} {name msg : String} :
    objectMember v name msg = .ok m ↔ v.member? name = some m ∧ m.isObject = true :=
  mandatory_eq_ok

/-! ## The entries of a configuration -/

variable (plat : Platform)

/-- The value found by following member names from the document of an item. -/
def documentValue (newConfig : ConfigCategory) (item : String) (path : List String) :
    Option Json :=
  ((newConfig.getValue? item).bind plat.parse).bind fun document =>
    path.foldlM Json.member? document

/-- The elements of an array in the document of an item. -/
def documentArray (newConfig : ConfigCategory) (item : String) (path : List String) :
    List Json :=
  match documentValue plat newConfig item path with
  | some (.array elements) => elements
  | _ => []

/-- The connections of the transport layer. -/
def connectionEntries (newConfig : ConfigCategory) : List Json :=
  documentArray plat newConfig "protocol_stack"
    ["protocol_stack", "transport_layer", "connections"]

/-- The datapoints of the exchanged data. -/
def datapointEntries (newConfig : ConfigCategory) : List Json :=
  documentArray plat newConfig "exchanged_data" ["exchanged_data", "datapoints"]

/-- The datasets of the exchanged datasets. -/
def datasetEntries (newConfig : ConfigCategory) : List Json :=
  documentArray plat newConfig "exchanged_datasets" ["exchanged_datasets", "datasets"]

/-- The text of a string member. -/
def stringMember (v : Json) (name : String) : Option String :=
  match v.member? name with
  | some (.string s) => some (Json.cString s)
  | _ => none

/-- The key of a connection entry: its address and its port. -/
def entryKey (connConfig : Json) : Option String :=
  match stringMember connConfig "srv_ip", connConfig.member? "port" with
  | some srvIp, some (.integer port) => some (srvIp ++ "_" ++ toString port)
  | _, _ => none

/-- The `reading_period` of a configuration, if it gives one. -/
def readingPeriod (newConfig : ConfigCategory) : Option UInt32 :=
  match documentValue plat newConfig "protocol_stack"
      ["protocol_stack", "application_layer", "reading_period"] with
  | some (.integer n) => some (toUnsigned n)
  | _ => none

/-- The `read_mode` of a configuration, if it gives one. -/
def readMode (newConfig : ConfigCategory) : Option ReadMode :=
  match documentValue plat newConfig "protocol_stack"
      ["protocol_stack", "application_layer", "read_mode"] with
  | some (.string s) =>
    some (if Json.cString s = "dataset" then .DATASET_READING else .DO_READING)
  | _ => none

/-- The keys of the connections that a configuration lists. -/
def connectionKeys (newConfig : ConfigCategory) : List String :=
  (connectionEntries plat newConfig).filterMap entryKey

/-- The references of the datasets that a configuration lists. -/
def datasetRefs (newConfig : ConfigCategory) : List String :=
  (datasetEntries plat newConfig).filterMap fun d => stringMember d "dataset_ref"

/-- The name of the IED that a configuration gives. -/
def iedName (newConfig : ConfigCategory) : Option String :=
  match documentValue plat newConfig "protocol_stack"
      ["protocol_stack", "transport_layer", "ied_name"] with
  | some (.string s) => some (Json.cString s)
  | _ => none

/-- The connection has been read as `param`, from the memory of one of the
connections of the import. -/
def ConnectionRead (connConfig : Json) (param : ServerConnectionParameters) : Prop :=
  ∃ n, connectionOf (plat.uninit n) connConfig = .ok param

/-! ## The assignments of an accepted configuration -/

/-- The import of the configuration into a fresh object returns. -/
def Accepted (newConfig : ConfigCategory) : Prop :=
  ∃ c, importConfig plat newConfig {} = .ok ⟨⟩ c

variable {plat} {newConfig : ConfigCategory}

/-- An accepted configuration is one that the import does not stop at. -/
theorem accepted_iff : Accepted plat newConfig ↔ (configAssignments plat newConfig).stop = none := by
  simp only [Accepted, importConfig_run]
  cases h : (configAssignments plat newConfig).stop with
  | none => simp [Emission.result_of_go h]
  | some e => simp [Emission.result_of_stop h]

/-- Whether a configuration is accepted does not depend on what is stored. -/
theorem Accepted.run (h : Accepted plat newConfig) (c : IEC61850ClientConfig) :
    importConfig plat newConfig c =
      .ok ⟨⟩ (assignAll c (configAssignments plat newConfig).out) := by
  rw [importConfig_run, Emission.result_of_go (accepted_iff.mp h)]

/-- An import that returns has accepted the configuration and carried out its assignments. -/
theorem importConfig_eq_ok {c₀ c : IEC61850ClientConfig}
    (h : importConfig plat newConfig c₀ = .ok ⟨⟩ c) :
    Accepted plat newConfig ∧ c = assignAll c₀ (configAssignments plat newConfig).out := by
  rw [importConfig_run] at h
  cases hstop : (configAssignments plat newConfig).stop with
  | none =>
    rw [Emission.result_of_go hstop] at h
    cases h
    exact ⟨accepted_iff.mpr hstop, rfl⟩
  | some e =>
    rw [Emission.result_of_stop hstop] at h
    cases h

/-- The OSI section leaves the key of the connection. -/
theorem importJsonConnectionOsiConfig_key {connOsiConfig : Json}
    {iedConnectionParam param : ServerConnectionParameters}
    (h : importJsonConnectionOsiConfig connOsiConfig iedConnectionParam = .ok param) :
    buildKey param = buildKey iedConnectionParam := by
  simp only [importJsonConnectionOsiConfig, except_bind_eq_ok, except_pure_eq_ok] at h
  rcases h with ⟨_, _, _, _, _, _, _, _, _, _, _, _, rfl⟩
  rfl

/-- A decoded connection is stored under the key of its entry. -/
theorem connectionOf_key {uninit : OsiParameters} {connConfig : Json}
    {param : ServerConnectionParameters} (h : connectionOf uninit connConfig = .ok param) :
    entryKey connConfig = some (buildKey param) := by
  simp only [connectionOf, except_bind_eq_ok, mandatory_eq_ok, getString_eq_ok, getInt_eq_ok] at h
  obtain ⟨_, _, _, ⟨hip, _⟩, _, ⟨hport, _⟩, _, ⟨text, rfl, rfl⟩, _, _, port, ⟨rfl, _⟩, b, _, h⟩ := h
  rw [entryKey, stringMember, hip, hport]
  cases b with
  | false =>
    simp only [Bool.false_eq_true, if_false, except_pure_eq_ok] at h
    subst h
    rfl
  | true =>
    simp only [if_true, except_bind_eq_ok] at h
    rcases h with ⟨_, _, hosi⟩
    rw [importJsonConnectionOsiConfig_key hosi]
    rfl

/-- A connection is stored under its own address and port. -/
theorem ConnectionRead.key {connConfig : Json} {param : ServerConnectionParameters}
    (h : ConnectionRead plat connConfig param) : entryKey connConfig = some (buildKey param) := by
  rcases h with ⟨n, hdecode⟩
  exact connectionOf_key hdecode

/-- A decoded dataset is stored under the reference of its entry. -/
theorem datasetOf_ref {jsonDatasetConfig : Json} {dataset : String × ExchangedData}
    (h : datasetOf plat jsonDatasetConfig = .ok dataset) :
    stringMember jsonDatasetConfig "dataset_ref" = some dataset.1 := by
  simp only [datasetOf, except_bind_eq_ok, mandatory_eq_ok, getString_eq_ok,
    except_pure_eq_ok] at h
  rcases h with ⟨_, _, _, ⟨href, _⟩, _, ⟨text, rfl, rfl⟩, _, _, _, _, rfl⟩
  rw [stringMember, href]

theorem sectionArray_eq_ok {text sectionName arrayName e₁ e₂ e₃ e₄ : String}
    {elements : List Json} :
    sectionArray plat text sectionName arrayName e₁ e₂ e₃ e₄ = .ok elements ↔
      (plat.parse text).bind (fun document => [sectionName, arrayName].foldlM Json.member? document)
        = some (.array elements) := by
  rw [sectionArray]
  cases plat.parse text with
  | none => simp
  | some document =>
    simp only [except_bind_eq_ok, ensure_eq_ok, objectMember_eq_ok, mandatory_eq_ok,
      getArray_eq_ok, Option.bind_some, List.foldlM_cons, List.foldlM_nil,
      Option.bind_eq_bind, Option.bind_eq_some_iff]
    constructor
    · rintro ⟨_, _, jsonSection, ⟨hs, _⟩, v, ⟨hv, _⟩, rfl⟩
      exact ⟨jsonSection, hs, _, hv, rfl⟩
    · rintro ⟨jsonSection, hs, v, hv, hpure⟩
      cases hpure
      exact ⟨(), Json.isObject_of_member? hs, jsonSection, ⟨hs, Json.isObject_of_member? hv⟩,
        _, ⟨hv, rfl⟩, rfl⟩

/-- An accepted optional section lists its decoded elements. -/
theorem optionalSection_of_go {item sectionName arrayName e₁ e₂ e₃ e₄ : String} {α : Type}
    {decode : Json → Except ImportStop α} {put : α → Assignment}
    (h : (optionalItemAssignments (newConfig.getValue? item) fun text =>
      Emission.after (sectionArray plat text sectionName arrayName e₁ e₂ e₃ e₄) fun elements =>
        .seqAll (elements.map fun x => .after (decode x) fun a => .emit (put a))).stop = none) :
    ∃ as, List.Forall₂ (fun x a => decode x = .ok a)
        (documentArray plat newConfig item [sectionName, arrayName]) as ∧
      (optionalItemAssignments (newConfig.getValue? item) fun text =>
        Emission.after (sectionArray plat text sectionName arrayName e₁ e₂ e₃ e₄) fun elements =>
          .seqAll (elements.map fun x => .after (decode x) fun a => .emit (put a))).out =
        as.map put := by
  cases hitem : newConfig.getValue? item with
  | none =>
    refine ⟨[], ?_, rfl⟩
    rw [documentArray, documentValue, hitem]
    exact .nil
  | some text =>
    rw [hitem] at h
    rcases Emission.after_stop_eq_none.mp h with ⟨elements, hok, hgo⟩
    have harray : documentArray plat newConfig item [sectionName, arrayName] = elements := by
      rw [documentArray, documentValue, hitem, Option.bind_some, sectionArray_eq_ok.mp hok]
    rcases Emission.seqAll_decode_of_go hgo with ⟨as, has, hout⟩
    refine ⟨as, harray ▸ has, ?_⟩
    rw [optionalItemAssignments, hok]
    exact hout

theorem readingPeriodOf_eq_ok {applicationLayer : Json} {period : Option UInt32}
    (h : readingPeriodOf applicationLayer = .ok period) :
    period = match applicationLayer.member? "reading_period" with
      | some (.integer n) => some (toUnsigned n)
      | _ => none := by
  rcases optional_eq_ok.mp h with ⟨_, ⟨hm, rfl⟩ | ⟨m, hm, _, hread⟩⟩
  · rw [hm]
  · rcases except_bind_eq_ok.mp hread with ⟨n, hn, hpure⟩
    rcases getInt_eq_ok.mp hn with ⟨rfl, _⟩
    rw [hm, ← except_pure_eq_ok.mp hpure]

theorem readModeOf_eq_ok {applicationLayer : Json} {mode : Option ReadMode}
    (h : readModeOf applicationLayer = .ok mode) :
    mode = match applicationLayer.member? "read_mode" with
      | some (.string s) =>
        some (if Json.cString s = "dataset" then .DATASET_READING else .DO_READING)
      | _ => none := by
  rcases optional_eq_ok.mp h with ⟨_, ⟨hm, rfl⟩ | ⟨m, hm, _, hread⟩⟩
  · rw [hm]
  · rcases except_bind_eq_ok.mp hread with ⟨s, hs, hpure⟩
    rcases getString_eq_ok.mp hs with ⟨text, rfl, rfl⟩
    rw [hm, ← except_pure_eq_ok.mp hpure]

theorem protocolHeader_eq_ok {text : String} {protocolStack : Json} :
    protocolHeader plat text = .ok protocolStack ↔
      (plat.parse text).bind (fun document => document.member? "protocol_stack") =
        some protocolStack ∧ protocolStack.isObject = true := by
  rw [protocolHeader]
  cases plat.parse text with
  | none => simp
  | some document =>
    simp only [except_bind_eq_ok, ensure_eq_ok, objectMember_eq_ok, Option.bind_some]
    constructor
    · rintro ⟨_, _, hstack⟩
      exact hstack
    · intro hstack
      exact ⟨(), Json.isObject_of_member? hstack.1, hstack⟩

theorem transportLayerHeader_eq_ok {transportLayer : Json} {iedName : String}
    {connections : List Json} :
    transportLayerHeader transportLayer = .ok (iedName, connections) ↔
      stringMember transportLayer "ied_name" = some iedName ∧
        transportLayer.member? "connections" = some (.array connections) := by
  simp only [transportLayerHeader, except_bind_eq_ok, mandatory_eq_ok, getString_eq_ok,
    getArray_eq_ok, except_pure_eq_ok, stringMember]
  constructor
  · rintro ⟨_, ⟨hname, _⟩, _, ⟨hconns, _⟩, _, ⟨text, rfl, rfl⟩, _, rfl, heq⟩
    cases heq
    rw [hname]
    exact ⟨rfl, hconns⟩
  · rintro ⟨hname, hconns⟩
    split at hname
    · next text hm =>
      cases hname
      exact ⟨_, ⟨hm, rfl⟩, _, ⟨hconns, rfl⟩, _, ⟨text, rfl, rfl⟩, _, rfl, rfl⟩
    · cases hname

/-- Member names are followed from the `protocol_stack` object on. -/
theorem documentValue_protocolStack {text : String} {protocolStack : Json}
    (hitem : newConfig.getValue? "protocol_stack" = some text)
    (hheader : protocolHeader plat text = .ok protocolStack) (path : List String) :
    documentValue plat newConfig "protocol_stack" ("protocol_stack" :: path) =
      path.foldlM Json.member? protocolStack := by
  have hstack := (protocolHeader_eq_ok.mp hheader).1
  rcases Option.bind_eq_some_iff.mp hstack with ⟨document, hparse, hmember⟩
  simp [documentValue, hitem, hparse, hmember]

/-- The accepted transport layer: the name of the IED, and the decoded connections. -/
theorem transportAssignments_of_go {transportLayer : Json}
    (h : (transportAssignments plat transportLayer).stop = none) :
    ∃ iedName connections params,
      stringMember transportLayer "ied_name" = some iedName ∧
      transportLayer.member? "connections" = some (.array connections) ∧
      List.Forall₂ (ConnectionRead plat) connections params ∧
      (transportAssignments plat transportLayer).out = .iedName iedName :: params.map .server := by
  rcases Emission.after_stop_eq_none.mp h with ⟨header, hhead, hconn⟩
  rcases Emission.seqAll_decode_of_go ((Emission.seq_stop_eq_none.mp hconn).2) with
    ⟨params, hparams, hout⟩
  rcases transportLayerHeader_eq_ok.mp hhead with ⟨hname, hconnections⟩
  -- the index of a connection only says which memory it finds
  have hread : List.Forall₂ (ConnectionRead plat) (header.2.zipIdx.map Prod.fst) params :=
    List.forall₂_map_left_iff.mpr (hparams.imp fun conn _ hdecode => ⟨conn.2, hdecode⟩)
  rw [List.zipIdx_map_fst] at hread
  refine ⟨header.1, header.2, params, hname, hconnections, hread, ?_⟩
  rw [transportAssignments, hhead, Emission.after_ok, Emission.seq_of_go rfl]
  exact congrArg (List.cons _) hout

/-- The accepted application layer: what it gives. -/
theorem applicationAssignments_of_go {applicationLayer : Json}
    (h : (applicationAssignments applicationLayer).stop = none) :
    ∃ period mode, readingPeriodOf applicationLayer = .ok period ∧
      readModeOf applicationLayer = .ok mode ∧
      (applicationAssignments applicationLayer).out =
        (period.map .readPollingPeriod).toList ++ (mode.map .readMode).toList := by
  rcases Emission.after_stop_eq_none.mp h with ⟨period, hperiod, hrest⟩
  obtain ⟨mode, hmode, _⟩ := Emission.after_stop_eq_none.mp (Emission.seq_stop_eq_none.mp hrest).2
  refine ⟨period, mode, hperiod, hmode, ?_⟩
  rw [applicationAssignments, hperiod, hmode]
  rfl

/-- The accepted protocol section: the name of the IED, the decoded connections
and what the application layer gives. -/
theorem protocolSection_of_go
    (h : (protocolStackItemAssignments plat (newConfig.getValue? "protocol_stack")).stop = none) :
    ∃ name params, iedName plat newConfig = some name ∧
      List.Forall₂ (ConnectionRead plat) (connectionEntries plat newConfig) params ∧
      (protocolStackItemAssignments plat (newConfig.getValue? "protocol_stack")).out =
        .iedName name :: params.map .server ++
          ((readingPeriod plat newConfig).map .readPollingPeriod).toList ++
          ((readMode plat newConfig).map .readMode).toList := by
  cases hitem : newConfig.getValue? "protocol_stack" with
  | none =>
    rw [hitem] at h
    simp [protocolStackItemAssignments] at h
  | some text =>
    rw [hitem] at h
    rcases Emission.after_stop_eq_none.mp h with ⟨protocolStack, hheader, hgo⟩
    rcases Emission.after_stop_eq_none.mp hgo with ⟨transportLayer, htransport, hgo⟩
    rcases Emission.seq_stop_eq_none.mp hgo with ⟨hgo, happ⟩
    rcases Emission.after_stop_eq_none.mp happ with ⟨applicationLayer, happlication, happgo⟩
    rcases transportAssignments_of_go hgo with
      ⟨name, connections, params, hname, hconns, hparams, hout⟩
    rcases applicationAssignments_of_go happgo with ⟨period, mode, hperiod, hmode, happOut⟩
    -- the path of member names that the checks have followed
    have hvalue := documentValue_protocolStack hitem hheader
    have hentries : connectionEntries plat newConfig = connections := by
      rw [connectionEntries, documentArray, hvalue]
      simp [(objectMember_eq_ok.mp htransport).1, hconns]
    have hname' : iedName plat newConfig = some name := by
      rw [iedName, hvalue, ← hname, stringMember]
      simp [(objectMember_eq_ok.mp htransport).1]
    have hperiod' : readingPeriod plat newConfig = period := by
      rw [readingPeriodOf_eq_ok hperiod, readingPeriod, hvalue]
      simp [(objectMember_eq_ok.mp happlication).1]
    have hmode' : readMode plat newConfig = mode := by
      rw [readModeOf_eq_ok hmode, readMode, hvalue]
      simp [(objectMember_eq_ok.mp happlication).1]
    refine ⟨name, params, hname', hentries ▸ hparams, ?_⟩
    rw [protocolStackItemAssignments, protocolAssignments, hheader, Emission.after_ok, htransport,
      Emission.after_ok, Emission.seq_of_go hgo, happlication, Emission.after_ok, hout, happOut,
      hperiod', hmode']
    simp

/-- An accepted configuration assigns its plain items, and then its entries,
each decoded, in the order in which they are listed. -/
theorem Accepted.assignments (h : Accepted plat newConfig) :
    ∃ name params dpConfigs datasets, iedName plat newConfig = some name ∧
      List.Forall₂ (ConnectionRead plat) (connectionEntries plat newConfig) params ∧
      List.Forall₂ (fun x d => datapointOf plat x = .ok d) (datapointEntries plat newConfig)
        dpConfigs ∧
      List.Forall₂ (fun x d => datasetOf plat x = .ok d) (datasetEntries plat newConfig)
        datasets ∧
      (configAssignments plat newConfig).out =
        itemAssignments newConfig ++
          ((.iedName name :: params.map .server ++
            ((readingPeriod plat newConfig).map .readPollingPeriod).toList ++
            ((readMode plat newConfig).map .readMode).toList) ++
          (dpConfigs.map .datapoint ++ datasets.map fun d => .dataset d.1 d.2)) := by
  have hgo := accepted_iff.mp h
  rw [configAssignments, Emission.seq_stop_eq_none, Emission.seq_stop_eq_none,
    Emission.seq_stop_eq_none] at hgo
  rcases hgo with ⟨hitems, hprotocol, hdata, hdatasets⟩
  rcases protocolSection_of_go hprotocol with ⟨name, params, hname, hparams, hout⟩
  rcases optionalSection_of_go hdata with ⟨dpConfigs, hdps, hdataOut⟩
  rcases optionalSection_of_go hdatasets with ⟨datasets, hds, hdatasetsOut⟩
  refine ⟨name, params, dpConfigs, datasets, hname, hparams, hdps, hds, ?_⟩
  have hdata' : (optionalItemAssignments (newConfig.getValue? "exchanged_data")
      (exchangedDataAssignments plat)).out = dpConfigs.map .datapoint := hdataOut
  have hdatasets' : (optionalItemAssignments (newConfig.getValue? "exchanged_datasets")
      (exchangedDatasetsAssignments plat)).out = datasets.map fun d => .dataset d.1 d.2 :=
    hdatasetsOut
  rw [configAssignments, Emission.seq_of_go hitems, Emission.seq_of_go hprotocol,
    Emission.seq_of_go hdata]
  simp only [hout, hdata', hdatasets']

end Iec61850South
