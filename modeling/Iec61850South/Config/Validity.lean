import Iec61850South.Config.Assertions
import Iec61850South.Config.Endpoints

/-! # Which configurations are valid

What the three documents of a configuration have to contain for the import to return,
member by member and text by text. Nothing else matters: neither what the object holds
nor any other member, and of an item that is not there nothing is asked, unless it is
the protocol stack.
-/

namespace Iec61850South

open Lib

/-! ## Members -/

namespace Json

/-- The member is there, and it is as it should be. -/
def Has (v : Json) (name : String) (P : Json → Prop) : Prop :=
  ∃ m, v.member? name = some m ∧ P m

/-- If the member is there, then it is as it should be. -/
def MayHave (v : Json) (name : String) (P : Json → Prop) : Prop :=
  ∀ m, v.member? name = some m → P m

/-- A string with such a text. -/
def IsText (P : String → Prop) (v : Json) : Prop :=
  ∃ s, v = .string s ∧ P (cString s)

/-- An array of such elements. -/
def IsList (P : Json → Prop) (v : Json) : Prop :=
  ∃ elements, v = .array elements ∧ ∀ x ∈ elements, P x

end Json

/-! ## Valid entries -/

/-- As many byte numerals as fit, whatever stands behind the digits of each. -/
def ValidSelector (capacity : Nat) (text : String) : Prop :=
  (tokens text.toList).length ≤ capacity ∧ ∀ token ∈ tokens text.toList, StartsWithByte token

/-- Digits, dots and commas: the import turns commas into dots. -/
def ValidApTitle (text : String) : Prop :=
  ∀ c ∈ text.toList, c.isDigit = true ∨ c = '.' ∨ c = ','

/-- A dotted decimal IPv4 address. -/
def ValidAddress (text : String) : Prop :=
  ∃ octets, octets.length = 4 ∧ text = dottedDecimal octets

/-- The OSI section of a connection, each member of which may be missing. -/
structure ValidOsi (connOsiConfig : Json) : Prop where
  isObject : connOsiConfig.isObject = true
  aeQualifiers : ∀ name ∈ ["local_ae_qualifier", "remote_ae_qualifier"],
    connOsiConfig.MayHave name fun m => m.isInt = true
  apTitles : ∀ name ∈ ["local_ap_title", "remote_ap_title"],
    connOsiConfig.MayHave name (Json.IsText ValidApTitle)
  selectors : ∀ name : SelectorName,
    connOsiConfig.MayHave name.member (Json.IsText (ValidSelector name.capacity))

/-- A connection that the import takes. -/
structure ValidConnection (connConfig : Json) : Prop where
  srvIp : connConfig.Has "srv_ip" (Json.IsText ValidAddress)
  port : connConfig.Has "port" fun m => m.isInt = true
  osi : connConfig.MayHave "osi" ValidOsi

/-- All protocols of a datapoint, also those that the plugin has no use for. -/
def ValidProtocol (datapointProtocolConfig : Json) : Prop :=
  ∀ name ∈ ["name", "typeid", "address"],
    datapointProtocolConfig.Has name fun m => m.isString = true

/-- A datapoint that the import takes. -/
structure ValidDatapoint (jsonDatapointConfig : Json) : Prop where
  label : jsonDatapointConfig.Has "label" fun m => m.isString = true
  protocols : jsonDatapointConfig.Has "protocols" (Json.IsList ValidProtocol)

/-- A dataset that the import takes. -/
structure ValidDataset (jsonDatasetConfig : Json) : Prop where
  datasetRef : jsonDatasetConfig.Has "dataset_ref" (Json.IsText (· ≠ ""))
  /-- Only an array is looked into. -/
  dataObjects : jsonDatasetConfig.MayHave "data_objects" fun m => ∀ dataObjects, m = .array dataObjects →
    ∀ jsonDataObject ∈ dataObjects, ∀ name ∈ ["label", "doName", "typeid"],
      jsonDataObject.Has name fun m => m.isString = true

/-- A configuration that the import takes. -/
structure ValidConfig (plat : Platform) (newConfig : ConfigCategory) : Prop where
  iedName : ∃ name, documentValue plat newConfig "protocol_stack"
    ["protocol_stack", "transport_layer", "ied_name"] = some (.string name)
  connections : ∃ connections, documentValue plat newConfig "protocol_stack"
      ["protocol_stack", "transport_layer", "connections"] = some (.array connections) ∧
    ∀ connConfig ∈ connections, ValidConnection connConfig
  applicationLayer : ∃ members, documentValue plat newConfig "protocol_stack"
    ["protocol_stack", "application_layer"] = some (.object members)
  readingPeriod : ∀ m, documentValue plat newConfig "protocol_stack"
    ["protocol_stack", "application_layer", "reading_period"] = some m → m.isInt = true
  readMode : ∀ m, documentValue plat newConfig "protocol_stack"
    ["protocol_stack", "application_layer", "read_mode"] = some m → m.isString = true
  exchangedData : newConfig.getValue? "exchanged_data" = none ∨
    ∃ datapoints, documentValue plat newConfig "exchanged_data" ["exchanged_data", "datapoints"] =
        some (.array datapoints) ∧
      ∀ jsonDatapointConfig ∈ datapoints, ValidDatapoint jsonDatapointConfig
  exchangedDatasets : newConfig.getValue? "exchanged_datasets" = none ∨
    ∃ datasets, documentValue plat newConfig "exchanged_datasets"
        ["exchanged_datasets", "datasets"] = some (.array datasets) ∧
      ∀ jsonDatasetConfig ∈ datasets, ValidDataset jsonDatasetConfig

/-! ## Texts -/

/-- What passes `IsString` is a string. -/
theorem isString_iff {v : Json} : v.isString = true ↔ ∃ s, v = .string s := by
  cases v <;> simp [Json.isString]

/-- A text whose accessor succeeds is a text. -/
theorem getString_isOk_of {v : Json} {P : String → Prop} :
    (v.isString = true ∧ ∃ s, v.getString = .ok s ∧ P s) ↔ v.IsText P := by
  constructor
  · rintro ⟨_, s, hs, hP⟩
    rcases getString_eq_ok.mp hs with ⟨text, rfl, rfl⟩
    exact ⟨text, rfl, hP⟩
  · rintro ⟨text, rfl, hP⟩
    exact ⟨rfl, _, rfl, hP⟩

/-- The test of an AP title looks at its characters only, not at its arcs. -/
theorem readApTitle_isOk_iff {notValid : String} {member : Json} :
    (member.isString = true ∧ ∃ title, readApTitle notValid member = .ok title) ↔
      member.IsText ValidApTitle := by
  -- commas are turned into dots, and all dots are left out of the test
  have htitle : ∀ s : String,
      (((s.toList.map fun c => if c = ',' then '.' else c).filter (· ≠ '.')).all Char.isDigit = true) ↔
        ValidApTitle s := by
    intro s
    rw [List.all_eq_true]
    constructor
    · intro h c hc
      by_cases hcomma : c = ','
      · exact .inr (.inr hcomma)
      · by_cases hdot : c = '.'
        · exact .inr (.inl hdot)
        · refine .inl (h c (List.mem_filter.mpr ⟨List.mem_map.mpr ⟨c, hc, if_neg hcomma⟩, ?_⟩))
          simpa using hdot
    · intro h d hd
      rcases List.mem_filter.mp hd with ⟨hd, hdot⟩
      rcases List.mem_map.mp hd with ⟨c, hc, rfl⟩
      rcases h c hc with hdigit | rfl | rfl
      · by_cases hcomma : c = ','
        · simp [hcomma] at hdot
        · rw [if_neg hcomma]
          exact hdigit
      · simp at hdot
      · simp at hdot
  rw [← getString_isOk_of]
  refine and_congr_right fun _ => ?_
  simp only [readApTitle, except_bind_eq_ok, ensure_eq_ok, except_pure_eq_ok, htitle]
  constructor
  · rintro ⟨_, s, hs, _, hvalid, _⟩
    exact ⟨s, hs, hvalid⟩
  · rintro ⟨s, hs, hvalid⟩
    exact ⟨_, s, hs, (), hvalid, rfl⟩

/-- A text decodes if it has few enough tokens, all of which start with a byte. -/
theorem validSelector_iff {capacity : Nat} {text : String} :
    ValidSelector capacity text ↔ ∃ bytes, TextBytes text bytes ∧ bytes.length ≤ capacity := by
  have hread : ∀ token ∈ tokens text.toList,
      (StartsWithByte token ↔ ∃ b : UInt8, readToken token = .ok b.toNat) := by
    intro token htoken
    rw [startsWithByte_iff (mem_tokens_iff.mp htoken)]
    constructor
    · rintro ⟨n, hn⟩
      have hle : n ≤ 255 := (readToken_eq_ok.mp hn).2
      refine ⟨UInt8.ofNat n, ?_⟩
      rw [UInt8.toNat_ofNat_of_lt' (by show n < 256; omega)]
      exact hn
    · rintro ⟨b, hb⟩
      exact ⟨_, hb⟩
  constructor
  · rintro ⟨hfew, hstart⟩
    have hall : ∀ token ∈ tokens text.toList, ∃ b : UInt8, readToken token = .ok b.toNat :=
      fun token htoken => (hread token htoken).mp (hstart token htoken)
    rcases exists_forall₂ hall with ⟨bytes, hbytes⟩
    exact ⟨bytes, hbytes, by rw [← hbytes.length_eq]; exact hfew⟩
  · rintro ⟨bytes, hbytes, hfit⟩
    refine ⟨by rw [List.Forall₂.length_eq hbytes]; exact hfit, ?_⟩
    intro token htoken
    rcases exists_of_forall₂ (List.Forall₂.flip hbytes) htoken with ⟨b, _, hb⟩
    exact (hread token htoken).mpr ⟨b, hb⟩

/-! ## Connections -/

/-- An optional member is checked only if it is there. -/
theorem optional_isOk_iff_mayHave {α : Type} {v : Json} {name badFormat : String}
    {isType : Json → Bool} {absent : α} {read : Json → Except ImportStop α} {P : Json → Prop}
    (hread : ∀ m, (isType m = true ∧ ∃ a, read m = .ok a) ↔ P m) :
    (∃ a, optional v name isType badFormat absent read = .ok a) ↔
      v.isObject = true ∧ v.MayHave name P := by
  simp only [optional_eq_ok]
  constructor
  · rintro ⟨a, hobj, ⟨hm, _⟩ | ⟨m, hm, htype, hok⟩⟩
    · refine ⟨hobj, fun m' hm' => ?_⟩
      rw [hm] at hm'
      cases hm'
    · refine ⟨hobj, fun m' hm' => ?_⟩
      rw [hm] at hm'
      cases hm'
      exact (hread m).mp ⟨htype, a, hok⟩
  · rintro ⟨hobj, hmember⟩
    cases hm : v.member? name with
    | none => exact ⟨absent, hobj, .inl ⟨rfl, rfl⟩⟩
    | some m =>
      rcases (hread m).mpr (hmember m hm) with ⟨htype, a, ha⟩
      exact ⟨a, hobj, .inr ⟨m, rfl, htype, ha⟩⟩

/-- `GetInt` succeeds on each integer that has passed `IsInt`. -/
theorem getInt_isOk_iff (m : Json) : (m.isInt = true ∧ ∃ n, m.getInt = .ok n) ↔ m.isInt = true := by
  refine ⟨And.left, fun h => ⟨h, ?_⟩⟩
  rcases Json.getInt_of_isInt h with ⟨n, _, hn⟩
  exact ⟨n, hn⟩

/-- The AP titles and AE qualifiers, each of which may be missing. -/
theorem readTitles_isOk_iff {connOsiConfig : Json} (hobj : connOsiConfig.isObject = true)
    (osiParams : OsiParameters) : (∃ titles, readTitles connOsiConfig osiParams = .ok titles) ↔
      (∀ name ∈ ["local_ae_qualifier", "remote_ae_qualifier"],
        connOsiConfig.MayHave name fun m => m.isInt = true) ∧
      ∀ name ∈ ["local_ap_title", "remote_ap_title"],
        connOsiConfig.MayHave name (Json.IsText ValidApTitle) := by
  have hqualifier : ∀ (name badFormat : String) (old : Int),
      (∃ n, optional connOsiConfig name Json.isInt badFormat old Json.getInt = .ok n) ↔
        connOsiConfig.MayHave name fun m => m.isInt = true := by
    intro name badFormat old
    rw [optional_isOk_iff_mayHave getInt_isOk_iff, and_iff_right hobj]
  have htitle : ∀ (name badFormat notValid old : String),
      (∃ title, optional connOsiConfig name Json.isString badFormat old (readApTitle notValid) =
        .ok title) ↔ connOsiConfig.MayHave name (Json.IsText ValidApTitle) := by
    intro name badFormat notValid old
    rw [optional_isOk_iff_mayHave fun _ => readApTitle_isOk_iff, and_iff_right hobj]
  simp only [List.forall_mem_cons, List.not_mem_nil, false_implies, implies_true, and_true, readTitles,
    except_bind_eq_ok, except_pure_eq_ok]
  constructor
  · rintro ⟨_, n, hn, n', hn', t, ht, t', ht', _⟩
    exact ⟨⟨(hqualifier _ _ _).mp ⟨n, hn⟩, (hqualifier _ _ _).mp ⟨n', hn'⟩⟩,
      (htitle _ _ _ _).mp ⟨t, ht⟩, (htitle _ _ _ _).mp ⟨t', ht'⟩⟩
  · rintro ⟨⟨hn, hn'⟩, ht, ht'⟩
    rcases (hqualifier _ _ _).mpr hn with ⟨n, hn⟩
    rcases (hqualifier _ _ _).mpr hn' with ⟨n', hn'⟩
    rcases (htitle _ _ _ _).mpr ht with ⟨t, ht⟩
    rcases (htitle _ _ _ _).mpr ht' with ⟨t', ht'⟩
    exact ⟨_, n, hn, n', hn', t, ht, t', ht', rfl⟩

/-- A selector that is given has to be a text of few enough bytes. -/
theorem exists_selectorRead_iff {capacity : Nat} {connOsiConfig : Json} {member : String}
    (old : OsiSelector capacity) :
    (∃ new, SelectorRead connOsiConfig member old new) ↔
      connOsiConfig.MayHave member (Json.IsText (ValidSelector capacity)) := by
  constructor
  · rintro ⟨new, ⟨hnone, _⟩ | ⟨text, bytes, hm, hbytes, hfit, _⟩⟩
    · intro m hm
      rw [hnone] at hm
      cases hm
    · intro m hm'
      rw [hm] at hm'
      cases hm'
      exact ⟨text, rfl, validSelector_iff.mpr ⟨bytes, hbytes, hfit⟩⟩
  · intro h
    cases hm : connOsiConfig.member? member with
    | none => exact ⟨old, .inl ⟨hm, rfl⟩⟩
    | some m =>
      rcases h m hm with ⟨text, rfl, hvalid⟩
      rcases validSelector_iff.mp hvalid with ⟨bytes, hbytes, hfit⟩
      exact ⟨_, .inr ⟨text, bytes, hm, hbytes, hfit, rfl⟩⟩

/-- The import of an OSI section succeeds on the valid ones. -/
theorem importJsonConnectionOsiConfig_isOk_iff {connOsiConfig : Json}
    (iedConnectionParam : ServerConnectionParameters) :
    (∃ param, importJsonConnectionOsiConfig connOsiConfig iedConnectionParam = .ok param) ↔
      ValidOsi connOsiConfig := by
  simp only [importJsonConnectionOsiConfig_eq_ok]
  constructor
  · rintro ⟨_, hobj, titles, selectors, htitles, hread, _⟩
    have htitles := (readTitles_isOk_iff hobj _).mp ⟨titles, htitles⟩
    exact ⟨hobj, htitles.1, htitles.2,
      fun name => (exists_selectorRead_iff _).mp ⟨_, hread name⟩⟩
  · intro h
    rcases (readTitles_isOk_iff h.isObject _).mpr ⟨h.aeQualifiers, h.apTitles⟩ with
      ⟨titles, htitles⟩
    choose selectors hread using fun name => (exists_selectorRead_iff
      (iedConnectionParam.osiParameters.selector name)).mpr (h.selectors name)
    exact ⟨_, h.isObject, titles, selectors, htitles, hread, rfl⟩

/-- The address and the port come first, and neither may be missing. -/
theorem connectionHeader_isOk_iff {connConfig : Json} :
    (∃ header, connectionHeader connConfig = .ok header) ↔
      connConfig.Has "srv_ip" (Json.IsText ValidAddress) ∧
        connConfig.Has "port" fun m => m.isInt = true := by
  simp only [connectionHeader, except_bind_eq_ok, mandatory_eq_ok, getString_eq_ok, ensure_eq_ok,
    except_pure_eq_ok]
  constructor
  · rintro ⟨_, _, _, srvIp, ⟨hip, _⟩, port, ⟨hport, htype⟩, _, ⟨text, rfl, rfl⟩, _, hvalid, _⟩
    exact ⟨⟨_, hip, text, rfl, isValidIPAddress_iff_dotted.mp hvalid⟩, port, hport, htype⟩
  · rintro ⟨⟨srvIp, hip, text, rfl, hvalid⟩, port, hport, htype⟩
    rcases Json.getInt_of_isInt htype with ⟨n, _, hn⟩
    exact ⟨_, (), Json.isObject_of_member? hip, _, ⟨hip, rfl⟩, port, ⟨hport, htype⟩, _,
      ⟨text, rfl, rfl⟩, (), isValidIPAddress_iff_dotted.mpr hvalid, n, hn, rfl⟩

/-- The import of a connection succeeds on the valid ones, whatever the memory held. -/
theorem connectionOf_isOk_iff {uninit : OsiParameters} {connConfig : Json} :
    (∃ param, connectionOf uninit connConfig = .ok param) ↔ ValidConnection connConfig := by
  cases hosi : connConfig.member? "osi" with
  | some connOsiConfig =>
    simp only [connectionOf_eq_ok hosi]
    constructor
    · rintro ⟨param, header, hheader, himport⟩
      rcases connectionHeader_isOk_iff.mp ⟨header, hheader⟩ with ⟨hip, hport⟩
      refine ⟨hip, hport, fun m hm => ?_⟩
      rw [hosi] at hm
      cases hm
      exact (importJsonConnectionOsiConfig_isOk_iff _).mp ⟨param, himport⟩
    · intro h
      rcases connectionHeader_isOk_iff.mpr ⟨h.srvIp, h.port⟩ with ⟨header, hheader⟩
      rcases (importJsonConnectionOsiConfig_isOk_iff (connectionStart uninit header)).mpr
        (h.osi _ hosi) with ⟨param, himport⟩
      exact ⟨param, header, hheader, himport⟩
  | none =>
    constructor
    · rintro ⟨param, hparam⟩
      rcases (connectionOf_eq_ok_of_none hosi).mp hparam with ⟨header, hheader, _⟩
      rcases connectionHeader_isOk_iff.mp ⟨header, hheader⟩ with ⟨hip, hport⟩
      refine ⟨hip, hport, fun m hm => ?_⟩
      rw [hosi] at hm
      cases hm
    · intro h
      rcases connectionHeader_isOk_iff.mpr ⟨h.srvIp, h.port⟩ with ⟨header, hheader⟩
      exact ⟨_, (connectionOf_eq_ok_of_none hosi).mpr ⟨header, hheader, rfl⟩⟩

/-! ## Datapoints and datasets -/

variable (plat : Platform)

/-- Any text is a typeid. -/
theorem setDatapointType_isOk {jsonConfig : Json} (dpConfig : DatapointConfig)
    (h : jsonConfig.Has "typeid" fun m => m.isString = true) :
    ∃ dpConfig', setDatapointType plat jsonConfig dpConfig = .ok dpConfig' := by
  rcases h with ⟨m, hm, hstring⟩
  rcases isString_iff.mp hstring with ⟨text, rfl⟩
  rw [setDatapointType, at'_eq_ok.mpr hm]
  simp only [Json.getString, bind, Except.bind]
  split_ifs
  · exact ⟨_, rfl⟩
  · exact ⟨_, rfl⟩
  · exact ⟨_, rfl⟩

/-- The import of a protocol succeeds on the valid ones, also where the name is another
one's. -/
theorem importJsonDatapointProtocolConfig_isOk_iff (dpConfig : DatapointConfig)
    (datapointProtocolConfig : Json) :
    (∃ dpConfig', importJsonDatapointProtocolConfig plat dpConfig datapointProtocolConfig =
      .ok dpConfig') ↔ ValidProtocol datapointProtocolConfig := by
  simp only [ValidProtocol, List.forall_mem_cons, List.not_mem_nil, false_implies, implies_true,
    and_true, importJsonDatapointProtocolConfig, except_bind_eq_ok, ensure_eq_ok, mandatory_eq_ok]
  constructor
  · rintro ⟨_, _, _, name, hname, typeid, htypeid, address, haddress, _⟩
    exact ⟨⟨name, hname⟩, ⟨typeid, htypeid⟩, address, haddress⟩
  · rintro ⟨⟨name, hname, hstring⟩, htypeid, address, haddress, hstring'⟩
    rcases isString_iff.mp hstring with ⟨nameText, rfl⟩
    rcases isString_iff.mp hstring' with ⟨addressText, rfl⟩
    rcases setDatapointType_isOk plat
      { dpConfig with dataPath := Json.cString addressText } htypeid with ⟨dpConfig', hset⟩
    rcases htypeid with ⟨typeid, htypeid⟩
    by_cases hother : Json.cString nameText ≠ IEC61850_PROTOCOL_NAME
    · refine ⟨dpConfig, (), Json.isObject_of_member? hname, _, ⟨hname, rfl⟩, typeid, htypeid, _,
        ⟨haddress, rfl⟩, _, rfl, ?_⟩
      rw [if_pos hother]
      rfl
    · refine ⟨dpConfig', (), Json.isObject_of_member? hname, _, ⟨hname, rfl⟩, typeid, htypeid, _,
        ⟨haddress, rfl⟩, _, rfl, ?_⟩
      rw [if_neg hother]
      exact except_bind_eq_ok.mpr ⟨_, rfl, hset⟩

/-- The import of a datapoint succeeds on the valid ones. -/
theorem datapointOf_isOk_iff {jsonDatapointConfig : Json} :
    (∃ dpConfig, datapointOf plat jsonDatapointConfig = .ok dpConfig) ↔
      ValidDatapoint jsonDatapointConfig := by
  simp only [datapointOf, except_bind_eq_ok, ensure_eq_ok, mandatory_eq_ok, getArray_eq_ok]
  constructor
  · rintro ⟨dpConfig, _, _, label, hlabel, _, _, protocols, ⟨hprotocols, _⟩, elements, rfl, hfold⟩
    refine ⟨⟨label, hlabel⟩, _, hprotocols, elements, rfl, ?_⟩
    exact (except_foldlM_isOk (importJsonDatapointProtocolConfig_isOk_iff plat) elements _).mp ⟨_, hfold⟩
  · rintro ⟨⟨label, hlabel, hstring⟩, _, hprotocols, elements, rfl, hvalid⟩
    rcases isString_iff.mp hstring with ⟨text, rfl⟩
    rcases (except_foldlM_isOk (importJsonDatapointProtocolConfig_isOk_iff plat) elements
      { label := Json.cString text }).mpr hvalid with ⟨dpConfig, hfold⟩
    exact ⟨dpConfig, (), Json.isObject_of_member? hlabel, _, ⟨hlabel, rfl⟩, _, rfl, _,
      ⟨hprotocols, rfl⟩, elements, rfl, hfold⟩

/-- A member that is read as a string has to be one. -/
theorem stringMember_isSome_iff {v : Json} {name : String} :
    (stringMember v name).isSome = true ↔ v.Has name fun m => m.isString = true := by
  rw [stringMember]
  constructor
  · intro h
    cases hm : v.member? name with
    | none => rw [hm] at h; cases h
    | some m =>
      rw [hm] at h
      cases m with
      | string text => exact ⟨_, hm, rfl⟩
      | _ => cases h
  · rintro ⟨m, hm, hstring⟩
    rcases isString_iff.mp hstring with ⟨text, rfl⟩
    rw [hm]
    rfl

/-- The import of a dataset succeeds on the valid ones. -/
theorem datasetOf_isOk_iff {jsonDatasetConfig : Json} :
    (∃ dataset, datasetOf plat jsonDatasetConfig = .ok dataset) ↔ ValidDataset jsonDatasetConfig := by
  have href : hasRef jsonDatasetConfig ↔
      jsonDatasetConfig.Has "dataset_ref" (Json.IsText (· ≠ "")) := by
    constructor
    · rintro ⟨datasetRef, href, hne⟩
      rcases stringMember_eq_some.mp href with ⟨text, hm, rfl⟩
      exact ⟨_, hm, text, rfl, hne⟩
    · rintro ⟨_, hm, text, rfl, hne⟩
      exact ⟨_, stringMember_eq_some.mpr ⟨text, hm, rfl⟩, hne⟩
  have hobject : ∀ jsonDataObject : Json, wellTyped jsonDataObject = true ↔
      ∀ name ∈ ["label", "doName", "typeid"],
        jsonDataObject.Has name fun m => m.isString = true := by
    intro jsonDataObject
    rw [wellTyped, List.all_eq_true]
    exact forall₂_congr fun name _ => stringMember_isSome_iff
  rw [datasetOf_ok_iff, href]
  simp only [hobject]
  constructor
  · rintro ⟨href, hobjects⟩
    refine ⟨href, ?_⟩
    rintro m hm dataObjects rfl
    rw [dataObjectsOf, hm] at hobjects
    exact hobjects
  · intro h
    refine ⟨h.datasetRef, ?_⟩
    rw [dataObjectsOf]
    -- a member that is no array counts as an empty list
    cases hm : jsonDatasetConfig.member? "data_objects" with
    | none => simp
    | some m =>
      cases m with
      | array dataObjects => exact h.dataObjects _ hm dataObjects rfl
      | _ => simp

/-! ## The whole configuration -/

variable {plat} {newConfig : ConfigCategory}

/-- A section that the category may lack: its array is imported when each element is valid.
-/
theorem optionalSection_go_iff {item sectionName arrayName e₁ e₂ e₃ e₄ : String} {α : Type}
    {decode : Json → Except ImportStop α} {put : α → Assignment} {P : Json → Prop}
    (hdecode : ∀ x, (∃ a, decode x = .ok a) ↔ P x) :
    (optionalItemAssignments (newConfig.getValue? item) fun text =>
      Emission.after (sectionArray plat text sectionName arrayName e₁ e₂ e₃ e₄) fun elements =>
        .seqAll (elements.map fun x => .after (decode x) fun a => .emit (put a))).stop = none ↔
      newConfig.getValue? item = none ∨
        ∃ elements, documentValue plat newConfig item [sectionName, arrayName] =
          some (.array elements) ∧ ∀ x ∈ elements, P x := by
  unfold documentValue
  cases newConfig.getValue? item with
  | none => simp [optionalItemAssignments]
  | some text =>
    simp [optionalItemAssignments, Emission.after_stop_eq_none, Emission.seqAll_stop_eq_none,
      sectionArray_eq_ok, hdecode]

/-- **The accepted configurations** are the valid ones, whatever has been imported before. -/
theorem importConfig_returns_iff (newConfig : ConfigCategory) (c : IEC61850ClientConfig) :
    (∃ c', importConfig plat newConfig c = .ok ⟨⟩ c') ↔ ValidConfig plat newConfig := by
  have haccepted : (∃ c', importConfig plat newConfig c = .ok ⟨⟩ c') ↔ Accepted plat newConfig := by
    constructor
    · rintro ⟨c', hc'⟩
      exact (importConfig_eq_ok hc').1
    · intro h
      exact ⟨_, h.run c⟩
  have hdata : (optionalItemAssignments (newConfig.getValue? "exchanged_data")
      (exchangedDataAssignments plat)).stop = none ↔ _ :=
    optionalSection_go_iff fun _ => datapointOf_isOk_iff plat
  have hdatasets : (optionalItemAssignments (newConfig.getValue? "exchanged_datasets")
      (exchangedDatasetsAssignments plat)).stop = none ↔ _ :=
    optionalSection_go_iff fun _ => datasetOf_isOk_iff plat
  rw [haccepted, accepted_iff, configAssignments, Emission.seq_stop_eq_none,
    Emission.seq_stop_eq_none, Emission.seq_stop_eq_none, protocolStack_go_iff, hdata, hdatasets]
  constructor
  · rintro ⟨_, hstack, hdata, hdatasets⟩
    rcases hstack.connections with ⟨connections, hvalue, hconns⟩
    exact ⟨hstack.iedName,
      ⟨connections, hvalue, fun x hx => connectionOf_isOk_iff.mp (hconns x hx (memoryOfSize 0))⟩,
      hstack.applicationLayer, hstack.readingPeriod, hstack.readMode, hdata, hdatasets⟩
  · intro h
    rcases h.connections with ⟨connections, hvalue, hconns⟩
    exact ⟨rfl, ⟨h.iedName,
      ⟨connections, hvalue, fun x hx _ => connectionOf_isOk_iff.mpr (hconns x hx)⟩,
      h.applicationLayer, h.readingPeriod, h.readMode⟩, h.exchangedData, h.exchangedDatasets⟩

end Iec61850South
