import Iec61850South.Config.Fields
import Iec61850South.Config.OsiImport
import Iec61850South.Config.Assertions
import Iec61850South.Config.Polled
import Std.Data.String.ToInt

/-! # The dictionaries of connections and datasets

Both sections fill a map from an array. `buildKey` separates connections with
different addresses or ports, because an accepted address has no underscore; the
last entry of the array with a key is the one that is stored.
-/

namespace Iec61850South

open Lib Std

/-! ## Keys -/

/-- Each round of the loop reads a digit or a dot, or rejects. -/
theorem inetPton4_cons {c : Char} {cs : List Char} {octets : Nat} {sawDigit : Bool} {octet : Nat}
    (h : inetPton4 (c :: cs) octets sawDigit octet = true) :
    c ≠ '_' ∧ ∃ octets' sawDigit' octet', inetPton4 cs octets' sawDigit' octet' = true := by
  unfold inetPton4 at h
  by_cases hdigit : '0' ≤ c ∧ c ≤ '9'
  · rw [if_pos hdigit] at h
    dsimp only at h
    constructor
    · rintro rfl
      exact absurd hdigit.2 (by decide)
    · -- a digit goes on with the number, or starts a new one
      split at h
      · contradiction
      · split at h
        · contradiction
        · split at h
          · exact ⟨_, _, _, h⟩
          · split at h
            · contradiction
            · exact ⟨_, _, _, h⟩
  · rw [if_neg hdigit] at h
    -- what is neither a digit nor a dot behind one is rejected at once
    by_cases hdot : c = '.' ∧ sawDigit = true
    · rw [if_pos hdot] at h
      constructor
      · rw [hdot.1]
        decide
      · split at h
        · contradiction
        · exact ⟨_, _, _, h⟩
    · rw [if_neg hdot] at h
      contradiction

theorem inetPton4_chars {cs : List Char} {octets : Nat} {sawDigit : Bool} {octet : Nat}
    (h : inetPton4 cs octets sawDigit octet = true) : '_' ∉ cs := by
  induction cs generalizing octets sawDigit octet with
  | nil => exact List.not_mem_nil
  | cons c cs ih =>
    rcases inetPton4_cons h with ⟨hne, _, _, _, hrest⟩
    rw [List.mem_cons, not_or]
    exact ⟨hne.symm, ih hrest⟩

theorem isValidIPAddress_chars {addrStr : String} (h : isValidIPAddress addrStr = true) :
    '_' ∉ addrStr.toList :=
  inetPton4_chars h

/-- Two lists that are the same up to the first `a` and behind it. -/
theorem append_cons_inj_of_first {α : Type} [DecidableEq α] {a : α} {before before' after after' : List α}
    (hbefore : a ∉ before) (hbefore' : a ∉ before')
    (h : before ++ a :: after = before' ++ a :: after') : before = before' ∧ after = after' := by
  have hlength : before.length = before'.length := by
    have hfirst := congrArg (List.idxOf a) h
    rwa [List.idxOf_append_of_notMem hbefore, List.idxOf_append_of_notMem hbefore',
      List.idxOf_cons_self, List.idxOf_cons_self] at hfirst
  rcases List.append_inj h hlength with ⟨heq, htail⟩
  exact ⟨heq, (List.cons.inj htail).2⟩

/-- The key of a connection determines its address and its port. -/
theorem buildKey_injective {param param' : ServerConnectionParameters}
    (hip : isValidIPAddress param.ipAddress = true)
    (hip' : isValidIPAddress param'.ipAddress = true) (hkey : buildKey param = buildKey param') :
    param.ipAddress = param'.ipAddress ∧ param.mmsPort = param'.mmsPort := by
  have hchars := congrArg String.toList hkey
  simp only [buildKey, String.toList_append] at hchars
  have hunderscore : "_".toList = ['_'] := rfl
  rw [hunderscore, List.append_assoc, List.append_assoc, List.singleton_append,
    List.singleton_append] at hchars
  rcases append_cons_inj_of_first (isValidIPAddress_chars hip) (isValidIPAddress_chars hip')
    hchars with ⟨haddress, hport⟩
  exact ⟨String.toList_injective haddress, Int.repr_injective (String.toList_injective hport)⟩

/-! ## What an entry says -/

/-- The address and the port of a connection. -/
def entryAddress (connConfig : Json) : Option (String × Int) :=
  match stringMember connConfig "srv_ip", connConfig.member? "port" with
  | some srvIp, some (.integer port) => some (srvIp, port)
  | _, _ => none

/-- The number of an integer member. -/
def intMember (v : Json) (name : String) : Option Int :=
  match v.member? name with
  | some (.integer n) => some n
  | _ => none

/-- A title with a dot for each comma. -/
def dotted (title : String) : String :=
  String.ofList (title.toList.map fun c => if c = ',' then '.' else c)

/-- The `osi` section of a connection; one that is absent gives nothing. -/
def osiSection (connConfig : Json) : Json :=
  (connConfig.member? "osi").getD (.object [])

/-- The titles and qualifiers are those of the section, with the defaults for what it
does not give, and so is every selector that it gives. -/
structure OsiStored (connOsiConfig : Json) (osiParams : OsiParameters) : Prop where
  localAeQualifier : osiParams.localAeQualifier =
    (intMember connOsiConfig "local_ae_qualifier").getD 0
  remoteAeQualifier : osiParams.remoteAeQualifier =
    (intMember connOsiConfig "remote_ae_qualifier").getD 0
  localApTitle : osiParams.localApTitle =
    dotted ((stringMember connOsiConfig "local_ap_title").getD "")
  remoteApTitle : osiParams.remoteApTitle =
    dotted ((stringMember connOsiConfig "remote_ap_title").getD "")
  selectors : ∀ name : SelectorName, (connOsiConfig.member? name.member).isSome = true →
    ∃ text bytes, connOsiConfig.member? name.member = some (.string text) ∧
      TextBytes (Json.cString text) bytes ∧
      (osiParams.selector name).size.toNat = bytes.length ∧
      (osiParams.selector name).bytes = bytes

structure ConnectionStored (connConfig : Json) (param : ServerConnectionParameters) : Prop where
  address : entryAddress connConfig = some (param.ipAddress, param.mmsPort)
  enabled : param.isOsiParametersEnabled = (connConfig.member? "osi").isSome
  osi : OsiStored (osiSection connConfig) param.osiParameters

/-- The label, the name and the type of a data object; a typeid that is not
supported stands for no type. -/
structure DataObjectStored (jsonDataObject : Json) (dpConfig : DatapointConfig) : Prop where
  label : stringMember jsonDataObject "label" = some dpConfig.label
  doName : stringMember jsonDataObject "doName" = some dpConfig.dataPath
  type : ∃ typeid, stringMember jsonDataObject "typeid" = some typeid ∧
    dpConfig.datapointType = ((supportedType? typeid).getD {}).datapointType ∧
    dpConfig.datapointTypeId = ((supportedType? typeid).getD {}).datapointTypeId

structure DatasetStored (jsonDatasetConfig : Json) (selected : ExchangedData) : Prop where
  objects : List.Forall₂ DataObjectStored (dataObjectsOf jsonDatasetConfig) selected
  absent : (∀ dataObjects, jsonDatasetConfig.member? "data_objects" ≠ some (.array dataObjects)) →
    selected = []

/-! ## What a decoded entry holds -/

section Decoded

variable {plat : Platform}

theorem optional_int {v : Json} {name badFormat : String} {old n : Int}
    (h : optional v name Json.isInt badFormat old Json.getInt = .ok n) :
    n = (intMember v name).getD old := by
  unfold intMember
  rcases optional_eq_ok.mp h with ⟨_, ⟨hm, rfl⟩ | ⟨m, hm, _, hread⟩⟩
  · rw [hm]
    rfl
  · rcases getInt_eq_ok.mp hread with ⟨rfl, _⟩
    rw [hm]
    rfl

theorem optional_title {v : Json} {name badFormat notValid title : String}
    (h : optional v name Json.isString badFormat "" (readApTitle notValid) = .ok title) :
    title = dotted ((stringMember v name).getD "") := by
  unfold stringMember
  rcases optional_eq_ok.mp h with ⟨_, ⟨hm, rfl⟩ | ⟨m, hm, _, hread⟩⟩
  · rw [hm]
    rfl
  · simp only [readApTitle, except_bind_eq_ok, getString_eq_ok, except_pure_eq_ok] at hread
    rcases hread with ⟨_, ⟨text, rfl, rfl⟩, _, _, rfl⟩
    rw [hm]
    rfl

/-- A selector that is in the section is read. -/
theorem SelectorRead.stored {name : SelectorName} {connOsiConfig : Json}
    {old new : OsiSelector name.capacity} (h : SelectorRead connOsiConfig name.member old new)
    (hpresent : (connOsiConfig.member? name.member).isSome = true) :
    ∃ text bytes, connOsiConfig.member? name.member = some (.string text) ∧
      TextBytes (Json.cString text) bytes ∧ new.size.toNat = bytes.length ∧
      new.bytes = bytes := by
  rcases h with ⟨hnone, _⟩ | ⟨text, bytes, hm, hbytes, hfit, rfl⟩
  · rw [hnone] at hpresent
    cases hpresent
  · rcases old.written_bytes hfit name.capacity_le with ⟨hsize, hvalue⟩
    exact ⟨text, bytes, hm, hbytes, hsize, hvalue⟩

theorem importJsonConnectionOsiConfig_stored {connOsiConfig : Json} {uninit : OsiParameters}
    {header : String × Int} {param : ServerConnectionParameters}
    (h : importJsonConnectionOsiConfig connOsiConfig (connectionStart uninit header) = .ok param) :
    param.ipAddress = header.1 ∧ param.mmsPort = header.2 ∧
      param.isOsiParametersEnabled = true ∧ OsiStored connOsiConfig param.osiParameters := by
  rcases importJsonConnectionOsiConfig_eq_ok.mp h with
    ⟨_, titles, selectors, htitles, hread, rfl⟩
  refine ⟨rfl, rfl, rfl, ?_⟩
  simp only [readTitles, except_bind_eq_ok, except_pure_eq_ok] at htitles
  rcases htitles with ⟨lq, hlq, rq, hrq, lt, hlt, rt, hrt, rfl⟩
  constructor
  case localAeQualifier => exact optional_int hlq
  case remoteAeQualifier => exact optional_int hrq
  case localApTitle => exact optional_title hlt
  case remoteApTitle => exact optional_title hrt
  case selectors =>
    intro name hpresent
    have hstored := (hread name).stored hpresent
    cases name <;> exact hstored

theorem connectionHeader_eq_ok {connConfig : Json} {header : String × Int}
    (h : connectionHeader connConfig = .ok header) :
    entryAddress connConfig = some header ∧ isValidIPAddress header.1 = true := by
  simp only [connectionHeader, except_bind_eq_ok, mandatory_eq_ok, getString_eq_ok, getInt_eq_ok,
    except_pure_eq_ok, ensure_eq_ok] at h
  obtain ⟨_, _, _, ⟨hip, _⟩, _, ⟨hport, _⟩, _, ⟨text, rfl, rfl⟩, _, hvalid, port, ⟨rfl, _⟩, rfl⟩ := h
  refine ⟨?_, hvalid⟩
  rw [entryAddress, stringMember, hip, hport]

/-- A connection that is accepted is stored as it is written. -/
theorem connectionOf_stored {uninit : OsiParameters} {connConfig : Json}
    {param : ServerConnectionParameters} (h : connectionOf uninit connConfig = .ok param) :
    ConnectionStored connConfig param ∧ isValidIPAddress param.ipAddress = true := by
  cases hosi : connConfig.member? "osi" with
  | none =>
    rcases (connectionOf_eq_ok_of_none hosi).mp h with ⟨header, hheader, rfl⟩
    rcases connectionHeader_eq_ok hheader with ⟨haddress, hvalid⟩
    refine ⟨⟨haddress, by rw [hosi]; rfl, ?_⟩, hvalid⟩
    -- nothing is given, and nothing is read
    rw [osiSection, hosi]
    exact ⟨rfl, rfl, rfl, rfl, fun name hpresent => by cases hpresent⟩
  | some connOsiConfig =>
    rcases (connectionOf_eq_ok hosi).mp h with ⟨header, hheader, himport⟩
    rcases connectionHeader_eq_ok hheader with ⟨haddress, hvalid⟩
    rcases importJsonConnectionOsiConfig_stored himport with ⟨hip, hport, henabled, hstored⟩
    refine ⟨⟨?_, ?_, ?_⟩, ?_⟩
    · rw [haddress, hip, hport]
    · rw [henabled, hosi]
      rfl
    · rw [osiSection, hosi]
      exact hstored
    · rw [hip]
      exact hvalid

/-- The type is set by the typeid alone. -/
theorem setDatapointType_stored {jsonConfig : Json} {dpConfig dpConfig' : DatapointConfig}
    (hdefault : dpConfig.datapointType = "" ∧ dpConfig.datapointTypeId = .UNKNOWN_DATAPOINT_TYPE)
    (h : setDatapointType plat jsonConfig dpConfig = .ok dpConfig') :
    dpConfig'.label = dpConfig.label ∧ dpConfig'.dataPath = dpConfig.dataPath ∧
      ∃ typeid, stringMember jsonConfig "typeid" = some typeid ∧
        dpConfig'.datapointType = ((supportedType? typeid).getD {}).datapointType ∧
        dpConfig'.datapointTypeId = ((supportedType? typeid).getD {}).datapointTypeId := by
  unfold setDatapointType at h
  rcases except_bind_eq_ok.mp h with ⟨m, hm, hread⟩
  rcases except_bind_eq_ok.mp hread with ⟨typeid, htypeid, hset⟩
  rcases getString_eq_ok.mp htypeid with ⟨text, rfl, htext⟩
  have hmember : stringMember jsonConfig "typeid" = some typeid :=
    stringMember_eq_some.mpr ⟨text, at'_eq_ok.mp hm, htext⟩
  unfold supportedType?
  by_cases hsps : typeid = "SPS"
  · rw [if_pos hsps, except_pure_eq_ok] at hset
    subst hset
    exact ⟨rfl, rfl, typeid, hmember, by rw [if_pos hsps]; exact ⟨rfl, rfl⟩⟩
  · by_cases hmv : typeid = "MV"
    · rw [if_neg hsps, if_pos hmv, except_pure_eq_ok] at hset
      subst hset
      exact ⟨rfl, rfl, typeid, hmember, by rw [if_neg hsps, if_pos hmv]; exact ⟨rfl, rfl⟩⟩
    · -- a type that is not supported leaves the defaults
      rw [if_neg hsps, if_neg hmv, except_pure_eq_ok] at hset
      subst hset
      exact ⟨rfl, rfl, typeid, hmember, by rw [if_neg hsps, if_neg hmv]; exact hdefault⟩

theorem dataObjectOf_stored {jsonDataObject : Json} {dpConfig : DatapointConfig}
    (h : dataObjectOf plat jsonDataObject = .ok dpConfig) :
    DataObjectStored jsonDataObject dpConfig := by
  simp only [dataObjectOf, except_bind_eq_ok, getString_eq_ok, at'_eq_ok] at h
  rcases h with ⟨_, _, _, _, _, hlabel, label, ⟨text, rfl, htext⟩, _, _, _, _, _, hdoName, doName,
    ⟨text', rfl, htext'⟩, _, _, _, _, hset⟩
  rcases setDatapointType_stored ⟨rfl, rfl⟩ hset with ⟨hsame, hsame', htype⟩
  constructor
  case label =>
    rw [hsame]
    exact stringMember_eq_some.mpr ⟨text, hlabel, htext⟩
  case doName =>
    rw [hsame']
    exact stringMember_eq_some.mpr ⟨text', hdoName, htext'⟩
  case type => exact htype

/-- A dataset that is accepted is stored as it is written, under a reference. -/
theorem datasetOf_stored {jsonDatasetConfig : Json} {dataset : String × ExchangedData}
    (h : datasetOf plat jsonDatasetConfig = .ok dataset) :
    dataset.1 ≠ "" ∧ DatasetStored jsonDatasetConfig dataset.2 := by
  simp only [datasetOf, except_bind_eq_ok, ensure_eq_ok, except_pure_eq_ok] at h
  rcases h with ⟨_, _, _, _, datasetRef, _, _, hne, selected, hselected, rfl⟩
  have hobjects : List.Forall₂ DataObjectStored (dataObjectsOf jsonDatasetConfig) selected :=
    (except_mapM_forall₂ hselected).imp fun _ _ hdecode => dataObjectOf_stored hdecode
  refine ⟨of_decide_eq_true hne, hobjects, ?_⟩
  intro habsent
  have hnone : dataObjectsOf jsonDatasetConfig = [] := by
    unfold dataObjectsOf
    split
    · next dataObjects hm => exact absurd hm (habsent dataObjects)
    · rfl
  rw [hnone] at hobjects
  cases hobjects
  rfl

end Decoded

/-! ## Both dictionaries -/

section Dictionaries

variable (plat : Platform) (newConfig : ConfigCategory)

/-- Connections of the array with one key have one address and one port. -/
def KeysDistinguish : Prop :=
  ∀ connConfig ∈ connectionEntries plat newConfig,
    ∀ connConfig' ∈ connectionEntries plat newConfig, ∀ uninit uninit' param param',
      connectionOf uninit connConfig = .ok param → connectionOf uninit' connConfig' = .ok param' →
        buildKey param = buildKey param' →
          param.ipAddress = param'.ipAddress ∧ param.mmsPort = param'.mmsPort

/-- One entry for each pair of an address and a port in the array, with what the last
connection with this pair says, and no other entry. -/
structure ServersStored (serverConfigDict : ServerConfigDict) : Prop where
  one : ∀ address ∈ (connectionEntries plat newConfig).filterMap entryAddress,
    ∃! entry, entry ∈ serverConfigDict.toList ∧ (entry.2.ipAddress, entry.2.mmsPort) = address
  last : ∀ entry ∈ serverConfigDict.toList, entry.1 = buildKey entry.2 ∧
    ∃ connConfig, IsLastWith entryAddress (entry.2.ipAddress, entry.2.mmsPort)
        (connectionEntries plat newConfig) connConfig ∧ ConnectionStored connConfig entry.2

/-- One entry for each reference in the array, with what the last dataset with this
reference says, and no other entry. -/
structure DatasetsStored (selectedDOInExchangedDatasets : ExchangedDatasets) : Prop where
  one : ∀ datasetRef ∈ datasetRefs plat newConfig, datasetRef ≠ "" ∧
    ∃! entry, entry ∈ selectedDOInExchangedDatasets.toList ∧ entry.1 = datasetRef
  last : ∀ entry ∈ selectedDOInExchangedDatasets.toList, ∃ jsonDatasetConfig,
    IsLastWith (fun d => stringMember d "dataset_ref") entry.1 (datasetEntries plat newConfig)
        jsonDatasetConfig ∧ DatasetStored jsonDatasetConfig entry.2

variable {plat newConfig}

/-- The key of an entry is that of its address. -/
theorem entryKey_of_entryAddress {connConfig : Json} {ipAddress : String} {mmsPort : Int}
    (h : entryAddress connConfig = some (ipAddress, mmsPort)) :
    entryKey connConfig = some (ipAddress ++ "_" ++ toString mmsPort) := by
  rw [entryAddress] at h
  split at h
  · next hip hport =>
    cases h
    rw [entryKey, hip, hport]
  · cases h

theorem keysDistinguish : KeysDistinguish plat newConfig := by
  intro connConfig _ connConfig' _ _ _ param param' hdecode hdecode' hkey
  exact buildKey_injective (connectionOf_stored hdecode).2 (connectionOf_stored hdecode').2 hkey

/-- What is stored under a key, and which keys there are. -/
theorem Accepted.serverLookup (h : Accepted plat newConfig) {c : IEC61850ClientConfig}
    (hc : c = assignAll {} (configAssignments plat newConfig).out) (key : String) :
    (c.serverConfigDict[key]?.isSome ↔
      ∃ connConfig ∈ connectionEntries plat newConfig, entryKey connConfig = some key) ∧
    ∀ param, c.serverConfigDict[key]? = some param →
      key = buildKey param ∧ isValidIPAddress param.ipAddress = true ∧
        ∃ connConfig, IsLastWith entryAddress (param.ipAddress, param.mmsPort)
          (connectionEntries plat newConfig) connConfig ∧ ConnectionStored connConfig param := by
  rcases h.servers with ⟨params, hparams, hout⟩
  have hkey : ∀ connConfig param, ConnectionRead plat connConfig param →
      entryKey connConfig = some (buildKey param, param).1 := fun _ _ => ConnectionRead.key
  rcases getElem?_of_decoded hkey hparams key with ⟨hkeys, hvalues⟩
  rw [hc, assignAll_serverConfigDict, hout]
  refine ⟨hkeys, ?_⟩
  intro param hparam
  obtain ⟨connConfig, _, ⟨before, after, hsplit, _, hafter⟩, ⟨n, hdecode⟩, heq⟩ :=
    hvalues param hparam
  cases heq
  rcases connectionOf_stored hdecode with ⟨hstored, hvalid⟩
  refine ⟨rfl, hvalid, connConfig, ⟨before, after, hsplit, hstored.address, ?_⟩, hstored⟩
  intro later hlater haddress
  exact hafter later hlater (entryKey_of_entryAddress haddress)

theorem Accepted.serversStored (h : Accepted plat newConfig) {c : IEC61850ClientConfig}
    (hc : c = assignAll {} (configAssignments plat newConfig).out) :
    ServersStored plat newConfig c.serverConfigDict := by
  have hlookup := h.serverLookup hc
  constructor
  case last =>
    rintro ⟨key, param⟩ hentry
    rcases (hlookup key).2 param (ExtTreeMap.mem_toList_iff_getElem?_eq_some.mp hentry) with
      ⟨hkey, _, hlast⟩
    exact ⟨hkey, hlast⟩
  case one =>
    intro address haddress
    rcases List.mem_filterMap.mp haddress with ⟨connConfig, hmem, hentry⟩
    rcases h.servers with ⟨params, hparams, _⟩
    rcases exists_of_forall₂ hparams.flip hmem with ⟨param, _, n, hdecode⟩
    rcases connectionOf_stored hdecode with ⟨hstored, hvalid⟩
    obtain rfl : (param.ipAddress, param.mmsPort) = address :=
      Option.some.inj (hstored.address.symm.trans hentry)
    have hsome := (hlookup (buildKey param)).1.mpr ⟨connConfig, hmem, connectionOf_key hdecode⟩
    rcases Option.isSome_iff_exists.mp hsome with ⟨stored, hstoredAt⟩
    rcases (hlookup (buildKey param)).2 stored hstoredAt with ⟨hkey, hvalid', _⟩
    -- keys tell valid addresses and ports apart
    rcases buildKey_injective hvalid hvalid' hkey with ⟨hip, hport⟩
    refine ⟨(buildKey param, stored), ⟨?_, Prod.ext hip.symm hport.symm⟩, ?_⟩
    · exact ExtTreeMap.mem_toList_iff_getElem?_eq_some.mpr hstoredAt
    · -- an entry with this address is stored under this key
      rintro ⟨key, other⟩ ⟨hother, haddress'⟩
      have hotherAt := ExtTreeMap.mem_toList_iff_getElem?_eq_some.mp hother
      have hotherKey : key = buildKey param := by
        rw [((hlookup key).2 other hotherAt).1, buildKey, buildKey, (Prod.mk.inj haddress').1,
          (Prod.mk.inj haddress').2]
      subst hotherKey
      rw [hstoredAt] at hotherAt
      rw [Option.some.inj hotherAt]

theorem Accepted.datasetsStored (h : Accepted plat newConfig) {c : IEC61850ClientConfig}
    (hc : c = assignAll {} (configAssignments plat newConfig).out) :
    DatasetsStored plat newConfig c.selectedDOInExchangedDatasets := by
  rcases h.datasets with ⟨datasets, hdatasets, hout⟩
  have hkey : ∀ jsonDatasetConfig dataset, datasetOf plat jsonDatasetConfig = .ok dataset →
      stringMember jsonDatasetConfig "dataset_ref" = some (id dataset).1 := fun _ _ => datasetOf_ref
  have hlookup := fun datasetRef => getElem?_of_decoded hkey hdatasets datasetRef
  rw [hc, assignAll_selectedDOInExchangedDatasets, hout]
  rw [List.map_id] at hlookup
  constructor
  case last =>
    rintro ⟨datasetRef, selected⟩ hentry
    obtain ⟨jsonDatasetConfig, dataset, hlast, hdecode, heq⟩ :=
      (hlookup datasetRef).2 selected (ExtTreeMap.mem_toList_iff_getElem?_eq_some.mp hentry)
    cases heq
    exact ⟨jsonDatasetConfig, hlast, (datasetOf_stored hdecode).2⟩
  case one =>
    intro datasetRef href
    rcases List.mem_filterMap.mp href with ⟨jsonDatasetConfig, hmem, hentry⟩
    rcases exists_of_forall₂ hdatasets.flip hmem with ⟨dataset, _, hdecode⟩
    obtain rfl : dataset.1 = datasetRef :=
      Option.some.inj ((datasetOf_ref hdecode).symm.trans hentry)
    have hsome := (hlookup dataset.1).1.mpr ⟨jsonDatasetConfig, hmem, hentry⟩
    rcases Option.isSome_iff_exists.mp hsome with ⟨selected, hselected⟩
    refine ⟨(datasetOf_stored hdecode).1, (dataset.1, selected), ⟨?_, rfl⟩, ?_⟩
    · exact ExtTreeMap.mem_toList_iff_getElem?_eq_some.mpr hselected
    · rintro ⟨ref, other⟩ ⟨hother, rfl⟩
      have hotherAt := ExtTreeMap.mem_toList_iff_getElem?_eq_some.mp hother
      rw [hselected] at hotherAt
      rw [Option.some.inj hotherAt]

/-- **Nothing is lost or confused by the dictionaries** of an accepted configuration:
keys separate connections, and each dictionary has one entry for each key of its
array, from the last element with that key. -/
theorem importConfig_dictionaries {c : IEC61850ClientConfig}
    (h : importConfig plat newConfig {} = .ok ⟨⟩ c) :
    KeysDistinguish plat newConfig ∧ ServersStored plat newConfig c.serverConfigDict ∧
      DatasetsStored plat newConfig c.selectedDOInExchangedDatasets := by
  rcases importConfig_eq_ok h with ⟨haccepted, hc⟩
  exact ⟨keysDistinguish, haccepted.serversStored hc, haccepted.datasetsStored hc⟩

end Dictionaries

/-! ## A configuration with repeated entries -/

def connection (port : Int) (members : List (String × Json)) : Json :=
  .object ([("srv_ip", .string "192.168.0.10"), ("port", .integer port)] ++ members)

def dataset (datasetRef : String) (members : List (String × Json)) : Json :=
  .object (("dataset_ref", .string datasetRef) :: members)

/-- Two connections with one address and one port, and two datasets with one reference. -/
def repeatedPlatform : Platform :=
  .withDocuments
    [("stack", .object [("protocol_stack", .object
        [("transport_layer", .object [("ied_name", .string "IED1"), ("connections", .array
          [connection 102 [], connection (-102) [],
            connection 102 [("osi", .object [("local_ap_title", .string "1,3.9999")])]])]),
          ("application_layer", .object [])])]),
      ("datasets", .object [("exchanged_datasets", .object [("datasets", .array
        [dataset "IED1LD0/LLN0.DS1" [("data_objects", .array [.object
            [("label", .string "TS1"), ("doName", .string "SPSSO1"), ("typeid", .string "SPS")]])],
          dataset "IED1LD0/LLN0.DS1" []])])])]

def repeatedConfig : ConfigCategory :=
  ⟨[("protocol_stack", "stack"), ("exchanged_datasets", "datasets")]⟩

theorem repeated_accepted : importConfig repeatedPlatform repeatedConfig {} =
    .ok ⟨⟩ (finalState (importConfig repeatedPlatform repeatedConfig {})) :=
  eq_ok_of_returned (by decide +kernel)

theorem importConfig_dictionaries_sample :
    KeysDistinguish repeatedPlatform repeatedConfig ∧
      ServersStored repeatedPlatform repeatedConfig
        (finalState (importConfig repeatedPlatform repeatedConfig {})).serverConfigDict ∧
      DatasetsStored repeatedPlatform repeatedConfig
        (finalState (importConfig repeatedPlatform repeatedConfig {})).selectedDOInExchangedDatasets :=
  importConfig_dictionaries repeated_accepted

end Iec61850South
