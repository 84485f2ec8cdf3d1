import Iec61850South.Config.Fields

/-! # The DOs that are polled

A datapoint of `exchanged_data` lists an entry for each protocol that may fetch it.
The import goes through these entries with one record: an entry of another protocol
is ignored, an entry of this one overwrites the path, and its type if the type is
supported. The record is stored at the end, whatever has been written into it.
`polled_from_one_entry_iff` says for which documents it then is what one entry says.
-/

namespace Iec61850South

open Lib

/-! ## Protocol entries -/

/-- The members of a protocol entry. -/
structure ProtocolEntry where
  name : String
  typeid : String
  address : String
deriving DecidableEq, Repr

def protocolEntryOf (datapointProtocolConfig : Json) : Option ProtocolEntry := do
  let name ← stringMember datapointProtocolConfig "name"
  let typeid ← stringMember datapointProtocolConfig "typeid"
  let address ← stringMember datapointProtocolConfig "address"
  return ⟨name, typeid, address⟩

def protocolsOf (jsonDatapointConfig : Json) : List Json :=
  match jsonDatapointConfig.member? "protocols" with
  | some (.array protocols) => protocols
  | _ => []

/-- Those whose name is `"iec61850"`. -/
def iec61850Only (protocols : List Json) : List ProtocolEntry :=
  (protocols.filterMap protocolEntryOf).filter fun entry => entry.name = IEC61850_PROTOCOL_NAME

def iec61850Entries (jsonDatapointConfig : Json) : List ProtocolEntry :=
  iec61850Only (protocolsOf jsonDatapointConfig)

/-! ## Types -/

/-- The members of a `DatapointConfig` that its typeid decides; their defaults are
those of a datapoint of unknown type. -/
structure DatapointType where
  datapointType : String := ""
  datapointTypeId : DatapointTypeId := .UNKNOWN_DATAPOINT_TYPE
  functionalConstraint : FunctionalConstraint := .NONE
deriving DecidableEq, Repr

/-- The type that a typeid stands for, if it is supported. -/
def supportedType? (typeid : String) : Option DatapointType :=
  if typeid = "SPS" then some ⟨"SPS", .SPS_DATAPOINT_TYPE, .ST⟩
  else if typeid = "MV" then some ⟨"MV", .MV_DATAPOINT_TYPE, .MX⟩
  else none

theorem ne_unknown_of_supported {typeid : String} {type : DatapointType}
    (h : supportedType? typeid = some type) : type ≠ {} := by
  unfold supportedType? at h
  split at h
  · cases h
    decide
  · split at h
    · cases h
      decide
    · cases h

namespace DatapointConfig

def type (dpConfig : DatapointConfig) : DatapointType :=
  ⟨dpConfig.datapointType, dpConfig.datapointTypeId, dpConfig.functionalConstraint⟩

/-- What one entry for this protocol does to the record. -/
def fillFrom (dpConfig : DatapointConfig) (entry : ProtocolEntry) : DatapointConfig :=
  match supportedType? entry.typeid with
  | none => { dpConfig with dataPath := entry.address }
  | some type =>
    { dpConfig with
      dataPath := entry.address
      datapointType := type.datapointType
      datapointTypeId := type.datapointTypeId
      functionalConstraint := type.functionalConstraint }

variable (dpConfig : DatapointConfig) (entries : List ProtocolEntry)

theorem fillAll_label : (entries.foldl fillFrom dpConfig).label = dpConfig.label := by
  refine (view_overwritten DatapointConfig.label (fun _ => none) (fun d entry => ?_) dpConfig
    entries).trans ?_
  · unfold fillFrom
    cases supportedType? entry.typeid <;> rfl
  · rw [List.filterMap_none]
    rfl

/-- The path is that of the last entry. -/
theorem fillAll_dataPath : (entries.foldl fillFrom dpConfig).dataPath =
    lastWritten dpConfig.dataPath (entries.map ProtocolEntry.address) := by
  refine (view_overwritten DatapointConfig.dataPath (fun entry => some entry.address)
    (fun d entry => ?_) dpConfig entries).trans ?_
  · unfold fillFrom
    cases supportedType? entry.typeid <;> rfl
  · rw [← List.filterMap_eq_map']

/-- The type is that of the last entry whose type is supported. -/
theorem fillAll_type : (entries.foldl fillFrom dpConfig).type =
    lastWritten dpConfig.type (entries.filterMap fun entry => supportedType? entry.typeid) := by
  refine view_overwritten DatapointConfig.type _ (fun d entry => ?_) dpConfig entries
  unfold fillFrom
  cases supportedType? entry.typeid <;> rfl

end DatapointConfig

/-! ## The loop over the entries -/

variable {plat : Platform}

theorem stringMember_eq_some {v : Json} {name s : String} :
    stringMember v name = some s ↔
      ∃ text, v.member? name = some (.string text) ∧ Json.cString text = s := by
  unfold stringMember
  constructor
  · intro h
    split at h
    · exact ⟨_, ‹_›, Option.some.inj h⟩
    · cases h
  · rintro ⟨text, hm, rfl⟩
    rw [hm]

/-- `setDatapointType` changes the type, and only if it is supported. -/
theorem setDatapointType_fill (hST : plat.FunctionalConstraint_fromString "ST" = .ST)
    (hMX : plat.FunctionalConstraint_fromString "MX" = .MX) {jsonConfig : Json}
    (entry : ProtocolEntry) (htypeid : stringMember jsonConfig "typeid" = some entry.typeid)
    (dpConfig : DatapointConfig) :
    setDatapointType plat jsonConfig { dpConfig with dataPath := entry.address } =
      .ok (dpConfig.fillFrom entry) := by
  rcases stringMember_eq_some.mp htypeid with ⟨text, hm, htext⟩
  have hread : (do (← jsonConfig.at' "typeid").getString) = Except.ok entry.typeid := by
    rw [Json.at'_of_member? hm, ← htext]
    rfl
  unfold setDatapointType DatapointConfig.fillFrom supportedType?
  rw [← bind_assoc, hread, hST, hMX]
  by_cases hsps : entry.typeid = "SPS"
  · simp [hsps, bind, Except.bind, pure, Except.pure]
  · by_cases hmv : entry.typeid = "MV"
    · simp [hmv, bind, Except.bind, pure, Except.pure]
    · simp [hsps, hmv, bind, Except.bind, pure, Except.pure]

/-- A mandatory string. -/
theorem stringMember_of_mandatory {v m : Json} {name notFound badFormat : String}
    (h : mandatory v name Json.isString notFound badFormat = .ok m) :
    ∃ s, m.getString = .ok s ∧ stringMember v name = some s := by
  rcases mandatory_eq_ok.mp h with ⟨hm, hstring⟩
  rcases Json.getString_of_isString hstring with ⟨text, rfl, hget⟩
  exact ⟨_, hget, stringMember_eq_some.mpr ⟨text, hm, rfl⟩⟩

/-- An entry that passes its checks fills the record if it is for this protocol. -/
theorem importJsonDatapointProtocolConfig_fill
    (hST : plat.FunctionalConstraint_fromString "ST" = .ST)
    (hMX : plat.FunctionalConstraint_fromString "MX" = .MX)
    {dpConfig dpConfig' : DatapointConfig} {datapointProtocolConfig : Json}
    (h : importJsonDatapointProtocolConfig plat dpConfig datapointProtocolConfig =
      .ok dpConfig') :
    ∃ entry, protocolEntryOf datapointProtocolConfig = some entry ∧
      dpConfig' =
        if entry.name = IEC61850_PROTOCOL_NAME then dpConfig.fillFrom entry else dpConfig := by
  unfold importJsonDatapointProtocolConfig at h
  rcases except_bind_eq_ok.mp h with ⟨_, _, h⟩
  rcases except_bind_eq_ok.mp h with ⟨nameMember, hname, h⟩
  rcases except_bind_eq_ok.mp h with ⟨typeidMember, htypeid, h⟩
  rcases except_bind_eq_ok.mp h with ⟨addressMember, haddress, h⟩
  rcases stringMember_of_mandatory hname with ⟨name, hgetName, hname⟩
  rcases stringMember_of_mandatory htypeid with ⟨typeid, _, htypeid⟩
  rcases stringMember_of_mandatory haddress with ⟨address, hgetAddress, haddress⟩
  refine ⟨⟨name, typeid, address⟩, ?_, ?_⟩
  · rw [protocolEntryOf, hname, htypeid, haddress]
    rfl
  rw [hgetName] at h
  have h : (if name ≠ IEC61850_PROTOCOL_NAME then pure dpConfig else do
      let dataPath ← addressMember.getString
      setDatapointType plat datapointProtocolConfig { dpConfig with dataPath := dataPath }) =
      Except.ok dpConfig' := h
  -- an entry for another protocol is left alone
  by_cases hiec : name = IEC61850_PROTOCOL_NAME
  · have hfill := setDatapointType_fill hST hMX ⟨name, typeid, address⟩ htypeid dpConfig
    rw [if_neg (by simpa using hiec), hgetAddress] at h
    rw [if_pos hiec]
    exact (Except.ok.inj (hfill.symm.trans h)).symm
  · rw [if_pos hiec] at h
    rw [if_neg hiec]
    exact (Except.ok.inj h).symm

theorem iec61850Only_cons {protocol : Json} {entry : ProtocolEntry}
    (h : protocolEntryOf protocol = some entry) (protocols : List Json) :
    iec61850Only (protocol :: protocols) =
      if entry.name = IEC61850_PROTOCOL_NAME then entry :: iec61850Only protocols
      else iec61850Only protocols := by
  rw [iec61850Only, List.filterMap_cons, h, List.filter_cons]
  simp [iec61850Only]

/-- The whole loop fills the record from the entries for this protocol, in order. -/
theorem importProtocols_fill (hST : plat.FunctionalConstraint_fromString "ST" = .ST)
    (hMX : plat.FunctionalConstraint_fromString "MX" = .MX) {protocols : List Json}
    {dpConfig dpConfig' : DatapointConfig}
    (h : protocols.foldlM (importJsonDatapointProtocolConfig plat) dpConfig = .ok dpConfig') :
    dpConfig' = (iec61850Only protocols).foldl DatapointConfig.fillFrom dpConfig := by
  induction protocols generalizing dpConfig with
  | nil => exact (Except.ok.inj h).symm
  | cons protocol protocols ih =>
    rw [List.foldlM_cons] at h
    rcases except_bind_eq_ok.mp h with ⟨next, hnext, hrest⟩
    rcases importJsonDatapointProtocolConfig_fill hST hMX hnext with ⟨entry, hentry, rfl⟩
    rw [ih hrest, iec61850Only_cons hentry]
    -- an entry for another protocol is neither kept in the list nor used
    by_cases hiec : entry.name = IEC61850_PROTOCOL_NAME
    · rw [if_pos hiec, if_pos hiec, List.foldl_cons]
    · rw [if_neg hiec, if_neg hiec]

/-- What an accepted datapoint is stored as. -/
theorem datapointOf_fill (hST : plat.FunctionalConstraint_fromString "ST" = .ST)
    (hMX : plat.FunctionalConstraint_fromString "MX" = .MX) {jsonDatapointConfig : Json}
    {dpConfig : DatapointConfig} (h : datapointOf plat jsonDatapointConfig = .ok dpConfig) :
    ∃ label, stringMember jsonDatapointConfig "label" = some label ∧
      dpConfig = (iec61850Entries jsonDatapointConfig).foldl DatapointConfig.fillFrom
        { label := label } := by
  unfold datapointOf at h
  rcases except_bind_eq_ok.mp h with ⟨_, _, h⟩
  rcases except_bind_eq_ok.mp h with ⟨labelMember, hlabel, h⟩
  rcases except_bind_eq_ok.mp h with ⟨label, hgetLabel, h⟩
  rcases except_bind_eq_ok.mp h with ⟨protocolsMember, hprotocols, h⟩
  rcases except_bind_eq_ok.mp h with ⟨protocols, hgetArray, h⟩
  rcases stringMember_of_mandatory hlabel with ⟨label', hgetLabel', hlabel⟩
  have hsame : label' = label := Except.ok.inj (hgetLabel'.symm.trans hgetLabel)
  rw [hsame] at hlabel
  have hlist : protocolsOf jsonDatapointConfig = protocols := by
    rw [protocolsOf, (mandatory_eq_ok.mp hprotocols).1, getArray_eq_ok.mp hgetArray]
  refine ⟨label, hlabel, ?_⟩
  rw [iec61850Entries, hlist]
  exact importProtocols_fill hST hMX h

/-! ## One entry -/

/-- The path and the type are those of the entry. -/
def PolledFrom (entry : ProtocolEntry) (dpConfig : DatapointConfig) : Prop :=
  dpConfig.dataPath = entry.address ∧ dpConfig.type = (supportedType? entry.typeid).getD {}

/-- The DOs are those of the datapoints that have an entry for this protocol, in
order, and each of them is what one such entry says. -/
def PolledFromOneEntry (datapoints : List Json) (exchangedData : ExchangedData) : Prop :=
  List.Forall₂ (fun datapoint dpConfig =>
      stringMember datapoint "label" = some dpConfig.label ∧
        ∃ entry ∈ iec61850Entries datapoint, PolledFrom entry dpConfig)
    (datapoints.filter fun datapoint => iec61850Entries datapoint ≠ []) exchangedData

/-- There is an entry, and no typeid is supported or one of the entries has both the
address of the last one and the type of the last one with a supported typeid. -/
def OneEntry (entries : List ProtocolEntry) : Prop :=
  ∃ last, entries.getLast? = some last ∧
    ((∀ entry ∈ entries, supportedType? entry.typeid = none) ∨
      ∃ entry ∈ entries, entry.address = last.address ∧
        ∃ type, supportedType? entry.typeid = some type ∧
          (entries.filterMap fun entry => supportedType? entry.typeid).getLast? = some type)

/-- What the record is filled with comes from one entry. -/
theorem polledFrom_fillAll_iff {entries : List ProtocolEntry} {label : String} :
    (∃ entry ∈ entries, PolledFrom entry (entries.foldl DatapointConfig.fillFrom { label := label }))
      ↔ OneEntry entries := by
  unfold PolledFrom OneEntry
  rw [DatapointConfig.fillAll_dataPath, DatapointConfig.fillAll_type, lastWritten, lastWritten,
    List.getLast?_map]
  cases hlast : entries.getLast? with
  | none =>
    rw [List.getLast?_eq_none_iff] at hlast
    simp [hlast]
  | some last =>
    have hmem : last ∈ entries := List.mem_of_getLast? hlast
    cases htype : (entries.filterMap fun entry => supportedType? entry.typeid).getLast? with
    | none =>
      -- the type is left unknown, whichever entry is taken
      have hnone : ∀ entry ∈ entries, supportedType? entry.typeid = none :=
        List.filterMap_eq_nil_iff.mp (List.getLast?_eq_none_iff.mp htype)
      refine iff_of_true ⟨last, hmem, rfl, ?_⟩ ⟨last, rfl, Or.inl hnone⟩
      rw [hnone last hmem]
      rfl
    | some type =>
      rcases List.mem_filterMap.mp (List.mem_of_getLast? htype) with ⟨source, hsource, hsupported⟩
      constructor
      · rintro ⟨entry, hentry, haddress, heq⟩
        have heq : type = (supportedType? entry.typeid).getD {} := heq
        cases hentryType : supportedType? entry.typeid with
        | none =>
          rw [hentryType] at heq
          exact (ne_unknown_of_supported hsupported heq).elim
        | some other =>
          rw [hentryType, Option.getD_some] at heq
          rw [← heq] at hentryType
          exact ⟨last, rfl, Or.inr ⟨entry, hentry, haddress.symm, type, hentryType, rfl⟩⟩
      · rintro ⟨last', hlast', hnone | ⟨entry, hentry, haddress, other, hother, heq⟩⟩
        · rw [hnone source hsource] at hsupported
          cases hsupported
        · cases hlast'
          cases heq
          refine ⟨entry, hentry, haddress.symm, ?_⟩
          rw [hother]
          rfl

/-! ## The whole document -/

/-- The elements of `datapoints` in a document. -/
def datapointsIn (plat : Platform) (exchangedDataConfig : String) : List Json :=
  match (plat.parse exchangedDataConfig).bind fun document =>
      ["exchanged_data", "datapoints"].foldlM Json.member? document with
  | some (.array datapoints) => datapoints
  | _ => []

/-- An accepted document: each datapoint has been decoded, in order. -/
theorem importJsonExchangedDataConfig_decodes {exchangedDataConfig : String}
    {c : IEC61850ClientConfig}
    (h : importJsonExchangedDataConfig plat exchangedDataConfig {} = .ok ⟨⟩ c) :
    List.Forall₂ (fun datapoint dpConfig => datapointOf plat datapoint = .ok dpConfig)
      (datapointsIn plat exchangedDataConfig) c.exchangedData := by
  rcases importJsonExchangedDataConfig_assigns plat exchangedDataConfig {} with
    ⟨c', hc', hrun, _⟩
  rw [h] at hrun
  cases hstop : (exchangedDataAssignments plat exchangedDataConfig).stop with
  | some e =>
    rw [Emission.result_of_stop hstop] at hrun
    cases hrun
  | none =>
    rw [Emission.result_of_go hstop] at hrun
    cases hrun
    rcases Emission.after_stop_eq_none.mp hstop with ⟨datapoints, hheader, hgo⟩
    rcases Emission.seqAll_decode_of_go hgo with ⟨dpConfigs, hdecode, hout⟩
    have hlist : datapointsIn plat exchangedDataConfig = datapoints := by
      rw [datapointsIn, sectionArray_eq_ok.mp hheader]
    have hdata : c.exchangedData = dpConfigs := by
      have hc' : c = assignAll {} (exchangedDataAssignments plat exchangedDataConfig).out := hc'
      have hout : (exchangedDataAssignments plat exchangedDataConfig).out =
          dpConfigs.map .datapoint := by
        rw [exchangedDataAssignments, hheader]
        exact hout
      rw [hc', assignAll_exchangedData, hout]
      simp [List.filterMap_map, Function.comp_def, Assignment.datapoint?]
    rw [hlist, hdata]
    exact hdecode

theorem OneEntry.ne_nil {entries : List ProtocolEntry} (h : OneEntry entries) : entries ≠ [] := by
  rcases h with ⟨last, hlast, _⟩
  rintro rfl
  cases hlast

/-- The DO of one datapoint. -/
theorem polledFrom_iff_of_decoded (hST : plat.FunctionalConstraint_fromString "ST" = .ST)
    (hMX : plat.FunctionalConstraint_fromString "MX" = .MX) {datapoint : Json}
    {dpConfig : DatapointConfig} (h : datapointOf plat datapoint = .ok dpConfig) :
    (stringMember datapoint "label" = some dpConfig.label ∧
        ∃ entry ∈ iec61850Entries datapoint, PolledFrom entry dpConfig) ↔
      OneEntry (iec61850Entries datapoint) := by
  rcases datapointOf_fill hST hMX h with ⟨label, hlabel, rfl⟩
  rw [DatapointConfig.fillAll_label, hlabel, and_iff_right rfl]
  exact polledFrom_fillAll_iff

theorem polledFromOneEntry_iff_of_decoded
    (hST : plat.FunctionalConstraint_fromString "ST" = .ST)
    (hMX : plat.FunctionalConstraint_fromString "MX" = .MX) {datapoints : List Json}
    {exchangedData : ExchangedData}
    (h : List.Forall₂ (fun datapoint dpConfig => datapointOf plat datapoint = .ok dpConfig)
      datapoints exchangedData) :
    PolledFromOneEntry datapoints exchangedData ↔
      ∀ datapoint ∈ datapoints, OneEntry (iec61850Entries datapoint) := by
  unfold PolledFromOneEntry
  constructor
  · intro hpolled datapoint hmem
    -- every datapoint is stored, so none of them may be left out
    have hlength : (datapoints.filter fun datapoint => iec61850Entries datapoint ≠ []).length =
        datapoints.length := hpolled.length_eq.trans h.length_eq.symm
    rw [List.filter_eq_self.mpr (List.length_filter_eq_length_iff.mp hlength)] at hpolled
    have hboth := List.Forall₂.mp (fun _ _ hdecode hone => And.intro hdecode hone) h hpolled
    rcases exists_of_forall₂ hboth.flip hmem with ⟨dpConfig, _, hdecode, hone⟩
    exact (polledFrom_iff_of_decoded hST hMX hdecode).mp hone
  · intro hall
    have hself : (datapoints.filter fun datapoint => iec61850Entries datapoint ≠ []) =
        datapoints := by
      rw [List.filter_eq_self]
      intro datapoint hmem
      simpa using (hall datapoint hmem).ne_nil
    rw [hself]
    have hboth := (List.forall₂_and_left _ _).mpr ⟨hall, h⟩
    exact hboth.imp fun datapoint dpConfig ⟨hone, hdecode⟩ =>
      (polledFrom_iff_of_decoded hST hMX hdecode).mpr hone

/-- **Every DO polled comes from one protocol entry** exactly when the entries of
each datapoint for this protocol amount to one. -/
theorem polled_from_one_entry_iff (hST : plat.FunctionalConstraint_fromString "ST" = .ST)
    (hMX : plat.FunctionalConstraint_fromString "MX" = .MX) {exchangedDataConfig : String}
    {c : IEC61850ClientConfig}
    (haccepted : importJsonExchangedDataConfig plat exchangedDataConfig {} = .ok ⟨⟩ c) :
    PolledFromOneEntry (datapointsIn plat exchangedDataConfig) c.exchangedData ↔
      ∀ datapoint ∈ datapointsIn plat exchangedDataConfig,
        OneEntry (iec61850Entries datapoint) :=
  polledFromOneEntry_iff_of_decoded hST hMX (importJsonExchangedDataConfig_decodes haccepted)

/-! ## A document with two doubtful datapoints -/

def protocol (name typeid address : String) : Json :=
  .object [("name", .string name), ("typeid", .string typeid), ("address", .string address)]

def datapoint (label : String) (protocols : List Json) : Json :=
  .object [("label", .string label), ("protocols", .array protocols)]

def exchangedDataDocument (datapoints : List Json) : Json :=
  .object [("exchanged_data", .object [("datapoints", .array datapoints)])]

/-- One that this plugin has nothing to do with, and one with two entries. -/
def doubtfulDatapoints : List Json :=
  [datapoint "TS1" [protocol "iec104" "M_SP_TB_1" "45-672"],
    datapoint "TS2" [protocol "iec61850" "SPS" "IED1LD0/GGIO1.SPSSO1",
      protocol "iec61850" "DPS" "IED1LD0/GGIO1.DPCSO1"]]

def doubtfulPlatform : Platform :=
  .withDocuments [("doubtful", exchangedDataDocument doubtfulDatapoints)]

theorem doubtful_accepted :
    importJsonExchangedDataConfig doubtfulPlatform "doubtful" {} =
      .ok ⟨⟩ (finalState (importJsonExchangedDataConfig doubtfulPlatform "doubtful" {})) :=
  eq_ok_of_returned (by decide +kernel)

theorem polled_from_one_entry_iff_sample :
    PolledFromOneEntry (datapointsIn doubtfulPlatform "doubtful")
        (finalState (importJsonExchangedDataConfig doubtfulPlatform "doubtful" {})).exchangedData ↔
      ∀ datapoint ∈ datapointsIn doubtfulPlatform "doubtful",
        OneEntry (iec61850Entries datapoint) :=
  polled_from_one_entry_iff rfl rfl doubtful_accepted

/-- The first datapoint is polled under no path at all, and the second one under
the path of one entry with the type of the other. -/
theorem entries_are_mixed :
    ∃ c, importJsonExchangedDataConfig doubtfulPlatform "doubtful" {} = .ok ⟨⟩ c ∧
      c.exchangedData.map (fun dpConfig => (dpConfig.label, dpConfig.dataPath, dpConfig.type)) =
        [("TS1", "NOT_DEFINED", {}),
          ("TS2", "IED1LD0/GGIO1.DPCSO1", ⟨"SPS", .SPS_DATAPOINT_TYPE, .ST⟩)] ∧
      ¬ PolledFromOneEntry (datapointsIn doubtfulPlatform "doubtful") c.exchangedData := by
  refine ⟨_, doubtful_accepted, by decide +kernel, ?_⟩
  rw [polledFromOneEntry_iff_of_decoded rfl rfl
    (importJsonExchangedDataConfig_decodes doubtful_accepted)]
  intro hall
  have hone := hall (datapoint "TS1" [protocol "iec104" "M_SP_TB_1" "45-672"])
    List.mem_cons_self
  exact hone.ne_nil rfl

end Iec61850South
