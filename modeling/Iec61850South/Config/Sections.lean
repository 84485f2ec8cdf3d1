import Iec61850South.Config.OsiImport

/-! # When a section is valid

Which documents the import gets past, section by section, in terms of what is in
them: the members that it asks for are there and have the right types, and every
connection and every datapoint passes its own checks.
-/

namespace Iec61850South

open Lib

variable {plat : Platform} {newConfig : ConfigCategory}

/-! ## Optional members -/

theorem optional_isOk_iff {α : Type} {v : Json} {name badFormat : String} {isType : Json → Bool}
    {absent : α} {read : Json → Except ImportStop α}
    (hread : ∀ m, isType m = true → ∃ a, read m = .ok a) :
    (∃ a, optional v name isType badFormat absent read = .ok a) ↔
      v.isObject = true ∧ ∀ m, v.member? name = some m → isType m = true := by
  simp only [optional_eq_ok]
  constructor
  · rintro ⟨a, hobj, ⟨hm, _⟩ | ⟨m, hm, htype, _⟩⟩
    · exact ⟨hobj, by simp [hm]⟩
    · exact ⟨hobj, by simpa [hm] using htype⟩
  · rintro ⟨hobj, hmember⟩
    cases hm : v.member? name with
    | none => exact ⟨absent, hobj, .inl ⟨rfl, rfl⟩⟩
    | some m =>
      rcases hread m (hmember m hm) with ⟨a, ha⟩
      exact ⟨a, hobj, .inr ⟨m, rfl, hmember m hm, ha⟩⟩

theorem readingPeriodOf_isOk_iff {applicationLayer : Json} :
    (∃ period, readingPeriodOf applicationLayer = .ok period) ↔ applicationLayer.isObject = true ∧
      ∀ m, applicationLayer.member? "reading_period" = some m → m.isInt = true := by
  apply optional_isOk_iff
  intro m hm
  rcases Json.getInt_of_isInt hm with ⟨n, _, hget⟩
  rw [hget]
  exact ⟨_, rfl⟩

theorem readModeOf_isOk_iff {applicationLayer : Json} :
    (∃ mode, readModeOf applicationLayer = .ok mode) ↔ applicationLayer.isObject = true ∧
      ∀ m, applicationLayer.member? "read_mode" = some m → m.isString = true := by
  apply optional_isOk_iff
  intro m hm
  rcases Json.getString_of_isString hm with ⟨s, _, hget⟩
  rw [hget]
  exact ⟨_, rfl⟩

/-! ## The protocol stack -/

variable (plat newConfig) in
/-- The protocol stack has what the import asks for, and nothing of another type. -/
structure ProtocolStackValid : Prop where
  iedName : ∃ name, documentValue plat newConfig "protocol_stack"
    ["protocol_stack", "transport_layer", "ied_name"] = some (.string name)
  connections : ∃ connections, documentValue plat newConfig "protocol_stack"
      ["protocol_stack", "transport_layer", "connections"] = some (.array connections) ∧
    ∀ connConfig ∈ connections, ∀ uninit, ∃ param, connectionOf uninit connConfig = .ok param
  applicationLayer : ∃ members, documentValue plat newConfig "protocol_stack"
    ["protocol_stack", "application_layer"] = some (.object members)
  readingPeriod : ∀ m, documentValue plat newConfig "protocol_stack"
    ["protocol_stack", "application_layer", "reading_period"] = some m → m.isInt = true
  readMode : ∀ m, documentValue plat newConfig "protocol_stack"
    ["protocol_stack", "application_layer", "read_mode"] = some m → m.isString = true

/-- The memory that each connection of the array finds does not matter. -/
theorem connections_go_iff {connections : List Json} :
    (Emission.seqAll (connections.zipIdx.map fun conn =>
        connectionAssignments (plat.uninit conn.2) conn.1)).stop = none ↔
      ∀ connConfig ∈ connections, ∀ uninit,
        ∃ param, connectionOf uninit connConfig = .ok param := by
  simp only [connectionAssignments, Emission.seqAll_stop_eq_none, List.forall_mem_map,
    Emission.after_stop_eq_none]
  constructor
  · intro h connConfig hmem uninit
    rcases List.getElem_of_mem hmem with ⟨i, hi, rfl⟩
    rcases h (connections[i], i) (List.mem_zipIdx_iff_getElem?.mpr (List.getElem?_eq_getElem hi)) with
      ⟨param, hparam, _⟩
    exact connectionOf_accepted hparam uninit
  · rintro h ⟨connConfig, i⟩ hmem
    rcases h connConfig (List.fst_mem_of_mem_zipIdx hmem) (plat.uninit i) with ⟨param, hparam⟩
    exact ⟨param, hparam, rfl⟩

/-- The checks of the protocol section, one after the other. -/
theorem protocolAssignments_go_iff {text : String} :
    (protocolAssignments plat text).stop = none ↔
      ∃ protocolStack, protocolHeader plat text = .ok protocolStack ∧
        ∃ transportLayer, objectMember protocolStack "transport_layer"
            "'transport layer' configuration is missing" = .ok transportLayer ∧
          (∃ iedName connections,
            transportLayerHeader transportLayer = .ok (iedName, connections) ∧
            ∀ connConfig ∈ connections, ∀ uninit,
              ∃ param, connectionOf uninit connConfig = .ok param) ∧
          ∃ applicationLayer, objectMember protocolStack "application_layer"
              "'application layer' configuration is missing" = .ok applicationLayer ∧
            (∃ period, readingPeriodOf applicationLayer = .ok period) ∧
            ∃ mode, readModeOf applicationLayer = .ok mode := by
  simp [protocolAssignments, transportAssignments, applicationAssignments, connections_go_iff,
    Emission.after_stop_eq_none, Emission.seq_stop_eq_none]

/-- What has passed the checks is valid. -/
theorem ProtocolStackValid.of_go {text : String}
    (hitem : newConfig.getValue? "protocol_stack" = some text)
    (hgo : (protocolAssignments plat text).stop = none) : ProtocolStackValid plat newConfig := by
  rcases protocolAssignments_go_iff.mp hgo with ⟨protocolStack, hheader, transportLayer, htransport,
    ⟨iedName, connections, hhead, hconns⟩, applicationLayer, happlication, hperiod, hmode⟩
  have hvalue := documentValue_protocolStack hitem hheader
  have htransport : protocolStack.member? "transport_layer" = some transportLayer :=
    (objectMember_eq_ok.mp htransport).1
  rcases objectMember_eq_ok.mp happlication with ⟨happlication, hobj⟩
  rcases transportLayerHeader_eq_ok.mp hhead with ⟨hname, hconnections⟩
  constructor
  case iedName =>
    unfold stringMember at hname
    split at hname
    · next name hm => exact ⟨name, by simp [hvalue, htransport, hm]⟩
    · cases hname
  case connections =>
    exact ⟨connections, by simp [hvalue, htransport, hconnections], hconns⟩
  case applicationLayer =>
    cases applicationLayer with
    | object members => exact ⟨members, by simp [hvalue, happlication]⟩
    | _ => cases hobj
  case readingPeriod =>
    intro m hm
    apply (readingPeriodOf_isOk_iff.mp hperiod).2
    simpa [hvalue, happlication] using hm
  case readMode =>
    intro m hm
    apply (readModeOf_isOk_iff.mp hmode).2
    simpa [hvalue, happlication] using hm

/-- The object on the way to the values. -/
theorem ProtocolStackValid.header (h : ProtocolStackValid plat newConfig) {text : String}
    (hitem : newConfig.getValue? "protocol_stack" = some text) :
    ∃ protocolStack, protocolHeader plat text = .ok protocolStack := by
  rcases h.applicationLayer with ⟨members, happlication⟩
  simp only [documentValue, hitem, Option.bind_some, List.foldlM_cons, Option.bind_eq_bind,
    Option.bind_eq_some_iff] at happlication
  rcases happlication with ⟨document, hparse, protocolStack, hstack, _, hlayer, _⟩
  refine ⟨protocolStack, protocolHeader_eq_ok.mpr ⟨?_, Json.isObject_of_member? hlayer⟩⟩
  rw [hparse, Option.bind_some, hstack]

/-- What is valid passes the checks. -/
theorem ProtocolStackValid.go (h : ProtocolStackValid plat newConfig) {text : String}
    (hitem : newConfig.getValue? "protocol_stack" = some text) :
    (protocolAssignments plat text).stop = none := by
  rcases h.header hitem with ⟨protocolStack, hheader⟩
  rcases h.iedName with ⟨name, hname⟩
  rcases h.connections with ⟨connections, hconnections, hconns⟩
  rcases h.applicationLayer with ⟨members, happlication⟩
  have hvalue := documentValue_protocolStack hitem hheader
  simp only [hvalue, List.foldlM_cons, List.foldlM_nil, Option.bind_eq_bind,
    Option.bind_eq_some_iff, Option.pure_def, Option.some.injEq] at hname hconnections
  rcases hname with ⟨transportLayer, htransport, _, hname, rfl⟩
  rcases hconnections with ⟨transportLayer', htransport', _, hconnections, rfl⟩
  rw [htransport] at htransport'
  cases htransport'
  have happlication : protocolStack.member? "application_layer" = some (.object members) := by
    simpa [hvalue] using happlication
  have hhead : transportLayerHeader transportLayer = .ok (Json.cString name, connections) :=
    transportLayerHeader_eq_ok.mpr ⟨by rw [stringMember, hname], hconnections⟩
  refine protocolAssignments_go_iff.mpr ⟨protocolStack, hheader, transportLayer,
    objectMember_eq_ok.mpr ⟨htransport, Json.isObject_of_member? hname⟩,
    ⟨_, connections, hhead, hconns⟩,
    .object members, objectMember_eq_ok.mpr ⟨happlication, rfl⟩,
    readingPeriodOf_isOk_iff.mpr ⟨rfl, ?_⟩, readModeOf_isOk_iff.mpr ⟨rfl, ?_⟩⟩
  · intro m hm
    exact h.readingPeriod m (by simpa [hvalue, happlication] using hm)
  · intro m hm
    exact h.readMode m (by simpa [hvalue, happlication] using hm)

/-- The import gets past the protocol section exactly when it is valid. -/
theorem protocolStack_go_iff :
    (protocolStackItemAssignments plat (newConfig.getValue? "protocol_stack")).stop = none ↔
      ProtocolStackValid plat newConfig := by
  cases hitem : newConfig.getValue? "protocol_stack" with
  | none =>
    apply iff_of_false (by simp [protocolStackItemAssignments])
    intro h
    rcases h.iedName with ⟨name, hname⟩
    simp [documentValue, hitem] at hname
  | some text =>
    unfold protocolStackItemAssignments
    constructor
    · exact ProtocolStackValid.of_go hitem
    · intro h
      exact h.go hitem

/-! ## The datapoints -/

variable (plat newConfig) in
/-- The datapoints are missing altogether, or every one of them is valid. -/
def ExchangedDataValid : Prop :=
  newConfig.getValue? "exchanged_data" = none ∨
    ∃ datapoints, documentValue plat newConfig "exchanged_data" ["exchanged_data", "datapoints"] =
        some (.array datapoints) ∧
      ∀ jsonDatapointConfig ∈ datapoints, ∃ dpConfig,
        datapointOf plat jsonDatapointConfig = .ok dpConfig

theorem exchangedData_go_iff :
    (optionalItemAssignments (newConfig.getValue? "exchanged_data")
      (exchangedDataAssignments plat)).stop = none ↔ ExchangedDataValid plat newConfig := by
  unfold ExchangedDataValid documentValue
  cases newConfig.getValue? "exchanged_data" with
  | none => simp [optionalItemAssignments]
  | some text =>
    simp [optionalItemAssignments, exchangedDataAssignments, datapointAssignments,
      exchangedDataHeader, Emission.after_stop_eq_none, Emission.seqAll_stop_eq_none,
      sectionArray_eq_ok]

end Iec61850South
