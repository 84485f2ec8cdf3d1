import Iec61850South.Config.Dictionaries

/-! # What an import leaves of the memory it finds

The selectors of a connection have no initialiser. Two imports of one configuration
therefore store the same only up to bytes that neither has written. No other field
depends on that memory, and neither does the acceptance of the configuration;
`Accepted.sameConfig_iff` compares an import into a used object with one into a fresh
object, each with memory of its own.
-/

namespace Iec61850South

open Lib Std

variable {plat : Platform} {newConfig : ConfigCategory}

/-! ## The same up to unwritten memory -/

/-- The parameters agree in everything that a client reads: not in the bytes past the
size of a selector, nor in the selectors of a connection without an `osi` section. -/
structure SameConnection (param param' : ServerConnectionParameters) : Prop where
  ipAddress : param.ipAddress = param'.ipAddress
  mmsPort : param.mmsPort = param'.mmsPort
  isOsiParametersEnabled : param.isOsiParametersEnabled = param'.isOsiParametersEnabled
  localApTitle : param.osiParameters.localApTitle = param'.osiParameters.localApTitle
  localAeQualifier : param.osiParameters.localAeQualifier = param'.osiParameters.localAeQualifier
  remoteApTitle : param.osiParameters.remoteApTitle = param'.osiParameters.remoteApTitle
  remoteAeQualifier :
    param.osiParameters.remoteAeQualifier = param'.osiParameters.remoteAeQualifier
  selectors : param.isOsiParametersEnabled = true → ∀ name : SelectorName,
    (param.osiParameters.selector name).size = (param'.osiParameters.selector name).size ∧
      (param.osiParameters.selector name).bytes = (param'.osiParameters.selector name).bytes

/-- Equal field by field, connections up to unwritten memory. -/
structure SameConfig (c c' : IEC61850ClientConfig) : Prop where
  logMinLevel : c.logMinLevel = c'.logMinLevel
  assetName : c.assetName = c'.assetName
  iedName : c.iedName = c'.iedName
  serverConfigDict : ∀ key : String,
    Option.Rel SameConnection c.serverConfigDict[key]? c'.serverConfigDict[key]?
  readPollingPeriodInMs :
    c.applicationParams.readPollingPeriodInMs = c'.applicationParams.readPollingPeriodInMs
  readMode : c.applicationParams.readMode = c'.applicationParams.readMode
  exchangedData : c.exchangedData = c'.exchangedData
  selectedDOInExchangedDatasets :
    c.selectedDOInExchangedDatasets = c'.selectedDOInExchangedDatasets

/-- An `osi` section, if there is one, gives all six selectors. -/
def SelectorsGiven (connConfig : Json) : Prop :=
  ∀ connOsiConfig, connConfig.member? "osi" = some connOsiConfig →
    ∀ name : SelectorName, (connOsiConfig.member? name.member).isSome = true

/-! ## One connection -/

/-- A connection that gives its selectors is read the same from any memory. -/
theorem SelectorsGiven.same {connConfig : Json} (hgiven : SelectorsGiven connConfig)
    {uninit uninit' : OsiParameters} {param param' : ServerConnectionParameters}
    (h : connectionOf uninit connConfig = .ok param)
    (h' : connectionOf uninit' connConfig = .ok param') : SameConnection param param' := by
  have hstored := (connectionOf_stored h).1
  have hstored' := (connectionOf_stored h').1
  have haddress : (param.ipAddress, param.mmsPort) = (param'.ipAddress, param'.mmsPort) :=
    Option.some.inj (hstored.address.symm.trans hstored'.address)
  constructor
  case ipAddress => exact (Prod.mk.inj haddress).1
  case mmsPort => exact (Prod.mk.inj haddress).2
  case isOsiParametersEnabled => rw [hstored.enabled, hstored'.enabled]
  case localApTitle => rw [hstored.osi.localApTitle, hstored'.osi.localApTitle]
  case localAeQualifier => rw [hstored.osi.localAeQualifier, hstored'.osi.localAeQualifier]
  case remoteApTitle => rw [hstored.osi.remoteApTitle, hstored'.osi.remoteApTitle]
  case remoteAeQualifier => rw [hstored.osi.remoteAeQualifier, hstored'.osi.remoteAeQualifier]
  case selectors =>
    intro henabled name
    rw [hstored.enabled] at henabled
    rcases Option.isSome_iff_exists.mp henabled with ⟨connOsiConfig, hosi⟩
    have hdetermined :=
      (selectors_determined_iff hosi h).mpr (hgiven connOsiConfig hosi) uninit uninit' param param'
        h h' name
    exact ⟨hdetermined.1, hdetermined.2.1⟩

/-- In one that leaves out a selector, the memory shows. -/
theorem selectorsGiven_of_same {connConfig : Json} {param param' : ServerConnectionParameters}
    (h : connectionOf (memoryOfSize 1) connConfig = .ok param)
    (h' : connectionOf (memoryOfSize 2) connConfig = .ok param')
    (hsame : SameConnection param param') : SelectorsGiven connConfig := by
  intro connOsiConfig hosi name
  by_contra habsent
  have hnone : connOsiConfig.member? name.member = none := by simpa using habsent
  have henabled : param.isOsiParametersEnabled = true := by
    rw [(connectionOf_stored h).1.enabled, hosi]
    rfl
  -- an absent selector keeps the size that its memory has
  have hsize := (hsame.selectors henabled name).1
  rw [(connectionOf_selectors hosi h name).unread hnone, memoryOfSize_size,
    (connectionOf_selectors hosi h' name).unread hnone, memoryOfSize_size] at hsize
  revert hsize
  decide

/-! ## One configuration -/

/-- Whether a configuration is accepted does not depend on the memory. -/
theorem accepted_withMemory {uninit : Nat → OsiParameters} :
    Accepted (plat.withMemory uninit) newConfig ↔ Accepted plat newConfig := by
  rw [accepted_iff, accepted_iff, configAssignments, configAssignments]
  simp only [Emission.seq_stop_eq_none, protocolStack_go_iff]
  refine and_congr_right fun _ => and_congr_left fun _ => ⟨fun h => ?_, fun h => ?_⟩
  · exact ⟨h.iedName, h.connections, h.applicationLayer, h.readingPeriod, h.readMode⟩
  · exact ⟨h.iedName, h.connections, h.applicationLayer, h.readingPeriod, h.readMode⟩

theorem Accepted.withMemory (h : Accepted plat newConfig) (uninit : Nat → OsiParameters) :
    Accepted (plat.withMemory uninit) newConfig :=
  accepted_withMemory.mpr h

theorem forall₂_decoded_unique {α : Type} {decode : Json → Except ImportStop α} {xs : List Json}
    {as as' : List α} (h : List.Forall₂ (fun x a => decode x = .ok a) xs as)
    (h' : List.Forall₂ (fun x a => decode x = .ok a) xs as') : as = as' :=
  List.right_unique_forall₂' (fun _ _ _ ha ha' => Except.ok.inj (ha.symm.trans ha')) h h'

/-- Only the connections depend on the memory. -/
theorem Accepted.filterMap_withMemory (h : Accepted plat newConfig) (uninit : Nat → OsiParameters)
    {γ : Type} {sel : Assignment → Option γ} (hsel : ∀ param, sel (.server param) = none) :
    (configAssignments (plat.withMemory uninit) newConfig).out.filterMap sel =
      (configAssignments plat newConfig).out.filterMap sel := by
  rcases h.assignments with ⟨name, params, dpConfigs, datasets, hname, _, hdps, hds, hout⟩
  rcases (h.withMemory uninit).assignments with
    ⟨name', params', dpConfigs', datasets', hname', _, hdps', hds', hout'⟩
  obtain rfl : name' = name := Option.some.inj (hname'.symm.trans hname)
  obtain rfl : dpConfigs' = dpConfigs := forall₂_decoded_unique hdps' hdps
  obtain rfl : datasets' = datasets := forall₂_decoded_unique hds' hds
  have hserver : ∀ params : List ServerConnectionParameters,
      (params.map Assignment.server).filterMap sel = [] := by
    intro params
    rw [List.filterMap_map]
    exact List.filterMap_eq_nil_iff.mpr fun param _ => hsel param
  rw [hout, hout']
  simp only [List.filterMap_append, List.filterMap_cons, hserver]
  rfl

/-- What is written last under a key is read from the last entry with this key. -/
theorem Accepted.lastServer (h : Accepted plat newConfig) {key : String}
    {param : ServerConnectionParameters}
    (hlast : lastValue ((configAssignments plat newConfig).out.filterMap Assignment.server?) key =
      some param) :
    ∃ connConfig, IsLastWith entryKey key (connectionEntries plat newConfig) connConfig ∧
      ConnectionRead plat connConfig param := by
  rcases h.servers with ⟨params, hparams, hout⟩
  rw [hout] at hlast
  obtain ⟨connConfig, param', hentry, hread, heq⟩ :=
    lastValue_of_decoded (fun _ _ => ConnectionRead.key) hparams hlast
  cases heq
  exact ⟨connConfig, hentry, hread⟩

/-- Such an entry is read, and what is read is written last. -/
theorem Accepted.lastServer_of_entry (h : Accepted plat newConfig) {key : String}
    {connConfig : Json}
    (hentry : IsLastWith entryKey key (connectionEntries plat newConfig) connConfig) :
    ∃ param, lastValue ((configAssignments plat newConfig).out.filterMap Assignment.server?) key =
      some param ∧ ConnectionRead plat connConfig param := by
  have hlisted : key ∈ connectionKeys plat newConfig := by
    rcases hentry with ⟨before, after, hsplit, hkey, _⟩
    exact List.mem_filterMap.mpr ⟨connConfig, by simp [hsplit], hkey⟩
  rw [← h.serverKeys] at hlisted
  rcases Option.isSome_iff_exists.mp (lastValue_isSome.mpr (List.mem_map.mp hlisted)) with
    ⟨param, hparam⟩
  rcases h.lastServer hparam with ⟨connConfig', hentry', hread⟩
  obtain rfl : connConfig' = connConfig := hentry'.unique hentry
  exact ⟨param, hparam, hread⟩

/-- Two memories make no difference to the assignments of another kind. -/
theorem Accepted.filterMap_memory (h : Accepted plat newConfig)
    (uninit uninit' : Nat → OsiParameters) {γ : Type} (sel : Assignment → Option γ)
    (hsel : ∀ param, sel (.server param) = none) :
    (configAssignments (plat.withMemory uninit') newConfig).out.filterMap sel =
      (configAssignments (plat.withMemory uninit) newConfig).out.filterMap sel :=
  (h.filterMap_withMemory uninit' hsel).trans (h.filterMap_withMemory uninit hsel).symm

theorem sameConfig_fields {c c' : IEC61850ClientConfig} :
    SameConfig c c' ↔ c.logMinLevel = c'.logMinLevel ∧ c.assetName = c'.assetName ∧
      c.iedName = c'.iedName ∧
      (∀ key : String,
        Option.Rel SameConnection c.serverConfigDict[key]? c'.serverConfigDict[key]?) ∧
      c.applicationParams.readPollingPeriodInMs = c'.applicationParams.readPollingPeriodInMs ∧
      c.applicationParams.readMode = c'.applicationParams.readMode ∧
      c.exchangedData = c'.exchangedData ∧
      c.selectedDOInExchangedDatasets = c'.selectedDOInExchangedDatasets := by
  constructor
  · rintro ⟨h₁, h₂, h₃, h₄, h₅, h₆, h₇, h₈⟩
    exact ⟨h₁, h₂, h₃, h₄, h₅, h₆, h₇, h₈⟩
  · rintro ⟨h₁, h₂, h₃, h₄, h₅, h₆, h₇, h₈⟩
    exact ⟨h₁, h₂, h₃, h₄, h₅, h₆, h₇, h₈⟩

/-- The values that two imports write last under one key are the same. -/
def SameServers (plat : Platform) (newConfig : ConfigCategory)
    (uninit uninit' : Nat → OsiParameters) : Prop :=
  ∀ key param param',
    lastValue ((configAssignments (plat.withMemory uninit) newConfig).out.filterMap
      Assignment.server?) key = some param →
    lastValue ((configAssignments (plat.withMemory uninit') newConfig).out.filterMap
      Assignment.server?) key = some param' →
    SameConnection param param'

/-- An import into a used object leaves the same as one into a fresh object exactly when
it hides what was there, and each connection has been read the same. -/
theorem Accepted.sameConfig_iff (h : Accepted plat newConfig)
    (uninit uninit' : Nat → OsiParameters) (c : IEC61850ClientConfig) :
    SameConfig (assignAll c (configAssignments (plat.withMemory uninit) newConfig).out)
        (assignAll {} (configAssignments (plat.withMemory uninit') newConfig).out) ↔
      Hides (configAssignments (plat.withMemory uninit) newConfig).out c ∧
        SameServers plat newConfig uninit uninit' := by
  have hkeys : ((configAssignments (plat.withMemory uninit) newConfig).out.filterMap
        Assignment.server?).map Prod.fst =
      ((configAssignments (plat.withMemory uninit') newConfig).out.filterMap
        Assignment.server?).map Prod.fst :=
    (h.withMemory uninit).serverKeys.trans (h.withMemory uninit').serverKeys.symm
  have hother := fun {γ : Type} (sel : Assignment → Option γ) =>
    h.filterMap_memory uninit uninit' sel
  simp only [sameConfig_fields, assignAll_logMinLevel, assignAll_assetName, assignAll_iedName,
    assignAll_serverConfigDict, assignAll_readPollingPeriodInMs, assignAll_readMode,
    assignAll_exchangedData, assignAll_selectedDOInExchangedDatasets,
    hother Assignment.logMinLevel? fun _ => rfl, hother Assignment.assetName? fun _ => rfl,
    hother Assignment.iedName? fun _ => rfl, hother Assignment.readPollingPeriod? fun _ => rfl,
    hother Assignment.readMode? fun _ => rfl, hother Assignment.datapoint? fun _ => rfl,
    hother Assignment.dataset? fun _ => rfl, lastWritten_congr_iff,
    insertAll_eq_insertAll_empty_iff, rel_insertAll_iff hkeys, List.nil_append,
    List.append_left_eq_self]
  constructor
  · rintro ⟨h₁, h₂, h₃, ⟨h₄, hsame⟩, h₅, h₆, h₇, h₈⟩
    exact ⟨⟨h₁, h₂, h₃, h₄, h₅, h₆, h₇, h₈⟩, hsame⟩
  · rintro ⟨⟨h₁, h₂, h₃, h₄, h₅, h₆, h₇, h₈⟩, hsame⟩
    exact ⟨h₁, h₂, h₃, ⟨h₄, hsame⟩, h₅, h₆, h₇, h₈⟩

/-! ## When the memory does not show -/

variable (plat newConfig) in
/-- Of the entries with one key, the last one gives its selectors. -/
def StoredSelectorsGiven : Prop :=
  ∀ key connConfig, IsLastWith entryKey key (connectionEntries plat newConfig) connConfig →
    SelectorsGiven connConfig

theorem StoredSelectorsGiven.sameServers (hgiven : StoredSelectorsGiven plat newConfig)
    (h : Accepted plat newConfig) (uninit uninit' : Nat → OsiParameters) :
    SameServers plat newConfig uninit uninit' := by
  intro key param param' hparam hparam'
  rcases (h.withMemory uninit).lastServer hparam with ⟨connConfig, hlast, n, hread⟩
  rcases (h.withMemory uninit').lastServer hparam' with ⟨connConfig', hlast', n', hread'⟩
  obtain rfl : connConfig' = connConfig := hlast'.unique hlast
  exact (hgiven key _ hlast').same hread hread'

/-- Two memories are enough to tell. -/
theorem storedSelectorsGiven_of_same (h : Accepted plat newConfig)
    (hsame : SameServers plat newConfig (fun _ => memoryOfSize 1) fun _ => memoryOfSize 2) :
    StoredSelectorsGiven plat newConfig := by
  intro key connConfig hlast
  -- what is written last has been read from this entry, in both imports
  rcases (h.withMemory fun _ => memoryOfSize 1).lastServer_of_entry hlast with
    ⟨param, hparam, _, hread⟩
  rcases (h.withMemory fun _ => memoryOfSize 2).lastServer_of_entry hlast with
    ⟨param', hparam', _, hread'⟩
  exact selectorsGiven_of_same hread hread' (hsame key param param' hparam hparam')

end Iec61850South
