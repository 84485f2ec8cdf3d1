import Iec61850South.Config.Memory
import Iec61850South.Plugin.Lifecycle

/-! # Reconfiguration

A configuration is imported into the object that holds the previous one. Two
questions follow: whether the previous configuration is replaced when the new
one is accepted, and what is left when the new one is rejected. Each import finds
memory of its own, so what it stores is compared up to unwritten memory.
-/

namespace Iec61850South

open Lib Std

variable {plat : Platform}

/-! ## Accepted configurations, one after the other -/

/-- One import: its configuration, and what it finds in memory. -/
structure ImportCall where
  config : ConfigCategory
  uninit : Nat → OsiParameters

section Calls

variable (plat : Platform)

/-- What the import assigns. -/
def ImportCall.assignments (call : ImportCall) : Assignments :=
  configAssignments (plat.withMemory call.uninit) call.config

/-- The import of one configuration, in the memory that it finds. -/
def ImportCall.importConfig (call : ImportCall) : ImportM PUnit :=
  Iec61850South.importConfig (plat.withMemory call.uninit) call.config

/-- `plugin_reconfigure` with one configuration, in the memory that it finds. -/
def ImportCall.reconfigure (call : ImportCall) : PluginM PUnit :=
  plugin_reconfigure (plat.withMemory call.uninit) call.config

/-- `plugin_init` with the first configuration, then `plugin_reconfigure` with
each of the others. -/
def pluginAfter : List ImportCall → Except ImportStop IEC61850
  | [] => plugin_init plat none
  | first :: others => do
    let p ← plugin_init (plat.withMemory first.uninit) (some first.config)
    match forM others (ImportCall.reconfigure plat) p with
    | .ok _ p' => return p'
    | .error e _ => throw e

end Calls

/-- By induction on the imports: each assigns over what the ones before it have left. -/
theorem importConfig_sequence {calls : List ImportCall}
    (h : ∀ call ∈ calls, Accepted plat call.config) (c : IEC61850ClientConfig) :
    forM calls (ImportCall.importConfig plat) c =
      .ok ⟨⟩ (assignAll c (calls.flatMap fun call => (call.assignments plat).out)) := by
  induction calls generalizing c with
  | nil => rfl
  | cons call calls ih =>
    have hrun := ((h call (by simp)).withMemory call.uninit).run c
    rw [List.forM_cons, ImportCall.importConfig, run_bind_ok hrun,
      ih fun call' hmem => h call' (by simp [hmem]), List.flatMap_cons, assignAll_append]
    rfl

/-- The plugin takes the same configurations one after the other: its object
goes through the same states, and from the second one on its clients are
created from what the object holds in the end. -/
theorem reconfigure_sequence {calls : List ImportCall}
    (h : ∀ call ∈ calls, Accepted plat call.config) (p : IEC61850) :
    ∃ p', forM calls (ImportCall.reconfigure plat) p = .ok ⟨⟩ p' ∧
      p'.m_config =
        assignAll p.m_config (calls.flatMap fun call => (call.assignments plat).out) ∧
      (calls ≠ [] → p' = IEC61850.start ⟨p'.m_config, ∅⟩) := by
  induction calls generalizing p with
  | nil => exact ⟨p, rfl, rfl, by simp⟩
  | cons call calls ih =>
    have hgo := accepted_iff.mp ((h call (by simp)).withMemory call.uninit)
    have hrun := plugin_reconfigure_of_go hgo p
    rcases ih (fun call' hmem => h call' (by simp [hmem]))
      (IEC61850.start ⟨reconfigured (plat.withMemory call.uninit) call.config p, ∅⟩) with
      ⟨p', hp', hconfig, hstarted⟩
    refine ⟨p', ?_, ?_, fun _ => ?_⟩
    · rw [List.forM_cons, ImportCall.reconfigure, run_bind_ok hrun, hp']
    · rw [hconfig, List.flatMap_cons, assignAll_append]
      rfl
    · cases calls with
      | nil =>
        cases hp'
        rfl
      | cons _ _ => exact hstarted (by simp)

/-- A sequence of accepted configurations goes through, and starts the clients of what is
stored. -/
theorem pluginAfter_run {calls : List ImportCall} (hne : calls ≠ [])
    (h : ∀ call ∈ calls, Accepted plat call.config) :
    ∃ p, pluginAfter plat calls = .ok p ∧
      p.m_config = assignAll {} (calls.flatMap fun call => (call.assignments plat).out) ∧
      (calls.tail ≠ [] → p = IEC61850.start ⟨p.m_config, ∅⟩) := by
  rcases List.exists_cons_of_ne_nil hne with ⟨first, others, rfl⟩
  have hgo := accepted_iff.mp ((h first (by simp)).withMemory first.uninit)
  have hinit : plugin_init (plat.withMemory first.uninit) (some first.config) =
      .ok ⟨assignAll {} (first.assignments plat).out, ∅⟩ := by
    rw [plugin_init, setConfig_run, Emission.result_of_go hgo]
    rfl
  obtain ⟨p, hp, hconfig, hstarted⟩ := reconfigure_sequence
    (fun call hmem => h call (List.mem_cons_of_mem first hmem))
    ⟨assignAll {} (first.assignments plat).out, ∅⟩
  refine ⟨p, ?_, ?_, hstarted⟩
  · rw [pluginAfter, hinit]
    simp only [bind, Except.bind, hp]
    rfl
  · rw [hconfig, List.flatMap_cons, assignAll_append]

/-! ## When the previous configurations are replaced -/

variable (plat) in
/-- Nothing of the earlier configurations shows through the last one, nor does the
memory that it is imported from. -/
structure Replaces (earlier : List ConfigCategory) (last : ConfigCategory) : Prop where
  connections : ∀ config ∈ earlier, ∀ key ∈ connectionKeys plat config,
    key ∈ connectionKeys plat last
  selectors : StoredSelectorsGiven plat last
  readingPeriod : readingPeriod plat last ≠ none ∨
    lastWritten DEFAULT_READ_POLLING_PERIOD_IN_MS (earlier.filterMap (readingPeriod plat)) =
      DEFAULT_READ_POLLING_PERIOD_IN_MS
  readMode : readMode plat last ≠ none ∨
    lastWritten .DO_READING (earlier.filterMap (readMode plat)) = .DO_READING
  datapoints : ∀ config ∈ earlier, datapointEntries plat config = []
  datasets : ∀ config ∈ earlier, ∀ datasetRef ∈ datasetRefs plat config,
    datasetRef ∈ datasetRefs plat last

/-- The assignments of a kind made by several accepted configurations. -/
theorem filterMap_sequence {γ : Type} {sel : Assignment → Option γ}
    (listed : ConfigCategory → List γ) {calls : List ImportCall}
    (h : ∀ call ∈ calls, (call.assignments plat).out.filterMap sel = listed call.config) :
    (calls.flatMap fun call => (call.assignments plat).out).filterMap sel =
      (calls.map ImportCall.config).flatMap listed := by
  rw [List.filterMap_flatMap, List.flatMap_map]
  exact List.flatMap_congr h

/-- A keyed location hides the earlier keys when the last configuration lists them. -/
theorem keys_hidden_iff {ν : Type} {sel : Assignment → Option (String × ν)}
    {keys : ConfigCategory → List String} {earlier : List ImportCall} {last : ImportCall}
    (hkeys : ∀ call : ImportCall, Accepted plat call.config →
      ((call.assignments plat).out.filterMap sel).map Prod.fst = keys call.config)
    (hearlier : ∀ call ∈ earlier, Accepted plat call.config)
    (hlast : Accepted plat last.config) :
    (∀ k ∈ insertAll (∅ : ExtTreeMap String ν)
        ((earlier.flatMap fun call => (call.assignments plat).out).filterMap sel),
        ∃ p ∈ (last.assignments plat).out.filterMap sel, p.1 = k) ↔
      ∀ config ∈ earlier.map ImportCall.config, ∀ key ∈ keys config, key ∈ keys last.config := by
  have hmem : ∀ call : ImportCall, Accepted plat call.config → ∀ k,
      (∃ p ∈ (call.assignments plat).out.filterMap sel, p.1 = k) ↔ k ∈ keys call.config := by
    intro call haccepted k
    rw [← hkeys call haccepted, List.mem_map]
  rw [List.filterMap_flatMap, List.forall_mem_map]
  constructor
  · intro h call hcall key hkey
    rcases (hmem call (hearlier call hcall) key).mpr hkey with ⟨p, hp, rfl⟩
    refine (hmem last hlast _).mp (h p.1 (mem_insertAll.mpr (Or.inl ⟨p, ?_, rfl⟩)))
    exact List.mem_flatMap.mpr ⟨call, hcall, hp⟩
  · intro h k hk
    rcases mem_insertAll.mp hk with ⟨p, hp, rfl⟩ | hempty
    · rcases List.mem_flatMap.mp hp with ⟨call, hcall, hp⟩
      refine (hmem last hlast _).mpr (h call hcall p.1 ?_)
      exact (hmem call (hearlier call hcall) p.1).mp ⟨p, hp, rfl⟩
    · simp at hempty

/-- What an accepted call assigns, in terms of its configuration. -/
structure ImportCall.Assigned (plat : Platform) (call : ImportCall) : Prop where
  plain : (call.assignments plat).out.filterMap Assignment.logMinLevel? ≠ [] ∧
    (call.assignments plat).out.filterMap Assignment.assetName? ≠ [] ∧
    (call.assignments plat).out.filterMap Assignment.iedName? ≠ []
  serverKeys : ((call.assignments plat).out.filterMap Assignment.server?).map Prod.fst =
    connectionKeys plat call.config
  readPollingPeriod : (call.assignments plat).out.filterMap Assignment.readPollingPeriod? =
    (readingPeriod plat call.config).toList
  readMode : (call.assignments plat).out.filterMap Assignment.readMode? =
    (readMode plat call.config).toList
  datapoint_eq_nil : (call.assignments plat).out.filterMap Assignment.datapoint? = [] ↔
    datapointEntries plat call.config = []
  datasetRefs : ((call.assignments plat).out.filterMap Assignment.dataset?).map Prod.fst =
    datasetRefs plat call.config

/-- An accepted configuration is assigned as a whole. -/
theorem ImportCall.assigned {call : ImportCall} (h : Accepted plat call.config) :
    call.Assigned plat := by
  have haccepted := h.withMemory call.uninit
  exact ⟨haccepted.plain, haccepted.serverKeys, haccepted.readPollingPeriod, haccepted.readMode,
    haccepted.datapoint_eq_nil, haccepted.datasetRefs⟩

/-- Each field is written by the last configuration, or by none, in terms of the documents.
-/
theorem hides_iff_replaces {earlier : List ImportCall} {last : ImportCall}
    (hearlier : ∀ call ∈ earlier, Accepted plat call.config) (hlast : Accepted plat last.config)
    (hgiven : StoredSelectorsGiven plat last.config) :
    Hides (last.assignments plat).out
        (assignAll {} (earlier.flatMap fun call => (call.assignments plat).out)) ↔
      Replaces plat (earlier.map ImportCall.config) last.config := by
  have hassigned := fun call hmem => ImportCall.assigned (hearlier call hmem)
  have hservers := keys_hidden_iff (fun _ h => (ImportCall.assigned h).serverKeys) hearlier hlast
  have hdatasets := keys_hidden_iff (fun _ h => (ImportCall.assigned h).datasetRefs) hearlier hlast
  have hperiod := filterMap_sequence (fun config => (readingPeriod plat config).toList)
    fun call h => (hassigned call h).readPollingPeriod
  have hmode := filterMap_sequence (fun config => (readMode plat config).toList)
    fun call h => (hassigned call h).readMode
  rw [← List.filterMap_eq_flatMap_toList] at hperiod hmode
  -- the list of DOs is the one field that is only appended to
  have hdatapoints :
      (earlier.flatMap fun call => (call.assignments plat).out).filterMap
          Assignment.datapoint? = [] ↔
        ∀ config ∈ earlier.map ImportCall.config, datapointEntries plat config = [] := by
    rw [List.filterMap_flatMap, List.flatMap_eq_nil_iff, List.forall_mem_map]
    exact forall₂_congr fun call h => (hassigned call h).datapoint_eq_nil
  have hwritten := ImportCall.assigned hlast
  -- level and names are written by every configuration
  rcases hwritten.plain with ⟨hlevel, hasset, hied⟩
  constructor
  · rintro ⟨_, _, _, h₄, h₅, h₆, h₇, h₈⟩
    rw [assignAll_serverConfigDict, hservers] at h₄
    rw [assignAll_readPollingPeriodInMs, hperiod, hwritten.readPollingPeriod] at h₅
    rw [assignAll_readMode, hmode, hwritten.readMode] at h₆
    rw [assignAll_exchangedData, List.nil_append, hdatapoints] at h₇
    rw [assignAll_selectedDOInExchangedDatasets, hdatasets] at h₈
    exact ⟨h₄, hgiven, by simpa using h₅, by simpa using h₆, h₇, h₈⟩
  · rintro ⟨h₄, _, h₅, h₆, h₇, h₈⟩
    refine ⟨Or.inl hlevel, Or.inl hasset, Or.inl hied, ?_, ?_, ?_, ?_, ?_⟩
    · rwa [assignAll_serverConfigDict, hservers]
    · rw [assignAll_readPollingPeriodInMs, hperiod, hwritten.readPollingPeriod]
      simpa using h₅
    · rw [assignAll_readMode, hmode, hwritten.readMode]
      simpa using h₆
    · rwa [assignAll_exchangedData, List.nil_append, hdatapoints]
    · rwa [assignAll_selectedDOInExchangedDatasets, hdatasets]

/-- The clients agree in everything that they have been created with, up to unwritten memory. -/
structure SameClient (client client' : RunningClient) : Prop where
  connectionParam : SameConnection client.connectionParam client'.connectionParam
  exchangedData : client.exchangedData = client'.exchangedData
  selectedDOInExchangedDatasets :
    client.selectedDOInExchangedDatasets = client'.selectedDOInExchangedDatasets
  applicationParams : client.applicationParams = client'.applicationParams

/-- The same configurations make the same clients. -/
theorem SameConfig.newClient {c c' : IEC61850ClientConfig} (h : SameConfig c c') (key : String) :
    Option.Rel SameClient (c.serverConfigDict[key]?.map (IEC61850.newClient c))
      (c'.serverConfigDict[key]?.map (IEC61850.newClient c')) := by
  have hparams : c.applicationParams = c'.applicationParams := by
    rcases c with ⟨_, _, _, _, ⟨_, _⟩, _, _⟩
    rcases c' with ⟨_, _, _, _, ⟨_, _⟩, _, _⟩
    cases h.readPollingPeriodInMs
    cases h.readMode
    rfl
  have hservers := h.serverConfigDict key
  generalize c.serverConfigDict[key]? = param at hservers
  generalize c'.serverConfigDict[key]? = param' at hservers
  cases hservers with
  | none => exact .none
  | some hsame =>
    exact .some ⟨hsame, h.exchangedData, h.selectedDOInExchangedDatasets, hparams⟩

variable (plat) in
/-- The imports of some calls: what they leave in one configuration object and in a plugin,
and what the last configuration leaves in a fresh object, from memory of its own. -/
structure Outcome (calls : List ImportCall) (alone : ImportCall)
    (c fresh : IEC61850ClientConfig) (p : IEC61850) : Prop where
  sequence : forM calls (ImportCall.importConfig plat) {} = .ok ⟨⟩ c
  alone : alone.importConfig plat {} = .ok ⟨⟩ fresh
  plugin : pluginAfter plat calls = .ok p

/-- Accepted configurations have one outcome. -/
theorem outcome_iff {before : List ImportCall} {final : ImportCall}
    (hcalls : ∀ call ∈ before ++ [final], Accepted plat call.config)
    (uninit : Nat → OsiParameters) :
    ∃ p, (before ≠ [] → p = IEC61850.start ⟨p.m_config, ∅⟩) ∧
      p.m_config = assignAll (assignAll {} (before.flatMap fun call => (call.assignments plat).out))
        (final.assignments plat).out ∧
      ∀ c fresh p', Outcome plat (before ++ [final]) ⟨final.config, uninit⟩ c fresh p' ↔
        c = p.m_config ∧
          fresh = assignAll {} (configAssignments (plat.withMemory uninit) final.config).out ∧
          p' = p := by
  have hfinal : Accepted plat final.config := hcalls final (by simp)
  rcases pluginAfter_run (by simp) hcalls with ⟨p, hp, hconfig, hstarted⟩
  have hsequence := importConfig_sequence hcalls {}
  have hfresh := (hfinal.withMemory uninit).run {}
  rw [List.flatMap_append, List.flatMap_singleton, assignAll_append] at hconfig hsequence
  refine ⟨p, fun hne => hstarted ?_, hconfig, fun c fresh p' => ⟨?_, ?_⟩⟩
  · rcases List.exists_cons_of_ne_nil hne with ⟨_, _, rfl⟩
    simp
  · rintro ⟨hc, hf, hp'⟩
    rw [hsequence] at hc
    rw [ImportCall.importConfig, hfresh] at hf
    rw [hp] at hp'
    cases hc
    cases hf
    cases hp'
    exact ⟨hconfig.symm, rfl, rfl⟩
  · rintro ⟨rfl, rfl, rfl⟩
    exact ⟨hconfig ▸ hsequence, hfresh, hp⟩

/-- The calls for some configurations, the last one apart. -/
theorem calls_split {calls : List ImportCall} {earlier : List ConfigCategory}
    {last : ConfigCategory} (hcalls : calls.map ImportCall.config = earlier ++ [last]) :
    ∃ before final, calls = before ++ [final] ∧ before.map ImportCall.config = earlier ∧
      final.config = last := by
  rcases List.map_eq_append_iff.mp hcalls with ⟨before, after, rfl, hbefore, hafter⟩
  rcases List.map_eq_singleton_iff.mp hafter with ⟨final, rfl, hfinal⟩
  exact ⟨before, final, rfl, hbefore, hfinal⟩

/-- **Reconfiguration replaces the configuration exactly when the last one hides
the earlier ones** and gives the selectors of its connections. -/
theorem reconfiguration_replaces_iff {earlier : List ConfigCategory} {last : ConfigCategory}
    (h : ∀ config ∈ earlier ++ [last], Accepted plat config) :
    (∀ calls uninit, calls.map ImportCall.config = earlier ++ [last] →
      ∃ c fresh p, Outcome plat calls ⟨last, uninit⟩ c fresh p ∧ p.m_config = c) ∧
    ((∀ calls uninit c fresh p, calls.map ImportCall.config = earlier ++ [last] →
        Outcome plat calls ⟨last, uninit⟩ c fresh p →
        SameConfig c fresh ∧ (earlier ≠ [] → ∀ key : String, Option.Rel SameClient
          p.m_clients[key]? (fresh.serverConfigDict[key]?.map (IEC61850.newClient fresh)))) ↔
      Replaces plat earlier last) := by
  have haccepted : ∀ calls : List ImportCall, calls.map ImportCall.config = earlier ++ [last] →
      ∀ call ∈ calls, Accepted plat call.config := by
    intro calls hcalls call hmem
    exact h _ (hcalls ▸ List.mem_map_of_mem hmem)
  have hlast : Accepted plat last := h last (by simp)
  have hexists : ∀ calls uninit, calls.map ImportCall.config = earlier ++ [last] →
      ∃ c fresh p, Outcome plat calls ⟨last, uninit⟩ c fresh p ∧ p.m_config = c := by
    intro calls uninit hcalls
    have hall := haccepted calls hcalls
    obtain ⟨before, final, rfl, _, rfl⟩ := calls_split hcalls
    rcases outcome_iff hall uninit with ⟨p, _, _, hiff⟩
    exact ⟨_, _, p, (hiff _ _ _).mpr ⟨rfl, rfl, rfl⟩, rfl⟩
  refine ⟨hexists, ?_, ?_⟩
  · intro hreplaced
    -- every earlier import finds the same memory, and the fresh one another
    let before := earlier.map fun config => ImportCall.mk config fun _ => memoryOfSize 1
    let final := ImportCall.mk last fun _ => memoryOfSize 1
    have hconfigs : before.map ImportCall.config = earlier := by
      rw [List.map_map]
      exact List.map_id' earlier
    have hcalls : (before ++ [final]).map ImportCall.config = earlier ++ [last] := by
      rw [List.map_append, hconfigs]
      rfl
    have hall := haccepted _ hcalls
    rcases outcome_iff hall fun _ => memoryOfSize 2 with ⟨p, _, hconfig, hiff⟩
    rcases hreplaced _ _ _ _ p hcalls ((hiff _ _ _).mpr ⟨rfl, rfl, rfl⟩) with ⟨hsame, _⟩
    rw [hconfig] at hsame
    rcases (hlast.sameConfig_iff _ _ _).mp hsame with ⟨hhides, hservers⟩
    have hreplaces : Replaces plat (before.map ImportCall.config) final.config :=
      (hides_iff_replaces (fun call hmem => hall call (List.mem_append_left _ hmem)) hlast
        (storedSelectorsGiven_of_same hlast hservers)).mp hhides
    rwa [hconfigs] at hreplaces
  · intro hreplaces calls uninit c fresh p hcalls houtcome
    have hall := haccepted calls hcalls
    obtain ⟨before, final, rfl, rfl, rfl⟩ := calls_split hcalls
    rcases outcome_iff hall uninit with ⟨p', hstarted, hconfig, hiff⟩
    rcases (hiff _ _ _).mp houtcome with ⟨rfl, rfl, rfl⟩
    have hhides := (hides_iff_replaces (fun call hmem => hall call (List.mem_append_left _ hmem))
      hlast hreplaces.selectors).mpr hreplaces
    have hservers := hreplaces.selectors.sameServers hlast final.uninit uninit
    have hsame := (hlast.sameConfig_iff final.uninit uninit _).mpr ⟨hhides, hservers⟩
    rw [← ImportCall.assignments, ← hconfig] at hsame
    refine ⟨hsame, fun hne key => ?_⟩
    -- the clients have been started from the stored configuration
    have hne : before ≠ [] := fun hnil => hne (by rw [hnil]; rfl)
    rw [hstarted hne, start_clients, ExtTreeMap.getElem?_empty, Option.or_none]
    exact hsame.newClient key

/-! ## A connection, a reading period and a datapoint that stay -/

/-- A protocol stack with a polling period of its own. -/
def olderProtocolStack : String :=
  "\x7b\"protocol_stack\":\x7b\"transport_layer\":\x7b\"ied_name\":\"IED1\",\"connections\":[\x7b\"srv_ip\":\"192.168.0.10\",\"port\":102\x7d]\x7d,\"application_layer\":\x7b\"reading_period\":500\x7d\x7d\x7d"

def newerProtocolStack : String :=
  "\x7b\"protocol_stack\":\x7b\"transport_layer\":\x7b\"ied_name\":\"IED2\",\"connections\":[\x7b\"srv_ip\":\"192.168.0.11\",\"port\":102\x7d]\x7d,\"application_layer\":\x7b\x7d\x7d\x7d"

/-- The application layer is missing. -/
def defectiveProtocolStack : String :=
  "\x7b\"protocol_stack\":\x7b\"transport_layer\":\x7b\"ied_name\":\"IED2\",\"connections\":[]\x7d\x7d\x7d"

def oneDatapoint : String :=
  "\x7b\"exchanged_data\":\x7b\"datapoints\":[\x7b\"label\":\"TM1\",\"protocols\":[]\x7d]\x7d\x7d"

/-- The document of a protocol stack with one connection. -/
def protocolStackDocument (iedName srvIp : String) (application : List (String × Json)) : Json :=
  .object [("protocol_stack", .object
    [("transport_layer", .object
      [("ied_name", .string iedName),
        ("connections", .array [.object [("srv_ip", .string srvIp), ("port", .integer 102)]])]),
      ("application_layer", .object application)])]

def samplePlatform : Platform :=
  .withDocuments
    [(olderProtocolStack,
        protocolStackDocument "IED1" "192.168.0.10" [("reading_period", .integer 500)]),
      (newerProtocolStack, protocolStackDocument "IED2" "192.168.0.11" []),
      (defectiveProtocolStack, .object [("protocol_stack", .object [("transport_layer", .object
        [("ied_name", .string "IED2"), ("connections", .array [])])])]),
      (oneDatapoint, .object [("exchanged_data", .object
        [("datapoints", .array [.object [("label", .string "TM1"), ("protocols", .array [])]])])])]

def olderConfig : ConfigCategory :=
  ⟨[("protocol_stack", olderProtocolStack), ("exchanged_data", oneDatapoint)]⟩

def newerConfig : ConfigCategory :=
  ⟨[("protocol_stack", newerProtocolStack)]⟩

def defectiveConfig : ConfigCategory :=
  ⟨[("protocol_stack", defectiveProtocolStack)]⟩

/-- Both configurations are imported without an exception. -/
theorem samples_accepted : ∀ config ∈ [olderConfig] ++ [newerConfig],
    Accepted samplePlatform config := by
  have hstop : ∀ config ∈ [olderConfig] ++ [newerConfig],
      (configAssignments samplePlatform config).stop = none := by decide +kernel
  exact fun config hmem => accepted_iff.mpr (hstop config hmem)

theorem reconfiguration_replaces_iff_sample :
    (∀ calls uninit, calls.map ImportCall.config = [olderConfig] ++ [newerConfig] →
      ∃ c fresh p, Outcome samplePlatform calls ⟨newerConfig, uninit⟩ c fresh p ∧
        p.m_config = c) ∧
    ((∀ calls uninit c fresh p, calls.map ImportCall.config = [olderConfig] ++ [newerConfig] →
        Outcome samplePlatform calls ⟨newerConfig, uninit⟩ c fresh p →
        SameConfig c fresh ∧ ([olderConfig] ≠ [] → ∀ key : String, Option.Rel SameClient
          p.m_clients[key]? (fresh.serverConfigDict[key]?.map (IEC61850.newClient fresh)))) ↔
      Replaces samplePlatform [olderConfig] newerConfig) :=
  reconfiguration_replaces_iff samples_accepted

/-- The memory that the sample platform gives to every import. -/
def sampleCall (config : ConfigCategory) : ImportCall :=
  ⟨config, samplePlatform.uninit⟩

/-- Two accepted configurations, and the first one shows through the second: its
datapoint is still read, its connection still has a client and its reading
period still holds, although the second one asks for none of them. -/
theorem older_config_shows_through :
    (∀ config ∈ [olderConfig, newerConfig], Accepted samplePlatform config) ∧
      ∃ c fresh p, Outcome samplePlatform [sampleCall olderConfig, sampleCall newerConfig]
          (sampleCall newerConfig) c fresh p ∧ p.m_config = c ∧ ¬ SameConfig c fresh ∧
        (fresh.exchangedData.length = 0 ∧ c.exchangedData.length = 1) ∧
        (fresh.serverConfigDict["192.168.0.10_102"]?.isNone ∧
          p.m_clients["192.168.0.10_102"]?.isSome) ∧
        (fresh.applicationParams.readPollingPeriodInMs = 1000 ∧
          c.applicationParams.readPollingPeriodInMs = 500) := by
  have hcalls : ∀ call ∈ [sampleCall olderConfig] ++ [sampleCall newerConfig],
      Accepted samplePlatform call.config := by
    intro call hmem
    have hconfig : call.config ∈ [sampleCall olderConfig, sampleCall newerConfig].map
        ImportCall.config := List.mem_map_of_mem hmem
    exact samples_accepted _ hconfig
  rcases outcome_iff hcalls samplePlatform.uninit with ⟨p, hstarted, hconfig, hiff⟩
  refine ⟨samples_accepted, p.m_config, _, p, (hiff _ _ _).mpr ⟨rfl, rfl, rfl⟩, rfl, ?_⟩
  have hlength : p.m_config.exchangedData.length = 1 := by
    rw [hconfig]
    decide +kernel
  refine ⟨?_, ⟨by decide +kernel, hlength⟩, ⟨by decide +kernel, ?_⟩, by decide +kernel, ?_⟩
  · intro hsame
    rw [hsame.exchangedData] at hlength
    revert hlength
    decide +kernel
  · rw [hstarted (by simp), start_clients, hconfig, Option.isSome_or, Option.isSome_map]
    decide +kernel
  · rw [hconfig]
    decide +kernel

/-! ## Rejected configurations -/

/-- **What a rejected reconfiguration leaves behind.** The clients are gone, and
every field holds what the assignments before the defect have made of it. -/
theorem plugin_reconfigure_rejected {newConfig : ConfigCategory} {p p' : IEC61850} {msg : String}
    (h : plugin_reconfigure plat newConfig p = .error (.configurationException msg) p') :
    let written := (configAssignments plat newConfig).out
    p'.m_clients = ∅ ∧
      p'.m_config.logMinLevel =
        lastWritten p.m_config.logMinLevel (written.filterMap Assignment.logMinLevel?) ∧
      p'.m_config.assetName =
        lastWritten p.m_config.assetName (written.filterMap Assignment.assetName?) ∧
      p'.m_config.iedName =
        lastWritten p.m_config.iedName (written.filterMap Assignment.iedName?) ∧
      (∀ key : String, p'.m_config.serverConfigDict[key]? =
        (lastValue (written.filterMap Assignment.server?) key).or
          p.m_config.serverConfigDict[key]?) ∧
      p'.m_config.applicationParams =
        { readPollingPeriodInMs :=
            lastWritten p.m_config.applicationParams.readPollingPeriodInMs
              (written.filterMap Assignment.readPollingPeriod?)
          readMode := lastWritten p.m_config.applicationParams.readMode
            (written.filterMap Assignment.readMode?) } ∧
      p'.m_config.exchangedData =
        p.m_config.exchangedData ++ written.filterMap Assignment.datapoint? ∧
      (∀ datasetRef : String, p'.m_config.selectedDOInExchangedDatasets[datasetRef]? =
        (lastValue (written.filterMap Assignment.dataset?) datasetRef).or
          p.m_config.selectedDOInExchangedDatasets[datasetRef]?) ∧
      ((p'.m_config = p.m_config ∧ p'.m_clients = p.m_clients) ↔
        p.m_clients = ∅ ∧ Idle written p.m_config) := by
  intro written
  -- the clients have been destroyed, and what was written before the exception stays
  have hp' : p' = ⟨assignAll p.m_config written, ∅⟩ := by
    rcases plugin_reconfigure_cases newConfig p with ⟨e, hrun⟩ | hrun
    · rw [hrun] at h
      cases h
      rfl
    · rw [hrun] at h
      cases h
  subst hp'
  refine ⟨rfl, assignAll_logMinLevel .., assignAll_assetName .., assignAll_iedName .., ?_, ?_,
    assignAll_exchangedData .., ?_, ?_⟩
  · intro key
    rw [assignAll_serverConfigDict, getElem?_insertAll]
  · rw [← assignAll_readPollingPeriodInMs, ← assignAll_readMode]
  · intro datasetRef
    rw [assignAll_selectedDOInExchangedDatasets, getElem?_insertAll]
  · rw [assignAll_eq_self_iff, and_comm, eq_comm]

/-- The defective configuration has no application layer. -/
theorem defective_stop : (configAssignments samplePlatform defectiveConfig).stop =
    some (.configurationException "'application layer' configuration is missing") := by
  decide +kernel

theorem plugin_reconfigure_rejected_sample : ∃ p' : IEC61850,
    plugin_reconfigure samplePlatform defectiveConfig {} = .error (.configurationException
      "'application layer' configuration is missing") p' ∧ p'.m_clients = ∅ :=
  ⟨_, plugin_reconfigure_of_stop defective_stop {},
    (plugin_reconfigure_rejected (plugin_reconfigure_of_stop defective_stop {})).1⟩

/-- A started plugin loses its client, and its IED is renamed, although the new
configuration is rejected. -/
theorem rejected_reconfiguration_changes :
    ∃ p p' msg, Reachable samplePlatform p ∧
      plugin_reconfigure samplePlatform defectiveConfig p =
        .error (.configurationException msg) p' ∧
      (p.m_clients["192.168.0.10_102"]?.isSome ∧ p'.m_clients["192.168.0.10_102"]? = none) ∧
      (p.m_config.iedName = "IED1" ∧ p'.m_config.iedName = "IED2") := by
  have hgo := accepted_iff.mp
    ((samples_accepted olderConfig (by simp)).withMemory samplePlatform.uninit)
  let p : IEC61850 := ⟨assignAll {} ((sampleCall olderConfig).assignments samplePlatform).out, ∅⟩
  have hinit : plugin_init (samplePlatform.withMemory samplePlatform.uninit) (some olderConfig) =
      .ok p := by
    rw [plugin_init, setConfig_run, Emission.result_of_go hgo]
    rfl
  refine ⟨IEC61850.start p, _, _, .start (.init hinit),
    plugin_reconfigure_of_stop defective_stop _, ⟨?_, by simp⟩, ?_, ?_⟩
  · have hserver : (p.m_config.serverConfigDict["192.168.0.10_102"]?).isSome := by decide +kernel
    rw [start_clients, Option.isSome_or, Option.isSome_map, hserver, Bool.true_or]
  · decide +kernel
  · rw [reconfigured, assignAll_iedName, lastWritten]
    have hlast : ((configAssignments samplePlatform defectiveConfig).out.filterMap
        Assignment.iedName?).getLast? = some "IED2" := by decide +kernel
    rw [hlast, Option.getD_some]

end Iec61850South
