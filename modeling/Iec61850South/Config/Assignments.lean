import Iec61850South.Config.Import
import Iec61850South.Lib.OrderedMap

/-! # An import is a list of assignments

No import function reads the configuration object. What an import does is
therefore known from the configuration alone: a list of assignments, cut off at
the first error. `importConfig_run` states it for the code of `importConfig`;
`applyAll` and its projections say what a list of assignments leaves behind.
-/

namespace Iec61850South

open Lib Std

/-- One assignment of an import to the configuration object. -/
inductive Assignment where
  | logMinLevel (level : String)
  | assetName (name : String)
  | iedName (name : String)
  | server (param : ServerConnectionParameters)
  | readPollingPeriod (period : UInt32)
  | readMode (mode : ReadMode)
  | datapoint (dpConfig : DatapointConfig)
  | dataset (datasetRef : String) (selectedDataObjectList : ExchangedData)

/-- Carry out an assignment. -/
def assign (c : IEC61850ClientConfig) : Assignment → IEC61850ClientConfig
  | .logMinLevel level => { c with logMinLevel := level }
  | .assetName name => { c with assetName := name }
  | .iedName name => { c with iedName := name }
  | .server param =>
    { c with serverConfigDict := c.serverConfigDict.insert (buildKey param) param }
  | .readPollingPeriod period =>
    { c with applicationParams := { c.applicationParams with readPollingPeriodInMs := period } }
  | .readMode mode =>
    { c with applicationParams := { c.applicationParams with readMode := mode } }
  | .datapoint dpConfig => { c with exchangedData := c.exchangedData ++ [dpConfig] }
  | .dataset datasetRef selected =>
    { c with
      selectedDOInExchangedDatasets := c.selectedDOInExchangedDatasets.insert datasetRef selected }

/-- Carry out assignments in order. -/
def assignAll (c : IEC61850ClientConfig) (l : List Assignment) : IEC61850ClientConfig :=
  l.foldl assign c

/-- The assignments of an import, and the error that ends it. -/
abbrev Assignments := Emission Assignment ImportStop

/-! ## What each section assigns -/

variable (plat : Platform)

/-- One connection, under its key. -/
def connectionAssignments (uninit : OsiParameters) (connConfig : Json) : Assignments :=
  .after (connectionOf uninit connConfig) fun param => .emit (.server param)

/-- The IED name and then the connections, one by one. -/
def transportAssignments (transportLayer : Json) : Assignments :=
  .after (transportLayerHeader transportLayer) fun header =>
    (Emission.emit (.iedName header.1)).seq (.seqAll (header.2.zipIdx.map fun conn =>
      connectionAssignments (plat.uninit conn.2) conn.1))

/-- The polling period and the reading mode, where they are given. -/
def applicationAssignments (applicationLayer : Json) : Assignments :=
  .after (readingPeriodOf applicationLayer) fun period =>
    Emission.seq ⟨(period.map .readPollingPeriod).toList, none⟩
      (.after (readModeOf applicationLayer) fun mode => ⟨(mode.map .readMode).toList, none⟩)

/-- The whole protocol stack: transport layer and then application layer. -/
def protocolAssignments (protocolConfig : String) : Assignments :=
  .after (protocolHeader plat protocolConfig) fun protocolStack =>
    .after (objectMember protocolStack "transport_layer"
        "'transport layer' configuration is missing") fun transportLayer =>
      (transportAssignments plat transportLayer).seq
        (.after (objectMember protocolStack "application_layer"
          "'application layer' configuration is missing") applicationAssignments)

/-- The DO of one datapoint. -/
def datapointAssignments (jsonDatapointConfig : Json) : Assignments :=
  .after (datapointOf plat jsonDatapointConfig) fun dpConfig => .emit (.datapoint dpConfig)

/-- The DOs of the exchanged data, one by one. -/
def exchangedDataAssignments (exchangedDataConfig : String) : Assignments :=
  .after (exchangedDataHeader plat exchangedDataConfig) fun datapoints =>
    .seqAll (datapoints.map (datapointAssignments plat))

/-- One dataset, under its reference. -/
def datasetAssignments (jsonDatasetConfig : Json) : Assignments :=
  .after (datasetOf plat jsonDatasetConfig) fun dataset => .emit (.dataset dataset.1 dataset.2)

/-- The datasets, one by one. -/
def exchangedDatasetsAssignments (exchangedDatasetsConfig : String) : Assignments :=
  .after (exchangedDatasetsHeader plat exchangedDatasetsConfig) fun datasets =>
    .seqAll (datasets.map (datasetAssignments plat))

/-- The assignments to the plain items of the category, which come first. -/
def itemAssignments (newConfig : ConfigCategory) : List Assignment :=
  [.logMinLevel ((newConfig.getValue? "log min level").getD DEFAULT_LOG_MIN_LEVEL),
    .assetName DEFAULT_ASSET_NAME,
    .assetName ((newConfig.getValue? "asset").getD DEFAULT_ASSET_NAME)]

/-- A category without a protocol stack is refused. -/
def protocolStackItemAssignments (item : Option String) : Assignments :=
  match item with
  | none => .halt (.configurationException "'Protocol stack' not found")
  | some text => protocolAssignments plat text

/-- An item that is imported only if it exists. -/
def optionalItemAssignments (item : Option String) (assignments : String → Assignments) :
    Assignments :=
  match item with
  | none => .done
  | some text => assignments text

/-- Everything that the import of a configuration assigns. -/
def configAssignments (newConfig : ConfigCategory) : Assignments :=
  Emission.seq ⟨itemAssignments newConfig, none⟩
    (Emission.seq (protocolStackItemAssignments plat (newConfig.getValue? "protocol_stack"))
      (Emission.seq
        (optionalItemAssignments (newConfig.getValue? "exchanged_data")
          (exchangedDataAssignments plat))
        (optionalItemAssignments (newConfig.getValue? "exchanged_datasets")
          (exchangedDatasetsAssignments plat))))

/-! ## The code carries out these assignments -/

/-- Assignments show in the configuration object. -/
def configEffect : Effect IEC61850ClientConfig Assignment := .ofWrite assign

/-- The computation does exactly the given assignments, from any state. -/
def Assigns (x : ImportM PUnit) (E : Assignments) : Prop :=
  ∀ c, Emits configEffect (fun _ => True) x c E

/-- A single write. -/
theorem Assigns.modify {f : IEC61850ClientConfig → IEC61850ClientConfig} {l : List Assignment}
    (h : ∀ c, f c = assignAll c l) : Assigns (modify f) ⟨l, none⟩ := by
  intro c
  exact ⟨f c, h c, rfl, fun _ => trivial⟩

/-- What the first part assigns comes first, and its exception stops the second one. -/
theorem Assigns.bind {x y : ImportM PUnit} {E F : Assignments} (hx : Assigns x E)
    (hy : Assigns y F) : Assigns (x >>= fun _ => y) (E.seq F) := by
  intro c
  exact Emits.bind (hx c) fun c' _ => hy c'

/-- A pure step before a part: it assigns nothing, and its exception stops the part. -/
theorem Assigns.after {α : Type} {x : Except ImportStop α} {f : α → ImportM PUnit}
    {F : α → Assignments} (h : ∀ a, Assigns (f a) (F a)) :
    Assigns (liftExcept x >>= f) (.after x F) := by
  intro c
  exact Emits.after fun a _ => h a c

/-- The elements of an array are imported in order, up to the first exception. -/
theorem Assigns.forM {γ : Type} {f : γ → ImportM PUnit} {F : γ → Assignments} (xs : List γ)
    (h : ∀ a, Assigns (f a) (F a)) : Assigns (forM xs f) (.seqAll (xs.map F)) := by
  induction xs with
  | nil => exact fun c => Emits.pure trivial
  | cons a xs ih =>
    rw [List.forM_cons]
    exact Assigns.bind (h a) ih

/-- Decode a connection, then store it. -/
theorem importJsonConnectionConfig_assigns (uninit : OsiParameters) (connConfig : Json) :
    Assigns (importJsonConnectionConfig uninit connConfig)
      (connectionAssignments uninit connConfig) :=
  .after fun _ => .modify fun _ => rfl

/-- The IED name is written before any connection is looked at. -/
theorem importJsonTransportLayerConfig_assigns (transportLayer : Json) :
    Assigns (importJsonTransportLayerConfig plat transportLayer)
      (transportAssignments plat transportLayer) :=
  .after fun header =>
    .bind (.modify fun _ => rfl) (.forM header.2.zipIdx fun conn =>
      importJsonConnectionConfig_assigns (plat.uninit conn.2) conn.1)

/-- The polling period is written before the mode is looked at. -/
theorem importJsonApplicationLayerConfig_assigns (applicationLayer : Json) :
    Assigns (importJsonApplicationLayerConfig applicationLayer)
      (applicationAssignments applicationLayer) :=
  .after fun period =>
    .bind (.modify fun _ => by cases period <;> rfl)
      (.after fun mode => .modify fun _ => by cases mode <;> rfl)

/-- The transport layer is imported before the application layer. -/
theorem importJsonProtocolConfig_assigns (protocolConfig : String) :
    Assigns (importJsonProtocolConfig plat protocolConfig)
      (protocolAssignments plat protocolConfig) :=
  .after fun _ => .after fun transportLayer =>
    .bind (importJsonTransportLayerConfig_assigns plat transportLayer)
      (.after importJsonApplicationLayerConfig_assigns)

/-- The array of datapoints, element by element. -/
theorem importJsonExchangedDataConfig_assigns (exchangedDataConfig : String) :
    Assigns (importJsonExchangedDataConfig plat exchangedDataConfig)
      (exchangedDataAssignments plat exchangedDataConfig) :=
  .after fun datapoints => .forM datapoints fun _ => .after fun _ => .modify fun _ => rfl

/-- The array of datasets, element by element. -/
theorem importJsonExchangedDatasetsConfig_assigns (exchangedDatasetsConfig : String) :
    Assigns (importJsonExchangedDatasetsConfig plat exchangedDatasetsConfig)
      (exchangedDatasetsAssignments plat exchangedDatasetsConfig) :=
  .after fun datasets => .forM datasets fun _ => .after fun _ => .modify fun _ => rfl

/-- The item that the category must have. -/
theorem importProtocolStackItem_assigns (item : Option String) :
    Assigns (importProtocolStackItem plat item) (protocolStackItemAssignments plat item) := by
  cases item with
  | none => exact fun c => ⟨c, rfl, rfl, by simp [protocolStackItemAssignments]⟩
  | some text => exact importJsonProtocolConfig_assigns plat text

/-- An item that the category may lack. -/
theorem importOptionalItem_assigns {f : String → ImportM PUnit} {F : String → Assignments}
    (item : Option String) (h : ∀ text, Assigns (f text) (F text)) :
    Assigns (importOptionalItem item f) (optionalItemAssignments item F) := by
  cases item with
  | none => exact fun c => Emits.pure trivial
  | some text => exact h text

/-- The import writes what its assignments say, up to the first exception, on whatever was
there. -/
theorem importConfig_assigns (newConfig : ConfigCategory) :
    Assigns (importConfig plat newConfig) (configAssignments plat newConfig) := by
  have hrest : Assigns _ _ :=
    .bind (importProtocolStackItem_assigns plat (newConfig.getValue? "protocol_stack"))
      (.bind (importOptionalItem_assigns (newConfig.getValue? "exchanged_data")
          (importJsonExchangedDataConfig_assigns plat))
        (importOptionalItem_assigns (newConfig.getValue? "exchanged_datasets")
          (importJsonExchangedDatasetsConfig_assigns plat)))
  intro c
  rcases hrest (assignAll c (itemAssignments newConfig)) with ⟨c', hc', hrun, _⟩
  exact ⟨c', configEffect.append rfl hc', hrun, fun _ => trivial⟩

/-- An import carries out its assignments, and ends as they end. -/
theorem importConfig_run (newConfig : ConfigCategory) (c : IEC61850ClientConfig) :
    importConfig plat newConfig c =
      (configAssignments plat newConfig).result
        (assignAll c (configAssignments plat newConfig).out) := by
  rcases importConfig_assigns plat newConfig c with ⟨c', rfl, hrun, _⟩
  exact hrun

end Iec61850South
