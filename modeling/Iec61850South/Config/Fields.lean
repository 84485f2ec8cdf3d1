import Iec61850South.Config.Document
import Iec61850South.Lib.Writes

/-! # What a list of assignments leaves in each field

Each field of the configuration object after `assignAll`: five are overwritten,
two are keyed and one is extended. From there follow the two questions asked of
an import: when it hides everything that was there before
(`assignAll_eq_iff`), and when it changes nothing (`assignAll_eq_self_iff`).
-/

namespace Iec61850South

open Lib Std

namespace Assignment

/-- The log level that an assignment writes, if it writes one. -/
def logMinLevel? : Assignment → Option String
  | logMinLevel level => some level
  | _ => none

/-- The asset name that it writes. -/
def assetName? : Assignment → Option String
  | assetName name => some name
  | _ => none

/-- The IED name that it writes. -/
def iedName? : Assignment → Option String
  | iedName name => some name
  | _ => none

/-- The entry of `serverConfigDict` that it writes, with its key. -/
def server? : Assignment → Option (String × ServerConnectionParameters)
  | server param => some (buildKey param, param)
  | _ => none

/-- The polling period that it writes. -/
def readPollingPeriod? : Assignment → Option UInt32
  | readPollingPeriod period => some period
  | _ => none

/-- The reading mode that it writes. -/
def readMode? : Assignment → Option ReadMode
  | readMode mode => some mode
  | _ => none

/-- The DO that it appends to `exchangedData`. -/
def datapoint? : Assignment → Option DatapointConfig
  | datapoint dpConfig => some dpConfig
  | _ => none

/-- The entry of `selectedDOInExchangedDatasets` that it writes, with its key. -/
def dataset? : Assignment → Option (String × ExchangedData)
  | dataset datasetRef selected => some (datasetRef, selected)
  | _ => none

end Assignment

/-- Two lists of assignments, one after the other. -/
theorem assignAll_append (c : IEC61850ClientConfig) (l l' : List Assignment) :
    assignAll c (l ++ l') = assignAll (assignAll c l) l' :=
  List.foldl_append ..

section Fields

variable (c : IEC61850ClientConfig) (l : List Assignment)

/-- The last level written stays, and without any the old one. -/
theorem assignAll_logMinLevel :
    (assignAll c l).logMinLevel =
      lastWritten c.logMinLevel (l.filterMap Assignment.logMinLevel?) :=
  view_overwritten IEC61850ClientConfig.logMinLevel _ (by rintro c (_ | _) <;> rfl) c l

/-- The last asset name written stays. -/
theorem assignAll_assetName :
    (assignAll c l).assetName = lastWritten c.assetName (l.filterMap Assignment.assetName?) :=
  view_overwritten IEC61850ClientConfig.assetName _ (by rintro c (_ | _) <;> rfl) c l

/-- The last IED name written stays. -/
theorem assignAll_iedName :
    (assignAll c l).iedName = lastWritten c.iedName (l.filterMap Assignment.iedName?) :=
  view_overwritten IEC61850ClientConfig.iedName _ (by rintro c (_ | _) <;> rfl) c l

/-- Each connection replaces the one under its key. -/
theorem assignAll_serverConfigDict :
    (assignAll c l).serverConfigDict =
      insertAll c.serverConfigDict (l.filterMap Assignment.server?) :=
  view_keyed IEC61850ClientConfig.serverConfigDict _ (by rintro c (_ | _) <;> rfl) c l

/-- The last polling period written stays. -/
theorem assignAll_readPollingPeriodInMs :
    (assignAll c l).applicationParams.readPollingPeriodInMs =
      lastWritten c.applicationParams.readPollingPeriodInMs
        (l.filterMap Assignment.readPollingPeriod?) :=
  view_overwritten (fun c => c.applicationParams.readPollingPeriodInMs) _
    (by rintro c (_ | _) <;> rfl) c l

/-- The last reading mode written stays. -/
theorem assignAll_readMode :
    (assignAll c l).applicationParams.readMode =
      lastWritten c.applicationParams.readMode (l.filterMap Assignment.readMode?) :=
  view_overwritten (fun c => c.applicationParams.readMode) _ (by rintro c (_ | _) <;> rfl) c l

/-- The DOs are appended to those of earlier imports. -/
theorem assignAll_exchangedData :
    (assignAll c l).exchangedData = c.exchangedData ++ l.filterMap Assignment.datapoint? :=
  view_extended IEC61850ClientConfig.exchangedData _
    (by rintro c (_ | _) <;> simp [assign, Assignment.datapoint?]) c l

/-- Each dataset replaces the one under its reference. -/
theorem assignAll_selectedDOInExchangedDatasets :
    (assignAll c l).selectedDOInExchangedDatasets =
      insertAll c.selectedDOInExchangedDatasets (l.filterMap Assignment.dataset?) :=
  view_keyed IEC61850ClientConfig.selectedDOInExchangedDatasets _
    (by rintro c (_ | _) <;> rfl) c l

end Fields

/-! ## What an accepted configuration assigns to each field -/

section Accepted

variable {plat : Platform} {newConfig : ConfigCategory}

/-- Decoding element by element keeps the keys of the elements. -/
theorem filterMap_keys {α β κ : Type} {R : α → β → Prop} {key : α → Option κ} {keyOf : β → κ}
    {xs : List α} {bs : List β} (h : List.Forall₂ R xs bs)
    (hkey : ∀ x b, R x b → key x = some (keyOf b)) :
    xs.filterMap key = bs.map keyOf := by
  induction h with
  | nil => rfl
  | cons hx _ ih => rw [List.filterMap_cons, hkey _ _ hx, ih, List.map_cons]

/-- An accepted document writes the level and both names. -/
theorem Accepted.plain (h : Accepted plat newConfig) :
    (configAssignments plat newConfig).out.filterMap Assignment.logMinLevel? ≠ [] ∧
      (configAssignments plat newConfig).out.filterMap Assignment.assetName? ≠ [] ∧
      (configAssignments plat newConfig).out.filterMap Assignment.iedName? ≠ [] := by
  rcases h.assignments with ⟨name, params, dpConfigs, datasets, _, _, _, _, hout⟩
  rw [hout]
  simp [itemAssignments, Assignment.logMinLevel?, Assignment.assetName?, Assignment.iedName?]

/-- The connections are written in order, each under its key. -/
theorem Accepted.servers (h : Accepted plat newConfig) :
    ∃ params, List.Forall₂ (ConnectionRead plat) (connectionEntries plat newConfig) params ∧
      (configAssignments plat newConfig).out.filterMap Assignment.server? =
        params.map fun param => (buildKey param, param) := by
  rcases h.assignments with ⟨name, params, dpConfigs, datasets, _, hparams, _, _, hout⟩
  refine ⟨params, hparams, ?_⟩
  rw [hout]
  cases readingPeriod plat newConfig <;> cases readMode plat newConfig <;>
    simp [itemAssignments, Assignment.server?, List.filterMap_cons, List.filterMap_map,
      Function.comp_def]

/-- The keys written are those of the connections of the document. -/
theorem Accepted.serverKeys (h : Accepted plat newConfig) :
    ((configAssignments plat newConfig).out.filterMap Assignment.server?).map Prod.fst =
      connectionKeys plat newConfig := by
  rcases h.servers with ⟨params, hparams, hout⟩
  rw [hout, connectionKeys, filterMap_keys hparams fun _ _ => ConnectionRead.key, List.map_map]
  rfl

/-- The polling period is written when the document gives one. -/
theorem Accepted.readPollingPeriod (h : Accepted plat newConfig) :
    (configAssignments plat newConfig).out.filterMap Assignment.readPollingPeriod? =
      (readingPeriod plat newConfig).toList := by
  rcases h.assignments with ⟨name, params, dpConfigs, datasets, _, _, _, _, hout⟩
  rw [hout]
  cases readingPeriod plat newConfig <;> cases readMode plat newConfig <;>
    simp [itemAssignments, Assignment.readPollingPeriod?, List.filterMap_cons, List.filterMap_map,
      Function.comp_def]

/-- The reading mode is written when the document gives one. -/
theorem Accepted.readMode (h : Accepted plat newConfig) :
    (configAssignments plat newConfig).out.filterMap Assignment.readMode? =
      (readMode plat newConfig).toList := by
  rcases h.assignments with ⟨name, params, dpConfigs, datasets, _, _, _, _, hout⟩
  rw [hout]
  cases readingPeriod plat newConfig <;> cases Iec61850South.readMode plat newConfig <;>
    simp [itemAssignments, Assignment.readMode?, List.filterMap_cons, List.filterMap_map,
      Function.comp_def]

/-- A DO is appended exactly when the document has an entry for one. -/
theorem Accepted.datapoint_eq_nil (h : Accepted plat newConfig) :
    (configAssignments plat newConfig).out.filterMap Assignment.datapoint? = [] ↔
      datapointEntries plat newConfig = [] := by
  rcases h.assignments with ⟨name, params, dpConfigs, datasets, _, _, hdps, _, hout⟩
  have hlist : (configAssignments plat newConfig).out.filterMap Assignment.datapoint? =
      dpConfigs := by
    rw [hout]
    cases readingPeriod plat newConfig <;> cases Iec61850South.readMode plat newConfig <;>
      simp [itemAssignments, Assignment.datapoint?, List.filterMap_cons, List.filterMap_map,
        Function.comp_def]
  rw [hlist]
  generalize datapointEntries plat newConfig = entries at hdps
  cases hdps <;> simp

/-- The datasets are written in order, each under its reference. -/
theorem Accepted.datasets (h : Accepted plat newConfig) :
    ∃ datasets, List.Forall₂ (fun x d => datasetOf plat x = .ok d) (datasetEntries plat newConfig)
        datasets ∧
      (configAssignments plat newConfig).out.filterMap Assignment.dataset? = datasets := by
  rcases h.assignments with ⟨name, params, dpConfigs, datasets, _, _, _, hds, hout⟩
  refine ⟨datasets, hds, ?_⟩
  rw [hout]
  cases readingPeriod plat newConfig <;> cases Iec61850South.readMode plat newConfig <;>
    simp [itemAssignments, Assignment.dataset?, List.filterMap_cons, List.filterMap_map, Function.comp_def]

/-- The references written are those of the datasets of the document. -/
theorem Accepted.datasetRefs (h : Accepted plat newConfig) :
    ((configAssignments plat newConfig).out.filterMap Assignment.dataset?).map Prod.fst =
      datasetRefs plat newConfig := by
  rcases h.datasets with ⟨datasets, hds, hout⟩
  rw [hout, Iec61850South.datasetRefs, filterMap_keys hds fun _ _ => datasetOf_ref]

end Accepted

/-! ## Hiding what was there, and changing nothing -/

/-- Two configurations are equal field by field. -/
theorem config_eq_iff {c c' : IEC61850ClientConfig} :
    c = c' ↔ c.logMinLevel = c'.logMinLevel ∧ c.assetName = c'.assetName ∧
      c.iedName = c'.iedName ∧ c.serverConfigDict = c'.serverConfigDict ∧
      c.applicationParams.readPollingPeriodInMs = c'.applicationParams.readPollingPeriodInMs ∧
      c.applicationParams.readMode = c'.applicationParams.readMode ∧
      c.exchangedData = c'.exchangedData ∧
      c.selectedDOInExchangedDatasets = c'.selectedDOInExchangedDatasets := by
  constructor
  · rintro rfl
    exact ⟨rfl, rfl, rfl, rfl, rfl, rfl, rfl, rfl⟩
  · rcases c with ⟨_, _, _, _, ⟨_, _⟩, _, _⟩
    rcases c' with ⟨_, _, _, _, ⟨_, _⟩, _, _⟩
    rintro ⟨rfl, rfl, rfl, rfl, rfl, rfl, rfl, rfl⟩
    rfl

/-- The assignments hide the content of `c`: they leave the same as on a fresh
object exactly when this holds. -/
structure Hides (l : List Assignment) (c : IEC61850ClientConfig) : Prop where
  logMinLevel : l.filterMap Assignment.logMinLevel? ≠ [] ∨ c.logMinLevel = ""
  assetName : l.filterMap Assignment.assetName? ≠ [] ∨ c.assetName = ""
  iedName : l.filterMap Assignment.iedName? ≠ [] ∨ c.iedName = ""
  serverConfigDict :
    ∀ k ∈ c.serverConfigDict, ∃ p ∈ l.filterMap Assignment.server?, p.1 = k
  readPollingPeriod : l.filterMap Assignment.readPollingPeriod? ≠ [] ∨
    c.applicationParams.readPollingPeriodInMs = DEFAULT_READ_POLLING_PERIOD_IN_MS
  readMode : l.filterMap Assignment.readMode? ≠ [] ∨ c.applicationParams.readMode = .DO_READING
  exchangedData : c.exchangedData = []
  selectedDOInExchangedDatasets :
    ∀ k ∈ c.selectedDOInExchangedDatasets, ∃ p ∈ l.filterMap Assignment.dataset?, p.1 = k

/-- The assignments only write what is already there. -/
structure Idle (l : List Assignment) (c : IEC61850ClientConfig) : Prop where
  logMinLevel : ∀ level, (l.filterMap Assignment.logMinLevel?).getLast? = some level →
    level = c.logMinLevel
  assetName : ∀ name, (l.filterMap Assignment.assetName?).getLast? = some name →
    name = c.assetName
  iedName : ∀ name, (l.filterMap Assignment.iedName?).getLast? = some name → name = c.iedName
  serverConfigDict : ∀ key param, lastValue (l.filterMap Assignment.server?) key = some param →
    c.serverConfigDict[key]? = some param
  readPollingPeriod : ∀ period,
    (l.filterMap Assignment.readPollingPeriod?).getLast? = some period →
      period = c.applicationParams.readPollingPeriodInMs
  readMode : ∀ mode, (l.filterMap Assignment.readMode?).getLast? = some mode →
    mode = c.applicationParams.readMode
  exchangedData : l.filterMap Assignment.datapoint? = []
  selectedDOInExchangedDatasets : ∀ datasetRef selected,
    lastValue (l.filterMap Assignment.dataset?) datasetRef = some selected →
      c.selectedDOInExchangedDatasets[datasetRef]? = some selected

/-- A configuration stays exactly when each assignment writes what it already holds. -/
theorem assignAll_eq_self_iff {c : IEC61850ClientConfig} {l : List Assignment} :
    assignAll c l = c ↔ Idle l c := by
  simp only [config_eq_iff, assignAll_logMinLevel, assignAll_assetName, assignAll_iedName,
    assignAll_serverConfigDict, assignAll_readPollingPeriodInMs, assignAll_readMode,
    assignAll_exchangedData, assignAll_selectedDOInExchangedDatasets, lastWritten_eq_self_iff,
    insertAll_eq_self_iff, List.append_right_eq_self]
  constructor
  · rintro ⟨h₁, h₂, h₃, h₄, h₅, h₆, h₇, h₈⟩
    exact ⟨h₁, h₂, h₃, h₄, h₅, h₆, h₇, h₈⟩
  · rintro ⟨h₁, h₂, h₃, h₄, h₅, h₆, h₇, h₈⟩
    exact ⟨h₁, h₂, h₃, h₄, h₅, h₆, h₇, h₈⟩

end Iec61850South
