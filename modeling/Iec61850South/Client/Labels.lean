import Iec61850South.Client.Conversion
import Iec61850South.Client.Datasets

/-! # The label of a datapoint and the name of its readings

The label is put at the root of the name tree, in the place of an attribute name.
The conversion then treats it like one: it renames it by `DO_READING_MAPPING`, and
takes a root named `mag` for a magnitude.
-/

namespace Iec61850South

open Lib IEC61850ClientConnection

/-! ## Names that are mapped -/

/-- The names of DO attributes that have another name in a Reading. -/
def mappedNames : List String :=
  DO_READING_MAPPING.map Prod.fst

/-- Every name of the table is replaced by another one. -/
theorem readingName_eq_self_iff (name : String) :
    readingName name = name ↔ name ∉ mappedNames := by
  unfold readingName mappedNames
  cases hlookup : DO_READING_MAPPING.lookup name with
  | none =>
    refine iff_of_true rfl ?_
    intro hmem
    rcases List.mem_map.mp hmem with ⟨entry, hentry, rfl⟩
    have hne := List.lookup_eq_none_iff.mp hlookup entry hentry
    simp at hne
  | some newName =>
    have hentry : (name, newName) ∈ DO_READING_MAPPING := mem_of_lookup hlookup
    have hother : ∀ entry ∈ DO_READING_MAPPING, entry.2 ≠ entry.1 := by decide
    refine iff_of_false (hother _ hentry) ?_
    intro hmem
    exact hmem (List.mem_map_of_mem hentry)

/-- The name of a magnitude is never `mag` alone. -/
theorem readingName_mag_ne (name : String) : readingName ("mag." ++ name) ≠ "mag" := by
  unfold readingName
  cases hlookup : DO_READING_MAPPING.lookup ("mag." ++ name) with
  | none =>
    intro h
    have hlength := congrArg String.length h
    rw [Option.getD_none, String.length_append] at hlength
    have hmag : "mag.".length = 4 := rfl
    have hmag' : "mag".length = 3 := rfl
    omega
  | some newName =>
    have hentry : ("mag." ++ name, newName) ∈ DO_READING_MAPPING := mem_of_lookup hlookup
    have hother : ∀ entry ∈ DO_READING_MAPPING, entry.2 ≠ "mag" := by decide
    exact hother _ hentry

/-! ## The label is at the root -/

/-- The name tree has been built, and its root has the name of the label. -/
def LabelAtRoot (dpConfig : DatapointConfig) : Prop :=
  ∃ children, dpConfig.mmsNameTree = some (.node dpConfig.label children)

section Build

variable {plat : Platform} {setup : ClientSetup} {env : Environment} {fuel : Nat}

theorem MmsNameNode.setName_eq (name : String) (nameTree : MmsNameNode) :
    ∃ children, nameTree.setName name = .node name children := by
  rcases nameTree with ⟨mmsName, children⟩
  exact ⟨children, rfl⟩

/-- The round for a DO sets the tree, and nothing else. -/
theorem buildDatapointNameTree_labels {dpConfig dpConfig' : DatapointConfig} {s s' : ClientState}
    (h : buildDatapointNameTree env fuel dpConfig s = .ok dpConfig' s') :
    LabelAtRoot dpConfig' ∧
      { dpConfig' with mmsNameTree := none } = { dpConfig with mmsNameTree := none } := by
  rcases buildDatapointNameTree_eq_ok h with ⟨_, nameTree, _, rfl⟩
  rcases nameTree.setName_eq dpConfig.label with ⟨children, hroot⟩
  exact ⟨⟨children, congrArg some hroot⟩, rfl⟩

theorem BuiltFor.labelAtRoot {s : ClientState} {doPathWithFC : String} {dpConfig : DatapointConfig}
    (h : BuiltFor plat env fuel s doPathWithFC dpConfig) : LabelAtRoot dpConfig := by
  rcases h with ⟨_, _, nameTree, _, _, _, _, _, hname⟩
  rcases nameTree.setName_eq dpConfig.label with ⟨children, hroot⟩
  exact ⟨children, hname.trans (congrArg some hroot)⟩

/-- Using the connection does not write the local data. -/
theorem localData_steady (env : Environment) (data : ExchangedData) :
    Steady env fun s => HasConnection s ∧ s.m_localExchangedData = data where
  connection _ hs := hs.1
  event _ _ _ hs := hs
  calls _ hs := hs
  answered _ event error _ _ hs := ⟨hs.1.answered event error, hs.2⟩

/-- The datasets do not touch the other data. -/
theorem forM_buildDataset_data {datasets : List (String × ExchangedData)} {s s' : ClientState}
    (h : forM datasets (fun it => buildDataset plat env fuel it.1 it.2) s = .ok ⟨⟩ s') :
    s'.m_localExchangedData = s.m_localExchangedData := by
  cases datasets with
  | nil =>
    cases h
    rfl
  | cons it datasets =>
    -- a first dataset is only built with a connection
    have hs : HasConnection s := by
      rcases run_bind_eq_ok.mp h with ⟨_, t, hround, _⟩
      rcases run_bind_eq_ok.mp hround with ⟨connection, u, hderef, _⟩
      rw [HasConnection, (deref_eq_ok hderef).2]
      rfl
    have hP := localData_steady env s.m_localExchangedData
    have htree : KeepsTrees env fuel _ fun _ => True := hP.keeps_buildNameTree trivial fuel
    have hloop := Keeps.forM (it :: datasets)
      (fun it _ => hP.keeps_buildDataset htree (fun _ _ ht => ht) plat it.1 it.2) s ⟨hs, rfl⟩
    rw [h] at hloop
    exact hloop.1.2

/-- The configuration of a datapoint, or of a member of a selected dataset. -/
def IsLocalConfig (setup : ClientSetup) (s : ClientState) (dpConfig : DatapointConfig) : Prop :=
  dpConfig ∈ s.m_localExchangedData ∨
    ∃ (datasetRef : String) (selection exchangedDataset : ExchangedData),
      setup.selectedDOInExchangedDatasets[datasetRef]? = some selection ∧
      s.m_localExchangedDatasets[datasetRef]? = some exchangedDataset ∧
      dpConfig ∈ exchangedDataset

/-- After the building, the local data are the configured ones with their trees,
and every tree has its label at the root. -/
theorem buildConfigurationNameTrees_labels {s s' : ClientState}
    (h : buildConfigurationNameTrees plat setup env fuel s = .ok ⟨⟩ s') :
    List.Forall₂ (fun dpConfig dpConfig' : DatapointConfig =>
        { dpConfig' with mmsNameTree := none } = { dpConfig with mmsNameTree := none })
      s.m_localExchangedData s'.m_localExchangedData ∧
    ∀ dpConfig, IsLocalConfig setup s' dpConfig → LabelAtRoot dpConfig := by
  have hdatasets := buildConfigurationNameTrees_datasets plat setup env fuel h
  unfold buildConfigurationNameTrees at h
  rw [run_bind_ok (run_get s)] at h
  rcases run_bind_eq_ok.mp h with ⟨exchangedData, s₁, hdata, h⟩
  rw [run_bind_ok (run_modify ..)] at h
  have hlocal : s'.m_localExchangedData = exchangedData := forM_buildDataset_data h
  have hrounds := mapM_eq_ok hdata
  constructor
  · rw [hlocal]
    exact hrounds.imp fun _ _ ⟨_, _, hrun⟩ => (buildDatapointNameTree_labels hrun).2
  rintro dpConfig (hmem | ⟨datasetRef, selection, exchangedDataset, hselected, hlookup, hmem⟩)
  · rw [hlocal] at hmem
    rcases exists_of_forall₂ hrounds hmem with ⟨_, _, _, _, hrun⟩
    exact (buildDatapointNameTree_labels hrun).1
  · rcases List.getElem?_of_mem (Std.ExtTreeMap.mem_toList_iff_getElem?_eq_some.mpr hselected) with
        ⟨i, hi⟩
    rcases hdatasets i _ hi with ⟨_, dataset, _, hlookup', hbuilt⟩
    rw [hlookup] at hlookup'
    cases hlookup'
    rcases exists_of_forall₂ hbuilt.builtFor hmem with ⟨_, _, _, _, _, hfor⟩
    exact hfor.labelAtRoot

end Build

/-! ## What is published for a structure -/

/-- The Datapoint is published under the label, as the type and one entry for each
member of the structure; the entry is null only for an access error. -/
structure PublishedUnderLabel (setup : ClientSetup) (dpConfig : DatapointConfig)
    (elements : List (Option MmsValue)) (d : Datapoint) : Prop where
  name : d.getName = dpConfig.label
  asset : ∀ s, sendData setup (some d) s =
    .ok ⟨⟩ { s with events := s.events ++ [.ingest dpConfig.label d] }
  attributes : ∃ entries, d.getData = .dpDict
      (some (createDatapoint "do_type" (.string dpConfig.datapointType)) :: entries) ∧
    List.Forall₂ (fun element entry => entry.isNone = isAccessError element) elements entries

section Published

variable {plat : Platform}

/-- The loop over the members makes one entry for each of them. -/
theorem buildAll_entries {elements : List (Option MmsValue)} {children : List (Option MmsNameNode)}
    {entries : List (Option Datapoint)} (hlength : elements.length = children.length)
    (h : buildAll plat elements children = .ok entries) :
    List.Forall₂ (fun element entry => entry.isNone = isAccessError element) elements entries := by
  induction elements generalizing children entries with
  | nil =>
    rw [buildAll] at h
    · cases h
      exact .nil
    · simp
  | cons element elements ih =>
    cases children with
    | nil => cases hlength
    | cons child children =>
      rw [buildAll] at h
      rcases except_bind_eq_ok.mp h with ⟨dpChild, hchild, h⟩
      rcases except_bind_eq_ok.mp h with ⟨rest, hrest, hcons⟩
      cases hcons
      have hentry : dpChild.isNone = isAccessError element := (isNone_of_converted hchild).2
      have hentries := ih (Nat.succ.inj hlength) hrest
      exact .cons hentry hentries

/-- The type is inserted under no other name. -/
theorem insertType_getName {datapoint d : Datapoint} {doType : String}
    (h : insertTypeInDatapoint (some datapoint) doType = some d) :
    d.getName = datapoint.getName := by
  rcases datapoint with ⟨name, data⟩
  cases data <;> cases h <;> rfl

/-- The datapoint of a structure: that of its first member for a root named `mag`,
a dictionary under the mapped name for any other. -/
theorem convert_structure {type : AggregateType} {elements : List (Option MmsValue)}
    {dpConfig : DatapointConfig} {d : Datapoint} {children : List (Option MmsNameNode)}
    (hroot : dpConfig.mmsNameTree = some (.node dpConfig.label children))
    (h : convertMmsToDatapoint plat (some (.aggregate type elements)) dpConfig = .ok (some d)) :
    (dpConfig.label = "mag" ∧ ∃ first, d.getName = readingName ("mag." ++ first)) ∨
      (dpConfig.label ≠ "mag" ∧ ∃ entries,
        d = .mk (readingName dpConfig.label) (.dpDict
          (some (createDatapoint "do_type" (.string dpConfig.datapointType)) :: entries)) ∧
        List.Forall₂ (fun element entry => entry.isNone = isAccessError element)
          elements entries) := by
  rcases except_bind_eq_ok.mp h with ⟨datapoint, hbuild, htype⟩
  rw [except_pure_eq_ok] at htype
  rw [hroot, buildDatapointFromMms] at hbuild
  rcases except_bind_eq_ok.mp hbuild with ⟨unnamed, hswitch, hrename⟩
  rw [except_pure_eq_ok] at hrename
  subst hrename
  rw [buildFromType] at hswitch
  -- another number of members is refused
  by_cases hlength : elements.length ≠ children.length
  · rw [if_pos hlength] at hswitch
    cases hswitch
  rw [if_neg hlength] at hswitch
  rw [not_not] at hlength
  by_cases hmag : dpConfig.label = "mag"
  · refine Or.inl ⟨hmag, ?_⟩
    rw [if_pos hmag] at hswitch
    rcases except_bind_eq_ok.mp hswitch with ⟨first, _, hname⟩
    cases first with
    | none => cases hname
    | some first =>
      cases hname
      -- the first member takes the place of the magnitude, with its name behind `mag.`
      refine ⟨first.getName, ?_⟩
      rw [Option.map_some, renameDatapoint_eq, Datapoint.getName_setName] at htype
      rw [insertType_getName htype, Datapoint.getName_setName, hmag]
      rfl
  · refine Or.inr ⟨hmag, ?_⟩
    rw [if_neg hmag] at hswitch
    rcases except_bind_eq_ok.mp hswitch with ⟨entries, hall, hdict⟩
    cases hdict
    refine ⟨entries, ?_, buildAll_entries hlength hall⟩
    rw [Option.map_some, renameDatapoint_eq] at htype
    cases htype
    rfl

end Published

/-- The conversion treats the label as a label: it is not taken for a magnitude,
and not replaced. -/
def IsPlainLabel (label : String) : Prop :=
  label ≠ "mag" ∧ label ∉ mappedNames

instance (label : String) : Decidable (IsPlainLabel label) :=
  inferInstanceAs (Decidable (_ ∧ _))

theorem publishedUnderLabel_iff {plat : Platform} {setup : ClientSetup}
    (hreceiver : setup.hasReceiver = true) {dpConfig : DatapointConfig}
    (hroot : LabelAtRoot dpConfig) {elements : List (Option MmsValue)} {d : Datapoint}
    (h : convertMmsToDatapoint plat (some (.aggregate .struct elements)) dpConfig = .ok (some d)) :
    PublishedUnderLabel setup dpConfig elements d ↔ IsPlainLabel dpConfig.label := by
  rcases hroot with ⟨children, hroot⟩
  rcases convert_structure hroot h with ⟨hmag, first, hname⟩ | ⟨hmag, entries, rfl, hentries⟩
  · refine iff_of_false ?_ fun hplain => hplain.1 hmag
    intro hpublished
    have hsame := hpublished.name
    rw [hname, hmag] at hsame
    exact readingName_mag_ne first hsame
  · constructor
    · intro hpublished
      exact ⟨hmag, (readingName_eq_self_iff _).mp hpublished.name⟩
    · rintro ⟨_, hunmapped⟩
      rw [(readingName_eq_self_iff _).mpr hunmapped]
      refine ⟨rfl, fun s => ?_, entries, rfl, hentries⟩
      rw [sendData.eq_def, hreceiver]
      rfl

/-- **When readings are published under their label.** After the building, every
datapoint and every member has its label at the root of its tree, and a structure
that is converted is published under it exactly when the label is a plain one. -/
theorem label_published_iff {plat : Platform} {setup : ClientSetup} {env : Environment}
    {fuel : Nat} {s s' : ClientState} (hreceiver : setup.hasReceiver = true)
    (hbuild : buildConfigurationNameTrees plat setup env fuel s = .ok ⟨⟩ s') :
    List.Forall₂ (fun dpConfig dpConfig' : DatapointConfig =>
        { dpConfig' with mmsNameTree := none } = { dpConfig with mmsNameTree := none })
      s.m_localExchangedData s'.m_localExchangedData ∧
    ∀ dpConfig, IsLocalConfig setup s' dpConfig → LabelAtRoot dpConfig ∧
      ∀ elements d,
        convertMmsToDatapoint plat (some (.aggregate .struct elements)) dpConfig = .ok (some d) →
          (PublishedUnderLabel setup dpConfig elements d ↔ IsPlainLabel dpConfig.label) := by
  rcases buildConfigurationNameTrees_labels hbuild with ⟨hdata, hlabels⟩
  refine ⟨hdata, ?_⟩
  intro dpConfig hlocal
  have hroot : LabelAtRoot dpConfig := hlabels dpConfig hlocal
  refine ⟨hroot, ?_⟩
  intro elements d hconvert
  exact publishedUnderLabel_iff hreceiver hroot hconvert

/-! ## A label that is the name of an attribute -/

/-- One indication of the small IED, configured under the given label. -/
def labelled (label : String) : ClientState :=
  { m_connection := some {}, m_localExchangedData := [smallDO label "SPSSO1"] }

/-- Its configuration after the building. -/
def labelledDO (label : String) : DatapointConfig :=
  { smallDO label "SPSSO1" with mmsNameTree := some (.node label [some (.node "stVal" [])]) }

/-- The model of an indication. -/
def indicationModel : Members :=
  .one "stVal" .attribute

theorem indicationModel_answered :
    (DataModel.structure indicationModel).Answered smallIed 0 .ST "IED1LD0/GGIO1.SPSSO1" := by
  rw [indicationModel, DataModel.Answered, Members.Answered, DataModel.Answered]
  constructor
  · intro n _
    show some _ = some _
    decide +kernel
  · intro n _
    show Option.getD (some _) [] = []
    decide +kernel

theorem labelled_build (label : String) : ∃ s',
    buildConfigurationNameTrees (.withDocuments []) (smallSetup .DO_READING []) smallIed 3
      (labelled label) = .ok ⟨⟩ s' ∧ s'.m_localExchangedData = [labelledDO label] := by
  have hup : ∀ n, 0 ≤ n → smallIed.getState n = true := fun _ _ => rfl
  rcases (DataModel.structure indicationModel).buildNameTree_eq hup
    3 "IED1LD0/GGIO1.SPSSO1" "" (labelled label) (Nat.zero_le _) indicationModel_answered
    (by decide) with ⟨s₁, hrun, _, _⟩
  have hround : buildDatapointNameTree smallIed 3 (smallDO label "SPSSO1") (labelled label) =
      .ok (labelledDO label) s₁ := by
    have hderef : deref (labelled label) = .ok {} (labelled label) := rfl
    have hempty : MmsNameNode.empty = .node "" [] := rfl
    have hpath : (smallDO label "SPSSO1").dataPath = "IED1LD0/GGIO1.SPSSO1" := by
      show "IED1LD0/GGIO1." ++ "SPSSO1" = _
      decide
    unfold buildDatapointNameTree
    rw [run_bind_ok hderef, hempty, hpath]
    exact run_bind_ok hrun
  have hnone : (smallSetup .DO_READING []).selectedDOInExchangedDatasets.toList = [] := rfl
  refine ⟨{ s₁ with m_localExchangedData := [labelledDO label] }, ?_, rfl⟩
  have hdata : [smallDO label "SPSSO1"].mapM (buildDatapointNameTree smallIed 3) (labelled label) =
      .ok [labelledDO label] s₁ := by
    rw [List.mapM_cons, run_bind_ok hround]
    rfl
  unfold buildConfigurationNameTrees
  rw [run_bind_ok (run_get _), hnone]
  exact run_bind_ok hdata

theorem label_published_iff_sample : ∃ s',
    buildConfigurationNameTrees (.withDocuments []) (smallSetup .DO_READING []) smallIed 3
        (labelled "TS1") = .ok ⟨⟩ s' ∧
      (List.Forall₂ (fun dpConfig dpConfig' : DatapointConfig =>
          { dpConfig' with mmsNameTree := none } = { dpConfig with mmsNameTree := none })
        (labelled "TS1").m_localExchangedData s'.m_localExchangedData ∧
      ∀ dpConfig, IsLocalConfig (smallSetup .DO_READING []) s' dpConfig → LabelAtRoot dpConfig ∧
        ∀ elements d,
          convertMmsToDatapoint (.withDocuments []) (some (.aggregate .struct elements)) dpConfig =
              .ok (some d) →
            (PublishedUnderLabel (smallSetup .DO_READING []) dpConfig elements d ↔
              IsPlainLabel dpConfig.label)) := by
  rcases labelled_build "TS1" with ⟨s', hbuild, _⟩
  exact ⟨s', hbuild, label_published_iff rfl hbuild⟩

/-- A structure of the indication is published under another name than its label. -/
def PublishedAs (label name : String) : Prop :=
  ∃ s' d, buildConfigurationNameTrees (.withDocuments []) (smallSetup .DO_READING []) smallIed 3
      (labelled label) = .ok ⟨⟩ s' ∧
    IsLocalConfig (smallSetup .DO_READING []) s' (labelledDO label) ∧
    convertMmsToDatapoint (.withDocuments []) (some (indication true)) (labelledDO label) =
      .ok (some d) ∧
    sendData (smallSetup .DO_READING []) (some d) s' =
      .ok ⟨⟩ { s' with events := s'.events ++ [.ingest name d] } ∧
    ¬ PublishedUnderLabel (smallSetup .DO_READING []) (labelledDO label)
      [some (.primitive (.boolean true))] d

/-- The label `q` is renamed like the quality, and with the label `mag` the whole
structure is taken for a magnitude. -/
theorem attribute_labels_are_renamed :
    PublishedAs "q" "do_quality" ∧ PublishedAs "mag" "mag.do_value" := by
  constructor
  · rcases labelled_build "q" with ⟨s', hbuild, hdata⟩
    have hmem : labelledDO "q" ∈ s'.m_localExchangedData := by
      rw [hdata]
      exact List.mem_singleton_self _
    refine ⟨s', _, hbuild, Or.inl hmem, rfl, rfl, ?_⟩
    intro hpublished
    exact absurd hpublished.name (by decide)
  · rcases labelled_build "mag" with ⟨s', hbuild, hdata⟩
    have hmem : labelledDO "mag" ∈ s'.m_localExchangedData := by
      rw [hdata]
      exact List.mem_singleton_self _
    refine ⟨s', _, hbuild, Or.inl hmem, rfl, rfl, ?_⟩
    intro hpublished
    exact absurd hpublished.name (by decide)

end Iec61850South
