import Iec61850South.Client.Labels

/-! # The names of the attributes in one dictionary

Names of attributes change in three places: by `DO_READING_MAPPING`, by the joining
of a `mag` with its first member, and by the type that is inserted. Two members of
a structure can end under one name. `joinedName` is the name of a member in front
of the mapping, and `Clash` says which members these are.
-/

namespace Iec61850South

open Lib

/-! ## The mapping of names -/

/-- The names that attributes of a Reading have by the mapping. -/
def readingNames : List String :=
  DO_READING_MAPPING.map Prod.snd

/-- The names that are all mapped to `do_value`. -/
def valueNames : List String :=
  ["stVal", "mag.value", "mag.f"]

/-- A name is mapped by an entry of the table, or it is kept. -/
theorem readingName_cases (name : String) :
    (name, readingName name) ∈ DO_READING_MAPPING ∨ name ∉ mappedNames ∧ readingName name = name := by
  cases hlookup : DO_READING_MAPPING.lookup name with
  | some newName =>
    left
    have heq : readingName name = newName := by rw [readingName, hlookup, Option.getD_some]
    rw [heq]
    exact mem_of_lookup hlookup
  | none =>
    right
    have heq : readingName name = name := by rw [readingName, hlookup, Option.getD_none]
    exact ⟨(readingName_eq_self_iff name).mp heq, heq⟩

/-- The mapping has one name for both: they are equal, both are names of the value, or
it maps one of them to the other. -/
def MappedTogether (name name' : String) : Prop :=
  name = name' ∨ (name ∈ valueNames ∧ name' ∈ valueNames) ∨
    (name, name') ∈ DO_READING_MAPPING ∨ (name', name) ∈ DO_READING_MAPPING

theorem MappedTogether.symm {name name' : String} (h : MappedTogether name name') :
    MappedTogether name' name := by
  rcases h with heq | ⟨hvalue, hvalue'⟩ | hmap | hmap
  · exact Or.inl heq.symm
  · exact Or.inr (Or.inl ⟨hvalue', hvalue⟩)
  · exact Or.inr (Or.inr (Or.inr hmap))
  · exact Or.inr (Or.inr (Or.inl hmap))

/-- No name of the table is a target of it, and each has one target. -/
theorem readingName_of_mem {name newName : String} (h : (name, newName) ∈ DO_READING_MAPPING) :
    readingName name = newName ∧ readingName newName = newName := by
  have htable : ∀ entry ∈ DO_READING_MAPPING,
      readingName entry.1 = entry.2 ∧ readingName entry.2 = entry.2 := by decide
  exact htable _ h

theorem readingName_eq_iff (name name' : String) :
    readingName name = readingName name' ↔ MappedTogether name name' := by
  have htable : ∀ entry ∈ DO_READING_MAPPING, ∀ entry' ∈ DO_READING_MAPPING,
      entry.2 = entry'.2 → entry.1 = entry'.1 ∨ entry.1 ∈ valueNames ∧ entry'.1 ∈ valueNames := by
    decide
  constructor
  · intro h
    rcases readingName_cases name with hentry | ⟨_, heq⟩
    · rcases readingName_cases name' with hentry' | ⟨_, heq'⟩
      · rcases htable _ hentry _ hentry' h with hsame | hvalue
        · exact Or.inl hsame
        · exact Or.inr (Or.inl hvalue)
      · rw [h, heq'] at hentry
        exact Or.inr (Or.inr (Or.inl hentry))
    · rcases readingName_cases name' with hentry' | ⟨_, heq'⟩
      · rw [← h, heq] at hentry'
        exact Or.inr (Or.inr (Or.inr hentry'))
      · exact Or.inl (heq.symm.trans (h.trans heq'))
  · have hvalue : ∀ name ∈ valueNames, readingName name = "do_value" := by decide
    rintro (rfl | ⟨hname, hname'⟩ | hmap | hmap)
    · rfl
    · rw [hvalue _ hname, hvalue _ hname']
    · rw [(readingName_of_mem hmap).1, (readingName_of_mem hmap).2]
    · rw [(readingName_of_mem hmap).1, (readingName_of_mem hmap).2]

/-- The mapping separates all names but those of the value, unless one is a target. -/
theorem readingName_inj_iff {name name' : String} (h : name ∉ readingNames)
    (h' : name' ∉ readingNames) : readingName name = readingName name' ↔
      name = name' ∨ name ∈ valueNames ∧ name' ∈ valueNames := by
  rw [readingName_eq_iff]
  constructor
  · rintro (heq | hvalue | hmap | hmap)
    · exact Or.inl heq
    · exact Or.inr hvalue
    · exact absurd (List.mem_map_of_mem hmap) h'
    · exact absurd (List.mem_map_of_mem hmap) h
  · rintro (heq | hvalue)
    · exact Or.inl heq
    · exact Or.inr (Or.inl hvalue)

/-- Only `cdc` becomes the type. -/
theorem readingName_eq_type_iff {name : String} (h : name ∉ readingNames) :
    readingName name = "do_type" ↔ name = "cdc" := by
  have htable : ∀ entry ∈ DO_READING_MAPPING, (entry.2 = "do_type" ↔ entry.1 = "cdc") := by decide
  have hcdc : "cdc" ∈ mappedNames := by decide
  have htype : "do_type" ∈ readingNames := by decide
  rcases readingName_cases name with hentry | ⟨hkept, heq⟩
  · exact htable _ hentry
  · rw [heq]
    refine iff_of_false ?_ ?_
    · exact (ne_of_mem_of_not_mem htype h).symm
    · exact (ne_of_mem_of_not_mem hcdc hkept).symm

/-! ## Names in a data model -/

def Members.toList : Members → List (String × DataModel)
  | .one name model => [(name, model)]
  | .cons name model rest => (name, model) :: rest.toList

theorem Members.names_eq : ∀ members : Members, members.names = members.toList.map Prod.fst
  | .one _ _ => rfl
  | .cons name _ rest => congrArg (List.cons name) rest.names_eq

mutual

/-- The name of a member in front of the mapping: that of a `mag` is joined with the
name of the attribute for its first member. -/
def DataModel.joinedName (name : String) : DataModel → String
  | .attribute => name
  | .structure members => if name = "mag" then "mag." ++ members.firstReadingName else name

def Members.firstReadingName : Members → String
  | .one name model => readingName (model.joinedName name)
  | .cons name model _ => readingName (model.joinedName name)

end

theorem Members.firstReadingName_eq (members : Members) : members.firstReadingName =
    readingName (members.firstModel.joinedName members.firstName) := by
  cases members <;> rw [Members.firstReadingName] <;> rfl

/-- The members have one joined name, or both joined names are those of a value. -/
def Clash (member member' : String × DataModel) : Prop :=
  member.2.joinedName member.1 = member'.2.joinedName member'.1 ∨
    member.2.joinedName member.1 ∈ valueNames ∧ member'.2.joinedName member'.1 ∈ valueNames

mutual

/-- The members of each structure have different names, and none of them is already
the name of an attribute of a Reading. -/
def DataModel.WellNamed : DataModel → Prop
  | .attribute => True
  | .structure members => members.names.Nodup ∧ (∀ name ∈ members.names, name ∉ readingNames) ∧
    members.AllWellNamed

def Members.AllWellNamed : Members → Prop
  | .one _ model => model.WellNamed
  | .cons _ model rest => model.WellNamed ∧ rest.AllWellNamed

end

mutual

/-- In the structures that become dictionaries no two members clash. Of a `mag` only
the first member is converted. -/
def DataModel.Separated (name : String) : DataModel → Prop
  | .attribute => True
  | .structure members =>
    if name = "mag" then members.FirstSeparated
    else members.toList.Pairwise (fun member member' => ¬ Clash member member') ∧
      members.AllSeparated

def Members.FirstSeparated : Members → Prop
  | .one name model => model.Separated name
  | .cons name model _ => model.Separated name

def Members.AllSeparated : Members → Prop
  | .one name model => model.Separated name
  | .cons name model rest => model.Separated name ∧ rest.AllSeparated

end

mutual

/-- The members of the structure that gets the type: the outermost one that becomes a
dictionary. -/
def DataModel.typedMembers (name : String) : DataModel → Option Members
  | .attribute => none
  | .structure members => if name = "mag" then members.firstTypedMembers else some members

def Members.firstTypedMembers : Members → Option Members
  | .one name model => model.typedMembers name
  | .cons name model _ => model.typedMembers name

end

/-! ## Names in a datapoint -/

/-- The names of the attributes of a dictionary. -/
def attributeNames (datapoints : List (Option Datapoint)) : List String :=
  datapoints.filterMap (Option.map Datapoint.getName)

mutual

/-- The attributes of each dictionary have pairwise different names. -/
def Datapoint.NamesDistinct : Datapoint → Prop
  | .mk _ data => dataNamesDistinct data

def dataNamesDistinct : DatapointValue Datapoint → Prop
  | .dpDict datapoints => (attributeNames datapoints).Nodup ∧ allNamesDistinct datapoints
  | _ => True

def allNamesDistinct : List (Option Datapoint) → Prop
  | [] => True
  | datapoint :: datapoints => entryNamesDistinct datapoint ∧ allNamesDistinct datapoints

def entryNamesDistinct : Option Datapoint → Prop
  | none => True
  | some datapoint => datapoint.NamesDistinct

end

theorem Datapoint.namesDistinct_setName (name : String) (d : Datapoint) :
    (d.setName name).NamesDistinct ↔ d.NamesDistinct := by
  cases d
  rw [setName_mk, NamesDistinct, NamesDistinct]

/-! ## Joined names -/

theorem joined_ne_of_not_mag {name : String} (h : ¬ "mag.".toList <+: name.toList) (first : String) :
    "mag." ++ first ≠ name := by
  rintro rfl
  apply h
  rw [String.toList_append]
  exact List.prefix_append ..

/-- No joined name is the name of an attribute of a Reading. -/
theorem joinedName_notMem {name : String} (h : name ∉ readingNames) (model : DataModel) :
    model.joinedName name ∉ readingNames := by
  have hnotMag : ∀ target ∈ readingNames, ¬ "mag.".toList <+: target.toList := by decide
  cases model with
  | «attribute» =>
    rw [DataModel.joinedName]
    exact h
  | «structure» members =>
    rw [DataModel.joinedName]
    split
    · intro hmem
      exact joined_ne_of_not_mag (hnotMag _ hmem) _ rfl
    · exact h

theorem joinedName_eq_cdc_iff (name : String) (model : DataModel) :
    model.joinedName name = "cdc" ↔ name = "cdc" := by
  cases model with
  | «attribute» => rw [DataModel.joinedName]
  | «structure» members =>
    rw [DataModel.joinedName]
    split
    · next hmag =>
      refine iff_of_false (joined_ne_of_not_mag (by decide) _) ?_
      rw [hmag]
      decide
    · rfl

/-- The names of the attributes for the members. -/
def Members.attributeNames (members : Members) : List String :=
  members.toList.map fun member => readingName (member.2.joinedName member.1)

/-- They are different exactly when no two members clash. -/
theorem attributeNames_nodup_iff {members : Members}
    (h : ∀ name ∈ members.names, name ∉ readingNames) : members.attributeNames.Nodup ↔
      members.toList.Pairwise fun member member' => ¬ Clash member member' := by
  have hjoined : ∀ member ∈ members.toList, member.2.joinedName member.1 ∉ readingNames := by
    intro member hmem
    apply joinedName_notMem
    apply h
    rw [members.names_eq]
    exact List.mem_map_of_mem hmem
  rw [Members.attributeNames, List.Nodup, List.pairwise_map]
  apply List.Pairwise.iff_of_mem
  intro member member' hmem hmem'
  rw [Ne, readingName_inj_iff (hjoined member hmem) (hjoined member' hmem')]
  rfl

/-- One of them is the type exactly when a member is named `cdc`. -/
theorem type_mem_attributeNames_iff {members : Members}
    (h : ∀ name ∈ members.names, name ∉ readingNames) :
    "do_type" ∈ members.attributeNames ↔ "cdc" ∈ members.names := by
  rw [Members.attributeNames, members.names_eq, List.mem_map, List.mem_map]
  refine exists_congr fun member => and_congr_right fun hmem => ?_
  have hname : member.1 ∉ readingNames := by
    apply h
    rw [members.names_eq]
    exact List.mem_map_of_mem hmem
  rw [readingName_eq_type_iff (joinedName_notMem hname member.2), joinedName_eq_cdc_iff]

/-! ## The names of a datapoint that mirrors a value -/

section Names

variable {plat : Platform}

theorem Members.firstSeparated_iff (members : Members) : members.FirstSeparated ↔
    members.firstModel.Separated members.firstName := by
  cases members <;> rw [Members.FirstSeparated] <;> rfl

theorem Members.AllWellNamed.first {members : Members} (h : members.AllWellNamed) :
    members.firstModel.WellNamed := by
  cases members with
  | one name model =>
    rw [Members.AllWellNamed] at h
    exact h
  | cons name model rest =>
    rw [Members.AllWellNamed] at h
    exact h.1

/-- No attribute is converted to a dictionary. -/
theorem buildPrimitive_not_dict {name name' : String} {value : MmsPrimitive}
    {data : DatapointValue Datapoint}
    (h : buildPrimitive plat name value = .ok (some (.mk name' data)))
    (datapoints : List (Option Datapoint)) : data ≠ .dpDict datapoints := by
  rintro rfl
  cases value <;> cases h

theorem dataNamesDistinct_of_not_dict {data : DatapointValue Datapoint}
    (h : ∀ datapoints, data ≠ .dpDict datapoints) : dataNamesDistinct data := by
  cases data with
  | dpDict datapoints => exact absurd rfl (h datapoints)
  | _ => trivial

mutual

/-- A datapoint has the mapped name of its member, and different names below it
exactly when the members there are separated. -/
theorem Mirrors.names : ∀ {name : String} {model : DataModel} {value : MmsValue} {d : Datapoint},
    Mirrors plat name model value d → model.WellNamed →
    d.getName = readingName (model.joinedName name) ∧ (d.NamesDistinct ↔ model.Separated name)
  | _, _, _, _, .attribute hdata, _ => by
    rw [DataModel.joinedName, DataModel.Separated, Datapoint.NamesDistinct]
    have hdistinct := dataNamesDistinct_of_not_dict (buildPrimitive_not_dict hdata)
    exact ⟨rfl, iff_of_true hdistinct trivial⟩
  | _, _, _, _, .dictionary hmag hall, hnamed => by
    rw [DataModel.WellNamed] at hnamed
    rcases hall.names hnamed.2.2 with ⟨hattributes, hbelow⟩
    rw [DataModel.joinedName, if_neg hmag, DataModel.Separated, if_neg hmag,
      Datapoint.NamesDistinct, dataNamesDistinct, hattributes,
      attributeNames_nodup_iff hnamed.2.1, hbelow]
    exact ⟨rfl, Iff.rfl⟩
  | _, _, _, _, .mag hfirst, hnamed => by
    rw [DataModel.WellNamed] at hnamed
    -- the first member takes the place of the whole structure
    rcases hfirst.names hnamed.2.2.first with ⟨hname, hbelow⟩
    rw [DataModel.joinedName, if_pos rfl, DataModel.Separated, if_pos rfl,
      Datapoint.namesDistinct_setName, hbelow, Datapoint.getName_setName, hname,
      Members.firstReadingName_eq, Members.firstSeparated_iff]
    exact ⟨rfl, Iff.rfl⟩

theorem MirrorAll.names : ∀ {members : Members} {elements : List (Option MmsValue)}
    {datapoints : List (Option Datapoint)}, MirrorAll plat members elements datapoints →
    members.AllWellNamed →
    attributeNames datapoints = members.attributeNames ∧
      (allNamesDistinct datapoints ↔ members.AllSeparated)
  | _, _, _, .one hfirst, hnamed => by
    rw [Members.AllWellNamed] at hnamed
    rcases hfirst.names hnamed with ⟨hname, hbelow⟩
    rw [allNamesDistinct, allNamesDistinct, entryNamesDistinct, and_true, Members.AllSeparated,
      hbelow]
    exact ⟨congrArg (fun name => [name]) hname, Iff.rfl⟩
  | _, _, _, .cons hfirst hrest, hnamed => by
    rw [Members.AllWellNamed] at hnamed
    rcases hfirst.names hnamed.1 with ⟨hname, hbelow⟩
    rcases hrest.names hnamed.2 with ⟨hnames, hothers⟩
    rw [allNamesDistinct, entryNamesDistinct, Members.AllSeparated, hbelow, hothers]
    exact ⟨congrArg₂ List.cons hname hnames, Iff.rfl⟩

end

/-- The structure that gets the type is the one whose dictionary the datapoint is. -/
theorem Mirrors.typed : ∀ {name : String} {model : DataModel} {value : MmsValue} {d : Datapoint},
    Mirrors plat name model value d → model.WellNamed →
    (model.typedMembers name = none ∧ ∀ datapoints, d.getData ≠ .dpDict datapoints) ∨
      ∃ members datapoints, model.typedMembers name = some members ∧
        d.getData = .dpDict datapoints ∧ attributeNames datapoints = members.attributeNames ∧
        ∀ name ∈ members.names, name ∉ readingNames
  | _, _, _, _, .attribute hdata, _ => by
    left
    rw [DataModel.typedMembers]
    exact ⟨rfl, buildPrimitive_not_dict hdata⟩
  | _, _, _, _, .dictionary hmag hall, hnamed => by
    right
    rw [DataModel.WellNamed] at hnamed
    rw [DataModel.typedMembers, if_neg hmag]
    exact ⟨_, _, rfl, rfl, (hall.names hnamed.2.2).1, hnamed.2.1⟩
  | _, .structure members, _, _, .mag hfirst, hnamed => by
    rw [DataModel.WellNamed] at hnamed
    have htyped := hfirst.typed hnamed.2.2.first
    rw [DataModel.typedMembers, if_pos rfl, Datapoint.getData_setName]
    cases members <;> exact htyped

/-- The type is one more attribute of the dictionary. -/
theorem namesDistinct_insertType {d : Datapoint} {doType : String}
    {datapoints : List (Option Datapoint)} (hdict : d.getData = .dpDict datapoints) :
    ∃ typed, insertTypeInDatapoint (some d) doType = some typed ∧
      (typed.NamesDistinct ↔ "do_type" ∉ attributeNames datapoints ∧ d.NamesDistinct) := by
  rcases d with ⟨name, data⟩
  rw [Datapoint.getData_mk] at hdict
  subst hdict
  refine ⟨_, rfl, ?_⟩
  rw [Datapoint.NamesDistinct, Datapoint.NamesDistinct, dataNamesDistinct, dataNamesDistinct,
    allNamesDistinct, entryNamesDistinct, createDatapoint, Datapoint.NamesDistinct]
  have hcons : attributeNames (some (.mk "do_type" (.string doType)) :: datapoints) =
      "do_type" :: attributeNames datapoints := rfl
  rw [hcons, List.nodup_cons, and_assoc]
  refine and_congr_right fun _ => and_congr_right fun _ => ?_
  exact ⟨And.right, fun h => ⟨trivial, h⟩⟩

/-- **When attribute names are unambiguous.** A value of the shape of the model is
converted, and the attributes of each dictionary have different names exactly when
no two members clash and the structure that gets the type has no member `cdc`. -/
theorem attribute_names_distinct_iff (plat : Platform) {name : String} {model : DataModel}
    (hnamed : model.WellNamed) {value : MmsValue} (hshape : HasShape model value)
    {dpConfig : DatapointConfig} (htree : dpConfig.mmsNameTree = some (model.nameTree name)) :
    ∃ d, convertMmsToDatapoint plat (some value) dpConfig = .ok (some d) ∧
      (d.NamesDistinct ↔ model.Separated name ∧
        ∀ members, model.typedMembers name = some members → "cdc" ∉ members.names) := by
  rcases @DataModel.convert plat model name value hshape with ⟨datapoint, hmirror, hbuild⟩
  have hbelow := (hmirror.names hnamed).2
  have hconvert : convertMmsToDatapoint plat (some value) dpConfig =
      .ok (insertTypeInDatapoint (some datapoint) dpConfig.datapointType) := by
    unfold convertMmsToDatapoint
    show (buildDatapointFromMms plat (some value) dpConfig.mmsNameTree >>= _) = _
    rw [htree, hbuild]
    rfl
  rw [hconvert]
  rcases hmirror.typed hnamed with ⟨huntyped, hplain⟩ |
    ⟨members, datapoints, htyped, hdict, hattributes, hreading⟩
  · -- no dictionary, and no type
    have hkept : insertTypeInDatapoint (some datapoint) dpConfig.datapointType =
        some datapoint := by
      rcases datapoint with ⟨name, data⟩
      cases data with
      | dpDict datapoints => exact absurd rfl (hplain datapoints)
      | _ => rfl
    refine ⟨datapoint, congrArg Except.ok hkept, ?_⟩
    rw [hbelow, huntyped]
    simp
  -- the type is one more entry, with the name `do_type`
  · rcases @namesDistinct_insertType _ dpConfig.datapointType _ hdict with
      ⟨typed, hinsert, hdistinct⟩
    refine ⟨typed, congrArg Except.ok hinsert, ?_⟩
    rw [hdistinct, hattributes, type_mem_attributeNames_iff hreading, hbelow, htyped]
    constructor
    · rintro ⟨hcdc, hseparated⟩
      exact ⟨hseparated, fun _ heq => Option.some.inj heq ▸ hcdc⟩
    · rintro ⟨hseparated, hcdc⟩
      exact ⟨hcdc members rfl, hseparated⟩

end Names

/-! ## Members that clash -/

/-- An indication with the name of its class, and a structure with both kinds of
values. -/
def classMembers : Members := .cons "cdc" .attribute (.one "stVal" .attribute)

def twoValues : Members := .cons "stVal" .attribute (.one "mag" (.structure (.one "f" .attribute)))

def classElements : List (Option MmsValue) :=
  [some (.primitive (.visibleString "SPS")), some (.primitive (.boolean true))]

def valueElements : List (Option MmsValue) :=
  [some (.primitive (.integer 1)),
    some (.aggregate .struct [some (.primitive (.float 0x3F800000))])]

theorem analogInput_wellNamed : (DataModel.structure analogInput).WellNamed := by
  simp only [analogInput, DataModel.WellNamed, Members.AllWellNamed, Members.names]
  decide

/-- An analog input with quality and time. -/
def analogElements : List (Option MmsValue) :=
  [some (.aggregate .struct [some (.primitive (.float 0x3F800000))]),
    some (.primitive (.bitString [false, false])), some (.primitive (.utcTime 0))]

theorem analogElements_shape : HaveShape analogInput analogElements :=
  .cons (.structure (.one (.attribute rfl))) (.cons (.attribute rfl) (.one (.attribute rfl)))

theorem attribute_names_distinct_iff_sample :
    ∃ d, convertMmsToDatapoint (.withDocuments []) (some (.aggregate .struct analogElements))
        (analogDO.withMembers analogInput) = .ok (some d) ∧
      (d.NamesDistinct ↔ (DataModel.structure analogInput).Separated "TM1" ∧
        ∀ members, (DataModel.structure analogInput).typedMembers "TM1" = some members →
          "cdc" ∉ members.names) :=
  attribute_names_distinct_iff (.withDocuments []) analogInput_wellNamed
    (.structure analogElements_shape) (by rw [DataModel.nameTree_structure]; rfl)

/-- A value of the shape of these members is published with the given attribute names,
and they are not different. -/
def RepeatsNames (members : Members) (elements : List (Option MmsValue)) (names : List String) :
    Prop :=
  (DataModel.structure members).WellNamed ∧ HaveShape members elements ∧
    ∃ d datapoints, convertMmsToDatapoint (.withDocuments []) (some (.aggregate .struct elements))
        (analogDO.withMembers members) = .ok (some d) ∧
      d.getData = .dpDict datapoints ∧ attributeNames datapoints = names ∧ ¬ d.NamesDistinct

/-- A member `cdc` becomes a second type, and `stVal` and `mag.f` both become the value. -/
theorem attribute_names_are_repeated :
    RepeatsNames classMembers classElements ["do_type", "do_type", "do_value"] ∧
      RepeatsNames twoValues valueElements ["do_type", "do_value", "do_value"] := by
  constructor
  · refine ⟨?_, .cons (.attribute rfl) (.one (.attribute rfl)), _, _, rfl, rfl, ?_, ?_⟩
    · simp only [classMembers, DataModel.WellNamed, Members.AllWellNamed, Members.names]
      decide
    · decide
    · rw [Datapoint.NamesDistinct, dataNamesDistinct, not_and]
      intro hnodup
      exact absurd hnodup (by decide)
  · refine ⟨?_, .cons (.attribute rfl) (.one (.structure (.one (.attribute rfl)))), _, _, rfl, rfl,
      ?_, ?_⟩
    · simp only [twoValues, DataModel.WellNamed, Members.AllWellNamed, Members.names]
      decide
    · decide
    · rw [Datapoint.NamesDistinct, dataNamesDistinct, not_and]
      intro hnodup
      exact absurd hnodup (by decide)

end Iec61850South
