import Iec61850South.Client.AttributeNames
import Iec61850South.Client.Selection

/-! # The labels of a dataset without a selection

A dataset of which no member is selected is exported as a whole, and each member
gets a label from its path: the text behind the last dot. `LastPartsDistinct` says
for which members these labels can be told apart. Its readings are published under
the label only after the renaming of the conversion, so different labels can still
end in one name: `SameReadingName` says for which members.
-/

namespace Iec61850South

open Lib IEC61850ClientConnection

/-! ## The last part of a path -/

/-- The text behind the last dot. -/
def IsLastPart (part path : String) : Prop :=
  ∃ before, path.toList = before ++ '.' :: part.toList ∧ '.' ∉ part.toList

theorem takeWhile_ne_of_notMem {α : Type} [DecidableEq α] {a : α} {before : List α} (h : a ∉ before)
    (after : List α) : (before ++ a :: after).takeWhile (· ≠ a) = before := by
  rw [List.takeWhile_append_of_pos]
  · simp
  · intro b hb
    exact decide_eq_true (ne_of_mem_of_not_mem hb h)

theorem afterLastDot_eq_some_iff {path part : String} :
    afterLastDot path = some part ↔ IsLastPart part path := by
  unfold afterLastDot
  constructor
  · intro h
    split at h
    · next hdot =>
      cases h
      have hreverse : '.' ∈ path.toList.reverse := List.mem_reverse.mpr hdot
      rcases List.eq_append_cons_of_mem hreverse with ⟨after, before, hsplit, hafter⟩
      rw [hsplit, takeWhile_ne_of_notMem hafter]
      refine ⟨before.reverse, ?_, ?_⟩
      · rw [← List.reverse_reverse path.toList, hsplit]
        simp
      · simpa using hafter
    · cases h
  · rintro ⟨before, hpath, hpart⟩
    have hdot : '.' ∈ path.toList := by simp [hpath]
    have hreverse : path.toList.reverse = part.toList.reverse ++ '.' :: before.reverse := by
      simp [hpath]
    have hafter : '.' ∉ part.toList.reverse := by simpa using hpart
    rw [if_pos hdot, hreverse, takeWhile_ne_of_notMem hafter, List.reverse_reverse,
      String.ofList_toList]

theorem afterLastDot_eq_none_iff {path : String} : afterLastDot path = none ↔ '.' ∉ path.toList := by
  unfold afterLastDot
  split
  · next hdot => exact iff_of_false (by simp) (not_not_intro hdot)
  · next hdot => exact iff_of_true rfl hdot

/-! ## Paths with one label -/

/-- The two paths end in the same part, or have none. A path without a dot is taken
for one that ends in `noName`. -/
def SameLastPart (path path' : String) : Prop :=
  (∃ part, IsLastPart part path ∧ IsLastPart part path') ∨
    ('.' ∉ path.toList ∧ '.' ∉ path'.toList) ∨
    ('.' ∉ path.toList ∧ IsLastPart "noName" path') ∨
    (IsLastPart "noName" path ∧ '.' ∉ path'.toList)

/-- No path ends with a dot, and no two of them have the same last part. -/
structure LastPartsDistinct (paths : List String) : Prop where
  notEmpty : ∀ path ∈ paths, ¬ IsLastPart "" path
  distinct : paths.Pairwise fun path path' => ¬ SameLastPart path path'

/-- The label that `labelByPath` gives. -/
def pathLabel (path : String) : String :=
  (afterLastDot path).getD "noName"

theorem pathLabel_eq_iff (path path' : String) :
    pathLabel path = pathLabel path' ↔ SameLastPart path path' := by
  unfold pathLabel SameLastPart
  simp only [← afterLastDot_eq_some_iff, ← afterLastDot_eq_none_iff]
  cases afterLastDot path <;> cases afterLastDot path' <;> simp [eq_comm]

theorem pathLabel_eq_empty_iff (path : String) : pathLabel path = "" ↔ IsLastPart "" path := by
  unfold pathLabel
  rw [← afterLastDot_eq_some_iff]
  cases afterLastDot path <;> simp

theorem pathLabels_distinct_iff {paths : List String} :
    ((∀ path ∈ paths, pathLabel path ≠ "") ∧ (paths.map pathLabel).Nodup) ↔
      LastPartsDistinct paths := by
  rw [List.Nodup, List.pairwise_map]
  simp only [Ne, pathLabel_eq_iff, pathLabel_eq_empty_iff]
  constructor
  · rintro ⟨hempty, hdistinct⟩
    exact ⟨hempty, hdistinct⟩
  · intro h
    exact ⟨h.notEmpty, h.distinct⟩

/-! ## Members with one name in a Reading -/

/-- The path ends in this part. A path without a dot is taken for one that ends in
`noName`. -/
def EndsIn (path part : String) : Prop :=
  IsLastPart part path ∨ ('.' ∉ path.toList ∧ part = "noName")

/-- A member is given by its path and by the attributes that the IED lists below it.
It stands for the last part of its path. A `mag` stands for its first attribute. -/
def StandsFor (member : String × List String) (name : String) : Prop :=
  (EndsIn member.1 name ∧ name ≠ "mag") ∨
    (EndsIn member.1 "mag" ∧ ∃ first ∈ member.2.head?, name = "mag." ++ first)

/-- The mapping has one name for what the members stand for. -/
def SameReadingName (member member' : String × List String) : Prop :=
  ∃ name name', StandsFor member name ∧ StandsFor member' name' ∧ MappedTogether name name'

theorem SameReadingName.symm {member member' : String × List String}
    (h : SameReadingName member member') : SameReadingName member' member := by
  rcases h with ⟨name, name', hname, hname', htogether⟩
  exact ⟨name', name, hname', hname, htogether.symm⟩

theorem endsIn_iff {path part : String} : EndsIn path part ↔ pathLabel path = part := by
  unfold EndsIn pathLabel
  rw [← afterLastDot_eq_some_iff, ← afterLastDot_eq_none_iff]
  cases afterLastDot path <;> simp [eq_comm]

theorem dot_notMem_pathLabel (path : String) : '.' ∉ (pathLabel path).toList := by
  rcases endsIn_iff.mpr (Eq.refl (pathLabel path)) with ⟨_, _, hpart⟩ | ⟨_, hname⟩
  · exact hpart
  · rw [hname]
    decide

/-- The name of a magnitude has a dot, so it is mapped to the name of another label
only as a value. -/
theorem readingName_magnitude_eq_iff (first : String) {label : String}
    (hlabel : '.' ∉ label.toList) : readingName ("mag." ++ first) = readingName label ↔
      (first = "f" ∨ first = "value") ∧ (label = "stVal" ∨ label = "do_value") := by
  have hmagnitude : "mag." ++ first ∈ valueNames ↔ first = "f" ∨ first = "value" := by
    simp [valueNames, String.ext_iff, or_comm]
  have hvalue : label ∈ valueNames ↔ label = "stVal" := by
    have hdotted : label ≠ "mag.value" ∧ label ≠ "mag.f" := by
      constructor <;> rintro rfl <;> simp at hlabel
    simp [valueNames, hdotted]
  have hmapped : ("mag." ++ first, label) ∈ DO_READING_MAPPING ↔
      (first = "f" ∨ first = "value") ∧ label = "do_value" := by
    simp [DO_READING_MAPPING, String.ext_iff]
    tauto
  have hne : "mag." ++ first ≠ label := by
    rintro rfl
    simp at hlabel
  have htarget : (label, "mag." ++ first) ∉ DO_READING_MAPPING := by
    simp [DO_READING_MAPPING, String.ext_iff]
  rw [readingName_eq_iff, MappedTogether, hmagnitude, hvalue, hmapped]
  tauto

theorem readingName_eq_mag_iff (label : String) :
    readingName "mag" = readingName label ↔ label = "mag" := by
  have hmag : readingName "mag" = "mag" := by decide
  have htable : ∀ entry ∈ DO_READING_MAPPING, entry.2 ≠ "mag" := by decide
  rw [hmag]
  constructor
  · intro h
    rcases readingName_cases label with hentry | ⟨_, heq⟩
    · exact absurd h.symm (htable _ hentry)
    · rw [h, heq]
  · rintro rfl
    exact hmag.symm

/-! ## The name of a converted member -/

section Names

variable {plat : Platform}

/-- The root of a tree gives its name to the datapoint, or joins it with that of its
first child. -/
theorem getName_of_built {mmsValue : Option MmsValue} {name : String}
    {children : List (Option MmsNameNode)} {d : Datapoint}
    (h : buildDatapointFromMms plat mmsValue (some (.node name children)) = .ok (some d)) :
    d.getName = readingName name ∨
      (name = "mag" ∧ ∃ child rest element first, children = child :: rest ∧
        buildDatapointFromMms plat element child = .ok (some first) ∧
        d.getName = readingName ("mag." ++ first.getName)) := by
  cases mmsValue with
  | none =>
    rw [buildDatapointFromMms] at h
    cases h
  | some mmsValue =>
  rw [buildDatapointFromMms] at h
  rcases except_bind_eq_ok.mp h with ⟨unnamed, hswitch, hrename⟩
  rw [except_pure_eq_ok] at hrename
  rcases Option.map_eq_some_iff.mp hrename with ⟨datapoint, rfl, rfl⟩
  rw [renameDatapoint_eq, Datapoint.getName_setName]
  rcases mmsValue with ⟨type, elements⟩ | value
  · rw [buildFromType] at hswitch
    by_cases hlength : elements.length ≠ children.length
    · rw [if_pos hlength] at hswitch
      cases hswitch
    rw [if_neg hlength] at hswitch
    by_cases hmag : name = "mag"
    · right
      rw [if_pos hmag] at hswitch
      rcases except_bind_eq_ok.mp hswitch with ⟨first, hfirst, hjoin⟩
      cases first with
      | none => cases hjoin
      | some first =>
        cases hjoin
        refine ⟨hmag, ?_⟩
        rw [Datapoint.getName_setName, hmag]
        -- without a first child nothing is converted
        rcases elements with _ | ⟨element, elements⟩ <;> rcases children with _ | ⟨child, rest⟩ <;>
          rw [buildFirst] at hfirst
        any_goals cases hfirst
        · exact ⟨child, rest, element, first, rfl, hfirst, rfl⟩
    · left
      rw [if_neg hmag] at hswitch
      rcases except_bind_eq_ok.mp hswitch with ⟨entries, _, hdict⟩
      cases hdict
      rfl
  · left
    rw [buildFromType] at hswitch
    cases value <;> cases hswitch <;> rfl

/-- A first child is published under the name of a value only if that is its own name. -/
theorem mmsName_of_value {element : Option MmsValue} {child : MmsNameNode} {first : Datapoint}
    (h : buildDatapointFromMms plat element (some child) = .ok (some first))
    (hvalue : first.getName = "f" ∨ first.getName = "value") : child.mmsName = first.getName := by
  rcases child with ⟨name, children⟩
  have hdot : '.' ∉ first.getName.toList := by
    rcases hvalue with hname | hname <;> rw [hname] <;> decide
  have hkept : readingName first.getName = first.getName ∧ first.getName ∉ readingNames ∧
      first.getName ≠ "stVal" ∧ first.getName ≠ "do_value" := by
    rcases hvalue with hname | hname <;> rw [hname] <;> decide
  rcases getName_of_built h with hname | ⟨_, _, _, _, inner, _, _, hname⟩
  · rcases readingName_cases name with hentry | ⟨_, heq⟩
    · have htarget : readingName name ∈ readingNames := List.mem_map_of_mem hentry
      rw [← hname] at htarget
      exact absurd htarget hkept.2.1
    · rw [MmsNameNode.mmsName_node, hname, heq]
  · -- a joined name is no such name
    have hjoined : readingName ("mag." ++ inner.getName) = readingName first.getName := by
      rw [hkept.1, hname]
    rcases ((readingName_magnitude_eq_iff _ hdot).mp hjoined).2 with hother | hother
    · exact absurd hother hkept.2.2.1
    · exact absurd hother hkept.2.2.2

/-- The local configuration of a member that is labelled by its path: the label is at
the root of its tree, and the attributes of the member are below it. -/
structure LabelledByPath (member : String × List String) (dpConfig : DatapointConfig) : Prop where
  label : dpConfig.label = pathLabel member.1
  tree : ∃ children, dpConfig.mmsNameTree = some (.node dpConfig.label children) ∧
    children.map (Option.map MmsNameNode.mmsName) = member.2.map some

/-- The name of a reading of the member: the mapped label, or that of a magnitude. -/
theorem LabelledByPath.getName {member : String × List String} {dpConfig : DatapointConfig}
    (hmember : LabelledByPath member dpConfig) {mmsValue : Option MmsValue} {d : Datapoint}
    (h : convertMmsToDatapoint plat mmsValue dpConfig = .ok (some d)) :
    d.getName = readingName dpConfig.label ∨
      (dpConfig.label = "mag" ∧ ∃ first, d.getName = readingName ("mag." ++ first) ∧
        (first = "f" ∨ first = "value" → first ∈ member.2.head?)) := by
  rcases hmember.tree with ⟨children, htree, hnames⟩
  cases mmsValue with
  | none => cases h
  | some mmsValue =>
  rcases except_bind_eq_ok.mp h with ⟨datapoint, hbuild, htype⟩
  rw [except_pure_eq_ok] at htype
  cases datapoint with
  | none => cases htype
  | some datapoint =>
  rw [insertType_getName htype]
  rw [htree] at hbuild
  rcases getName_of_built hbuild with hname | ⟨hmag, child, rest, element, first, rfl, hfirst, hname⟩
  · exact Or.inl hname
  · refine Or.inr ⟨hmag, first.getName, hname, fun hvalue => ?_⟩
    rw [List.map_cons] at hnames
    -- the child is there, under the name that the IED has listed first
    cases hattributes : member.2 with
    | nil =>
      rw [hattributes] at hnames
      cases hnames
    | cons listed others =>
      rw [hattributes, List.map_cons, List.cons.injEq] at hnames
      rcases Option.map_eq_some_iff.mp hnames.1 with ⟨node, rfl, hnode⟩
      rw [← hnode, mmsName_of_value hfirst hvalue]
      rfl

/-- Two members with different labels whose readings have one name. -/
theorem sameReadingName_of_getName {member member' : String × List String}
    {dpConfig dpConfig' : DatapointConfig} (hmember : LabelledByPath member dpConfig)
    (hmember' : LabelledByPath member' dpConfig') (hne : dpConfig.label ≠ dpConfig'.label)
    {mmsValue mmsValue' : Option MmsValue} {d d' : Datapoint}
    (h : convertMmsToDatapoint plat mmsValue dpConfig = .ok (some d))
    (h' : convertMmsToDatapoint plat mmsValue' dpConfig' = .ok (some d'))
    (hname : d.getName = d'.getName) : SameReadingName member member' := by
  have hends : EndsIn member.1 dpConfig.label := endsIn_iff.mpr hmember.label.symm
  have hends' : EndsIn member'.1 dpConfig'.label := endsIn_iff.mpr hmember'.label.symm
  -- a magnitude and another label
  have hmagnitude : ∀ {m m' : String × List String} {c c' : DatapointConfig} {first : String},
      LabelledByPath m' c' → c.label ≠ c'.label → EndsIn m.1 c.label → EndsIn m'.1 c'.label →
      c.label = "mag" → (first = "f" ∨ first = "value" → first ∈ m.2.head?) →
      readingName ("mag." ++ first) = readingName c'.label → SameReadingName m m' := by
    intro m m' c c' first hm' hne hends hends' hmag hfirst hsame
    have hdot : '.' ∉ c'.label.toList := by
      rw [hm'.label]
      exact dot_notMem_pathLabel _
    have hvalue := (readingName_magnitude_eq_iff first hdot).mp hsame
    rw [hmag] at hne hends
    exact ⟨_, _, Or.inr ⟨hends, first, hfirst hvalue.1, rfl⟩, Or.inl ⟨hends', hne.symm⟩,
      (readingName_eq_iff _ _).mp hsame⟩
  rcases hmember.getName h with hplain | ⟨hmag, first, hjoined, hfirst⟩
  · rcases hmember'.getName h' with hplain' | ⟨hmag', first', hjoined', hfirst'⟩
    · have hsame : readingName dpConfig.label = readingName dpConfig'.label := by
        rw [← hplain, hname, hplain']
      refine ⟨_, _, Or.inl ⟨hends, ?_⟩, Or.inl ⟨hends', ?_⟩, (readingName_eq_iff _ _).mp hsame⟩
      · intro hmag
        rw [hmag] at hsame hne
        exact hne ((readingName_eq_mag_iff _).mp hsame).symm
      · intro hmag
        rw [hmag] at hsame hne
        exact hne ((readingName_eq_mag_iff _).mp hsame.symm)
    · exact (hmagnitude hmember hne.symm hends' hends hmag' hfirst'
        (by rw [← hjoined', ← hname, hplain])).symm
  · rcases hmember'.getName h' with hplain' | ⟨hmag', _⟩
    · exact hmagnitude hmember' hne hends hends' hmag hfirst (by rw [← hjoined, hname, hplain'])
    · exact absurd (hmag.trans hmag'.symm) hne

/-! ### A value for each member -/

/-- A value for a member: of a magnitude the first attribute, of any other member the
member itself is a boolean. -/
def exampleValue (dpConfig : DatapointConfig) : MmsValue :=
  match dpConfig.mmsNameTree with
  | some (.node name (_ :: rest)) =>
    if name = "mag" then
      .aggregate .struct (some (.primitive (.boolean true)) :: rest.map fun _ => none)
    else .primitive (.boolean true)
  | _ => .primitive (.boolean true)

/-- The name of its reading. -/
def exampleName (member : String × List String) : String :=
  match member.2 with
  | first :: _ =>
    if pathLabel member.1 = "mag" then readingName ("mag." ++ readingName first)
    else readingName (pathLabel member.1)
  | [] => readingName (pathLabel member.1)

/-- What is built for a member is published under the same name. -/
theorem convert_of_built {dpConfig : DatapointConfig} {mmsValue : MmsValue} {name : String}
    {data : DatapointValue Datapoint}
    (h : buildDatapointFromMms plat (some mmsValue) dpConfig.mmsNameTree =
      .ok (some (.mk name data))) :
    ∃ d, convertMmsToDatapoint plat (some mmsValue) dpConfig = .ok (some d) ∧ d.getName = name := by
  rw [convertMmsToDatapoint, h]
  cases data <;> exact ⟨_, rfl, rfl⟩

variable (plat) in
theorem build_boolean (name : String) (children : List (Option MmsNameNode)) :
    buildDatapointFromMms plat (some (.primitive (.boolean true))) (some (.node name children)) =
      .ok (some (.mk (readingName name) (.integer 1))) := by
  have hswitch : buildFromType plat (.primitive (.boolean true)) name children =
      .ok (some (.mk name (.integer 1))) := by
    rw [buildFromType]
    rfl
  exact buildDatapointFromMms_node hswitch

theorem convert_boolean {dpConfig : DatapointConfig} {children : List (Option MmsNameNode)}
    (htree : dpConfig.mmsNameTree = some (.node dpConfig.label children)) :
    ∃ d, convertMmsToDatapoint plat (some (.primitive (.boolean true))) dpConfig = .ok (some d) ∧
      d.getName = readingName dpConfig.label := by
  have hbuild := build_boolean plat dpConfig.label children
  rw [← htree] at hbuild
  exact convert_of_built hbuild

variable (plat) in
theorem LabelledByPath.convert_exampleValue {member : String × List String}
    {dpConfig : DatapointConfig} (hmember : LabelledByPath member dpConfig) :
    ∃ d, convertMmsToDatapoint plat (some (exampleValue dpConfig)) dpConfig = .ok (some d) ∧
      d.getName = exampleName member := by
  rcases member with ⟨path, attributes⟩
  rcases hmember.tree with ⟨children, htree, hnames⟩
  have hlabel : dpConfig.label = pathLabel path := hmember.label
  unfold exampleValue exampleName
  rw [htree, ← hlabel]
  rcases children with _ | ⟨child, rest⟩ <;> rcases attributes with _ | ⟨first, attributes⟩
  · exact convert_boolean htree
  · cases hnames
  · cases hnames
  by_cases hmag : dpConfig.label = "mag"
  · rw [List.map_cons, List.map_cons, List.cons.injEq] at hnames
    rcases Option.map_eq_some_iff.mp hnames.1 with ⟨⟨name, below⟩, rfl, hnode⟩
    obtain rfl : name = first := hnode
    dsimp only
    rw [if_pos hmag, if_pos hmag]
    have hlength : (some (MmsValue.primitive (.boolean true)) :: rest.map fun _ => none).length =
        (some (MmsNameNode.node name below) :: rest).length := by simp
    -- the first child is converted, and its name is joined
    have hswitch : buildFromType plat
        (.aggregate .struct (some (.primitive (.boolean true)) :: rest.map fun _ => none)) "mag"
        (some (.node name below) :: rest) =
          .ok (some (.mk ("mag." ++ readingName name) (.integer 1))) := by
      rw [buildFromType, if_neg (not_not_intro hlength), if_pos rfl, buildFirst, build_boolean]
      rfl
    have hbuild := buildDatapointFromMms_node hswitch
    rw [← hmag, ← htree] at hbuild
    exact convert_of_built hbuild
  · dsimp only
    rw [if_neg hmag, if_neg hmag]
    exact convert_boolean htree

theorem StandsFor.exampleName {member : String × List String} {name : String}
    (h : StandsFor member name) : exampleName member = readingName name ∨
      (pathLabel member.1 = "mag" ∧ ∃ first, name = "mag." ++ first ∧
        exampleName member = readingName ("mag." ++ readingName first)) := by
  rcases member with ⟨path, attributes⟩
  unfold Iec61850South.exampleName
  rcases h with ⟨hends, hne⟩ | ⟨hends, first, hfirst, rfl⟩
  · left
    rw [endsIn_iff.mp hends]
    cases attributes with
    | nil => rfl
    | cons first attributes => exact if_neg hne
  · right
    rcases attributes with _ | ⟨listed, attributes⟩
    · cases hfirst
    · cases hfirst
      refine ⟨endsIn_iff.mp hends, first, rfl, if_pos (endsIn_iff.mp hends)⟩

/-- Members that are mapped together have examples with one name. -/
theorem SameReadingName.exampleName_eq {member member' : String × List String}
    (hne : pathLabel member.1 ≠ pathLabel member'.1) (h : SameReadingName member member') :
    exampleName member = exampleName member' := by
  -- a magnitude and a label are only mapped together as values
  have hmagnitude : ∀ {m m' : String × List String} {first name' : String},
      pathLabel m.1 = "mag" → pathLabel m.1 ≠ pathLabel m'.1 →
      exampleName m = readingName ("mag." ++ readingName first) → StandsFor m' name' →
      MappedTogether ("mag." ++ first) name' → exampleName m = exampleName m' := by
    intro m m' first name' hmag hne hexample hstands htogether
    have hplain : exampleName m' = readingName name' ∧ name' = pathLabel m'.1 := by
      rcases hstands with ⟨hends, hother⟩ | ⟨hends, _⟩
      · rcases (StandsFor.exampleName (Or.inl ⟨hends, hother⟩)) with hname | ⟨hmag', _⟩
        · exact ⟨hname, (endsIn_iff.mp hends).symm⟩
        · exact absurd (hmag.trans hmag'.symm) hne
      · exact absurd (hmag.trans (endsIn_iff.mp hends).symm) hne
    have hdot : '.' ∉ name'.toList := by
      rw [hplain.2]
      exact dot_notMem_pathLabel _
    have hsame := (readingName_eq_iff _ _).mpr htogether
    rw [hexample, hplain.1, ← hsame]
    rcases ((readingName_magnitude_eq_iff first hdot).mp hsame).1 with rfl | rfl <;> decide
  rcases h with ⟨name, name', hname, hname', htogether⟩
  rcases hname.exampleName with hplain | ⟨hmag, first, rfl, hexample⟩
  · rcases hname'.exampleName with hplain' | ⟨hmag', first', rfl, hexample'⟩
    · rw [hplain, hplain']
      exact (readingName_eq_iff _ _).mpr htogether
    · exact (hmagnitude hmag' hne.symm hexample' hname htogether.symm).symm
  · exact hmagnitude hmag hne hexample hname' htogether

end Names

/-! ## A dataset that is exported as a whole -/

section Dataset

variable {plat : Platform} {setup : ClientSetup} {env : Environment} {fuel : Nat}
  {it : String × ExchangedData}

/-- The paths of the members of a directory. -/
def memberPaths (members : List String) : List String :=
  members.filterMap fun doPathWithFC => (splitDoPathWithFC doPathWithFC).toOption.map Prod.fst

variable (plat env fuel it) in
/-- The path of each member, and the attributes that the IED lists for it when its turn
comes in a round that starts in `t`. -/
def memberAnswers (t : ClientState) : List (String × List String) :=
  (directoryAnswer env t.calls it.1).zipIdx.filterMap fun member =>
    (splitDoPathWithFC member.1).toOption.map fun parts =>
      (parts.1, attributesAnswer env
        (finalState (buildMembersUntil plat env fuel it member.2 t)).calls parts.1
        (plat.FunctionalConstraint_fromString parts.2))

/-- No entry of the selection is found in the path of a member. -/
def NoneSelected (selection : ExchangedData) (members : List String) : Prop :=
  ∀ path ∈ memberPaths members, findSelectedDO selection path = none

/-- The labels are not empty and pairwise different. -/
def LabelsDistinct (exchangedDataset : ExchangedData) : Prop :=
  (∀ dpConfig ∈ exchangedDataset, dpConfig.label ≠ "") ∧
    (exchangedDataset.map DatapointConfig.label).Nodup

/-- Whenever a cycle comes to the dataset, whatever it reads, the readings that it
publishes have pairwise different names. -/
def PublishesDistinct (plat : Platform) (setup : ClientSetup) (datasetRef : String)
    (exchangedDataset : ExchangedData) : Prop :=
  ∀ (env : Environment) (s : ClientState), HasConnection s → ∃ readings,
    sent (finalState (readAndExportOneDataset plat setup env datasetRef exchangedDataset s)).events =
        sent s.events ++ readings ∧
      (readings.map Datapoint.getName).Nodup

theorem memberPaths_eq {members : List String} {entries : ExchangedData}
    (h : List.Forall₂ (fun doPathWithFC dpConfig => ∃ functionalConstraintStr,
      splitDoPathWithFC doPathWithFC = .ok (dpConfig.dataPath, functionalConstraintStr))
      members entries) : memberPaths members = entries.map DatapointConfig.dataPath := by
  rw [← List.forall₂_eq_eq_eq, List.forall₂_map_right_iff]
  refine forall₂_filterMap_left h ?_
  rintro doPathWithFC dpConfig ⟨functionalConstraintStr, hsplit⟩
  exact ⟨_, by rw [hsplit]; rfl, rfl⟩

/-- Without a selected member, every label is made from a path. -/
theorem DatasetBuilt.labels_of_noneSelected {t : ClientState} {exchangedDataset : ExchangedData}
    (h : DatasetBuilt plat env fuel it t exchangedDataset)
    (hnone : NoneSelected it.2 (directoryAnswer env t.calls it.1)) :
    exchangedDataset.map DatapointConfig.dataPath =
        memberPaths (directoryAnswer env t.calls it.1) ∧
      ∀ dpConfig ∈ exchangedDataset, dpConfig.label = pathLabel dpConfig.dataPath := by
  rcases h.members with ⟨entries, rfl, hentries⟩
  have hpaths : memberPaths (directoryAnswer env t.calls it.1) =
      entries.map DatapointConfig.dataPath :=
    memberPaths_eq (hentries.imp fun _ _ ⟨_, _, hrun⟩ => (buildMember_imported hrun).2)
  have hall : (entries.all fun dpConfig => dpConfig.label = "") = true := by
    rw [List.all_eq_true]
    intro dpConfig hmem
    rcases exists_of_forall₂ hentries hmem with ⟨_, _, _, _, hrun⟩
    have himported := (buildMember_imported hrun).1
    have hpath : dpConfig.dataPath ∈ memberPaths (directoryAnswer env t.calls it.1) := by
      rw [hpaths]
      exact List.mem_map_of_mem hmem
    unfold Imported at himported
    rw [hnone _ hpath] at himported
    exact decide_eq_true himported
  refine ⟨by rw [selectAllIfNone_dataPath, hpaths], ?_⟩
  rw [selectAllIfNone, if_pos hall, List.forall_mem_map]
  exact fun dpConfig _ => rfl

theorem DatasetBuilt.labelsDistinct_iff {t : ClientState} {exchangedDataset : ExchangedData}
    (h : DatasetBuilt plat env fuel it t exchangedDataset)
    (hnone : NoneSelected it.2 (directoryAnswer env t.calls it.1)) :
    LabelsDistinct exchangedDataset ↔
      LastPartsDistinct (memberPaths (directoryAnswer env t.calls it.1)) := by
  rcases h.labels_of_noneSelected hnone with ⟨hpaths, hlabel⟩
  have hlabels : exchangedDataset.map DatapointConfig.label =
      (memberPaths (directoryAnswer env t.calls it.1)).map pathLabel := by
    rw [← hpaths, List.map_map]
    exact List.map_congr_left hlabel
  have hempty : (∀ dpConfig ∈ exchangedDataset, dpConfig.label ≠ "") ↔
      ∀ path ∈ memberPaths (directoryAnswer env t.calls it.1), pathLabel path ≠ "" := by
    rw [← List.forall_mem_map (P := (· ≠ "")), hlabels, List.forall_mem_map]
  rw [← pathLabels_distinct_iff, LabelsDistinct, hempty, hlabels]

/-- Each entry belongs to a member and to the attributes that were listed for it. -/
theorem DatasetBuilt.labelledByPath {t : ClientState} {exchangedDataset : ExchangedData}
    (h : DatasetBuilt plat env fuel it t exchangedDataset)
    (hnone : NoneSelected it.2 (directoryAnswer env t.calls it.1)) :
    List.Forall₂ LabelledByPath (memberAnswers plat env fuel it t) exchangedDataset := by
  have hlabel := (h.labels_of_noneSelected hnone).2
  have hbuilt : List.Forall₂ (fun member dpConfig =>
      BuiltInRound plat env fuel it t member dpConfig ∧
        dpConfig.label = pathLabel dpConfig.dataPath)
      (directoryAnswer env t.calls it.1).zipIdx exchangedDataset := by
    rw [List.forall₂_iff_zip]
    refine ⟨h.builtFor.length_eq, fun {member dpConfig} hmem => ⟨?_, ?_⟩⟩
    · exact (List.forall₂_iff_zip.mp h.builtFor).2 hmem
    · exact hlabel _ (List.of_mem_zip hmem).2
  refine forall₂_filterMap_left hbuilt ?_
  rintro member dpConfig
    ⟨⟨entries, u, hturn, doPath, fcStr, nameTree, u', hsplit, htree, hpath, _, hname⟩, hlabelled⟩
  refine ⟨_, by rw [hsplit, hturn]; rfl, ?_, ?_⟩
  · rw [hlabelled, hpath]
  · rcases nameTree with ⟨mmsName, children⟩
    refine ⟨children, hname, ?_⟩
    -- the tree was built when the turn of the member came
    have hnames := buildNameTree_childNames htree
    exact hnames

/-! ### What a cycle publishes -/

variable (plat setup env) in
theorem readAndExportOneDataset_sent {s : ClientState} (hs : HasConnection s)
    (it : String × ExchangedData) :
    sent (finalState (readAndExportOneDataset plat setup env it.1 it.2 s)).events =
      sent s.events ++ (datasetEmission plat setup env s.calls it).out := by
  obtain ⟨s', hsent, hrun, _⟩ : Emits sentEffect (At (nextCall env s.calls))
      (readAndExportOneDataset plat setup env it.1 it.2) s _ :=
    readAndExportOneDataset_emits ⟨hs, rfl⟩ it
  rw [hrun, Emission.finalState_result]
  exact hsent

variable (plat env) in
/-- The readings of a dataset are conversions of its members. -/
theorem datasetEmission_sublist (hreceiver : setup.hasReceiver = true) (n : Nat)
    (it : String × ExchangedData) :
    ∃ elements : List (Option MmsValue), (datasetEmission plat setup env n it).out.Sublist
      ((elements.zip it.2).flatMap (memberDatapoints plat)) := by
  have hmember : ∀ member : Option MmsValue × DatapointConfig,
      (memberEmission plat setup member).out = memberDatapoints plat member := by
    intro member
    unfold memberEmission memberDatapoints
    split
    · cases convertMmsToDatapoint plat member.1 member.2 with
      | ok datapoint => simp [sends, hreceiver]
      | error e => rfl
    · rfl
  unfold datasetEmission
  split
  · cases (env.readDataSetValues (n + 1) it.1).1 with
    | none => exact ⟨[], List.nil_sublist _⟩
    | some dataSet =>
      unfold membersEmission
      rw [getValues, Emission.after_ok]
      cases datasetElements (some dataSet.values) it.2.length with
      | error e => exact ⟨[], List.nil_sublist _⟩
      | ok elements =>
        -- the emission stops at the first exception, so that only a sublist of the readings is sent
        have hmembers : ((elements.zip it.2).map (memberEmission plat setup)).flatMap Emission.out =
            (elements.zip it.2).flatMap (memberDatapoints plat) := by
          rw [List.flatMap_map]
          exact List.flatMap_congr fun member _ => hmember member
        refine ⟨elements, ?_⟩
        rw [← hmembers]
        exact Emission.seqAll_out_sublist _
  · exact ⟨[], List.nil_sublist _⟩

/-- The values that are converted in any cycle have different names for two members that
do not share one. -/
def NamesApart (plat : Platform) (dpConfig dpConfig' : DatapointConfig) : Prop :=
  ∀ mmsValue mmsValue' d d', convertMmsToDatapoint plat mmsValue dpConfig = .ok (some d) →
    convertMmsToDatapoint plat mmsValue' dpConfig' = .ok (some d') → d.getName ≠ d'.getName

theorem mem_memberDatapoints {member : Option MmsValue × DatapointConfig} {d : Datapoint}
    (h : d ∈ memberDatapoints plat member) :
    convertMmsToDatapoint plat member.1 member.2 = .ok (some d) := by
  unfold memberDatapoints at h
  split at h
  · cases hconvert : convertMmsToDatapoint plat member.1 member.2 with
    | ok datapoint =>
      rw [hconvert] at h
      rw [Option.mem_toList.mp h]
    | error e =>
      rw [hconvert] at h
      cases h
  · cases h

theorem memberDatapoints_nodup (member : Option MmsValue × DatapointConfig) :
    ((memberDatapoints plat member).map Datapoint.getName).Nodup := by
  unfold memberDatapoints
  split
  · split
    · next datapoint _ => cases datapoint <;> simp
    · exact List.nodup_nil
  · exact List.nodup_nil

theorem publishesDistinct_of_apart (hreceiver : setup.hasReceiver = true)
    {exchangedDataset : ExchangedData} (h : exchangedDataset.Pairwise (NamesApart plat))
    (datasetRef : String) : PublishesDistinct plat setup datasetRef exchangedDataset := by
  intro env s hs
  refine ⟨_, readAndExportOneDataset_sent plat setup env hs (datasetRef, exchangedDataset), ?_⟩
  rcases datasetEmission_sublist plat env hreceiver s.calls (datasetRef, exchangedDataset) with
      ⟨elements, hsublist⟩
  refine (hsublist.map _).nodup ?_
  rw [List.map_flatMap, List.Nodup, List.pairwise_flatMap]
  refine ⟨fun member _ => memberDatapoints_nodup member, (pairwise_zip_right elements h).imp ?_⟩
  intro member member' hapart name hname name' hname'
  rcases List.mem_map.mp hname with ⟨d, hd, rfl⟩
  rcases List.mem_map.mp hname' with ⟨d', hd', rfl⟩
  exact hapart _ _ d d' (mem_memberDatapoints hd) (mem_memberDatapoints hd')

/-- An answer with the example of each member. -/
def exampleElements (exchangedDataset : ExchangedData) : List (Option MmsValue) :=
  exchangedDataset.map fun dpConfig => some (exampleValue dpConfig)

variable (plat) in
/-- All examples are converted, to readings with their names. -/
theorem exampleElements_converted {members : List (String × List String)}
    {exchangedDataset : ExchangedData}
    (hmembers : List.Forall₂ LabelledByPath members exchangedDataset)
    (hlabels : ∀ dpConfig ∈ exchangedDataset, dpConfig.label ≠ "") :
    ConversionsSucceed plat ((exampleElements exchangedDataset).zip exchangedDataset) ∧
      (((exampleElements exchangedDataset).zip exchangedDataset).flatMap
        (memberDatapoints plat)).map Datapoint.getName = members.map exampleName := by
  induction hmembers with
  | nil => exact ⟨by simp [ConversionsSucceed, exampleElements], rfl⟩
  | @cons member dpConfig members exchangedDataset hmember _ ih =>
    rcases ih fun c hc => hlabels c (List.mem_cons_of_mem _ hc) with ⟨hsucceed, hnames⟩
    rcases hmember.convert_exampleValue plat with ⟨d, hconvert, hname⟩
    have hzip : (exampleElements (dpConfig :: exchangedDataset)).zip (dpConfig :: exchangedDataset) =
        (some (exampleValue dpConfig), dpConfig) ::
          (exampleElements exchangedDataset).zip exchangedDataset := rfl
    have hhead : memberDatapoints plat (some (exampleValue dpConfig), dpConfig) = [d] := by
      unfold memberDatapoints
      rw [if_pos (hlabels dpConfig List.mem_cons_self), hconvert]
      rfl
    rw [hzip]
    constructor
    · intro other hother hlabel
      rcases List.mem_cons.mp hother with rfl | hother
      · exact ⟨_, hconvert⟩
      · exact hsucceed other hother hlabel
    · rw [List.flatMap_cons, hhead, List.map_append, hnames, List.map_cons, List.map_cons, hname]
      rfl

/-- A cycle that reads the examples publishes under their names. -/
theorem exampleNames_nodup (hreceiver : setup.hasReceiver = true) {datasetRef : String}
    {members : List (String × List String)} {exchangedDataset : ExchangedData}
    (hmembers : List.Forall₂ LabelledByPath members exchangedDataset)
    (hlabels : ∀ dpConfig ∈ exchangedDataset, dpConfig.label ≠ "")
    (h : PublishesDistinct plat setup datasetRef exchangedDataset) :
    (members.map exampleName).Nodup := by
  let answering : Environment :=
    { smallIed with
      readDataSetValues := fun _ _ =>
        (some ⟨.aggregate .array (exampleElements exchangedDataset)⟩, IED_ERROR_OK) }
  rcases h answering { m_connection := some {} } rfl with ⟨readings, hsent, hnodup⟩
  rcases exampleElements_converted plat hmembers hlabels with ⟨hsucceed, hnames⟩
  have hread : ReadAs answering 0 datasetRef (exampleElements exchangedDataset) := ⟨rfl, rfl⟩
  have hlength : (exampleElements exchangedDataset).length = exchangedDataset.length :=
    List.length_map _
  have hout : (datasetEmission plat setup answering 0 (datasetRef, exchangedDataset)).out =
      ((exampleElements exchangedDataset).zip exchangedDataset).flatMap (memberDatapoints plat) := by
    rw [datasetEmission_array hreceiver hread hlength hsucceed]
  have hreadings := readAndExportOneDataset_sent plat setup answering
    (s := { m_connection := some {} }) rfl (datasetRef, exchangedDataset)
  rw [hsent] at hreadings
  rw [← hnames, ← hout, ← List.append_cancel_left hreadings]
  exact hnodup

/-- In every cycle the readings have different names exactly when no two members share
one. -/
theorem publishesDistinct_iff (hreceiver : setup.hasReceiver = true) {datasetRef : String}
    {members : List (String × List String)} {exchangedDataset : ExchangedData}
    (hmembers : List.Forall₂ LabelledByPath members exchangedDataset)
    (hlabels : LabelsDistinct exchangedDataset) :
    PublishesDistinct plat setup datasetRef exchangedDataset ↔
      members.Pairwise fun member member' => ¬ SameReadingName member member' := by
  have hdistinct : exchangedDataset.Pairwise fun dpConfig dpConfig' =>
      dpConfig.label ≠ dpConfig'.label := List.pairwise_map.mp hlabels.2
  have hpaths : members.Pairwise fun member member' =>
      pathLabel member.1 ≠ pathLabel member'.1 := by
    refine pairwise_of_forall₂ hmembers.flip ?_ hdistinct
    intro dpConfig dpConfig' member member' hmember hmember' hne
    rwa [← hmember.label, ← hmember'.label]
  constructor
  · intro hpublishes
    have hexamples := List.pairwise_map.mp (exampleNames_nodup hreceiver hmembers hlabels.1 hpublishes)
    refine (hpaths.and hexamples).imp ?_
    rintro member member' ⟨hne, hapart⟩ hsame
    exact hapart (hsame.exampleName_eq hne)
  · intro hmembers'
    apply publishesDistinct_of_apart hreceiver
    refine pairwise_of_forall₂ hmembers ?_ (hpaths.and hmembers')
    rintro member member' dpConfig dpConfig' hmember hmember' ⟨hne, hother⟩ mmsValue mmsValue' d d'
      hconvert hconvert' hname
    rw [← hmember.label, ← hmember'.label] at hne
    exact hother (sameReadingName_of_getName hmember hmember' hne hconvert hconvert' hname)

variable (plat fuel) in
/-- **When a whole dataset can be told apart.** The building returns when the directories
end. If no member is selected, the labels it gives are not empty and pairwise different,
and each cycle publishes the members under different names, exactly when the paths of the
members end in different parts and the mapping has no name for two of them. -/
theorem whole_dataset_labels_distinct_iff (hreceiver : setup.hasReceiver = true) {s : ClientState}
    (hs : HasConnection s) {i : Nat} {it : String × ExchangedData}
    (hit : setup.selectedDOInExchangedDatasets.toList[i]? = some it) :
    ((∀ fc path, DirectoryEnds env fc fuel path) →
      ∃ s', buildConfigurationNameTrees plat setup env fuel s = .ok ⟨⟩ s') ∧
    ∀ s', buildConfigurationNameTrees plat setup env fuel s = .ok ⟨⟩ s' →
      ∃ t exchangedDataset, buildDatasetsUntil plat setup env fuel i s = .ok ⟨⟩ t ∧
        s'.m_localExchangedDatasets[it.1]? = some exchangedDataset ∧
        (NoneSelected it.2 (directoryAnswer env t.calls it.1) →
          (LabelsDistinct exchangedDataset ↔
            LastPartsDistinct (memberPaths (directoryAnswer env t.calls it.1))) ∧
          (LabelsDistinct exchangedDataset ∧ PublishesDistinct plat setup it.1 exchangedDataset ↔
            LastPartsDistinct (memberPaths (directoryAnswer env t.calls it.1)) ∧
              (memberAnswers plat env fuel it t).Pairwise fun member member' =>
                ¬ SameReadingName member member')) := by
  constructor
  · intro hends
    exact buildConfigurationNameTrees_returns plat setup hends hs
  · intro s' hrun
    rcases buildConfigurationNameTrees_datasets plat setup env fuel hrun i it hit with
      ⟨t, exchangedDataset, ht, hlookup, hbuilt⟩
    refine ⟨t, exchangedDataset, ht, hlookup, fun hnone => ?_⟩
    have hlabels := hbuilt.labelsDistinct_iff hnone
    have hmembers := hbuilt.labelledByPath hnone
    refine ⟨hlabels, ?_⟩
    rw [← hlabels]
    exact and_congr_right fun hdistinct => publishesDistinct_iff hreceiver hmembers hdistinct

end Dataset

/-! ## Members with one name -/

/-- An IED whose dataset has these members. -/
def iedWithMembers (members : List String) : Environment :=
  { smallIed with getDataSetDirectory := fun _ _ => (some members, IED_ERROR_OK) }

def wholeDataset : ClientSetup :=
  smallSetup .DATASET_READING [("IED1LD0/LLN0.DS1", [])]

theorem wholeDataset_selected :
    wholeDataset.selectedDOInExchangedDatasets["IED1LD0/LLN0.DS1"]? = some [] := by
  show (insertAll ∅ [("IED1LD0/LLN0.DS1", [])])["IED1LD0/LLN0.DS1"]? = some ([] : ExchangedData)
  rw [getElem?_insertAll]
  rfl

theorem whole_dataset_labels_distinct_iff_sample :
    ∃ i, ((∀ fc path, DirectoryEnds smallIed fc 3 path) →
      ∃ s', buildConfigurationNameTrees (.withDocuments []) wholeDataset smallIed 3
        { m_connection := some {} } = .ok ⟨⟩ s') ∧
    ∀ s', buildConfigurationNameTrees (.withDocuments []) wholeDataset smallIed 3
        { m_connection := some {} } = .ok ⟨⟩ s' →
      ∃ t exchangedDataset, buildDatasetsUntil (.withDocuments []) wholeDataset smallIed 3 i
          { m_connection := some {} } = .ok ⟨⟩ t ∧
        s'.m_localExchangedDatasets["IED1LD0/LLN0.DS1"]? = some exchangedDataset ∧
        (NoneSelected [] (directoryAnswer smallIed t.calls "IED1LD0/LLN0.DS1") →
          (LabelsDistinct exchangedDataset ↔
            LastPartsDistinct (memberPaths
              (directoryAnswer smallIed t.calls "IED1LD0/LLN0.DS1"))) ∧
          (LabelsDistinct exchangedDataset ∧
              PublishesDistinct (.withDocuments []) wholeDataset "IED1LD0/LLN0.DS1"
                exchangedDataset ↔
            LastPartsDistinct (memberPaths
                (directoryAnswer smallIed t.calls "IED1LD0/LLN0.DS1")) ∧
              (memberAnswers (.withDocuments []) smallIed 3 ("IED1LD0/LLN0.DS1", []) t).Pairwise
                fun member member' => ¬ SameReadingName member member')) := by
  rcases List.getElem?_of_mem
    (Std.ExtTreeMap.mem_toList_iff_getElem?_eq_some.mpr wholeDataset_selected) with ⟨i, hi⟩
  have hs : HasConnection { m_connection := some {} } := rfl
  exact ⟨i, whole_dataset_labels_distinct_iff (.withDocuments []) 3 rfl hs hi⟩

/-- One object name in two logical nodes and under two constraints, two logical
devices, and a name that is empty. -/
def confusableMembers : List String :=
  ["IED1LD0/GGIO1.Ind1[ST]", "IED1LD0/GGIO2.Ind1[ST]", "IED1LD0/GGIO2.Ind1[MX]", "IED1LD0[ST]",
    "IED1LD1[ST]", "IED1LD0/GGIO1.[ST]"]

@[irreducible] def afterWholeBuild : ClientState :=
  finalState (buildConfigurationNameTrees (.withDocuments []) wholeDataset
    (iedWithMembers confusableMembers) 3 { m_connection := some {} })

/-- The state of an indication, and the magnitude of a measurement. -/
def valueMembers : List String :=
  ["IED1LD0/GGIO1.Ind1.stVal[ST]", "IED1LD0/MMXU1.TotW.mag[MX]"]

/-- An IED that lists a floating point number below a magnitude, and nothing else. -/
def iedWithValues : Environment :=
  { iedWithMembers valueMembers with
    getDataDirectoryByFC := fun _ path _ =>
      (some (if ".mag".toList.isSuffixOf path.toList then ["f"] else []), IED_ERROR_OK)
    readDataSetValues := fun _ _ =>
      (some ⟨.aggregate .array [some (.primitive (.boolean true)),
        some (.aggregate .struct [some (.primitive (.float 0))])]⟩, IED_ERROR_OK) }

@[irreducible] def afterValuesBuild : ClientState :=
  finalState (buildConfigurationNameTrees (.withDocuments []) wholeDataset iedWithValues 3
    { m_connection := some {} })

/-- Different members get the same label, and one of them none. Two members with
different labels are published under the same name. -/
theorem whole_dataset_labels_are_repeated :
    ((valueMembers.map fun doPathWithFC => (splitDoPathWithFC doPathWithFC).toOption).Nodup ∧
      NoneSelected [] valueMembers ∧
      buildConfigurationNameTrees (.withDocuments []) wholeDataset iedWithValues 3
        { m_connection := some {} } = .ok ⟨⟩ afterValuesBuild ∧
      ∃ exchangedDataset,
        afterValuesBuild.m_localExchangedDatasets["IED1LD0/LLN0.DS1"]? = some exchangedDataset ∧
        exchangedDataset.map DatapointConfig.label = ["stVal", "mag"] ∧
        (sent (finalState (readAndExportOneDataset (.withDocuments []) wholeDataset iedWithValues
          "IED1LD0/LLN0.DS1" exchangedDataset { m_connection := some {} })).events).map
            Datapoint.getName = ["do_value", "do_value"] ∧
        ¬ PublishesDistinct (.withDocuments []) wholeDataset "IED1LD0/LLN0.DS1"
          exchangedDataset) ∧
    (confusableMembers.map fun doPathWithFC => (splitDoPathWithFC doPathWithFC).toOption).Nodup ∧
    NoneSelected [] confusableMembers ∧
    buildConfigurationNameTrees (.withDocuments []) wholeDataset
      (iedWithMembers confusableMembers) 3 { m_connection := some {} } = .ok ⟨⟩ afterWholeBuild ∧
    ∃ exchangedDataset,
      afterWholeBuild.m_localExchangedDatasets["IED1LD0/LLN0.DS1"]? = some exchangedDataset ∧
      exchangedDataset.map DatapointConfig.label = ["Ind1", "Ind1", "Ind1", "noName", "noName", ""] ∧
      ¬ LabelsDistinct exchangedDataset := by
  refine ⟨⟨by decide +kernel, fun _ _ => rfl, ?_, ?_⟩, by decide +kernel, fun _ _ => rfl, ?_, ?_⟩
  · rw [afterValuesBuild]
    exact eq_ok_of_returned (by decide +kernel)
  · have hnames : afterValuesBuild.m_localExchangedDatasets["IED1LD0/LLN0.DS1"]?.map
        (fun exchangedDataset => (exchangedDataset.map DatapointConfig.label,
          (sent (finalState (readAndExportOneDataset (.withDocuments []) wholeDataset iedWithValues
            "IED1LD0/LLN0.DS1" exchangedDataset { m_connection := some {} })).events).map
              Datapoint.getName)) = some (["stVal", "mag"], ["do_value", "do_value"]) := by
      rw [afterValuesBuild]
      decide +kernel
    rcases Option.map_eq_some_iff.mp hnames with ⟨exchangedDataset, hlookup, hmap⟩
    rcases Prod.mk.inj hmap with ⟨hlabels, hsame⟩
    refine ⟨exchangedDataset, hlookup, hlabels, hsame, ?_⟩
    intro hpublishes
    rcases hpublishes iedWithValues { m_connection := some {} } rfl with ⟨readings, hsent, hnodup⟩
    have hreadings : readings.map Datapoint.getName = ["do_value", "do_value"] := by
      rw [← hsame, hsent]
      rfl
    rw [hreadings] at hnodup
    exact absurd hnodup (by decide)
  · rw [afterWholeBuild]
    exact eq_ok_of_returned (by decide +kernel)
  · have hlabels : afterWholeBuild.m_localExchangedDatasets["IED1LD0/LLN0.DS1"]?.map
        (List.map DatapointConfig.label) =
          some ["Ind1", "Ind1", "Ind1", "noName", "noName", ""] := by
      rw [afterWholeBuild]
      decide +kernel
    rcases Option.map_eq_some_iff.mp hlabels with ⟨exchangedDataset, hlookup, hmap⟩
    refine ⟨exchangedDataset, hlookup, hmap, ?_⟩
    intro hdistinct
    have hnodup := hdistinct.2
    rw [hmap] at hnodup
    exact absurd hnodup (by decide)

end Iec61850South
