import Iec61850South.Config.Document
import Iec61850South.Config.Selectors

/-! # The selectors of a connection

The six selectors of an `osi` section are imported in the same way: one that is
in the section is overwritten with the bytes of its text (`SelectorRead`), one that
is not keeps what was in its memory. `selectors_determined_iff` says for which
sections this memory shows.
-/

namespace Iec61850South

open Lib

/-! ## The six selectors -/

/-- The members of an `osi` section that are selectors. -/
inductive SelectorName where
  | local_psel
  | local_ssel
  | local_tsel
  | remote_psel
  | remote_ssel
  | remote_tsel
deriving DecidableEq, Repr

def SelectorName.member : SelectorName → String
  | .local_psel => "local_psel"
  | .local_ssel => "local_ssel"
  | .local_tsel => "local_tsel"
  | .remote_psel => "remote_psel"
  | .remote_ssel => "remote_ssel"
  | .remote_tsel => "remote_tsel"

def SelectorName.capacity : SelectorName → Nat
  | .local_psel | .local_ssel | .remote_psel | .remote_ssel => 16
  | .local_tsel | .remote_tsel => 4

theorem SelectorName.capacity_le (name : SelectorName) : name.capacity ≤ 255 := by
  cases name <;> decide

def OsiParameters.selector (osiParams : OsiParameters) :
    (name : SelectorName) → OsiSelector name.capacity
  | .local_psel => osiParams.localPSelector
  | .local_ssel => osiParams.localSSelector
  | .local_tsel => osiParams.localTSelector
  | .remote_psel => osiParams.remotePSelector
  | .remote_ssel => osiParams.remoteSSelector
  | .remote_tsel => osiParams.remoteTSelector

/-- The first `size` bytes, which are the ones that count. -/
def OsiSelector.bytes {capacity : Nat} (selector : OsiSelector capacity) : List UInt8 :=
  selector.value.toList.take selector.size.toNat

/-! ## One selector -/

/-- The bytes that a text decodes to. -/
def TextBytes (text : String) (bytes : List UInt8) : Prop :=
  List.Forall₂ (fun token b => readToken token = .ok b.toNat) (tokens text.toList) bytes

theorem TextBytes.unique {text : String} {bytes bytes' : List UInt8} (h : TextBytes text bytes)
    (h' : TextBytes text bytes') : bytes = bytes' :=
  readTokens_unique h h'

/-- A selector that holds the given bytes, in the memory of an older one. -/
def OsiSelector.written {capacity : Nat} (old : OsiSelector capacity) (bytes : List UInt8) :
    OsiSelector capacity :=
  ⟨UInt8.ofNat bytes.length, applyStores old.value (storesFrom 0 bytes)⟩

/-- Its bytes do not depend on that memory. -/
theorem OsiSelector.written_bytes {capacity : Nat} (old : OsiSelector capacity)
    {bytes : List UInt8} (hfit : bytes.length ≤ capacity) (hcapacity : capacity ≤ 255) :
    (old.written bytes).size.toNat = bytes.length ∧ (old.written bytes).bytes = bytes := by
  have hsize : (old.written bytes).size.toNat = bytes.length := by
    rw [written, UInt8.toNat_ofNat']
    omega
  refine ⟨hsize, ?_⟩
  rw [OsiSelector.bytes, hsize]
  apply List.ext_getElem
  · rw [List.length_take, Vector.length_toList]
    omega
  · intro i hi hi'
    rw [List.getElem_take, Vector.getElem_toList]
    have hbyte := applyStores_getElem old.value bytes (show 0 + i < capacity by omega) hi'
    simp only [Nat.zero_add] at hbyte
    exact hbyte

theorem parseOsiSelectorInto_eq_ok {capacity : Nat} {text : String}
    {old new : OsiSelector capacity} :
    parseOsiSelectorInto text old = .ok new ↔
      ∃ bytes, TextBytes text bytes ∧ bytes.length ≤ capacity ∧ new = old.written bytes := by
  unfold parseOsiSelectorInto
  rcases parseOsiSelector_run text capacity with
    ⟨bytes, hfit, ⟨hrun, hread⟩ | ⟨⟨msg, hrun⟩, hcause⟩⟩
  · have hrun : parseOsiSelector text capacity [] =
        .ok (0 + (tokens text.toList).length) ([] ++ storesFrom 0 bytes) := hrun
    rw [hrun, Nat.zero_add, hread.length_eq, List.nil_append]
    constructor
    · intro h
      cases h
      exact ⟨bytes, hread, hfit, rfl⟩
    · rintro ⟨bytes', hread', _, rfl⟩
      rw [hread'.unique hread]
      rfl
  · have hrun : parseOsiSelector text capacity [] =
        .error (.configurationException msg) ([] ++ storesFrom 0 bytes) := hrun
    rw [hrun]
    refine iff_of_false (by simp) ?_
    rintro ⟨bytes', hread', hfit', _⟩
    rcases hcause with hmany | ⟨token, hmem, hnone⟩
    · rw [hread'.length_eq] at hmany
      omega
    · rcases exists_of_forall₂ hread'.flip hmem with ⟨b, _, hb⟩
      exact hnone _ hb

/-- What the import does to one selector: it reads its text, if there is one. -/
def SelectorRead {capacity : Nat} (connOsiConfig : Json) (member : String)
    (old new : OsiSelector capacity) : Prop :=
  (connOsiConfig.member? member = none ∧ new = old) ∨
    ∃ text bytes, connOsiConfig.member? member = some (.string text) ∧
      TextBytes (Json.cString text) bytes ∧ bytes.length ≤ capacity ∧ new = old.written bytes

/-- One that is absent keeps its memory. -/
theorem SelectorRead.unread {capacity : Nat} {connOsiConfig : Json} {member : String}
    {old new : OsiSelector capacity} (h : SelectorRead connOsiConfig member old new)
    (hnone : connOsiConfig.member? member = none) : new = old := by
  rcases h with ⟨_, hold⟩ | ⟨text, _, hm, _⟩
  · exact hold
  · rw [hnone] at hm
    cases hm

/-- The step that is the same for all six. -/
def readSelector {capacity : Nat} (connOsiConfig : Json) (member badFormat : String)
    (selector : OsiSelector capacity) : Except ImportStop (OsiSelector capacity) :=
  optional connOsiConfig member Json.isString badFormat selector fun m => do
    parseOsiSelectorInto (← m.getString) selector

theorem readSelector_eq_ok {capacity : Nat} {connOsiConfig : Json} {member badFormat : String}
    {old new : OsiSelector capacity} (hobj : connOsiConfig.isObject = true) :
    readSelector connOsiConfig member badFormat old = .ok new ↔
      SelectorRead connOsiConfig member old new := by
  unfold readSelector SelectorRead
  rw [optional_eq_ok, and_iff_right hobj]
  refine or_congr_right ⟨?_, ?_⟩
  · rintro ⟨m, hm, _, h⟩
    rcases except_bind_eq_ok.mp h with ⟨s, hs, hparse⟩
    rcases getString_eq_ok.mp hs with ⟨text, rfl, rfl⟩
    rcases parseOsiSelectorInto_eq_ok.mp hparse with ⟨bytes, hbytes, hfit, hnew⟩
    exact ⟨text, bytes, hm, hbytes, hfit, hnew⟩
  · rintro ⟨text, bytes, hm, hbytes, hfit, hnew⟩
    have hparse := parseOsiSelectorInto_eq_ok.mpr ⟨bytes, hbytes, hfit, hnew⟩
    exact ⟨.string text, hm, rfl, except_bind_eq_ok.mpr ⟨_, rfl, hparse⟩⟩

/-! ## All of them -/

/-- An optional member that is one field of a record. -/
theorem optional_update {α β : Type} {v : Json} {name badFormat : String} {isType : Json → Bool}
    {read : Json → Except ImportStop β} (old : β) (put : β → α) :
    (optional v name isType badFormat (put old) fun m => do return put (← read m)) =
      optional v name isType badFormat old read >>= fun b => pure (put b) := by
  unfold optional
  rw [bind_assoc]
  refine congrArg _ (funext fun present => ?_)
  cases present with
  | false => rfl
  | true => simp only [if_true, bind_assoc]

theorem optional_selector {capacity : Nat} {connOsiConfig : Json} {member badFormat : String}
    (old : OsiSelector capacity) (put : OsiSelector capacity → OsiParameters) :
    (optional connOsiConfig member Json.isString badFormat (put old) fun m => do
      let sel ← parseOsiSelectorInto (← m.getString) old
      return put sel) =
    readSelector connOsiConfig member badFormat old >>= fun sel => pure (put sel) := by
  unfold readSelector
  rw [← optional_update]
  simp only [bind_assoc]

/-- Such a step, with all that follows it. -/
theorem optional_update_bind {α β γ : Type} {v : Json} {name badFormat : String}
    {isType : Json → Bool} {read : Json → Except ImportStop β} (old : β) (put : β → α)
    {f : α → Except ImportStop γ} {g : β → Except ImportStop γ} (hfg : ∀ b, f (put b) = g b) :
    (optional v name isType badFormat (put old) fun m => do return put (← read m)) >>= f =
      optional v name isType badFormat old read >>= g :=
  bind_eq_bind_of_put (optional_update old put) hfg

theorem optional_selector_bind {γ : Type} {capacity : Nat} {connOsiConfig : Json}
    {member badFormat : String} (old : OsiSelector capacity)
    (put : OsiSelector capacity → OsiParameters) {f : OsiParameters → Except ImportStop γ}
    {g : OsiSelector capacity → Except ImportStop γ} (hfg : ∀ sel, f (put sel) = g sel) :
    (optional connOsiConfig member Json.isString badFormat (put old) fun m => do
      let sel ← parseOsiSelectorInto (← m.getString) old
      return put sel) >>= f =
    readSelector connOsiConfig member badFormat old >>= g :=
  bind_eq_bind_of_put (optional_selector old put) hfg

theorem importJsonConnectionOsiSelectors_eq (connOsiConfig : Json) (osiParams : OsiParameters) :
    importJsonConnectionOsiSelectors connOsiConfig osiParams = (do
      let localPSelector ← readSelector connOsiConfig "local_psel"
        "bad format for 'local_psel'" osiParams.localPSelector
      let localSSelector ← readSelector connOsiConfig "local_ssel"
        "bad format for 'local_ssel'" osiParams.localSSelector
      let localTSelector ← readSelector connOsiConfig "local_tsel"
        "bad format for 'local_tsel'" osiParams.localTSelector
      let remotePSelector ← readSelector connOsiConfig "remote_psel"
        "bad format for 'remote_psel'" osiParams.remotePSelector
      let remoteSSelector ← readSelector connOsiConfig "remote_ssel"
        "bad format for 'remote_ssel'" osiParams.remoteSSelector
      let remoteTSelector ← readSelector connOsiConfig "remote_tsel"
        "bad format for 'remote_tsel'" osiParams.remoteTSelector
      return { osiParams with
        localPSelector := localPSelector
        localSSelector := localSSelector
        localTSelector := localTSelector
        remotePSelector := remotePSelector
        remoteSSelector := remoteSSelector
        remoteTSelector := remoteTSelector }) := by
  -- each step reads a field that no earlier step has changed
  unfold importJsonConnectionOsiSelectors
  refine optional_selector_bind osiParams.localPSelector
    (fun sel => { osiParams with localPSelector := sel }) fun localPSelector => ?_
  refine optional_selector_bind osiParams.localSSelector
    (fun sel => { osiParams with
      localPSelector := localPSelector
      localSSelector := sel }) fun localSSelector => ?_
  refine optional_selector_bind osiParams.localTSelector
    (fun sel => { osiParams with
      localPSelector := localPSelector
      localSSelector := localSSelector
      localTSelector := sel }) fun localTSelector => ?_
  refine optional_selector_bind osiParams.remotePSelector
    (fun sel => { osiParams with
      localPSelector := localPSelector
      localSSelector := localSSelector
      localTSelector := localTSelector
      remotePSelector := sel }) fun remotePSelector => ?_
  refine optional_selector_bind osiParams.remoteSSelector
    (fun sel => { osiParams with
      localPSelector := localPSelector
      localSSelector := localSSelector
      localTSelector := localTSelector
      remotePSelector := remotePSelector
      remoteSSelector := sel }) fun remoteSSelector => ?_
  exact optional_selector osiParams.remoteTSelector
    fun sel => { osiParams with
      localPSelector := localPSelector
      localSSelector := localSSelector
      localTSelector := localTSelector
      remotePSelector := remotePSelector
      remoteSSelector := remoteSSelector
      remoteTSelector := sel }

/-- The record with other selectors. -/
def OsiParameters.withSelectors (osiParams : OsiParameters)
    (selectors : (name : SelectorName) → OsiSelector name.capacity) : OsiParameters :=
  { osiParams with
    localPSelector := selectors .local_psel
    localSSelector := selectors .local_ssel
    localTSelector := selectors .local_tsel
    remotePSelector := selectors .remote_psel
    remoteSSelector := selectors .remote_ssel
    remoteTSelector := selectors .remote_tsel }

theorem OsiParameters.selector_withSelectors (osiParams : OsiParameters)
    (selectors : (name : SelectorName) → OsiSelector name.capacity) (name : SelectorName) :
    (osiParams.withSelectors selectors).selector name = selectors name := by
  cases name <;> rfl

/-- The import succeeds exactly when all six steps do, and changes nothing else. -/
theorem importJsonConnectionOsiSelectors_eq_ok {connOsiConfig : Json}
    {osiParams osiParams' : OsiParameters} (hobj : connOsiConfig.isObject = true) :
    importJsonConnectionOsiSelectors connOsiConfig osiParams = .ok osiParams' ↔
      ∃ selectors : (name : SelectorName) → OsiSelector name.capacity,
        (∀ name, SelectorRead connOsiConfig name.member (osiParams.selector name)
          (selectors name)) ∧ osiParams' = osiParams.withSelectors selectors := by
  rw [importJsonConnectionOsiSelectors_eq]
  simp only [except_bind_eq_ok, except_pure_eq_ok, readSelector_eq_ok hobj]
  constructor
  · rintro ⟨lp, hlp, ls, hls, lt, hlt, rp, hrp, rs, hrs, rt, hrt, rfl⟩
    let new : OsiParameters := { osiParams with
      localPSelector := lp, localSSelector := ls, localTSelector := lt
      remotePSelector := rp, remoteSSelector := rs, remoteTSelector := rt }
    refine ⟨new.selector, fun name => ?_, rfl⟩
    cases name with
    | local_psel => exact hlp
    | local_ssel => exact hls
    | local_tsel => exact hlt
    | remote_psel => exact hrp
    | remote_ssel => exact hrs
    | remote_tsel => exact hrt
  · rintro ⟨selectors, hread, rfl⟩
    exact ⟨_, hread .local_psel, _, hread .local_ssel, _, hread .local_tsel,
      _, hread .remote_psel, _, hread .remote_ssel, _, hread .remote_tsel, rfl⟩

/-! ## A connection with an `osi` section -/

/-- The members of the section besides the selectors. -/
structure OsiTitles where
  localAeQualifier : Int
  remoteAeQualifier : Int
  localApTitle : String
  remoteApTitle : String

def OsiParameters.withTitles (osiParams : OsiParameters) (titles : OsiTitles) : OsiParameters :=
  { osiParams with
    localAeQualifier := titles.localAeQualifier
    remoteAeQualifier := titles.remoteAeQualifier
    localApTitle := titles.localApTitle
    remoteApTitle := titles.remoteApTitle }

/-- The first half of `importJsonConnectionOsiConfig`. -/
def readTitles (connOsiConfig : Json) (osiParams : OsiParameters) :
    Except ImportStop OsiTitles := do
  let localAeQualifier ← optional connOsiConfig "local_ae_qualifier" Json.isInt
    "bad format for 'local_ae_qualifier'" osiParams.localAeQualifier Json.getInt
  let remoteAeQualifier ← optional connOsiConfig "remote_ae_qualifier" Json.isInt
    "bad format for 'remote_ae_qualifier'" osiParams.remoteAeQualifier Json.getInt
  let localApTitle ← optional connOsiConfig "local_ap_title" Json.isString
    "bad format for 'local_ap_title'" osiParams.localApTitle
    (readApTitle "'local_ap_title' is not valid")
  let remoteApTitle ← optional connOsiConfig "remote_ap_title" Json.isString
    "bad format for 'remote_ap_title'" osiParams.remoteApTitle
    (readApTitle "'remote_ap_title' is not valid")
  return ⟨localAeQualifier, remoteAeQualifier, localApTitle, remoteApTitle⟩

theorem importJsonConnectionOsiConfig_eq (connOsiConfig : Json)
    (iedConnectionParam : ServerConnectionParameters) :
    importJsonConnectionOsiConfig connOsiConfig iedConnectionParam = (do
      ensure connOsiConfig.isObject "'OSI' section is not valid"
      let titles ← readTitles connOsiConfig iedConnectionParam.osiParameters
      let osiParams ← importJsonConnectionOsiSelectors connOsiConfig
        (iedConnectionParam.osiParameters.withTitles titles)
      return { iedConnectionParam with
        osiParameters := osiParams
        isOsiParametersEnabled := true }) := by
  unfold importJsonConnectionOsiConfig readTitles
  refine congrArg _ (funext fun _ => ?_)
  dsimp only
  generalize iedConnectionParam.osiParameters = osiParams
  rw [bind_assoc]
  -- the four members are read one after the other, each into the object that the last one left
  refine optional_update_bind osiParams.localAeQualifier
    (fun n => { osiParams with localAeQualifier := n }) fun localAeQualifier => ?_
  rw [bind_assoc]
  refine optional_update_bind osiParams.remoteAeQualifier
    (fun n => { osiParams with
      localAeQualifier := localAeQualifier
      remoteAeQualifier := n }) fun remoteAeQualifier => ?_
  rw [bind_assoc]
  refine optional_update_bind osiParams.localApTitle
    (fun title => { osiParams with
      localAeQualifier := localAeQualifier
      remoteAeQualifier := remoteAeQualifier
      localApTitle := title }) fun localApTitle => ?_
  rw [bind_assoc]
  refine optional_update_bind osiParams.remoteApTitle
    (fun title => { osiParams with
      localAeQualifier := localAeQualifier
      remoteAeQualifier := remoteAeQualifier
      localApTitle := localApTitle
      remoteApTitle := title }) fun remoteApTitle => ?_
  rw [pure_bind]
  rfl

theorem importJsonConnectionOsiConfig_eq_ok {connOsiConfig : Json}
    {iedConnectionParam param : ServerConnectionParameters} :
    importJsonConnectionOsiConfig connOsiConfig iedConnectionParam = .ok param ↔
      connOsiConfig.isObject = true ∧
        ∃ (titles : OsiTitles) (selectors : (name : SelectorName) → OsiSelector name.capacity),
          readTitles connOsiConfig iedConnectionParam.osiParameters = .ok titles ∧
          (∀ name, SelectorRead connOsiConfig name.member
            (iedConnectionParam.osiParameters.selector name) (selectors name)) ∧
          param = { iedConnectionParam with
            osiParameters :=
              (iedConnectionParam.osiParameters.withTitles titles).withSelectors selectors
            isOsiParametersEnabled := true } := by
  rw [importJsonConnectionOsiConfig_eq]
  simp only [except_bind_eq_ok, except_pure_eq_ok, ensure_eq_ok]
  constructor
  · rintro ⟨_, hobj, titles, htitles, osiParams, hselectors, rfl⟩
    rcases (importJsonConnectionOsiSelectors_eq_ok hobj).mp hselectors with ⟨selectors, hread, rfl⟩
    refine ⟨hobj, titles, selectors, htitles, fun name => ?_, rfl⟩
    have hname := hread name
    cases name <;> exact hname
  · rintro ⟨hobj, titles, selectors, htitles, hread, rfl⟩
    refine ⟨(), hobj, titles, htitles, _,
      (importJsonConnectionOsiSelectors_eq_ok hobj).mpr ⟨selectors, fun name => ?_, rfl⟩, rfl⟩
    have hname := hread name
    cases name <;> exact hname

/-- The checks on a connection in front of its `osi` section. -/
def connectionHeader (connConfig : Json) : Except ImportStop (String × Int) := do
  ensure connConfig.isObject "'Connection' is not valid"
  let srvIp ← mandatory connConfig "srv_ip" Json.isString
    "the mandatory 'srv_ip' not found" "bad format for the mandatory 'srv_ip'"
  let port ← mandatory connConfig "port" Json.isInt
    "the mandatory 'port' not found" "bad format for the mandatory 'port'"
  let ipAddress ← srvIp.getString
  ensure (isValidIPAddress ipAddress) "not a valid IP address for the mandatory 'srv_ip'"
  let mmsPort ← port.getInt
  return (ipAddress, mmsPort)

/-- The local `iedConnectionParam` in front of the `osi` section. -/
def connectionStart (uninit : OsiParameters) (header : String × Int) : ServerConnectionParameters :=
  { ServerConnectionParameters.declared uninit with ipAddress := header.1, mmsPort := header.2 }

/-- Memory in which every selector has the given size. -/
def memoryOfSize (size : UInt8) : OsiParameters :=
  ⟨"", 0, "", 0, ⟨size, .replicate 4 0⟩, ⟨size, .replicate 4 0⟩, ⟨size, .replicate 16 0⟩,
    ⟨size, .replicate 16 0⟩, ⟨size, .replicate 16 0⟩, ⟨size, .replicate 16 0⟩⟩

theorem memoryOfSize_size (size : UInt8) (name : SelectorName) :
    ((memoryOfSize size).selector name).size = size := by
  cases name <;> rfl

theorem connectionOf_eq_ok {uninit : OsiParameters} {connConfig connOsiConfig : Json}
    {param : ServerConnectionParameters} (hosi : connConfig.member? "osi" = some connOsiConfig) :
    connectionOf uninit connConfig = .ok param ↔
      ∃ header, connectionHeader connConfig = .ok header ∧
        importJsonConnectionOsiConfig connOsiConfig (connectionStart uninit header) =
          .ok param := by
  have hmember : connConfig.hasMember "osi" = .ok true :=
    hasMember_eq_ok.mpr ⟨Json.isObject_of_member? hosi, by rw [hosi]; rfl⟩
  have hat : connConfig.at' "osi" = .ok connOsiConfig := at'_eq_ok.mpr hosi
  have heq : connectionOf uninit connConfig = connectionHeader connConfig >>= fun header =>
      importJsonConnectionOsiConfig connOsiConfig (connectionStart uninit header) := by
    simp only [connectionOf, connectionHeader, connectionStart, bind_assoc, pure_bind, hmember, hat]
    rfl
  rw [heq, except_bind_eq_ok]

/-- Without an `osi` section the parameters are the declared ones. -/
theorem connectionOf_eq_ok_of_none {uninit : OsiParameters} {connConfig : Json}
    {param : ServerConnectionParameters} (hosi : connConfig.member? "osi" = none) :
    connectionOf uninit connConfig = .ok param ↔
      ∃ header, connectionHeader connConfig = .ok header ∧
        param = connectionStart uninit header := by
  have heq : connectionOf uninit connConfig = connectionHeader connConfig >>= fun header => (do
      if ← connConfig.hasMember "osi" then
        importJsonConnectionOsiConfig (← connConfig.at' "osi") (connectionStart uninit header)
      else
        return connectionStart uninit header) := by
    simp only [connectionOf, connectionHeader, connectionStart, bind_assoc, pure_bind]
  rw [heq, except_bind_eq_ok]
  refine exists_congr fun header => and_congr_right fun hheader => ?_
  have hobj : connConfig.isObject = true := by
    rcases except_bind_eq_ok.mp hheader with ⟨_, hobj, _⟩
    exact ensure_eq_ok.mp hobj
  have hmember : connConfig.hasMember "osi" = .ok false :=
    hasMember_eq_ok.mpr ⟨hobj, by rw [hosi]; rfl⟩
  rw [hmember]
  exact except_pure_eq_ok.trans eq_comm

/-- An accepted connection: what is read does not depend on the memory, but what is
not read does. -/
theorem connectionOf_uninit {uninit : OsiParameters} {connConfig connOsiConfig : Json}
    {param : ServerConnectionParameters} (hosi : connConfig.member? "osi" = some connOsiConfig) :
    connectionOf uninit connConfig = .ok param ↔
      connOsiConfig.isObject = true ∧
        ∃ (header : String × Int) (titles : OsiTitles)
          (selectors : (name : SelectorName) → OsiSelector name.capacity),
          connectionHeader connConfig = .ok header ∧
          readTitles connOsiConfig (.declared (memoryOfSize 0)) = .ok titles ∧
          (∀ name, SelectorRead connOsiConfig name.member (uninit.selector name)
            (selectors name)) ∧
          param = { connectionStart uninit header with
            osiParameters :=
              ((OsiParameters.declared uninit).withTitles titles).withSelectors selectors
            isOsiParametersEnabled := true } := by
  simp only [connectionOf_eq_ok hosi, importJsonConnectionOsiConfig_eq_ok]
  -- the titles have initialisers, and the selectors are those of the memory
  have hselector : ∀ name, (OsiParameters.declared uninit).selector name = uninit.selector name := by
    intro name
    cases name <;> rfl
  constructor
  · rintro ⟨header, hheader, hobj, titles, selectors, htitles, hread, rfl⟩
    refine ⟨hobj, header, titles, selectors, hheader, htitles, fun name => ?_, rfl⟩
    rw [← hselector name]
    exact hread name
  · rintro ⟨hobj, header, titles, selectors, hheader, htitles, hread, rfl⟩
    refine ⟨header, hheader, hobj, titles, selectors, htitles, fun name => ?_, rfl⟩
    show SelectorRead _ _ ((OsiParameters.declared uninit).selector name) _
    rw [hselector name]
    exact hread name

/-- The selectors of an accepted connection. -/
theorem connectionOf_selectors {uninit : OsiParameters} {connConfig connOsiConfig : Json}
    {param : ServerConnectionParameters} (hosi : connConfig.member? "osi" = some connOsiConfig)
    (h : connectionOf uninit connConfig = .ok param) (name : SelectorName) :
    SelectorRead connOsiConfig name.member (uninit.selector name)
      (param.osiParameters.selector name) := by
  rcases (connectionOf_uninit hosi).mp h with
    ⟨_, header, titles, selectors, _, _, hread, rfl⟩
  show SelectorRead _ _ _ ((OsiParameters.withSelectors _ selectors).selector name)
  rw [OsiParameters.selector_withSelectors]
  exact hread name

/-- Whether a selector can be read does not depend on the memory it is read into. -/
theorem SelectorRead.exists {capacity : Nat} {connOsiConfig : Json} {member : String}
    {old new : OsiSelector capacity} (h : SelectorRead connOsiConfig member old new)
    (old' : OsiSelector capacity) : ∃ new', SelectorRead connOsiConfig member old' new' := by
  rcases h with ⟨hnone, _⟩ | ⟨text, bytes, hm, hbytes, hfit, _⟩
  · exact ⟨old', Or.inl ⟨hnone, rfl⟩⟩
  · exact ⟨old'.written bytes, Or.inr ⟨text, bytes, hm, hbytes, hfit, rfl⟩⟩

/-- Nor does the acceptance of a connection. -/
theorem connectionOf_accepted {uninit : OsiParameters} {connConfig : Json}
    {param : ServerConnectionParameters} (h : connectionOf uninit connConfig = .ok param)
    (uninit' : OsiParameters) : ∃ param', connectionOf uninit' connConfig = .ok param' := by
  cases hosi : connConfig.member? "osi" with
  | none =>
    rcases (connectionOf_eq_ok_of_none hosi).mp h with ⟨header, hheader, _⟩
    exact ⟨_, (connectionOf_eq_ok_of_none hosi).mpr ⟨header, hheader, rfl⟩⟩
  | some connOsiConfig =>
    rcases (connectionOf_uninit hosi).mp h with
      ⟨hobj, header, titles, selectors, hheader, htitles, hread, _⟩
    choose selectors' hread' using fun name => (hread name).exists (uninit'.selector name)
    exact ⟨_, (connectionOf_uninit hosi).mpr
      ⟨hobj, header, titles, selectors', hheader, htitles, hread', rfl⟩⟩

/-! ## What depends on the memory -/

/-- In two imports of the connection, with any contents of the memory that has no
initialiser, the selectors have the same sizes and bytes. One that is absent has
size zero, and none is larger than its array. -/
def SelectorsDetermined (connConfig connOsiConfig : Json) : Prop :=
  ∀ (uninit uninit' : OsiParameters) (param param' : ServerConnectionParameters),
    connectionOf uninit connConfig = .ok param →
    connectionOf uninit' connConfig = .ok param' →
    ∀ name : SelectorName,
      (param.osiParameters.selector name).size = (param'.osiParameters.selector name).size ∧
      (param.osiParameters.selector name).bytes = (param'.osiParameters.selector name).bytes ∧
      (connOsiConfig.member? name.member = none → (param.osiParameters.selector name).size = 0) ∧
      (param.osiParameters.selector name).size.toNat ≤ name.capacity

/-- A selector that is in the section holds the bytes of its text. -/
theorem SelectorRead.bytes {name : SelectorName} {connOsiConfig : Json}
    {old new : OsiSelector name.capacity} (h : SelectorRead connOsiConfig name.member old new)
    (hpresent : (connOsiConfig.member? name.member).isSome = true) :
    ∃ text bytes, connOsiConfig.member? name.member = some (.string text) ∧
      TextBytes (Json.cString text) bytes ∧ new.size = UInt8.ofNat bytes.length ∧
      new.size.toNat ≤ name.capacity ∧ new.bytes = bytes := by
  rcases h with ⟨hnone, _⟩ | ⟨text, bytes, hm, hbytes, hfit, rfl⟩
  · rw [hnone] at hpresent
    cases hpresent
  · rcases old.written_bytes hfit name.capacity_le with ⟨hsize, hvalue⟩
    exact ⟨text, bytes, hm, hbytes, rfl, by omega, hvalue⟩

/-- **The selectors depend on the configuration only** exactly when all six are
given. -/
theorem selectors_determined_iff {uninit : OsiParameters} {connConfig connOsiConfig : Json}
    {param : ServerConnectionParameters} (hosi : connConfig.member? "osi" = some connOsiConfig)
    (haccepted : connectionOf uninit connConfig = .ok param) :
    SelectorsDetermined connConfig connOsiConfig ↔
      ∀ name : SelectorName, (connOsiConfig.member? name.member).isSome = true := by
  constructor
  · intro hdetermined name
    by_contra habsent
    have hnone : connOsiConfig.member? name.member = none := by simpa using habsent
    -- an absent selector keeps whatever size its memory has
    rcases connectionOf_accepted haccepted (memoryOfSize 1) with ⟨param', hrun⟩
    have hzero := (hdetermined _ _ _ _ hrun hrun name).2.2.1 hnone
    rw [(connectionOf_selectors hosi hrun name).unread hnone, memoryOfSize_size] at hzero
    cases hzero
  · intro hall uninit uninit' param₁ param₂ hrun hrun' name
    rcases (connectionOf_selectors hosi hrun name).bytes (hall name) with
      ⟨text, bytes, hm, hbytes, hsize, hfit, hvalue⟩
    rcases (connectionOf_selectors hosi hrun' name).bytes (hall name) with
      ⟨text', bytes', hm', hbytes', hsize', _, hvalue'⟩
    rw [hm] at hm'
    cases hm'
    have heq : bytes' = bytes := hbytes'.unique hbytes
    refine ⟨?_, ?_, ?_, hfit⟩
    · rw [hsize, hsize', heq]
    · rw [hvalue, hvalue', heq]
    · intro hnone
      rw [hm] at hnone
      cases hnone

/-! ## A connection with all selectors, and one with none -/

def connectionWith (connOsiConfig : Json) : Json :=
  .object [("srv_ip", .string "192.168.0.10"), ("port", .integer 102), ("osi", connOsiConfig)]

/-- An `osi` section with all six selectors. -/
def sixSelectors (localTsel remoteTsel : String) : Json :=
  .object [("local_psel", .string "0x12,0x34"), ("local_ssel", .string "0, 1"),
    ("local_tsel", .string localTsel), ("remote_psel", .string "18 52 86"),
    ("remote_ssel", .string "0.1.2"), ("remote_tsel", .string remoteTsel)]

theorem member?_connectionWith (connOsiConfig : Json) :
    (connectionWith connOsiConfig).member? "osi" = some connOsiConfig := rfl

theorem exists_of_isSome {α : Type} {x : Except ImportStop α} (h : x.toOption.isSome = true) :
    ∃ a, x = .ok a := by
  cases x with
  | error e => cases h
  | ok a => exact ⟨a, rfl⟩

theorem sixSelectors_accepted :
    ∃ param, connectionOf (memoryOfSize 0) (connectionWith (sixSelectors "1-2-3-4" "7")) =
      .ok param :=
  exists_of_isSome (by decide +kernel)

theorem noSelectors_accepted :
    ∃ param, connectionOf (memoryOfSize 0) (connectionWith (.object [])) = .ok param :=
  exists_of_isSome (by decide +kernel)

theorem selectors_determined_iff_sample :
    SelectorsDetermined (connectionWith (sixSelectors "1-2-3-4" "7"))
        (sixSelectors "1-2-3-4" "7") ↔
      ∀ name : SelectorName,
        ((sixSelectors "1-2-3-4" "7").member? name.member).isSome = true := by
  rcases sixSelectors_accepted with ⟨param, haccepted⟩
  exact selectors_determined_iff (member?_connectionWith _) haccepted

/-- Without selectors in the section, their sizes are what is in memory: here 200, past
the end of every array. -/
theorem absent_selectors_keep_memory :
    (∃ param, connectionOf (memoryOfSize 200) (connectionWith (.object [])) = .ok param ∧
      ∀ name : SelectorName, (param.osiParameters.selector name).size = 200) ∧
    ¬ SelectorsDetermined (connectionWith (.object [])) (.object []) := by
  rcases noSelectors_accepted with ⟨param, haccepted⟩
  rcases connectionOf_accepted haccepted (memoryOfSize 200) with ⟨param', hrun⟩
  have hsize : ∀ name : SelectorName, (param'.osiParameters.selector name).size = 200 := by
    intro name
    rw [(connectionOf_selectors (member?_connectionWith _) hrun name).unread rfl, memoryOfSize_size]
  refine ⟨⟨param', hrun, hsize⟩, ?_⟩
  intro hdetermined
  have hfit := (hdetermined _ _ _ _ hrun hrun .local_psel).2.2.2
  rw [hsize] at hfit
  revert hfit
  decide

end Iec61850South
