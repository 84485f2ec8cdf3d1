import Iec61850South.Client.Cycle
import Iec61850South.Config.OsiImport

/-! # Opening a connection with OSI addresses

What `openConnection` hands to the stack before it connects, and how it is related
to the texts of the `osi` section that the connection was configured with.
-/

namespace Iec61850South

open Lib IEC61850ClientConnection

/-! ## The events of opening -/

/-- What `setOsiConnectionParameters` hands to the stack. -/
def osiEvents (osiParams : OsiParameters) : List Event :=
  (if osiParams.remoteApTitle ≠ "" then
    [.setRemoteApTitle osiParams.remoteApTitle osiParams.remoteAeQualifier] else []) ++
  (if osiParams.localApTitle ≠ "" then
    [.setLocalApTitle osiParams.localApTitle osiParams.localAeQualifier] else []) ++
  [.setRemoteAddresses osiParams.remotePSelector osiParams.remoteSSelector osiParams.localTSelector,
    .setLocalAddresses osiParams.localPSelector osiParams.localSSelector osiParams.remoteTSelector]

theorem setOsiConnectionParameters_run (osiParams : OsiParameters) (s : ClientState) :
    setOsiConnectionParameters osiParams s =
      .ok ⟨⟩ { s with events := s.events ++ osiEvents osiParams } := by
  unfold setOsiConnectionParameters osiEvents
  by_cases hremote : osiParams.remoteApTitle ≠ ""
  · by_cases hlocal : osiParams.localApTitle ≠ ""
    · simp [hremote, hlocal, emitEvent, run_bind]
    · simp [hremote, hlocal, emitEvent]
  · by_cases hlocal : osiParams.localApTitle ≠ ""
    · simp [hremote, hlocal, emitEvent]
    · simp [hremote, hlocal, emitEvent]

/-- What is handed to the stack before it connects. -/
def parameterEvents (connParam : ServerConnectionParameters) : List Event :=
  if connParam.isOsiParametersEnabled then osiEvents connParam.osiParameters else []

/-- The new connection object, after it has been opened. -/
def ClientState.opened (env : Environment) (connParam : ServerConnectionParameters)
    (s : ClientState) : ClientState :=
  ClientState.afterRequest (.connect connParam.ipAddress connParam.mmsPort) (env.connect s.calls)
    { s with m_connection := some {}, events := s.events ++ parameterEvents connParam }

theorem construct_run (env : Environment) (connParam : ServerConnectionParameters)
    (s : ClientState) : construct env connParam s = .ok ⟨⟩ (s.opened env connParam) := by
  unfold construct openConnection ClientState.opened parameterEvents
  rw [run_bind_ok (run_modify ..)]
  cases connParam.isOsiParametersEnabled with
  | false =>
    rw [if_neg (by simp), if_neg (by simp), List.append_nil]
    rfl
  | true =>
    rw [if_pos rfl, if_pos rfl, run_bind_ok (setOsiConnectionParameters_run ..)]
    rfl

theorem opened_events (env : Environment) (connParam : ServerConnectionParameters)
    (s : ClientState) : (s.opened env connParam).events =
      s.events ++ (parameterEvents connParam ++
        [.connect connParam.ipAddress connParam.mmsPort]) := by
  rw [← List.append_assoc]
  rfl

/-! ## Addresses in the events -/

/-- The bytes of a presentation, a session and a transport selector. -/
structure OsiAddress where
  psel : List UInt8
  ssel : List UInt8
  tsel : List UInt8
deriving DecidableEq

def Event.localAddress? : Event → Option OsiAddress
  | .setLocalAddresses psel ssel tsel => some ⟨psel.bytes, ssel.bytes, tsel.bytes⟩
  | _ => none

def Event.remoteAddress? : Event → Option OsiAddress
  | .setRemoteAddresses psel ssel tsel => some ⟨psel.bytes, ssel.bytes, tsel.bytes⟩
  | _ => none

def localAddresses (events : List Event) : List OsiAddress :=
  events.filterMap Event.localAddress?

def remoteAddresses (events : List Event) : List OsiAddress :=
  events.filterMap Event.remoteAddress?

/-- Each side is given once, with the transport selector of the other side. -/
theorem addresses_opened {connParam : ServerConnectionParameters}
    (hosi : connParam.isOsiParametersEnabled = true) (hostname : String) (tcpPort : Int) :
    localAddresses (parameterEvents connParam ++ [.connect hostname tcpPort]) =
        [⟨connParam.osiParameters.localPSelector.bytes,
          connParam.osiParameters.localSSelector.bytes,
          connParam.osiParameters.remoteTSelector.bytes⟩] ∧
      remoteAddresses (parameterEvents connParam ++ [.connect hostname tcpPort]) =
        [⟨connParam.osiParameters.remotePSelector.bytes,
          connParam.osiParameters.remoteSSelector.bytes,
          connParam.osiParameters.localTSelector.bytes⟩] := by
  rw [parameterEvents, if_pos hosi, osiEvents]
  -- the titles are no addresses
  by_cases hremote : connParam.osiParameters.remoteApTitle ≠ ""
  · by_cases hlocal : connParam.osiParameters.localApTitle ≠ ""
    · rw [if_pos hremote, if_pos hlocal]
      exact ⟨rfl, rfl⟩
    · rw [if_pos hremote, if_neg hlocal]
      exact ⟨rfl, rfl⟩
  · by_cases hlocal : connParam.osiParameters.localApTitle ≠ ""
    · rw [if_neg hremote, if_pos hlocal]
      exact ⟨rfl, rfl⟩
    · rw [if_neg hremote, if_neg hlocal]
      exact ⟨rfl, rfl⟩

/-! ## From the configuration to the stack -/

/-- The `osi` section gives these bytes under the name. -/
def WrittenUnder (connOsiConfig : Json) (name : SelectorName) (bytes : List UInt8) : Prop :=
  ∃ text, connOsiConfig.member? name.member = some (.string text) ∧
    TextBytes (Json.cString text) bytes

theorem WrittenUnder.unique {connOsiConfig : Json} {name : SelectorName} {bytes bytes' : List UInt8}
    (h : WrittenUnder connOsiConfig name bytes) (h' : WrittenUnder connOsiConfig name bytes') :
    bytes = bytes' := by
  rcases h with ⟨text, hm, hbytes⟩
  rcases h' with ⟨text', hm', hbytes'⟩
  rw [hm] at hm'
  cases hm'
  exact hbytes.unique hbytes'

/-- The local address is made of the bytes under the local names, and the remote
address of those under the remote names. -/
def AddressesOnTheirSide (connOsiConfig : Json) (events : List Event) : Prop :=
  ∃ bytes : SelectorName → List UInt8,
    (∀ name, WrittenUnder connOsiConfig name (bytes name)) ∧
    localAddresses events = [⟨bytes .local_psel, bytes .local_ssel, bytes .local_tsel⟩] ∧
    remoteAddresses events = [⟨bytes .remote_psel, bytes .remote_ssel, bytes .remote_tsel⟩]

/-- An accepted connection holds the bytes of each selector that is given. -/
theorem connectionOf_writtenUnder {uninit : OsiParameters} {connConfig connOsiConfig : Json}
    {param : ServerConnectionParameters} (hosi : connConfig.member? "osi" = some connOsiConfig)
    (h : connectionOf uninit connConfig = .ok param) {name : SelectorName}
    (hpresent : (connOsiConfig.member? name.member).isSome = true) :
    WrittenUnder connOsiConfig name (param.osiParameters.selector name).bytes := by
  rcases (connectionOf_selectors hosi h name).bytes hpresent with
    ⟨text, bytes, hm, hbytes, _, _, hvalue⟩
  rw [hvalue]
  exact ⟨text, hm, hbytes⟩

theorem connectionOf_osiEnabled {uninit : OsiParameters} {connConfig connOsiConfig : Json}
    {param : ServerConnectionParameters} (hosi : connConfig.member? "osi" = some connOsiConfig)
    (h : connectionOf uninit connConfig = .ok param) : param.isOsiParametersEnabled = true := by
  rcases (connectionOf_eq_ok hosi).mp h with ⟨header, _, hrun⟩
  rcases importJsonConnectionOsiConfig_eq_ok.mp hrun with ⟨_, titles, selectors, _, _, rfl⟩
  rfl

theorem importJsonConnectionConfig_eq_ok {uninit : OsiParameters} {connConfig : Json}
    {c c' : IEC61850ClientConfig} :
    importJsonConnectionConfig uninit connConfig c = .ok ⟨⟩ c' ↔
      ∃ param, connectionOf uninit connConfig = .ok param ∧
        c' = { c with serverConfigDict := c.serverConfigDict.insert (buildKey param) param } := by
  unfold importJsonConnectionConfig
  cases hparam : connectionOf uninit connConfig with
  | error e => simp [run_bind]
  | ok param =>
    rw [run_bind_ok (liftExcept_ok ..), run_modify]
    constructor
    · intro h
      cases h
      exact ⟨param, rfl, rfl⟩
    · rintro ⟨param', heq, rfl⟩
      cases heq
      rfl

/-- What opening a connection with these parameters hands to the stack. -/
theorem addressesOnTheirSide_opened_iff {connOsiConfig : Json} {param : ServerConnectionParameters}
    (henabled : param.isOsiParametersEnabled = true)
    (hwritten : ∀ name, WrittenUnder connOsiConfig name (param.osiParameters.selector name).bytes)
    (hostname : String) (tcpPort : Int) :
    AddressesOnTheirSide connOsiConfig (parameterEvents param ++ [.connect hostname tcpPort]) ↔
      ∃ bytes, WrittenUnder connOsiConfig .local_tsel bytes ∧
        WrittenUnder connOsiConfig .remote_tsel bytes := by
  rcases addresses_opened henabled hostname tcpPort with ⟨hlocal, hremote⟩
  unfold AddressesOnTheirSide
  rw [hlocal, hremote]
  constructor
  · rintro ⟨bytes, hbytes, hlocal, _⟩
    simp only [List.cons.injEq, OsiAddress.mk.injEq, and_true] at hlocal
    rcases hlocal with ⟨_, _, htsel⟩
    refine ⟨bytes .local_tsel, hbytes .local_tsel, ?_⟩
    rw [← htsel]
    exact hwritten .remote_tsel
  · rintro ⟨bytes, hlocal, hremote⟩
    refine ⟨fun name => (param.osiParameters.selector name).bytes, hwritten, ?_⟩
    -- the exchanged selectors have the same bytes
    have htsel : param.osiParameters.localTSelector.bytes =
        param.osiParameters.remoteTSelector.bytes :=
      ((hwritten .local_tsel).unique hlocal).trans (hremote.unique (hwritten .remote_tsel))
    constructor
    · show [(⟨_, _, param.osiParameters.remoteTSelector.bytes⟩ : OsiAddress)] =
        [⟨_, _, param.osiParameters.localTSelector.bytes⟩]
      rw [htsel]
      rfl
    · show [(⟨_, _, param.osiParameters.localTSelector.bytes⟩ : OsiAddress)] =
        [⟨_, _, param.osiParameters.remoteTSelector.bytes⟩]
      rw [htsel]
      rfl

/-- **OSI addresses reach the stack on their side** exactly when both transport
selectors have the same bytes. -/
theorem addresses_on_their_side_iff (uninit : OsiParameters) {connConfig connOsiConfig : Json}
    {c c' : IEC61850ClientConfig} (hosi : connConfig.member? "osi" = some connOsiConfig)
    (hall : ∀ name : SelectorName, (connOsiConfig.member? name.member).isSome = true)
    (haccepted : importJsonConnectionConfig uninit connConfig c = .ok ⟨⟩ c') :
    ∃ param, c'.serverConfigDict[buildKey param]? = some param ∧
      connectionOf uninit connConfig = .ok param ∧
      ∀ (env : Environment) (s : ClientState), ∃ s' events,
        construct env param s = .ok ⟨⟩ s' ∧ s'.events = s.events ++ events ∧
        (AddressesOnTheirSide connOsiConfig events ↔
          ∃ bytes, WrittenUnder connOsiConfig .local_tsel bytes ∧
            WrittenUnder connOsiConfig .remote_tsel bytes) := by
  rcases importJsonConnectionConfig_eq_ok.mp haccepted with ⟨param, hparam, rfl⟩
  refine ⟨param, by simp, hparam, ?_⟩
  intro env s
  refine ⟨_, _, construct_run env param s, opened_events env param s, ?_⟩
  exact addressesOnTheirSide_opened_iff (connectionOf_osiEnabled hosi hparam)
    (fun name => connectionOf_writtenUnder hosi hparam (hall name)) _ _

theorem sixSelectors_present (localTsel remoteTsel : String) (name : SelectorName) :
    ((sixSelectors localTsel remoteTsel).member? name.member).isSome = true := by
  cases name <;> rfl

theorem addresses_on_their_side_iff_sample :
    ∃ (c' : IEC61850ClientConfig) (param : ServerConnectionParameters),
      c'.serverConfigDict[buildKey param]? = some param ∧
      connectionOf (memoryOfSize 0) (connectionWith (sixSelectors "1-2-3-4" "7")) =
        .ok param ∧
      ∀ (env : Environment) (s : ClientState), ∃ s' events,
        construct env param s = .ok ⟨⟩ s' ∧ s'.events = s.events ++ events ∧
        (AddressesOnTheirSide (sixSelectors "1-2-3-4" "7") events ↔
          ∃ bytes, WrittenUnder (sixSelectors "1-2-3-4" "7") .local_tsel bytes ∧
            WrittenUnder (sixSelectors "1-2-3-4" "7") .remote_tsel bytes) := by
  rcases sixSelectors_accepted with ⟨param, hparam⟩
  exact ⟨_, addresses_on_their_side_iff (memoryOfSize 0) (c := {})
    (member?_connectionWith _) (sixSelectors_present _ _)
    (importJsonConnectionConfig_eq_ok.mpr ⟨param, hparam, rfl⟩)⟩

/-- A local transport selector of four bytes, and a remote one of one byte: they
end up on the wrong sides. -/
theorem transport_selectors_are_crossed :
    ∃ param, connectionOf (memoryOfSize 0) (connectionWith (sixSelectors "1-2-3-4" "7")) =
        .ok param ∧
      ∃ s', construct smallIed param (newClient []) = .ok ⟨⟩ s' ∧
        ¬ AddressesOnTheirSide (sixSelectors "1-2-3-4" "7") s'.events := by
  rcases sixSelectors_accepted with ⟨param, hparam⟩
  have hosi := member?_connectionWith (sixSelectors "1-2-3-4" "7")
  refine ⟨param, hparam, _, construct_run smallIed param (newClient []), ?_⟩
  rw [opened_events]
  show ¬ AddressesOnTheirSide _ (parameterEvents param ++ [.connect _ _])
  rw [addressesOnTheirSide_opened_iff (connectionOf_osiEnabled hosi hparam) fun name =>
    connectionOf_writtenUnder hosi hparam (sixSelectors_present _ _ name)]
  rintro ⟨bytes, ⟨text, hm, hbytes⟩, ⟨text', hm', hbytes'⟩⟩
  have htext : text = "1-2-3-4" := by
    cases hm
    rfl
  have htext' : text' = "7" := by
    cases hm'
    rfl
  rw [htext] at hbytes
  rw [htext'] at hbytes'
  -- one list of bytes would have two lengths
  have hfour : (tokens (Json.cString "1-2-3-4").toList).length = 4 := by decide +kernel
  have hone : (tokens (Json.cString "7").toList).length = 1 := by decide +kernel
  have hlength := hbytes.length_eq
  have hlength' := hbytes'.length_eq
  omega

end Iec61850South
