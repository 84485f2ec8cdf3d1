import Iec61850South.Client.Freshness
import Iec61850South.Config.Memory

/-! # Numbers on their way from the document to their use

An `int` of the document stays an `int` down to the stack, but the reading period
becomes an `unsigned int`, and only 0 is replaced. `numbers_as_written_iff` says for
which documents the client uses what is written.
-/

namespace Iec61850South

open Lib Std IEC61850ClientConnection

/-! ## The reading loop with its sleep -/

/-- The local of `readMmsLoop`: a period of 0 is forced to 1 second. -/
def pollingPeriodInMs (applicationParams : ApplicationParameters) : UInt32 :=
  if applicationParams.readPollingPeriodInMs = 0 then 1000
  else applicationParams.readPollingPeriodInMs

section Loop

variable (plat : Platform) (setup : ClientSetup) (env : Environment) (fuel rounds : Nat)

/-- The loop of `readMmsLoop`, when `m_isMmsReadingActivated` is found set `n` times. The
result is how long it sleeps each time; `std::chrono::milliseconds` holds every `unsigned int`. -/
def pollAndSleep (pollingPeriodInMs : UInt32) : Nat → ClientM (List Nat)
  | 0 => pure []
  | n + 1 => do
    pollCycle plat setup env fuel rounds
    let timespan := pollingPeriodInMs.toNat
    let later ← pollAndSleep pollingPeriodInMs n
    return timespan :: later

def readMmsLoop (n : Nat) : ClientM (List Nat) :=
  pollAndSleep plat setup env fuel rounds (pollingPeriodInMs setup.applicationParams) n

variable {plat setup env fuel rounds}

/-- Every sleep takes the same time. -/
theorem pollAndSleep_eq_ok {pollingPeriodInMs : UInt32} {n : Nat} {s s' : ClientState}
    {sleeps : List Nat}
    (h : pollAndSleep plat setup env fuel rounds pollingPeriodInMs n s = .ok sleeps s') :
    ∀ timespan ∈ sleeps, timespan = pollingPeriodInMs.toNat := by
  induction n generalizing s sleeps with
  | zero =>
    cases h
    intro timespan hmem
    cases hmem
  | succ n ih =>
    rw [pollAndSleep] at h
    rcases run_bind_eq_ok.mp h with ⟨_, s₁, _, h⟩
    rcases run_bind_eq_ok.mp h with ⟨later, s₂, hlater, h⟩
    cases h
    intro timespan hmem
    rcases List.mem_cons.mp hmem with heq | hmem
    · exact heq
    · exact ih hlater timespan hmem

theorem readMmsLoop_eq_ok {n : Nat} {s s' : ClientState} {sleeps : List Nat}
    (h : readMmsLoop plat setup env fuel rounds n s = .ok sleeps s') :
    ∀ timespan ∈ sleeps, timespan = (pollingPeriodInMs setup.applicationParams).toNat :=
  pollAndSleep_eq_ok h

end Loop

/-! ## What the events of a client have in common -/

def EventsAre (Q : Event → Prop) (s : ClientState) : Prop :=
  ∀ event ∈ s.events, Q event

section Events

variable {plat : Platform} {setup : ClientSetup} {env : Environment} {Q : Event → Prop}

theorem EventsAre.append {s s' : ClientState} {events : List Event} (h : EventsAre Q s)
    (hevents : s'.events = s.events ++ events) (hQ : ∀ event ∈ events, Q event) :
    EventsAre Q s' := by
  unfold EventsAre
  rw [hevents]
  exact List.forall_mem_append.mpr ⟨h, hQ⟩

theorem eventsAre_steady (huse : ∀ event : Event, event.isUse = true → Q event) :
    Steady env fun s => HasConnection s ∧ EventsAre Q s where
  connection _ ht := ht.1
  event _ event hevent ht := ⟨ht.1, ht.2.append rfl (by simpa using huse event hevent)⟩
  calls _ ht := ht
  answered _ event error hevent _ ht :=
    ⟨ht.1.answered event error, ht.2.append rfl (by simpa using huse event hevent)⟩

theorem EventsAre.destroyConnection_run (hclose : Q .close) {s : ClientState}
    (hs : EventsAre Q s) : ∃ s', destroyConnection s = .ok ⟨⟩ s' ∧ EventsAre Q s' := by
  rcases destroyConnection_cases s with ⟨_, hrun⟩ | ⟨_, hrun⟩
  · exact ⟨s, hrun, hs⟩
  · exact ⟨_, hrun, hs.append rfl (by simpa using hclose)⟩

/-- What is handed to the stack when a connection is opened. -/
def openingEvents (connParam : ServerConnectionParameters) : List Event :=
  parameterEvents connParam ++ [.connect connParam.ipAddress connParam.mmsPort]

theorem EventsAre.createConnection_run
    (hopen : ∀ event ∈ openingEvents setup.connectionParam, Q event) {s : ClientState}
    (hs : EventsAre Q s) :
    ∃ s', createConnection setup env s = .ok ⟨⟩ s' ∧ HasConnection s' ∧ EventsAre Q s' := by
  rcases createConnection_cases setup env s with ⟨hconn, hrun⟩ | ⟨_, hrun⟩
  · exact ⟨s, hrun, hconn, hs⟩
  · exact ⟨s.opened env setup.connectionParam, hrun.trans (construct_run ..), rfl,
      hs.append (opened_events ..) hopen⟩

theorem EventsAre.initializeConnection_keeps
    (huse : ∀ event : Event, event.isUse = true → Q event) (hclose : Q .close)
    (hopen : ∀ event ∈ openingEvents setup.connectionParam, Q event) {fuel rounds : Nat}
    {s : ClientState} (h : 0 < rounds ∨ HasConnection s) (hs : EventsAre Q s) :
    EventsAre Q (finalState (initializeConnection plat setup env fuel rounds s)) := by
  have hP : Steady env fun s => HasConnection s ∧ EventsAre Q s := eventsAre_steady huse
  have htree := hP.keeps_buildNameTree (G := fun _ => True) trivial fuel
  have hbuilt := hP.keeps_buildConfigurationNameTrees htree
    (fun _ _ ht => ht) (fun _ _ ht => ht) plat setup
  have hkeeps := hP.initializeConnection_keeps
    (fun _ ht => ht.destroyConnection_run hclose)
    (fun _ ht => ht.createConnection_run hopen) trivial hbuilt rounds s h hs
  exact hkeeps.1.2

/-- A property of all uses, of `close` and of the opening with the configured
parameters is one of all events in the life of a client. -/
theorem ClientLife.eventsAre (huse : ∀ event : Event, event.isUse = true → Q event)
    (hclose : Q .close) (hopen : ∀ event ∈ openingEvents setup.connectionParam, Q event)
    {s : ClientState} (h : ClientLife plat setup env s) : EventsAre Q s := by
  induction h with
  | constructed exchangedData =>
    intro event hmem
    cases hmem
  | @initialized fuel rounds s s' _ hrun ih =>
    -- without a round left the run does not return
    cases rounds with
    | zero => cases hrun
    | succ rounds =>
      have hfinal : EventsAre Q
          (finalState (initializeConnection plat setup env fuel (rounds + 1) s)) :=
        ih.initializeConnection_keeps huse hclose hopen (Or.inl (Nat.succ_pos rounds))
      rwa [hrun] at hfinal
  | @cycle fuel rounds s s' _ hrun ih =>
    by_cases hconn : HasConnection s
    · have hP : Steady env fun s => HasConnection s ∧ EventsAre Q s := eventsAre_steady huse
      have hfinal : EventsAre Q (finalState (pollCycle plat setup env fuel rounds s)) := by
        cases hup : env.getState s.calls with
        | true => exact (hP.cycle_up ⟨hconn, ih⟩ hup).2
        | false =>
          rw [finalState_pollCycle, cycle_down hconn hup]
          have hafter := hP.afterGetState ⟨hconn, ih⟩
          exact hafter.2.initializeConnection_keeps huse hclose hopen (Or.inr hafter.1)
      rwa [hrun] at hfinal
    · -- the first statement of a cycle uses the connection
      have hnone : s.m_connection = none := by simpa [HasConnection] using hconn
      rw [pollCycle, readAndExportMms, run_bind_error (deref_run_none hnone)] at hrun
      cases hrun
  | @destroyed s s' _ hrun ih =>
    rcases ih.destroyConnection_run hclose with ⟨t, hclosed, ht⟩
    rw [hclosed] at hrun
    cases hrun
    exact ht

end Events

/-! ## What is written -/

/-- The values of the type `int`. -/
def FitsInt (n : Int) : Prop :=
  -2147483648 ≤ n ∧ n ≤ 2147483647

theorem isInt_integer {n : Int} : (Json.integer n).isInt = true ↔ FitsInt n :=
  decide_eq_true_iff

/-- The numbers in the event are those of the connection, and none is too wide. -/
def Event.AsWritten (connConfig : Json) : Event → Prop
  | .connect hostname tcpPort => entryAddress connConfig = some (hostname, tcpPort) ∧ FitsInt tcpPort
  | .setLocalApTitle _ aeQualifier =>
    aeQualifier = (intMember (osiSection connConfig) "local_ae_qualifier").getD 0 ∧
      FitsInt aeQualifier
  | .setRemoteApTitle _ aeQualifier =>
    aeQualifier = (intMember (osiSection connConfig) "remote_ae_qualifier").getD 0 ∧
      FitsInt aeQualifier
  | _ => True

theorem asWritten_of_isUse {connConfig : Json} {event : Event} (h : event.isUse = true) :
    event.AsWritten connConfig := by
  cases event <;> trivial

theorem optional_fits {v : Json} {name badFormat : String} {old n : Int} (hold : FitsInt old)
    (h : optional v name Json.isInt badFormat old Json.getInt = .ok n) : FitsInt n := by
  rcases optional_eq_ok.mp h with ⟨_, ⟨_, rfl⟩ | ⟨m, _, hint, hread⟩⟩
  · exact hold
  · rcases getInt_eq_ok.mp hread with ⟨rfl, _⟩
    exact isInt_integer.mp hint

theorem connectionHeader_fits {connConfig : Json} {header : String × Int}
    (h : connectionHeader connConfig = .ok header) : FitsInt header.2 := by
  simp only [connectionHeader, except_bind_eq_ok, getInt_eq_ok, except_pure_eq_ok] at h
  obtain ⟨_, _, _, _, _, _, _, _, _, _, port, ⟨rfl, hint⟩, rfl⟩ := h
  exact isInt_integer.mp hint

theorem fitsInt_zero : FitsInt 0 := by
  unfold FitsInt
  omega

/-- The numbers of an accepted connection are of the type `int`. -/
theorem connectionOf_fits {uninit : OsiParameters} {connConfig : Json}
    {param : ServerConnectionParameters} (h : connectionOf uninit connConfig = .ok param) :
    FitsInt param.mmsPort ∧ FitsInt param.osiParameters.localAeQualifier ∧
      FitsInt param.osiParameters.remoteAeQualifier := by
  cases hosi : connConfig.member? "osi" with
  | none =>
    rcases (connectionOf_eq_ok_of_none hosi).mp h with ⟨header, hheader, rfl⟩
    exact ⟨connectionHeader_fits hheader, fitsInt_zero, fitsInt_zero⟩
  | some connOsiConfig =>
    rcases (connectionOf_eq_ok hosi).mp h with ⟨header, hheader, himport⟩
    rcases importJsonConnectionOsiConfig_eq_ok.mp himport with ⟨_, titles, _, htitles, _, rfl⟩
    simp only [readTitles, except_bind_eq_ok, except_pure_eq_ok] at htitles
    rcases htitles with ⟨lq, hlq, rq, hrq, _, _, _, _, rfl⟩
    exact ⟨connectionHeader_fits hheader, optional_fits fitsInt_zero hlq,
      optional_fits fitsInt_zero hrq⟩

theorem openingEvents_asWritten {plat : Platform} {connConfig : Json}
    {param : ServerConnectionParameters} (h : ConnectionRead plat connConfig param) :
    ∀ event ∈ openingEvents param, event.AsWritten connConfig := by
  rcases h with ⟨n, hdecode⟩
  rcases connectionOf_stored hdecode with ⟨hstored, _⟩
  rcases connectionOf_fits hdecode with ⟨hport, hlocal, hremote⟩
  intro event hmem
  rcases List.mem_append.mp hmem with hmem | hmem
  · unfold parameterEvents at hmem
    split at hmem
    · simp only [osiEvents, List.mem_append, List.mem_cons, List.not_mem_nil, or_false] at hmem
      rcases hmem with (hmem | hmem) | rfl | rfl
      · split at hmem
        · obtain rfl := List.mem_singleton.mp hmem
          exact ⟨hstored.osi.remoteAeQualifier, hremote⟩
        · cases hmem
      · split at hmem
        · obtain rfl := List.mem_singleton.mp hmem
          exact ⟨hstored.osi.localAeQualifier, hlocal⟩
        · cases hmem
      · trivial
      · trivial
    · cases hmem
  · obtain rfl := List.mem_singleton.mp hmem
    exact ⟨hstored.address, hport⟩

/-! ## The reading period -/

section Period

variable (plat : Platform) (newConfig : ConfigCategory)

/-- The `reading_period` of the document. -/
def writtenPeriod : Option Int :=
  match documentValue plat newConfig "protocol_stack"
      ["protocol_stack", "application_layer", "reading_period"] with
  | some (.integer n) => some n
  | _ => none

/-- The time between two cycles that the document asks for, when it is imported into an
object with these parameters: 1 second if it gives none to a fresh object. -/
inductive PeriodAsked (old : ApplicationParameters) : Int → Prop
  | written {n : Int} : writtenPeriod plat newConfig = some n → n ≠ 0 → PeriodAsked old n
  | zero : writtenPeriod plat newConfig = some 0 → PeriodAsked old 1000
  | absent : writtenPeriod plat newConfig = none → old = {} → PeriodAsked old 1000

variable {plat newConfig}

theorem readingPeriod_eq :
    readingPeriod plat newConfig = (writtenPeriod plat newConfig).map toUnsigned := by
  unfold readingPeriod writtenPeriod
  cases documentValue plat newConfig "protocol_stack"
      ["protocol_stack", "application_layer", "reading_period"] with
  | none => rfl
  | some m => cases m <;> rfl

/-- The import has tested the type of the period. -/
theorem Accepted.writtenPeriod_fits (h : Accepted plat newConfig) {n : Int}
    (hn : writtenPeriod plat newConfig = some n) : FitsInt n := by
  have hgo := accepted_iff.mp h
  rw [configAssignments, Emission.seq_stop_eq_none, Emission.seq_stop_eq_none] at hgo
  have hvalid : ProtocolStackValid plat newConfig := protocolStack_go_iff.mp hgo.2.1
  unfold writtenPeriod at hn
  split at hn
  · next m hm =>
    cases hn
    exact isInt_integer.mp (hvalid.readingPeriod _ hm)
  · cases hn

/-- The period that an accepted document leaves in the parameters. -/
theorem Accepted.readPollingPeriodInMs_eq (h : Accepted plat newConfig)
    (c : IEC61850ClientConfig) :
    (assignAll c (configAssignments plat newConfig).out).applicationParams.readPollingPeriodInMs =
      ((writtenPeriod plat newConfig).map toUnsigned).getD
        c.applicationParams.readPollingPeriodInMs := by
  rw [assignAll_readPollingPeriodInMs, h.readPollingPeriod, readingPeriod_eq]
  cases writtenPeriod plat newConfig <;> rfl

theorem toUnsigned_toNat {n : Int} (h : FitsInt n) :
    ((toUnsigned n).toNat : Int) = if 0 ≤ n then n else n + 4294967296 := by
  rcases h with ⟨hlow, hhigh⟩
  have hlt : (n % 4294967296).toNat < UInt32.size := by
    have hsize : UInt32.size = 4294967296 := rfl
    omega
  rw [toUnsigned, UInt32.toNat_ofNat_of_lt' hlt]
  split <;> omega

/-- The sleep that a written period leads to. -/
theorem pollingPeriodInMs_toUnsigned {applicationParams : ApplicationParameters} {n : Int}
    (hn : FitsInt n) (hperiod : applicationParams.readPollingPeriodInMs = toUnsigned n) :
    ((pollingPeriodInMs applicationParams).toNat : Int) =
      if n = 0 then 1000 else if 0 ≤ n then n else n + 4294967296 := by
  have hvalue := toUnsigned_toNat hn
  rcases hn with ⟨hlow, hhigh⟩
  have hzero : toUnsigned n = 0 ↔ n = 0 := by
    rw [← UInt32.toNat_inj, UInt32.toNat_zero]
    constructor
    · intro h
      rw [h] at hvalue
      split at hvalue <;> omega
    · intro h
      rw [h] at hvalue ⊢
      simpa using hvalue
  unfold pollingPeriodInMs
  rw [hperiod]
  by_cases h : n = 0
  · rw [if_pos (hzero.mpr h), if_pos h]
    rfl
  · rw [if_neg (mt hzero.mp h), if_neg h]
    exact hvalue

/-- A period that is not negative is slept for, whatever has been asked. -/
theorem Accepted.pollingPeriodInMs_asked (h : Accepted plat newConfig) (c : IEC61850ClientConfig)
    (hnonneg : ∀ n, writtenPeriod plat newConfig = some n → 0 ≤ n) {period : Int}
    (hasked : PeriodAsked plat newConfig c.applicationParams period) :
    ((pollingPeriodInMs
      (assignAll c (configAssignments plat newConfig).out).applicationParams).toNat : Int) =
        period := by
  have hperiod := h.readPollingPeriodInMs_eq c
  cases hasked with
  | written hn hne =>
    rw [hn] at hperiod
    rw [pollingPeriodInMs_toUnsigned (h.writtenPeriod_fits hn) hperiod, if_neg hne,
      if_pos (hnonneg _ hn)]
  | zero hn =>
    rw [hn] at hperiod
    rw [pollingPeriodInMs_toUnsigned (h.writtenPeriod_fits hn) hperiod, if_pos rfl]
  | absent hnone hold =>
    rw [hnone, hold] at hperiod
    have hdefault : pollingPeriodInMs
        (assignAll c (configAssignments plat newConfig).out).applicationParams = 1000 := by
      unfold pollingPeriodInMs
      rw [hperiod]
      rfl
    rw [hdefault]
    rfl

/-- A negative period is slept for modulo `2 ^ 32`. -/
theorem Accepted.pollingPeriodInMs_negative (h : Accepted plat newConfig)
    (c : IEC61850ClientConfig) {n : Int} (hn : writtenPeriod plat newConfig = some n)
    (hneg : n < 0) :
    ((pollingPeriodInMs
      (assignAll c (configAssignments plat newConfig).out).applicationParams).toNat : Int) =
        n + 4294967296 := by
  have hperiod := h.readPollingPeriodInMs_eq c
  rw [hn] at hperiod
  rw [pollingPeriodInMs_toUnsigned (h.writtenPeriod_fits hn) hperiod, if_neg (by omega),
    if_neg (by omega)]

end Period

/-! ## The clients of an accepted configuration -/

/-- What is stored under a key is decoded from the last entry of the array with this key. -/
theorem Accepted.connectionRead_last {plat : Platform} {newConfig : ConfigCategory}
    (h : Accepted plat newConfig) {c : IEC61850ClientConfig} {key : String}
    {param : ServerConnectionParameters} {connConfig : Json}
    (hlast : IsLastWith entryKey key (connectionEntries plat newConfig) connConfig)
    (hstored : (assignAll c (configAssignments plat newConfig).out).serverConfigDict[key]? =
      some param) : ConnectionRead plat connConfig param := by
  rcases h.lastServer_of_entry hlast with ⟨param', hvalue, hread⟩
  rw [assignAll_serverConfigDict, getElem?_insertAll, hvalue] at hstored
  rwa [← Option.some.inj hstored]

/-- A client for the connection that is stored under the key. -/
structure ClientOf (c : IEC61850ClientConfig) (key : String) (setup : ClientSetup) : Prop where
  connection : c.serverConfigDict[key]? = some setup.connectionParam
  applicationParams : setup.applicationParams = c.applicationParams

/-- Whatever the stack answers in the life of the client: it is given the numbers of the
entry that the connection comes from, and the client sleeps for the time asked for. -/
structure NumbersAsWritten (plat : Platform) (newConfig : ConfigCategory)
    (old : ApplicationParameters) (key : String) (setup : ClientSetup) : Prop where
  openings : ∀ connConfig, IsLastWith entryKey key (connectionEntries plat newConfig) connConfig →
    ∀ env s, ClientLife plat setup env s → ∀ event ∈ s.events, event.AsWritten connConfig
  sleeps : ∀ env s, ClientLife plat setup env s → ∀ fuel rounds n sleeps s',
    readMmsLoop plat setup env fuel rounds n s = .ok sleeps s' →
      ∀ period, PeriodAsked plat newConfig old period →
        ∀ timespan ∈ sleeps, (timespan : Int) = period

/-- The stack is given the numbers of the entry, whatever the reading period is. -/
theorem Accepted.openings_asWritten {plat : Platform} {newConfig : ConfigCategory}
    (h : Accepted plat newConfig) {c : IEC61850ClientConfig} {key : String} {setup : ClientSetup}
    (hclient : ClientOf (assignAll c (configAssignments plat newConfig).out) key setup)
    {connConfig : Json}
    (hlast : IsLastWith entryKey key (connectionEntries plat newConfig) connConfig)
    {env : Environment} {s : ClientState} (hlife : ClientLife plat setup env s) :
    EventsAre (Event.AsWritten connConfig) s := by
  have hdecode : ConnectionRead plat connConfig setup.connectionParam :=
    h.connectionRead_last hlast hclient.connection
  refine hlife.eventsAre ?_ trivial (openingEvents_asWritten hdecode)
  intro event huse
  exact asWritten_of_isUse huse

/-! ## A client that sleeps -/

/-- A server that is never reached, and a stop order that ends each attempt. -/
def unreachableIed : Environment where
  getState _ := false
  connect _ := 1
  readObject _ _ _ := (none, 1)
  readDataSetValues _ _ := (none, 1)
  getDataDirectoryByFC _ _ _ := (none, 1)
  getDataSetDirectory _ _ := (none, 1)
  stopOrder _ := true

section Sleeping

variable (plat : Platform) (setup : ClientSetup)

theorem initializeConnection_unreachable (fuel rounds : Nat) (s : ClientState) :
    ∃ s', initializeConnection plat setup unreachableIed fuel (rounds + 1) s = .ok ⟨⟩ s' ∧
      HasConnection s' := by
  rcases destroyConnection_closes s with ⟨s₁, hdestroy, hnone⟩
  rcases createConnection_opens setup unreachableIed hnone with ⟨s₂, _, hcreate, hconn, _⟩
  rcases deref_run_of_isSome hconn with ⟨connection, hderef⟩
  refine ⟨{ s₂.afterGetState unreachableIed with calls := s₂.calls + 2 }, ?_, hconn⟩
  rw [initializeConnection, run_bind_ok hdestroy, run_bind_ok hcreate, run_bind_ok hderef,
    run_bind_ok (isConnected_run unreachableIed s₂)]
  rfl

/-- Each client has a life in which it sleeps. -/
theorem exists_sleep : ∃ s s', ClientLife plat setup unreachableIed s ∧
    readMmsLoop plat setup unreachableIed 0 1 1 s =
      .ok [(pollingPeriodInMs setup.applicationParams).toNat] s' := by
  rcases initializeConnection_unreachable plat setup 0 0 (newClient []) with ⟨s, hlaunch, hconn⟩
  rcases initializeConnection_unreachable plat setup 0 0 (s.afterGetState unreachableIed) with
    ⟨s', hagain, _⟩
  refine ⟨s, s', .initialized (.constructed []) hlaunch, ?_⟩
  have hcycle : pollCycle plat setup unreachableIed 0 1 s = .ok ⟨⟩ s' := by
    rw [pollCycle, cycle_down hconn rfl, hagain]
  rw [readMmsLoop, pollAndSleep, run_bind_ok hcycle]
  rfl

end Sleeping

/-- **Numbers are used as they are written** by every client of an accepted
configuration, exactly when its reading period is not negative. -/
theorem numbers_as_written_iff {plat : Platform} {newConfig : ConfigCategory}
    {c₀ c : IEC61850ClientConfig} (h : importConfig plat newConfig c₀ = .ok ⟨⟩ c) {key : String}
    {setup : ClientSetup} (hclient : ClientOf c key setup) :
    NumbersAsWritten plat newConfig c₀.applicationParams key setup ↔
      ∀ n, writtenPeriod plat newConfig = some n → 0 ≤ n := by
  rcases importConfig_eq_ok h with ⟨haccepted, rfl⟩
  constructor
  · intro hwritten n hn
    by_contra hneg
    rcases exists_sleep plat setup with ⟨s, s', hlife, hrun⟩
    have hsleep := hwritten.sleeps unreachableIed s hlife 0 1 1 _ s' hrun n
      (.written hn (by omega)) _ List.mem_cons_self
    rw [hclient.applicationParams, haccepted.pollingPeriodInMs_negative c₀ hn (by omega)] at hsleep
    omega
  · intro hnonneg
    constructor
    case openings =>
      intro connConfig hlast env s hlife
      exact haccepted.openings_asWritten hclient hlast hlife
    case sleeps =>
      intro env s _ fuel rounds n sleeps s' hrun period hasked timespan hmem
      rw [readMmsLoop_eq_ok hrun timespan hmem, hclient.applicationParams]
      exact haccepted.pollingPeriodInMs_asked c₀ hnonneg hasked

/-! ## A configuration with a reading period -/

/-- One connection, with a title on both sides, and a reading period. -/
def periodPlatform (period : Int) : Platform :=
  .withDocuments
    [("stack", .object [("protocol_stack", .object
      [("transport_layer", .object [("ied_name", .string "IED1"), ("connections", .array
        [connection 102 [("osi", .object
          [("local_ap_title", .string "1,3.9999"), ("local_ae_qualifier", .integer 12),
            ("remote_ap_title", .string "1,3.9998"), ("remote_ae_qualifier", .integer (-1))])]])]),
        ("application_layer", .object [("reading_period", .integer period)])])])]

def periodConfig : ConfigCategory :=
  ⟨[("protocol_stack", "stack")]⟩

/-- What the import leaves in a fresh object. -/
def periodImported (period : Int) : IEC61850ClientConfig :=
  finalState (importConfig (periodPlatform period) periodConfig {})

def periodSetup (period : Int) : ClientSetup where
  connectionParam :=
    ((periodImported period).serverConfigDict["192.168.0.10_102"]?).getD
      (.declared ((periodPlatform period).uninit 0))
  applicationParams := (periodImported period).applicationParams
  selectedDOInExchangedDatasets := ∅
  hasReceiver := true

theorem periodSetup_clientOf {period : Int}
    (h : (periodImported period).serverConfigDict["192.168.0.10_102"]?.isSome = true) :
    ClientOf (periodImported period) "192.168.0.10_102" (periodSetup period) := by
  rcases Option.isSome_iff_exists.mp h with ⟨param, hparam⟩
  refine ⟨?_, rfl⟩
  rw [periodSetup, hparam]
  rfl

theorem numbers_as_written_iff_sample :
    NumbersAsWritten (periodPlatform 500) periodConfig {} "192.168.0.10_102" (periodSetup 500) ↔
      ∀ n, writtenPeriod (periodPlatform 500) periodConfig = some n → 0 ≤ n := by
  have haccepted : importConfig (periodPlatform 500) periodConfig {} =
      .ok ⟨⟩ (periodImported 500) := eq_ok_of_returned (by decide +kernel)
  exact numbers_as_written_iff haccepted (periodSetup_clientOf (by decide +kernel))

/-- A period of -1 is accepted, and the client sleeps for more than 49 days. -/
theorem negative_period_is_wrapped :
    importConfig (periodPlatform (-1)) periodConfig {} = .ok ⟨⟩ (periodImported (-1)) ∧
      ClientOf (periodImported (-1)) "192.168.0.10_102" (periodSetup (-1)) ∧
      (pollingPeriodInMs (periodSetup (-1)).applicationParams).toNat = 4294967295 ∧
      ¬ NumbersAsWritten (periodPlatform (-1)) periodConfig {} "192.168.0.10_102"
        (periodSetup (-1)) := by
  have hslept : (pollingPeriodInMs (periodSetup (-1)).applicationParams).toNat = 4294967295 := by
    decide +kernel
  refine ⟨eq_ok_of_returned (by decide +kernel), periodSetup_clientOf (by decide +kernel), hslept, ?_⟩
  intro hwritten
  rcases exists_sleep (periodPlatform (-1)) (periodSetup (-1)) with ⟨s, s', hlife, hrun⟩
  have hsleep := hwritten.sleeps unreachableIed s hlife 0 1 1 _ s' hrun (-1)
    (.written rfl (by decide)) _ List.mem_cons_self
  rw [hslept] at hsleep
  omega

end Iec61850South
