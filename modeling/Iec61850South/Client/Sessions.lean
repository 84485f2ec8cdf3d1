import Iec61850South.Client.Numbers
import Iec61850South.Lib.Hoare

/-! # The sessions of a client

What a client does with its connection, seen from outside, is one session after the
other: the connection is opened with the configured parameters, then names are asked
for, then what is configured is read, and each reading that is sent to Fledge
directly follows the request that it comes from. No request is made without a test
of the connection right in front of it.
-/

namespace Iec61850South

open Lib IEC61850ClientConnection

/-! ## Traces -/

/-- How far a session is. -/
inductive Phase where
  | closed
  /-- since the connection has been opened -/
  | building
  /-- since something has been read -/
  | reading
deriving DecidableEq

/-- A DO as it is configured, without the name tree that the IED has answered. -/
def DatapointConfig.configured (dpConfig : DatapointConfig) : DatapointConfig :=
  { dpConfig with mmsNameTree := none }

/-- A Datapoint is handed over under its name. -/
def Event.sending (datapoint : Datapoint) : Event :=
  .ingest datapoint.getName datapoint

section Traces

variable (plat : Platform) (setup : ClientSetup) (env : Environment) (polled : ExchangedData)

/-- A request for names. -/
inductive Exploration : Event → Prop
  | dataDirectory (path : String) (functionalConstraint : FunctionalConstraint) :
      Exploration (.getDataDirectoryByFC path functionalConstraint)
  | dataSetDirectory {datasetRef : String} :
      datasetRef ∈ setup.selectedDOInExchangedDatasets →
      Exploration (.getDataSetDirectory datasetRef)

/-- A request for values, after question `n` has found the connection up, with the readings
that come from its answer and are sent before anything else happens. -/
inductive Exchange (n : Nat) : List Event → Prop
  | readDO {dpConfig : DatapointConfig} {sent : List Datapoint} :
      setup.applicationParams.readMode = .DO_READING → dpConfig.configured ∈ polled →
      sent = (doEmission plat setup env n dpConfig).out → sent.length ≤ 1 →
      Exchange n (.readObject dpConfig.dataPath dpConfig.functionalConstraint ::
        sent.map Event.sending)
  | readDataset {it : String × ExchangedData} {sent : List Datapoint} :
      setup.applicationParams.readMode = .DATASET_READING →
      it.1 ∈ setup.selectedDOInExchangedDatasets →
      sent = (datasetEmission plat setup env n it).out →
      Exchange n (.readDataSetValues it.1 :: sent.map Event.sending)

/-- One session after the other, with the number of questions that have been answered. -/
inductive Sessions : Phase → Nat → List Event → Prop
  | start : Sessions .closed 0 []
  | opened {n : Nat} {events : List Event} : Sessions .closed n events →
      Sessions .building (n + 1) (events ++ openingEvents setup.connectionParam)
  | asked {phase : Phase} {n : Nat} {events : List Event} : phase ≠ .closed →
      Sessions phase n events → Sessions phase (n + 1) (events ++ [.getState (env.getState n)])
  | explored {n : Nat} {events : List Event} {request : Event} : Sessions .building n events →
      env.getState n = true → Exploration setup request →
      Sessions .building (n + 2) (events ++ [.getState true, request])
  | exchanged {phase : Phase} {n : Nat} {events exchange : List Event} : phase ≠ .closed →
      Sessions phase n events → env.getState n = true →
      Exchange plat setup env polled n exchange →
      Sessions .reading (n + 2) (events ++ .getState true :: exchange)
  /-- The last request has failed, and nothing is read. -/
  | refused {phase : Phase} {n : Nat} {events : List Event} {error : IedClientError} :
      phase ≠ .closed → Sessions phase n events → env.getState n = true → error ≠ IED_ERROR_OK →
      Sessions .reading (n + 1) (events ++ [.getState true, .logError error])
  /-- Has the order to stop been given? -/
  | stopAsked {phase : Phase} {n : Nat} {events : List Event} : Sessions phase n events →
      Sessions phase (n + 1) events
  | closed {phase : Phase} {n : Nat} {events : List Event} : phase ≠ .closed →
      Sessions phase n events → Sessions .closed n (events ++ [.close])

end Traces

/-! ## What holds between the statements -/

section States

variable (plat : Platform) (setup : ClientSetup) (env : Environment) (polled : ExchangedData)

/-- The client polls nothing but what is configured. -/
structure PollsConfigured (s : ClientState) : Prop where
  exchangedData : s.m_localExchangedData.map DatapointConfig.configured = polled
  exchangedDatasets : ∀ datasetRef ∈ s.m_localExchangedDatasets,
    datasetRef ∈ setup.selectedDOInExchangedDatasets

/-- The trace so far is one of sessions, and stands in this phase. -/
structure InPhase (phase : Phase) (s : ClientState) : Prop where
  polls : PollsConfigured setup polled s
  connection : s.m_connection.isSome = true ↔ phase ≠ .closed
  sessions : Sessions plat setup env polled phase s.calls s.events

/-- The connection has just been found up. -/
structure JustAsked (phase : Phase) (s : ClientState) : Prop where
  polls : PollsConfigured setup polled s
  connection : s.m_connection.isSome = true
  sessions : ∃ n before, s.calls = n + 1 ∧ s.events = before ++ [.getState true] ∧
    env.getState n = true ∧ phase ≠ .closed ∧ Sessions plat setup env polled phase n before

/-- Between two calls. -/
def InSession (s : ClientState) : Prop :=
  ∃ phase, InPhase plat setup env polled phase s

end States

section Steps

variable {plat : Platform} {setup : ClientSetup} {env : Environment} {polled : ExchangedData}
  {phase : Phase} {s : ClientState}

/-- A connection that has just been tested is in the same phase. -/
theorem JustAsked.inPhase (h : JustAsked plat setup env polled phase s) :
    InPhase plat setup env polled phase s := by
  rcases h.sessions with ⟨n, before, hcalls, hevents, hup, hphase, hsessions⟩
  refine ⟨h.polls, ⟨fun _ => hphase, fun _ => h.connection⟩, ?_⟩
  have hasked := Sessions.asked hphase hsessions
  rw [hup] at hasked
  rw [hcalls, hevents]
  exact hasked

/-- An error that is caught leaves the session in some phase. -/
abbrev Interrupted (plat : Platform) (setup : ClientSetup) (env : Environment)
    (polled : ExchangedData) (e : Abort) (s : ClientState) : Prop :=
  e.isCaught = true → InSession plat setup env polled s

/-! ### Statements of the connection -/

/-- `m_connection->` asks nothing. -/
theorem deref_inPhase {P : ClientState → Prop} :
    Hoare P deref (fun _ s => P s ∧ s.m_connection.isSome = true)
      (Interrupted plat setup env polled) := by
  intro s hs
  cases hconn : s.m_connection with
  | none =>
    rw [deref_run_none hconn]
    refine ⟨fun _ _ heq => (by cases heq), ?_⟩
    intro e s' heq hcaught
    cases heq
    cases hcaught
  | some connection =>
    rw [deref_run hconn]
    refine ⟨?_, fun _ _ heq => (by cases heq)⟩
    intro a s' heq
    cases heq
    exact ⟨hs, by rw [hconn]; rfl⟩

/-- A question that is no request leaves the phase. -/
theorem ask_inPhase {α : Type} (answer : Nat → α) :
    Hoare (InPhase plat setup env polled phase) (ask answer)
      (fun _ => InPhase plat setup env polled phase) (Interrupted plat setup env polled) :=
  .of_ok fun _ hs => ⟨_, _, rfl, ⟨hs.polls.1, hs.polls.2⟩, hs.connection, hs.sessions.stopAsked⟩

/-- The test of the connection, after which a request may follow. -/
theorem isConnected_inPhase (hphase : phase ≠ .closed) :
    Hoare (InPhase plat setup env polled phase) (isConnected env)
      (fun connected s => if connected then JustAsked plat setup env polled phase s
        else InPhase plat setup env polled phase s) (Interrupted plat setup env polled) := by
  refine .of_ok fun s hs => ⟨_, _, isConnected_run env s, ?_⟩
  have hpolls : PollsConfigured setup polled (s.afterGetState env) := ⟨hs.polls.1, hs.polls.2⟩
  cases hup : env.getState s.calls with
  | true =>
    refine ⟨hpolls, hs.connection.mpr hphase, s.calls, s.events, rfl, ?_, hup, hphase, hs.sessions⟩
    rw [ClientState.afterGetState, hup]
  | false => exact ⟨hpolls, hs.connection, .asked hphase hs.sessions⟩

/-- A request leaves the DOs that are polled. -/
theorem afterRequest_polls (h : PollsConfigured setup polled s) (event : Event)
    (error : IedClientError) : PollsConfigured setup polled (s.afterRequest event error) :=
  ⟨h.1, h.2⟩

/-- A request for names. -/
theorem request_explores {α : Type} {event : Event} {answer : Nat → α × IedClientError}
    (hevent : Exploration setup event) :
    Hoare (JustAsked plat setup env polled .building) (request event answer)
      (fun _ => InPhase plat setup env polled .building) (Interrupted plat setup env polled) := by
  refine .of_ok fun s hs => ⟨_, _, request_run event answer s, afterRequest_polls hs.polls _ _, ?_, ?_⟩
  · rw [isSome_afterRequest]
    exact ⟨fun _ => (by decide), fun _ => hs.connection⟩
  · rcases hs.sessions with ⟨n, before, hcalls, hevents, hup, _, hsessions⟩
    show Sessions plat setup env polled .building (s.calls + 1) (s.events ++ [event])
    rw [hcalls, hevents, List.append_assoc]
    exact .explored hsessions hup hevent

/-- A computation that may throw, and does nothing else. -/
theorem liftExcept_inSession {α : Type} {P : ClientState → Prop}
    (hP : ∀ s, P s → InSession plat setup env polled s) (x : Except Abort α) :
    Hoare P (liftExcept x) (fun _ => P) (Interrupted plat setup env polled) := by
  cases x with
  | ok a => exact .of_ok fun s hs => ⟨a, s, rfl, hs⟩
  | error e => exact .throw fun s hs _ => hP s hs

/-! ### Building the name trees -/

/-- Being in some phase. -/
theorem InPhase.inSession (h : InPhase plat setup env polled phase s) :
    InSession plat setup env polled s :=
  ⟨phase, h⟩

/-- By induction on the depth: the requests of directories belong to the building. -/
theorem buildNameTree_building (fuel : Nat) (pathInDatamodel : String)
    (functionalConstraint : FunctionalConstraint) (nameTree : MmsNameNode) :
    Hoare (InPhase plat setup env polled .building)
      (buildNameTree env fuel pathInDatamodel functionalConstraint nameTree)
      (fun _ => InPhase plat setup env polled .building) (Interrupted plat setup env polled) := by
  induction fuel generalizing pathInDatamodel nameTree with
  | zero =>
    refine .throw fun _ _ hcaught => ?_
    cases hcaught
  | succ fuel ih =>
    refine .bind (isConnected_inPhase (by decide)) fun connected => ?_
    cases connected with
    | false => exact .pure fun _ hs => hs
    | true =>
      refine .bind (request_explores (.dataDirectory pathInDatamodel functionalConstraint))
        fun names => ?_
      cases names with
      | none => exact .pure fun _ hs => hs
      | some dataAttributes =>
        refine .foldlM nameTree fun nameTree daName => ?_
        exact .bind (ih _ _) fun _ => .pure fun _ hs => hs

/-- The directory of a selected dataset belongs to the building. -/
theorem getDoPathListWithFCFromDataset_building {datasetRef : String}
    (href : datasetRef ∈ setup.selectedDOInExchangedDatasets) :
    Hoare (InPhase plat setup env polled .building) (getDoPathListWithFCFromDataset env datasetRef)
      (fun _ => InPhase plat setup env polled .building) (Interrupted plat setup env polled) := by
  refine .bind (isConnected_inPhase (by decide)) fun connected => ?_
  cases connected with
  | false => exact .pure fun _ hs => hs
  | true =>
    refine .bind (request_explores (.dataSetDirectory href)) fun names => ?_
    exact .pure fun _ hs => hs

/-- `m_connection->` before anything. -/
theorem deref_then {α : Type} {x : ClientM α} {P : ClientState → Prop} {Q : α → ClientState → Prop}
    (hx : Hoare P x Q (Interrupted plat setup env polled)) :
    Hoare P (do let _ ← deref; x) Q (Interrupted plat setup env polled) :=
  .bind deref_inPhase fun _ => hx.weaken fun _ hs => hs.1

/-- The tree is all that changes. -/
theorem buildDatapointNameTree_building (fuel : Nat) (dpConfig : DatapointConfig) :
    Hoare (InPhase plat setup env polled .building) (buildDatapointNameTree env fuel dpConfig)
      (fun built s => dpConfig.configured = built.configured ∧ InPhase plat setup env polled .building s)
      (Interrupted plat setup env polled) :=
  deref_then (.bind (buildNameTree_building fuel _ _ _) fun _ => .pure fun _ hs => ⟨rfl, hs⟩)

/-- The name tree of one member belongs to the building. -/
theorem buildMember_building (fuel : Nat) (selection : ExchangedData) (doPathWithFC : String) :
    Hoare (InPhase plat setup env polled .building) (buildMember plat env fuel selection doPathWithFC)
      (fun _ => InPhase plat setup env polled .building) (Interrupted plat setup env polled) := by
  refine .bind (liftExcept_inSession (fun _ hs => hs.inSession) _) fun parts => ?_
  exact deref_then (.bind (buildNameTree_building fuel _ _ _) fun _ => .pure fun _ hs => hs)

/-- So does a selected dataset. -/
theorem buildDataset_building (fuel : Nat) {datasetRef : String} (selection : ExchangedData)
    (href : datasetRef ∈ setup.selectedDOInExchangedDatasets) :
    Hoare (InPhase plat setup env polled .building) (buildDataset plat env fuel datasetRef selection)
      (fun _ => InPhase plat setup env polled .building) (Interrupted plat setup env polled) := by
  refine deref_then (.bind (getDoPathListWithFCFromDataset_building href) fun doPathListWithFC => ?_)
  refine .bind (.mapM (buildMember_building fuel selection)) fun exchangedDataset => ?_
  refine .modify fun s hs => ⟨⟨hs.polls.exchangedData, ?_⟩, hs.connection, hs.sessions⟩
  intro datasetRef' hmem
  rcases Std.ExtTreeMap.mem_insert.mp hmem with heq | hmem
  · rw [← Std.LawfulEqCmp.eq_of_compare heq]
    exact href
  · exact hs.polls.exchangedDatasets datasetRef' hmem

/-- The local configuration stays the one of the constructor, apart from the trees. -/
theorem buildConfigurationNameTrees_building (fuel : Nat) :
    Hoare (InPhase plat setup env polled .building) (buildConfigurationNameTrees plat setup env fuel)
      (fun _ => InPhase plat setup env polled .building) (Interrupted plat setup env polled) := by
  refine .bind (R := fun t s => t.m_localExchangedData.map DatapointConfig.configured = polled ∧
    InPhase plat setup env polled .building s) (.get fun s hs => ⟨hs.polls.exchangedData, hs⟩) fun t => ?_
  refine .fact fun ht => ?_
  refine .bind (.mapM_forall₂ (buildDatapointNameTree_building fuel) _) fun exchangedData => ?_
  refine .fact fun hbuilt => ?_
  have hsame : exchangedData.map DatapointConfig.configured = polled := by
    have hmapped := List.forall₂_map_left_iff.mpr (List.forall₂_map_right_iff.mpr hbuilt)
    rw [List.forall₂_eq_eq_eq] at hmapped
    rw [← hmapped, ht]
  refine .bind (R := fun _ => InPhase plat setup env polled .building) ?_ fun _ => ?_
  · exact .modify fun s hs => ⟨⟨hsame, hs.polls.exchangedDatasets⟩, hs.connection, hs.sessions⟩
  · refine .forM fun selectionEntry hmem => buildDataset_building fuel selectionEntry.2 ?_
    exact Std.ExtTreeMap.mem_iff_isSome_getElem?.mpr
      (by rw [Std.ExtTreeMap.mem_toList_iff_getElem?_eq_some.mp hmem]; rfl)

/-! ### Opening and closing -/

/-- The destruction closes the session, in whatever phase. -/
theorem destroyConnection_inSession :
    Hoare (InSession plat setup env polled) destroyConnection
      (fun _ => InPhase plat setup env polled .closed) (Interrupted plat setup env polled) := by
  refine .of_ok ?_
  rintro s ⟨phase, hs⟩
  rcases destroyConnection_cases s with ⟨hnone, hrun⟩ | ⟨hconn, hrun⟩
  · refine ⟨_, s, hrun, ?_⟩
    cases phase with
    | closed => exact hs
    | _ =>
      have hsome : s.m_connection.isSome = true := hs.connection.mpr (by decide)
      rw [hnone] at hsome
      cases hsome
  · refine ⟨_, _, hrun, ⟨hs.polls.1, hs.polls.2⟩, by simp, ?_⟩
    exact .closed (hs.connection.mp hconn) hs.sessions

/-- The creation opens the next one, as configured. -/
theorem createConnection_inPhase :
    Hoare (InPhase plat setup env polled .closed) (createConnection setup env)
      (fun _ => InPhase plat setup env polled .building) (Interrupted plat setup env polled) := by
  refine .of_ok fun s hs => ?_
  rcases createConnection_cases setup env s with ⟨hconn, _⟩ | ⟨_, hrun⟩
  · exact absurd rfl (hs.connection.mp hconn)
  · refine ⟨_, _, hrun.trans (construct_run env setup.connectionParam s), ⟨hs.polls.1, hs.polls.2⟩,
      ⟨fun _ => (by decide), fun _ => rfl⟩, ?_⟩
    rw [opened_events]
    exact .opened hs.sessions

/-- By induction on the rounds: each round closes what is open and opens the next session.
-/
theorem initializeConnection_inSession (fuel rounds : Nat) :
    Hoare (InSession plat setup env polled) (initializeConnection plat setup env fuel rounds)
      (fun _ => InSession plat setup env polled) (Interrupted plat setup env polled) := by
  induction rounds with
  | zero =>
    refine .throw fun _ _ hcaught => ?_
    cases hcaught
  | succ rounds ih =>
    refine .bind destroyConnection_inSession fun _ => .bind createConnection_inPhase fun _ => ?_
    have hloop : Hoare (InPhase plat setup env polled .building) (do
          if ! (← ask env.stopOrder) then
            let _ ← deref
            if ! (← isConnected env) then
              initializeConnection plat setup env fuel rounds)
        (fun _ => InSession plat setup env polled) (Interrupted plat setup env polled) := by
      refine .bind (ask_inPhase _) fun stopped => ?_
      cases stopped with
      | true => exact .pure fun _ hs => hs.inSession
      | false =>
        refine deref_then (.bind (isConnected_inPhase (by decide)) fun connected => ?_)
        cases connected with
        | true => exact .pure fun _ hs => hs.inPhase.inSession
        | false => exact ih.weaken fun _ hs => hs.inSession
    refine deref_then (.bind (isConnected_inPhase (by decide)) fun connected => ?_)
    cases connected with
    | true =>
      refine .bind ((buildConfigurationNameTrees_building fuel).weaken fun _ hs => hs.inPhase) ?_
      exact fun _ => hloop
    | false => exact hloop

/-! ### Reading -/

/-- Without a connection, `m_connection->` is a fault and nothing follows. -/
theorem deref_open : Hoare (InPhase plat setup env polled phase) deref
    (fun _ s => phase ≠ .closed ∧ InPhase plat setup env polled phase s)
    (Interrupted plat setup env polled) :=
  deref_inPhase.post fun _ _ hs => ⟨hs.1.connection.mp hs.2, hs.1⟩

/-- A Datapoint has been handed over. -/
def ClientState.send (s : ClientState) (datapoint : Datapoint) : ClientState :=
  { s with events := s.events ++ [Event.sending datapoint] }

/-- What is sent is added to the trace, in order. -/
theorem foldl_send (sent : List Datapoint) (s : ClientState) :
    sent.foldl ClientState.send s = { s with events := s.events ++ sent.map Event.sending } := by
  induction sent generalizing s with
  | nil => simp
  | cons datapoint sent ih =>
    rw [List.foldl_cons, ih, ClientState.send, List.map_cons, List.append_assoc]
    rfl

/-- Nothing but what is sent shows in the state. -/
def sendEffect : Effect ClientState Datapoint := .ofWrite ClientState.send

/-- Sending, as an emission of the trace. -/
theorem sendData_sends (datapoint : Option Datapoint) (s : ClientState) :
    Emits sendEffect (fun _ => True) (sendData setup datapoint) s (sends setup datapoint) := by
  unfold sendData sends
  cases datapoint with
  | none =>
    refine ⟨s, ?_, rfl, fun _ => trivial⟩
    cases setup.hasReceiver <;> rfl
  | some datapoint =>
    cases setup.hasReceiver with
    | false => exact Emits.pure trivial
    | true => exact ⟨s.send datapoint, rfl, rfl, fun _ => trivial⟩

variable (plat setup) in
/-- The conversion and the sending of its result. -/
theorem convertAndSend_sends (mmsValue : Option MmsValue) (dpConfig : DatapointConfig)
    (s : ClientState) :
    Emits sendEffect (fun _ => True)
      (liftExcept (convertMmsToDatapoint plat mmsValue dpConfig) >>= sendData setup) s
      (.after (convertMmsToDatapoint plat mmsValue dpConfig) (sends setup)) :=
  Emits.after fun datapoint _ => sendData_sends datapoint s

/-- The same for one member of a dataset. -/
theorem exportMember_sends (member : Option MmsValue × DatapointConfig) (s : ClientState) :
    Emits sendEffect (fun _ => True) (exportMember plat setup member) s
      (memberEmission plat setup member) := by
  unfold exportMember memberEmission
  split
  · exact convertAndSend_sends plat setup _ _ s
  · exact Emits.pure trivial

variable (plat setup) in
/-- The members of a dataset that has been read. -/
theorem exportMembers_sends (values : MmsValue) (exchangedDataset : ExchangedData)
    (s : ClientState) :
    Emits sendEffect (fun _ => True) (do
        let elements ← liftExcept (datasetElements (some values) exchangedDataset.length)
        forM (elements.zip exchangedDataset) (exportMember plat setup)) s
      (membersEmission plat setup values exchangedDataset) :=
  Emits.after fun _ _ => Emits.forM_map _ _ (fun member s _ => exportMember_sends member s) trivial

/-- At most one reading is sent for a DO. -/
theorem doEmission_length (n : Nat) (dpConfig : DatapointConfig) :
    (doEmission plat setup env n dpConfig).out.length ≤ 1 := by
  rw [doEmission]
  cases env.getState n with
  | false => exact Nat.zero_le 1
  | true =>
    rw [if_pos rfl]
    cases convertMmsToDatapoint plat
        (env.readObject (n + 1) dpConfig.dataPath dpConfig.functionalConstraint).1 dpConfig with
    | error e => exact Nat.zero_le 1
    | ok datapoint =>
      rw [Emission.after_ok, sends]
      cases setup.hasReceiver with
      | false => exact Nat.zero_le 1
      | true => cases datapoint <;> simp

/-- A request that has been answered, and what has been sent since. -/
theorem InPhase.exchanged (h : InPhase plat setup env polled phase s) (hphase : phase ≠ .closed)
    (hup : env.getState s.calls = true) {event : Event} {error : IedClientError}
    {sent : List Datapoint}
    (hexchange : Exchange plat setup env polled s.calls (event :: sent.map Event.sending)) :
    InPhase plat setup env polled .reading
      (sent.foldl ClientState.send ((s.afterGetState env).afterRequest event error)) := by
  rw [foldl_send]
  refine ⟨⟨h.polls.1, h.polls.2⟩, ⟨fun _ => (by decide), fun _ => ?_⟩, ?_⟩
  · show ((s.afterGetState env).afterRequest event error).m_connection.isSome = true
    rw [isSome_afterRequest]
    exact h.connection.mpr hphase
  · have hexchanged := Sessions.exchanged hphase h.sessions hup hexchange
    show Sessions plat setup env polled .reading (s.calls + 2)
      (s.events ++ [.getState (env.getState s.calls)] ++ [event] ++ sent.map Event.sending)
    rw [hup, List.append_assoc, List.append_assoc]
    exact hexchanged

/-- A computation that has come to the end of a session's exchange, or has thrown there. -/
theorem inSession_of_result {x : ClientM PUnit} {E : Emission Datapoint Abort} {s' : ClientState}
    (hrun : x s = E.result s') (hs' : InSession plat setup env polled s') :
    (∀ a t, x s = .ok a t → InSession plat setup env polled t) ∧
      ∀ e t, x s = .error e t → Interrupted plat setup env polled e t := by
  rw [hrun]
  cases hstop : E.stop with
  | none =>
    rw [Emission.result_of_go hstop]
    refine ⟨?_, fun e t heq => (by cases heq)⟩
    intro a t heq
    cases heq
    exact hs'
  | some e =>
    rw [Emission.result_of_stop hstop]
    refine ⟨fun a t heq => (by cases heq), ?_⟩
    intro e' t heq _
    cases heq
    exact hs'

/-- The reading of a polled DO is one exchange. -/
theorem readAndExportDO_inSession (hmode : setup.applicationParams.readMode = .DO_READING)
    (dpConfig : DatapointConfig) (hpolled : dpConfig.configured ∈ polled) :
    Hoare (InSession plat setup env polled) (readAndExportDO plat setup env dpConfig)
      (fun _ => InSession plat setup env polled) (Interrupted plat setup env polled) := by
  refine .exists fun phase => .bind deref_open fun _ => .fact fun hphase s hs => ?_
  cases hup : env.getState s.calls with
  | false =>
    -- nothing is read, and nothing is sent
    rw [run_bind_ok (readDO_run_lost hup ..)]
    have hasked : InPhase plat setup env polled phase (s.afterGetState env) :=
      ⟨⟨hs.polls.1, hs.polls.2⟩, hs.connection, .asked hphase hs.sessions⟩
    exact inSession_of_result (E := .done) rfl hasked.inSession
  | true =>
    rw [run_bind_ok (readDO_run hup ..)]
    rcases convertAndSend_sends plat setup
        (env.readObject (s.calls + 1) dpConfig.dataPath dpConfig.functionalConstraint).1 dpConfig
        ((s.afterGetState env).afterRequest
          (.readObject dpConfig.dataPath dpConfig.functionalConstraint)
          (env.readObject (s.calls + 1) dpConfig.dataPath dpConfig.functionalConstraint).2) with
      ⟨s', hsent, hrun, _⟩
    refine inSession_of_result hrun ?_
    have hemission : doEmission plat setup env s.calls dpConfig = .after (convertMmsToDatapoint plat
        (env.readObject (s.calls + 1) dpConfig.dataPath dpConfig.functionalConstraint).1 dpConfig)
        (sends setup) := by
      rw [doEmission, hup, if_pos rfl]
    rw [← hemission] at hsent
    rw [show s' = _ from hsent]
    exact (hs.exchanged hphase hup
      (.readDO hmode hpolled rfl (doEmission_length s.calls dpConfig))).inSession

/-- The reading of a selected dataset is one exchange. -/
theorem readAndExportOneDataset_inSession
    (hmode : setup.applicationParams.readMode = .DATASET_READING) (it : String × ExchangedData)
    (href : it.1 ∈ setup.selectedDOInExchangedDatasets) :
    Hoare (InSession plat setup env polled) (readAndExportOneDataset plat setup env it.1 it.2)
      (fun _ => InSession plat setup env polled) (Interrupted plat setup env polled) := by
  refine .exists fun phase => .bind deref_open fun _ => .fact fun hphase s hs => ?_
  cases hup : env.getState s.calls with
  | false =>
    -- the object that is not there is dereferenced
    rw [run_bind_ok (readDataset_run_lost hup it.1)]
    refine ⟨fun a t heq => (by cases heq), ?_⟩
    intro e t heq hcaught
    cases heq
    cases hcaught
  | true =>
    have hexchange : ∀ sent, sent = (datasetEmission plat setup env s.calls it).out →
        Exchange plat setup env polled s.calls (.readDataSetValues it.1 :: sent.map Event.sending) :=
      fun sent hsent => .readDataset hmode href hsent
    cases hvalues : getValues (env.readDataSetValues (s.calls + 1) it.1).1 with
    | error e =>
      have hnothing : [] = (datasetEmission plat setup env s.calls it).out := by
        rw [datasetEmission, hup, if_pos rfl, hvalues]
        rfl
      rw [run_bind_error (readDataset_run_error hup it.1 hvalues)]
      exact inSession_of_result (E := .halt e) rfl
        (hs.exchanged hphase hup (hexchange [] hnothing)).inSession
    | ok values =>
      have hemission : datasetEmission plat setup env s.calls it =
          membersEmission plat setup values it.2 := by
        rw [datasetEmission, hup, if_pos rfl, hvalues]
        rfl
      rw [run_bind_ok (readDataset_run hup it.1 hvalues)]
      rcases exportMembers_sends plat setup values it.2
          ((s.afterGetState env).afterRequest (.readDataSetValues it.1)
            (env.readDataSetValues (s.calls + 1) it.1).2) with ⟨s', hsent, hrun, _⟩
      refine inSession_of_result hrun ?_
      rw [← hemission] at hsent
      rw [show s' = _ from hsent]
      exact (hs.exchanged hphase hup (hexchange _ rfl)).inSession

/-- All the DOs of a cycle, one exchange after the other. -/
theorem readAndExportAllDO_inSession (hmode : setup.applicationParams.readMode = .DO_READING) :
    Hoare (InSession plat setup env polled) (readAndExportAllDO plat setup env)
      (fun _ => InSession plat setup env polled) (Interrupted plat setup env polled) := by
  refine .bind (R := fun t s => PollsConfigured setup polled t ∧ InSession plat setup env polled s)
    (.get ?_) fun t => .fact fun ht => .forM fun dpConfig hmem => ?_
  · rintro s ⟨phase, hs⟩
    exact ⟨hs.polls, phase, hs⟩
  · refine readAndExportDO_inSession hmode dpConfig ?_
    rw [← ht.exchangedData]
    exact List.mem_map.mpr ⟨dpConfig, hmem, rfl⟩

/-- All the datasets of a cycle, one exchange after the other. -/
theorem readAndExportAllDatasets_inSession
    (hmode : setup.applicationParams.readMode = .DATASET_READING) :
    Hoare (InSession plat setup env polled) (readAndExportAllDatasets plat setup env)
      (fun _ => InSession plat setup env polled) (Interrupted plat setup env polled) := by
  refine .bind (R := fun t s => PollsConfigured setup polled t ∧ InSession plat setup env polled s)
    (.get ?_) fun t => .fact fun ht => .forM fun it hmem => ?_
  · rintro s ⟨phase, hs⟩
    exact ⟨hs.polls, phase, hs⟩
  · refine readAndExportOneDataset_inSession hmode it (ht.exchangedDatasets it.1 ?_)
    exact Std.ExtTreeMap.mem_iff_isSome_getElem?.mpr
      (by rw [Std.ExtTreeMap.mem_toList_iff_getElem?_eq_some.mp hmem]; rfl)

/-- The last request has failed: the code is reported, and nothing is read. -/
theorem logError_inSession {connection : IEC61850ClientConnection}
    (herror : connection.isNoError = false) :
    Hoare (JustAsked plat setup env polled phase) connection.logError
      (fun _ => InSession plat setup env polled) (Interrupted plat setup env polled) := by
  refine .modify fun s hs => ⟨.reading, ⟨hs.polls.1, hs.polls.2⟩, ⟨fun _ => (by decide),
    fun _ => hs.connection⟩, ?_⟩
  rcases hs.sessions with ⟨n, before, hcalls, hevents, hup, hphase, hsessions⟩
  have hcode : connection.m_networkStack_error ≠ IED_ERROR_OK := of_decide_eq_false herror
  show Sessions plat setup env polled .reading s.calls (s.events ++ [_])
  rw [hcalls, hevents, List.append_assoc]
  exact .refused hphase hsessions hup hcode

/-- A pass of the reading loop reconnects or reads. -/
theorem readAndExportMms_inSession (fuel rounds : Nat) :
    Hoare (InSession plat setup env polled) (readAndExportMms plat setup env fuel rounds)
      (fun _ => InSession plat setup env polled) (Interrupted plat setup env polled) := by
  refine .exists fun phase => .bind deref_open fun _ => .fact fun hphase => ?_
  refine .bind (isConnected_inPhase hphase) fun connected => ?_
  cases connected with
  | false => exact (initializeConnection_inSession fuel rounds).weaken fun _ hs => hs.inSession
  | true =>
    refine .bind deref_inPhase fun connection => ?_
    refine Hoare.weaken ?_ fun s (hs : JustAsked plat setup env polled phase s ∧ _) => hs.1
    cases herror : connection.isNoError with
    | false => exact logError_inSession herror
    | true =>
      simp only [Bool.not_true, Bool.false_eq_true, if_false]
      cases hmode : setup.applicationParams.readMode with
      | DATASET_READING =>
        exact (readAndExportAllDatasets_inSession hmode).weaken fun _ hs => hs.inPhase.inSession
      | DO_READING =>
        exact (readAndExportAllDO_inSession hmode).weaken fun _ hs => hs.inPhase.inSession

end Steps

/-! ## The life of a client -/

section Life

variable {plat : Platform} {setup : ClientSetup} {env : Environment} {s : ClientState}

/-- A whole cycle goes on with the sessions. -/
theorem InSession.pollCycle {polled : ExchangedData} (h : InSession plat setup env polled s)
    {fuel rounds : Nat} {s' : ClientState}
    (hrun : pollCycle plat setup env fuel rounds s = .ok ⟨⟩ s') : InSession plat setup env polled s' := by
  have hread : Hoare (InSession plat setup env polled) (readAndExportMms plat setup env fuel rounds)
      (fun _ => InSession plat setup env polled) (Interrupted plat setup env polled) :=
    readAndExportMms_inSession fuel rounds
  rcases hread s h with ⟨hok, herror⟩
  rw [Iec61850South.pollCycle] at hrun
  cases hmms : readAndExportMms plat setup env fuel rounds s with
  | ok _ t =>
    rw [hmms] at hrun
    cases hrun
    exact hok _ _ hmms
  | error e t =>
    rw [hmms] at hrun
    cases hcaught : e.isCaught with
    | true =>
      simp only [hcaught, if_true] at hrun
      cases hrun
      exact herror e _ hmms hcaught
    | false =>
      simp only [hcaught] at hrun
      cases hrun

variable (plat setup env) in
/-- What a thread of a client has called, and has returned. -/
inductive ClientCall : ClientState → ClientState → Prop
  | initialized {fuel rounds : Nat} {s s' : ClientState} :
      initializeConnection plat setup env fuel rounds s = .ok ⟨⟩ s' → ClientCall s s'
  | cycle {fuel rounds : Nat} {s s' : ClientState} :
      pollCycle plat setup env fuel rounds s = .ok ⟨⟩ s' → ClientCall s s'
  | destroyed {s s' : ClientState} : destroyConnection s = .ok ⟨⟩ s' → ClientCall s s'

/-- A life is one of a client that has been constructed with some DOs. -/
theorem clientLife_iff : ClientLife plat setup env s ↔ ∃ exchangedData,
    Relation.ReflTransGen (ClientCall plat setup env) (newClient exchangedData) s := by
  constructor
  · intro h
    induction h with
    | constructed exchangedData => exact ⟨exchangedData, .refl⟩
    | initialized _ hrun ih =>
      rcases ih with ⟨exchangedData, hcalls⟩
      exact ⟨exchangedData, hcalls.tail (.initialized hrun)⟩
    | cycle _ hrun ih =>
      rcases ih with ⟨exchangedData, hcalls⟩
      exact ⟨exchangedData, hcalls.tail (.cycle hrun)⟩
    | destroyed _ hrun ih =>
      rcases ih with ⟨exchangedData, hcalls⟩
      exact ⟨exchangedData, hcalls.tail (.destroyed hrun)⟩
  · rintro ⟨exchangedData, hcalls⟩
    induction hcalls with
    | refl => exact .constructed exchangedData
    | tail _ hcall ih =>
      cases hcall with
      | initialized hrun => exact .initialized ih hrun
      | cycle hrun => exact .cycle ih hrun
      | destroyed hrun => exact .destroyed ih hrun

/-- **The step lemma.** -/
theorem InSession.call {polled : ExchangedData} {s' : ClientState}
    (h : InSession plat setup env polled s) (hcall : ClientCall plat setup env s s') :
    InSession plat setup env polled s' := by
  cases hcall with
  | @initialized fuel rounds _ _ hrun =>
    exact (initializeConnection_inSession fuel rounds s h).1 _ s' hrun
  | cycle hrun => exact h.pollCycle hrun
  | destroyed hrun => exact ⟨.closed, (destroyConnection_inSession s h).1 _ s' hrun⟩

/-- A constructed client has opened nothing. -/
theorem newClient_inSession (exchangedData : ExchangedData) : InSession plat setup env
    (exchangedData.map DatapointConfig.configured) (newClient exchangedData) := by
  refine ⟨.closed, ⟨rfl, ?_⟩, by simp [newClient], .start⟩
  intro datasetRef hmem
  exact absurd hmem Std.ExtTreeMap.not_mem_empty

/-- **A client goes through sessions**: whatever the IED answers and whenever the
connection breaks down, each connection is opened with the configured parameters and
closed before the next one; names are asked for first, and then nothing is read but
what the client has been constructed with, in the configured mode; nothing is asked for
without a test of the connection right in front of it, nor sent but right behind the
request whose answer it is. -/
theorem client_sessions {exchangedData : ExchangedData}
    (h : Relation.ReflTransGen (ClientCall plat setup env) (newClient exchangedData) s) :
    ∃ phase, Sessions plat setup env (exchangedData.map DatapointConfig.configured) phase s.calls
        s.events ∧ (s.m_connection.isSome = true ↔ phase ≠ .closed) ∧
      s.m_localExchangedData.map DatapointConfig.configured =
        exchangedData.map DatapointConfig.configured := by
  have hsession : InSession plat setup env (exchangedData.map DatapointConfig.configured) s := by
    induction h with
    | refl => exact newClient_inSession exchangedData
    | tail _ hcall ih => exact ih.call hcall
  rcases hsession with ⟨phase, hs⟩
  exact ⟨phase, hs.sessions, hs.connection, hs.polls.exchangedData⟩

/-- The client that has been launched and has polled once. -/
theorem polledOnce_calls : Relation.ReflTransGen
    (ClientCall (.withDocuments []) (smallSetup .DO_READING []) smallIed)
    (newClient [smallDO "TS1" "SPSSO1"]) polledOnce := by
  rw [polledOnce]
  have hlaunched : ClientCall (.withDocuments []) (smallSetup .DO_READING []) smallIed
      (newClient [smallDO "TS1" "SPSSO1"])
      (launched (smallSetup .DO_READING []) smallIed [smallDO "TS1" "SPSSO1"]) :=
    .initialized (eq_ok_of_returned (by decide +kernel))
  exact .tail (.single hlaunched) (.cycle (eq_ok_of_returned (by decide +kernel)))

/-- Its trace. -/
theorem client_sessions_sample : ∃ phase,
    Sessions (.withDocuments []) (smallSetup .DO_READING []) smallIed
      ([smallDO "TS1" "SPSSO1"].map DatapointConfig.configured) phase polledOnce.calls
      polledOnce.events ∧
    (polledOnce.m_connection.isSome = true ↔ phase ≠ .closed) ∧
    polledOnce.m_localExchangedData.map DatapointConfig.configured =
      [smallDO "TS1" "SPSSO1"].map DatapointConfig.configured :=
  client_sessions polledOnce_calls

end Life

end Iec61850South
