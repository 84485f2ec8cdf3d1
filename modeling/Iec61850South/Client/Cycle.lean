import Iec61850South.Client.Polling
import Iec61850South.Lib.OrderedMap
import Mathlib.Logic.Function.Iterate

/-! # What one polling cycle sends

The Datapoints that a cycle sends, and how it ends, as a function of the answers
of the environment. An item (a DO or a dataset) whose turn comes at question `n`
asks whether the connection is up and, if so, reads; the next item has its turn
at question `nextCall env n`.
-/

namespace Iec61850South

open Lib IEC61850ClientConnection

/-- The Datapoints that have been passed to Fledge. -/
def sent (events : List Event) : List Datapoint :=
  events.filterMap fun
    | .ingest _ datapoint => some datapoint
    | _ => none

/-- What has been sent, in the order of the trace. -/
theorem sent_append (l l' : List Event) : sent (l ++ l') = sent l ++ sent l' :=
  List.filterMap_append ..

/-- Datapoints show in the events of the client. -/
def sentEffect : Effect ClientState Datapoint where
  rel s out s' := sent s'.events = sent s.events ++ out
  nil s := by simp
  append h h' := by rw [h', h, List.append_assoc]

/-- The connection object exists and `n` questions have been answered. -/
def At (n : Nat) (s : ClientState) : Prop :=
  s.m_connection.isSome ∧ s.calls = n

/-! ## The steps of an item -/

/-- The state after `isConnected`. -/
def ClientState.afterGetState (env : Environment) (s : ClientState) : ClientState :=
  { s with calls := s.calls + 1, events := s.events ++ [.getState (env.getState s.calls)] }

/-- The state after a request that has written the given error code. -/
def ClientState.afterRequest (event : Event) (error : IedClientError) (s : ClientState) :
    ClientState :=
  { s with
    m_connection := s.m_connection.map fun c => { c with m_networkStack_error := error }
    calls := s.calls + 1
    events := s.events ++ [event] }

/-- A request keeps the connection object. -/
theorem isSome_afterRequest (event : Event) (error : IedClientError) (s : ClientState) :
    (s.afterRequest event error).m_connection.isSome = s.m_connection.isSome :=
  Option.isSome_map ..

theorem isConnected_run (env : Environment) (s : ClientState) :
    isConnected env s = .ok (env.getState s.calls) (s.afterGetState env) := rfl

theorem request_run {α : Type} (event : Event) (answer : Nat → α × IedClientError)
    (s : ClientState) :
    request event answer s =
      .ok (answer s.calls).1 (s.afterRequest event (answer s.calls).2) := rfl

/-- `m_connection->` where there is a connection. -/
theorem deref_run {s : ClientState} {connection : IEC61850ClientConnection}
    (h : s.m_connection = some connection) : deref s = .ok connection s := by
  rw [deref, run_bind_ok (run_get s), h]
  rfl

/-- `m_connection->` where there is none. -/
theorem deref_run_none {s : ClientState} (h : s.m_connection = none) :
    deref s = .error (.fault .nullConnection) s := by
  rw [deref, run_bind_ok (run_get s), h]
  rfl

/-- The dereference in front of a method, when there is a connection. -/
theorem deref_run_of_isSome {s : ClientState} (h : s.m_connection.isSome) :
    ∃ connection, deref s = .ok connection s := by
  rcases Option.isSome_iff_exists.mp h with ⟨connection, hs⟩
  exact ⟨connection, deref_run hs⟩

/-- A lost connection: the DO is not asked for. -/
theorem readDO_run_lost {env : Environment} {s : ClientState} (h : env.getState s.calls = false)
    (doPath : String) (fc : FunctionalConstraint) :
    readDO env doPath fc s = .ok none (s.afterGetState env) := by
  rw [readDO, run_bind_ok (isConnected_run env s), h]
  rfl

/-- A connection that is up: the answer is wrapped, even when it is null. -/
theorem readDO_run {env : Environment} {s : ClientState} (h : env.getState s.calls = true)
    (doPath : String) (fc : FunctionalConstraint) :
    readDO env doPath fc s =
      .ok (some ⟨(env.readObject (s.calls + 1) doPath fc).1⟩)
        ((s.afterGetState env).afterRequest (.readObject doPath fc)
          (env.readObject (s.calls + 1) doPath fc).2) := by
  rw [readDO, run_bind_ok (isConnected_run env s), h]
  rfl

/-- A lost connection: the dataset is not asked for. -/
theorem readDataset_run_lost {env : Environment} {s : ClientState}
    (h : env.getState s.calls = false) (datasetRef : String) :
    readDataset env datasetRef s = .ok none (s.afterGetState env) := by
  rw [readDataset, run_bind_ok (isConnected_run env s), h]
  rfl

/-- A connection that is up: the values of the client dataset are cloned. -/
theorem readDataset_run {env : Environment} {s : ClientState} (h : env.getState s.calls = true)
    (datasetRef : String) {values : MmsValue}
    (hvalues : getValues (env.readDataSetValues (s.calls + 1) datasetRef).1 = .ok values) :
    readDataset env datasetRef s =
      .ok (some ⟨some values⟩)
        ((s.afterGetState env).afterRequest (.readDataSetValues datasetRef)
          (env.readDataSetValues (s.calls + 1) datasetRef).2) := by
  rw [readDataset, run_bind_ok (isConnected_run env s), h, if_neg (by simp)]
  rw [run_bind_ok (request_run ..)]
  have hvalues' : getValues (env.readDataSetValues (s.afterGetState env).calls datasetRef).1 =
      .ok values := hvalues
  rw [hvalues', run_bind_ok (liftExcept_ok ..)]
  rfl

/-- A dataset that is not there is dereferenced all the same. -/
theorem readDataset_run_error {env : Environment} {s : ClientState}
    (h : env.getState s.calls = true) (datasetRef : String) {e : Abort}
    (hvalues : getValues (env.readDataSetValues (s.calls + 1) datasetRef).1 = .error e) :
    readDataset env datasetRef s =
      .error e ((s.afterGetState env).afterRequest (.readDataSetValues datasetRef)
        (env.readDataSetValues (s.calls + 1) datasetRef).2) := by
  rw [readDataset, run_bind_ok (isConnected_run env s), h, if_neg (by simp)]
  rw [run_bind_ok (request_run ..)]
  have hvalues' : getValues (env.readDataSetValues (s.afterGetState env).calls datasetRef).1 =
      .error e := hvalues
  rw [hvalues', run_bind_error (liftExcept_error ..)]
  rfl

/-! ## What an item sends -/

section Emissions

variable (plat : Platform) (setup : ClientSetup) (env : Environment)

/-- The question at which the turn of the next item comes. -/
def nextCall (n : Nat) : Nat :=
  if env.getState n then n + 2 else n + 1

/-- The question at which the turn of item `k` comes, the first one's being `n`. -/
def callAt (n k : Nat) : Nat :=
  (nextCall env)^[k] n

/-- A null Datapoint is not sent. -/
def sends (datapoint : Option Datapoint) : Emission Datapoint Abort :=
  ⟨if setup.hasReceiver then datapoint.toList else [], none⟩

/-- What the reading of a DO sends, from the question `n` on. -/
def doEmission (n : Nat) (dpConfig : DatapointConfig) : Emission Datapoint Abort :=
  if env.getState n then
    .after (convertMmsToDatapoint plat
      (env.readObject (n + 1) dpConfig.dataPath dpConfig.functionalConstraint).1 dpConfig)
      (sends setup)
  else .done

/-- What the export of a member of a dataset sends. -/
def memberEmission (member : Option MmsValue × DatapointConfig) : Emission Datapoint Abort :=
  if member.2.label ≠ "" then
    .after (convertMmsToDatapoint plat member.1 member.2) (sends setup)
  else .done

/-- The members of a dataset that has been read, in the order of its directory. -/
def membersEmission (values : MmsValue) (exchangedDataset : ExchangedData) :
    Emission Datapoint Abort :=
  .after (datasetElements (some values) exchangedDataset.length) fun elements =>
    .seqAll ((elements.zip exchangedDataset).map (memberEmission plat setup))

/-- What the reading of a dataset sends, from the question `n` on. -/
def datasetEmission (n : Nat) (it : String × ExchangedData) : Emission Datapoint Abort :=
  if env.getState n then
    .after (getValues (env.readDataSetValues (n + 1) it.1).1) fun values =>
      membersEmission plat setup values it.2
  else .halt (.fault .nullWrappedMms)

/-- The items of a cycle, from question `n` on. -/
def itemEmissions (n : Nat) (exchangedData : ExchangedData) (exchangedDatasets : ExchangedDatasets) :
    List (Emission Datapoint Abort) :=
  match setup.applicationParams.readMode with
  | .DATASET_READING =>
    exchangedDatasets.toList.mapIdx fun k it => datasetEmission plat setup env (callAt env n k) it
  | .DO_READING =>
    exchangedData.mapIdx fun k dpConfig => doEmission plat setup env (callAt env n k) dpConfig

variable {plat setup env} in
/-- The item `k` of a cycle that reads DOs. -/
theorem getElem?_itemEmissions_dos (hmode : setup.applicationParams.readMode = .DO_READING)
    (n : Nat) (exchangedData : ExchangedData) (exchangedDatasets : ExchangedDatasets) (k : Nat) :
    (itemEmissions plat setup env n exchangedData exchangedDatasets)[k]? =
      exchangedData[k]?.map (doEmission plat setup env (callAt env n k)) := by
  rw [itemEmissions, hmode, List.getElem?_mapIdx]

variable {plat setup env} in
/-- The item `k` of a cycle that reads datasets. -/
theorem getElem?_itemEmissions_datasets
    (hmode : setup.applicationParams.readMode = .DATASET_READING) (n : Nat)
    (exchangedData : ExchangedData) (exchangedDatasets : ExchangedDatasets) (k : Nat) :
    (itemEmissions plat setup env n exchangedData exchangedDatasets)[k]? =
      exchangedDatasets.toList[k]?.map (datasetEmission plat setup env (callAt env n k)) := by
  rw [itemEmissions, hmode, List.getElem?_mapIdx]

end Emissions

section Emits

variable {plat : Platform} {setup : ClientSetup} {env : Environment} {s : ClientState} {n : Nat}

/-- Each item begins where the one before it has ended. -/
theorem callAt_succ (k : Nat) : callAt env n (k + 1) = nextCall env (callAt env n k) :=
  Function.iterate_succ_apply' ..

/-- Sending asks nothing. -/
theorem sendData_emits (h : At n s) (datapoint : Option Datapoint) :
    Emits sentEffect (At n) (sendData setup datapoint) s (sends setup datapoint) := by
  unfold sendData sends
  cases datapoint with
  | none =>
    refine ⟨s, ?_, rfl, fun _ => h⟩
    simp [sentEffect]
  | some d =>
    cases setup.hasReceiver with
    | false => exact Emits.pure h
    | true =>
      refine ⟨{ s with events := s.events ++ [.ingest d.getName d] }, ?_, rfl, fun _ => h⟩
      simp [sentEffect, sent]

/-- A conversion, and the sending of its result. -/
theorem convertAndSend_emits (h : At n s) (mmsValue : Option MmsValue)
    (dpConfig : DatapointConfig) :
    Emits sentEffect (At n)
      (liftExcept (convertMmsToDatapoint plat mmsValue dpConfig) >>= sendData setup) s
      (.after (convertMmsToDatapoint plat mmsValue dpConfig) (sends setup)) :=
  Emits.after fun datapoint _ => sendData_emits h datapoint

/-- Asking for the state and requesting send nothing. -/
theorem sentEffect_afterGetState : sentEffect.rel s [] (s.afterGetState env) := by
  simp [sentEffect, ClientState.afterGetState, sent]

/-- A request sends nothing. -/
theorem sentEffect_afterRequest {event : Event} {error : IedClientError} (h : sent [event] = []) :
    sentEffect.rel s [] (s.afterRequest event error) := by
  simp [sentEffect, ClientState.afterRequest, sent_append, h]

/-- A reading leaves the connection. -/
theorem isSome_afterRead {event : Event} {error : IedClientError} (h : s.m_connection.isSome) :
    ((s.afterGetState env).afterRequest event error).m_connection.isSome := by
  rw [isSome_afterRequest]
  exact h

/-- The reading of a DO, as an emission. -/
theorem readAndExportDO_emits (h : At n s) (dpConfig : DatapointConfig) :
    Emits sentEffect (At (nextCall env n)) (readAndExportDO plat setup env dpConfig) s
      (doEmission plat setup env n dpConfig) := by
  rcases h with ⟨hconn, rfl⟩
  rcases deref_run_of_isSome hconn with ⟨connection, hderef⟩
  refine Emits.step hderef (sentEffect.nil s) ?_
  cases hup : env.getState s.calls with
  | false =>
    rw [doEmission, hup, nextCall, hup]
    refine Emits.step (readDO_run_lost hup ..) ?_ (Emits.pure ⟨hconn, rfl⟩)
    exact sentEffect_afterGetState
  | true =>
    rw [doEmission, hup, nextCall, hup]
    refine Emits.step (readDO_run hup ..) ?_
      (convertAndSend_emits ⟨isSome_afterRead hconn, rfl⟩ _ _)
    exact sentEffect.append sentEffect_afterGetState (sentEffect_afterRequest rfl)

/-- All the DOs of a cycle, up to the first exception. -/
theorem readAndExportAllDO_emits (h : At n s) :
    Emits sentEffect (fun _ => True) (readAndExportAllDO plat setup env) s
      (.seqAll (s.m_localExchangedData.mapIdx fun k dpConfig =>
        doEmission plat setup env (callAt env n k) dpConfig)) := by
  refine Emits.step (run_get s) (sentEffect.nil s) ?_
  have hround : ∀ k dpConfig s', At (callAt env n k) s' →
      Emits sentEffect (At (callAt env n (k + 1))) (readAndExportDO plat setup env dpConfig) s'
        (doEmission plat setup env (callAt env n k) dpConfig) := by
    intro k dpConfig s' hs'
    rw [callAt_succ]
    exact readAndExportDO_emits hs' dpConfig
  -- the invariant of the loop says at which question round `k` starts
  exact Emits.mono (Emits.forM (fun k => At (callAt env n k)) _ s
    (fun k dpConfig s' _ => hround k dpConfig s') h) fun _ _ => trivial

/-- The export of a member, as an emission. -/
theorem exportMember_emits (h : At n s) (member : Option MmsValue × DatapointConfig) :
    Emits sentEffect (At n) (exportMember plat setup member) s
      (memberEmission plat setup member) := by
  unfold exportMember memberEmission
  split
  · exact convertAndSend_emits h _ _
  · exact Emits.pure h

/-- The reading of a dataset, as an emission of its members. -/
theorem readAndExportOneDataset_emits (h : At n s) (it : String × ExchangedData) :
    Emits sentEffect (At (nextCall env n)) (readAndExportOneDataset plat setup env it.1 it.2) s
      (datasetEmission plat setup env n it) := by
  rcases h with ⟨hconn, rfl⟩
  rcases deref_run_of_isSome hconn with ⟨connection, hderef⟩
  refine Emits.step hderef (sentEffect.nil s) ?_
  cases hup : env.getState s.calls with
  | false =>
    -- the connection is down: `readDataset` returns no object, and it is dereferenced
    rw [datasetEmission, hup]
    refine Emits.step (readDataset_run_lost hup it.1) sentEffect_afterGetState ?_
    exact Emits.after (F := fun _ => .done) fun _ h => by cases h
  | true =>
    rw [datasetEmission, hup, nextCall, hup, if_pos rfl, if_pos rfl]
    cases hvalues : getValues (env.readDataSetValues (s.calls + 1) it.1).1 with
    | error e =>
      refine ⟨_, ?_, run_bind_error (readDataset_run_error hup it.1 hvalues), by simp⟩
      exact sentEffect.append sentEffect_afterGetState
        (sentEffect_afterRequest (show sent [.readDataSetValues it.1] = [] from rfl))
    | ok values =>
      refine Emits.step (readDataset_run hup it.1 hvalues)
        (sentEffect.append sentEffect_afterGetState (sentEffect_afterRequest rfl)) ?_
      refine Emits.step (liftExcept_ok ..) (sentEffect.nil _) (Emits.after fun elements _ => ?_)
      exact Emits.forM_map _ _ (fun member s' hs' => exportMember_emits hs' member)
        ⟨isSome_afterRead hconn, rfl⟩

/-- All the datasets of a cycle, up to the first exception. -/
theorem readAndExportAllDatasets_emits (h : At n s) :
    Emits sentEffect (fun _ => True) (readAndExportAllDatasets plat setup env) s
      (.seqAll (s.m_localExchangedDatasets.toList.mapIdx fun k it =>
        datasetEmission plat setup env (callAt env n k) it)) := by
  refine Emits.step (run_get s) (sentEffect.nil s) ?_
  have hround : ∀ k it s', At (callAt env n k) s' →
      Emits sentEffect (At (callAt env n (k + 1))) (readAndExportOneDataset plat setup env it.1 it.2)
        s' (datasetEmission plat setup env (callAt env n k) it) := by
    intro k it s' hs'
    rw [callAt_succ]
    exact readAndExportOneDataset_emits hs' it
  exact Emits.mono (Emits.forM (fun k => At (callAt env n k)) _ s (fun k it s' _ => hround k it s') h)
    fun _ _ => trivial

/-- A cycle that starts connected and without a pending error: it reads item by
item, and stops at the first item that stops. -/
theorem readAndExportMms_emits {fuel rounds : Nat} {connection : IEC61850ClientConnection}
    (hconn : s.m_connection = some connection) (hok : connection.isNoError = true)
    (hup : env.getState s.calls = true) :
    Emits sentEffect (fun _ => True) (readAndExportMms plat setup env fuel rounds) s
      (.seqAll (itemEmissions plat setup env (s.calls + 1) s.m_localExchangedData
        s.m_localExchangedDatasets)) := by
  refine Emits.step (deref_run hconn) (sentEffect.nil s) ?_
  -- the tests at the start of the cycle take one question
  refine Emits.step (isConnected_run env s) sentEffect_afterGetState ?_
  rw [hup, if_neg (by simp)]
  refine Emits.step (deref_run (s := s.afterGetState env) hconn) (sentEffect.nil _) ?_
  rw [hok, if_neg (by simp)]
  have hat : At (s.calls + 1) (s.afterGetState env) := by
    refine ⟨?_, rfl⟩
    simp [ClientState.afterGetState, hconn]
  unfold itemEmissions
  cases setup.applicationParams.readMode with
  | DO_READING => exact readAndExportAllDO_emits hat
  | DATASET_READING => exact readAndExportAllDatasets_emits hat

/-- The same for the whole round of the loop, which catches exceptions. -/
theorem pollCycle_sent {connection : IEC61850ClientConnection}
    (hconn : s.m_connection = some connection) (hok : connection.isNoError = true)
    (hup : env.getState s.calls = true) (plat : Platform) (setup : ClientSetup)
    (fuel rounds : Nat) :
    let E := Emission.seqAll (itemEmissions plat setup env (s.calls + 1) s.m_localExchangedData
      s.m_localExchangedDatasets)
    sent (finalState (pollCycle plat setup env fuel rounds s)).events = sent s.events ++ E.out ∧
      ∀ f, (∃ s', pollCycle plat setup env fuel rounds s = .error (.fault f) s') ↔
        E.stop = some (.fault f) := by
  intro E
  obtain ⟨s', hsent, hrun, _⟩ : Emits sentEffect (fun _ => True)
    (readAndExportMms plat setup env fuel rounds) s E := readAndExportMms_emits hconn hok hup
  have hsent : sent s'.events = sent s.events ++ E.out := hsent
  unfold pollCycle
  -- an exception is caught, a fault is not: both leave the same events
  cases hstop : E.stop with
  | none =>
    rw [hrun, Emission.result_of_go hstop]
    simp [hsent]
  | some e =>
    rw [hrun, Emission.result_of_stop hstop]
    cases e <;> simp [Abort.isCaught, hsent]

/-- Such a round returns unless an item stops it with something that is not caught. -/
theorem pollCycle_returns_iff {connection : IEC61850ClientConnection}
    (hconn : s.m_connection = some connection) (hok : connection.isNoError = true)
    (hup : env.getState s.calls = true) (plat : Platform) (setup : ClientSetup)
    (fuel rounds : Nat) :
    (∃ s', pollCycle plat setup env fuel rounds s = .ok ⟨⟩ s') ↔
      ∀ e, (Emission.seqAll (itemEmissions plat setup env (s.calls + 1) s.m_localExchangedData
        s.m_localExchangedDatasets)).stop = some e → e.isCaught = true := by
  let E := Emission.seqAll (itemEmissions plat setup env (s.calls + 1) s.m_localExchangedData
    s.m_localExchangedDatasets)
  obtain ⟨s', _, hrun, _⟩ : Emits sentEffect (fun _ => True)
    (readAndExportMms plat setup env fuel rounds) s E := readAndExportMms_emits hconn hok hup
  show _ ↔ ∀ e, E.stop = some e → e.isCaught = true
  unfold pollCycle
  rw [hrun]
  cases hstop : E.stop with
  | none =>
    rw [Emission.result_of_go hstop]
    simp
  | some e =>
    rw [Emission.result_of_stop hstop]
    cases hcaught : e.isCaught <;> simp [hcaught]

end Emits

/-! ## Clients over time -/

/-- The constructor of `IEC61850Client`: it makes the local copy of `exchangedData`. -/
def newClient (exchangedData : ExchangedData) : ClientState :=
  { m_localExchangedData := exchangedData }

/-- The states of a client between two polling cycles. -/
inductive ClientReachable (plat : Platform) (setup : ClientSetup) (env : Environment)
    (fuel rounds : Nat) : ClientState → Prop
  | launch {exchangedData : ExchangedData} {s : ClientState} :
      initializeConnection plat setup env fuel rounds (newClient exchangedData) = .ok ⟨⟩ s →
        ClientReachable plat setup env fuel rounds s
  | cycle {s s' : ClientState} : ClientReachable plat setup env fuel rounds s →
      pollCycle plat setup env fuel rounds s = .ok ⟨⟩ s' →
        ClientReachable plat setup env fuel rounds s'

/-! ## A small IED

An IED with single point indications: each is a structure with the member
`stVal`, and a dataset with two of them. It is always connected. -/

/-- The value of a status indication. -/
def indication (b : Bool) : MmsValue :=
  .aggregate .struct [some (.primitive (.boolean b))]

/-- An IED with one status indication. -/
def smallIed : Environment where
  getState _ := true
  connect _ := IED_ERROR_OK
  readObject _ _ _ := (some (indication true), IED_ERROR_OK)
  readDataSetValues _ _ :=
    (some ⟨.aggregate .array [some (indication true), some (indication false)]⟩, IED_ERROR_OK)
  getDataDirectoryByFC _ path _ :=
    (some (if ".stVal".toList.isSuffixOf path.toList then [] else ["stVal"]), IED_ERROR_OK)
  getDataSetDirectory _ _ :=
    (some ["IED1LD0/GGIO1.SPSSO1[ST]", "IED1LD0/GGIO1.SPSSO10[ST]"], IED_ERROR_OK)
  stopOrder _ := false

/-- A client of it. -/
def smallSetup (readMode : ReadMode) (selected : List (String × ExchangedData)) : ClientSetup where
  connectionParam := .declared ((Platform.withDocuments []).uninit 0)
  applicationParams := { readMode := readMode }
  selectedDOInExchangedDatasets := insertAll ∅ selected
  hasReceiver := true

/-- A DO of the small IED, as `exchanged_data` configures it. -/
def smallDO (label doName : String) : DatapointConfig where
  label := label
  datapointType := "SPS"
  datapointTypeId := .SPS_DATAPOINT_TYPE
  dataPath := "IED1LD0/GGIO1." ++ doName
  functionalConstraint := .ST

/-- The client after its launch, with at most two attempts to connect. -/
def launched (setup : ClientSetup) (env : Environment) (exchangedData : ExchangedData) :
    ClientState :=
  finalState
    (initializeConnection (.withDocuments []) setup env 3 2 (newClient exchangedData))

end Iec61850South
