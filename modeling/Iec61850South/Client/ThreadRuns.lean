import Iec61850South.Client.Sessions
import Iec61850South.Client.Stages

/-! # The functions of a client as its threads run them

`client_history_is_run`: whatever `launch`, the rounds of `readMmsLoop` and `stop`
compute is a run of the three threads, which is started and stopped as often, hands over
as many readings and leaves the same connection behind.

Where a thread goes on may depend on what has not been computed yet, as an exception
that the next conversion throws. Then the run can be at any of several stages.
-/

namespace Iec61850South

open Lib IEC61850ClientConnection

/-! ## Histories -/

/-- What a client is doing between the calls of its functions. -/
inductive Activity where
  | idle
  /-- in the loop of `readMmsLoop` -/
  | reading
  | gone
deriving DecidableEq

section Histories

variable (plat : Platform) (setup : ClientSetup) (env : Environment)

/-- What becomes of a client, with the functions in the order in which its threads call
them, and its calls of `start` and returns of `stop`, the last one in front. The destructor
does what `stop` does. -/
inductive ClientHistory : Activity → List Label → ClientState → Prop
  | constructed (exchangedData : ExchangedData) :
      ClientHistory .idle [] (newClient exchangedData)
  | launched {calls : List Label} {fuel rounds : Nat} {s s' : ClientState} :
      ClientHistory .idle calls s → initializeConnection plat setup env fuel rounds s = .ok ⟨⟩ s' →
      ClientHistory .reading (.callStart :: calls) s'
  | cycle {calls : List Label} {fuel rounds : Nat} {s s' : ClientState} :
      ClientHistory .reading calls s → pollCycle plat setup env fuel rounds s = .ok ⟨⟩ s' →
      ClientHistory .reading calls s'
  | stopped {activity : Activity} {calls : List Label} {s s' : ClientState} (destructor : Bool) :
      activity ≠ .gone → ClientHistory activity calls s → OrderSeen env s →
      destroyConnection s = .ok ⟨⟩ s' →
      ClientHistory (if destructor then .gone else .idle) (.stopReturns :: calls) s'

end Histories

/-! ## Functions -/

section Functions

variable {env : Environment} {calls : List Label} {destructor : Bool} {s s' : ClientState}

/-! ### `initializeConnection`, in either thread -/

/-- The destruction of the connection follows the statements of the thread. -/
theorem destroyConnection_reaches (thread : ClientThread) :
    Hoare (Reaches env calls destructor (.initializing (.destroy .test) thread)) destroyConnection
      (fun _ s => s.m_connection = none ∧
        Reaches env calls destructor (.initializing (.create .test) thread) s) NotCaught := by
  refine .of_ok fun s hs => ?_
  rcases destroyConnection_cases s with ⟨hnone, hrun⟩ | ⟨hconn, hrun⟩
  · refine ⟨_, s, hrun, hnone, hs.initialize (.refl s) fun m hm => .destroyed (.absent ?_)⟩
    rw [hm, hnone]
    rfl
  · refine ⟨_, _, hrun, rfl, ?_⟩
    have hreset : Reaches env calls destructor (.initializing (.destroy .reset) thread) s :=
      hs.initialize (.refl s) fun m hm => .destroy (.present (hm.trans hconn))
    have hclosing : Reaches env calls destructor (.initializing (.destroy .closing) thread)
        { s with events := s.events ++ [.close], m_connection := none } :=
      hreset.initializeStep (Nat.le_refl _) (sent_close s) fun m _ => .destroy .reset
    exact hclosing.initialize (.refl _) fun m _ => .destroyed .closed

/-- So does the creation. -/
theorem createConnection_reaches {setup : ClientSetup} (thread : ClientThread) :
    Hoare (fun s => s.m_connection = none ∧
        Reaches env calls destructor (.initializing (.create .test) thread) s)
      (createConnection setup env)
      (fun _ => Reaches env calls destructor (.initializing (.isConnected .enter) thread)) NotCaught := by
  refine .of_ok ?_
  rintro s ⟨hnone, hs⟩
  rcases createConnection_cases setup env s with ⟨hconn, _⟩ | ⟨_, hrun⟩
  · rw [HasConnection, hnone] at hconn
    cases hconn
  · refine ⟨_, _, hrun.trans (construct_run env setup.connectionParam s), ?_⟩
    have habsent : s.m_connection.isSome = false := by
      rw [hnone]
      rfl
    have hopening : Reaches env calls destructor (.initializing (.create .opening) thread) s :=
      hs.initialize (.refl s) fun m hm => .create (.absent (hm.trans habsent))
    have hstore : Reaches env calls destructor (.initializing (.create .store) thread) s :=
      hopening.initialize (.refl s) fun m _ => .create .opened
    exact hstore.initializeStep (Nat.le_succ _) (sent_opened _ s) fun m _ => .created .store

/-- Such statements leave the threads where they are. -/
theorem reaches_of_unsent {α : Type} {x : ClientM α} {E : Abort → ClientState → Prop}
    {stage : Stage} (hx : ∀ s₀, Hoare (Unsent s₀) x (fun _ => Unsent s₀) E) :
    Hoare (Reaches env calls destructor stage) x (fun _ => Reaches env calls destructor stage) E := by
  intro s hs
  rcases hx s s (.refl s) with ⟨hok, herror⟩
  exact ⟨fun a s' hrun => hs.unsent (hok a s' hrun), herror⟩

/-! ### The stop order -/

/-- An order that has been given stays. -/
def OrderKept (env : Environment) : Prop :=
  ∀ n, env.stopOrder n = true → env.stopOrder (n + 1) = true

/-- A thread that has seen the order to stop can see it again. -/
theorem OrderKept.seen (h : OrderKept env) (hseen : env.stopOrder s.calls = true) :
    OrderSeen env s := by
  intro n hn
  induction n, hn using Nat.le_induction with
  | base => exact hseen
  | succ n _ ih => exact h n ih

/-- Whoever calls `stop` now gives the order at once, and then waits. -/
theorem Reaches.callStop {stage : Stage} (h : Reaches env calls destructor stage s) :
    Ran calls false (sent s.events).length
      (stage.threads (.stop destructor .testJoinable) true s.m_connection.isSome) := by
  rcases h with ⟨control, m_stopOrder, started, hattends, hran⟩
  cases hattends with
  | stopping _ => exact hran
  | idle _ =>
    have hcalled : Ran calls false (sent s.events).length
        (stage.threads (.stop destructor .setStopOrder) m_stopOrder s.m_connection.isSome) := by
      cases destructor with
      | true =>
        cases stage with
        | launching pc => exact hran.step (.control .callDestructor) rfl
        | reading pc => exact hran.step (.control .callDestructor) rfl
      | false =>
        cases stage with
        | launching pc => exact hran.step (.control .callStop) rfl
        | reading pc => exact hran.step (.control .callStop) rfl
    cases stage with
    | launching pc => exact hcalled.internal (.control .setStopOrder)
    | reading pc => exact hcalled.internal (.control .setStopOrder)

/-- The test of the order to stop: the thread ends its initialisation or goes on. -/
theorem stopOrder_reaches (horder : OrderKept env) (thread : ClientThread) :
    Hoare (Reaches env calls destructor (.initializing .testStopOrder thread)) (ask env.stopOrder)
      (fun ordered => if ordered then Reaches env calls destructor (.initialized thread)
        else Reaches env calls destructor (.initializing (.isStillConnected .enter) thread))
      NotCaught := by
  refine .of_ok fun s hs => ⟨_, _, rfl, ?_⟩
  have hlater : s.calls ≤ s.calls + 1 := Nat.le_succ _
  cases hanswer : env.stopOrder s.calls with
  | true =>
    have hseen : OrderSeen env s := horder.seen hanswer
    refine ⟨_, true, false, .stopping fun n hn => hseen n (hlater.trans hn), ?_⟩
    exact hs.callStop.internal (InitializeStep.threadReturn thread
      (fun _ hordered => .stopOrdered hordered) (.stop destructor .testJoinable))
  | false =>
    -- the order has not been given, or it would have been seen
    rcases hs with ⟨control, m_stopOrder, started, hattends, hran⟩
    cases m_stopOrder with
    | true =>
      have hseen : OrderSeen env s := by
        cases hattends with
        | idle hseen => exact hseen rfl
        | stopping hseen => exact hseen
      rw [hseen s.calls (Nat.le_refl _)] at hanswer
      cases hanswer
    | false =>
      refine ⟨control, false, started, hattends.later hlater, hran.internal ?_⟩
      cases thread with
      | launch => exact .launch rfl (.initializing (.notOrdered rfl))
      | reading => exact .reading rfl (.initializing (.notOrdered rfl))

/-- The test at the end of a round, and the rounds that follow. -/
theorem initializeConnection_reaches {plat : Platform} {setup : ClientSetup}
    (horder : OrderKept env) (thread : ClientThread) (fuel rounds : Nat) :
    Hoare (Reaches env calls destructor (.initializing (.destroy .test) thread))
      (initializeConnection plat setup env fuel rounds)
      (fun _ => Reaches env calls destructor (.initialized thread)) NotCaught := by
  induction rounds with
  | zero => exact .throw fun _ _ => rfl
  | succ rounds ih =>
    refine .bind (destroyConnection_reaches thread) fun _ => ?_
    refine .bind (createConnection_reaches thread) fun _ => .bind deref_keeps fun _ => ?_
    have hasked : Hoare (Reaches env calls destructor (.initializing (.isConnected .enter) thread))
        (isConnected env)
        (fun _ => Reaches env calls destructor (.initializing (.isConnected .inside) thread)) NotCaught :=
      .of_ok fun s hs => ⟨_, _, isConnected_run env s,
        hs.initialize (unsent_afterGetState s) fun _ _ => .askConnected⟩
    have hloop : Hoare (Reaches env calls destructor (.initializing .sleep thread)) (do
          if ! (← ask env.stopOrder) then
            let _ ← deref
            if ! (← isConnected env) then
              initializeConnection plat setup env fuel rounds)
        (fun _ => Reaches env calls destructor (.initialized thread)) NotCaught := by
      refine Hoare.weaken (.bind (stopOrder_reaches horder thread) fun ordered => ?_)
        fun s hs => hs.initialize (.refl s) fun _ _ => .slept
      cases ordered with
      | true => exact .pure fun _ hs => hs
      | false =>
        have hstill : Hoare
            (Reaches env calls destructor (.initializing (.isStillConnected .enter) thread))
            (isConnected env)
            (fun _ => Reaches env calls destructor (.initializing (.isStillConnected .inside) thread))
            NotCaught :=
          .of_ok fun s hs => ⟨_, _, isConnected_run env s,
            hs.initialize (unsent_afterGetState s) fun _ _ => .askStillConnected⟩
        refine .bind deref_keeps fun _ => .bind hstill fun connected => ?_
        cases connected with
        | true =>
          refine .pure fun s hs => hs.goOn fun control m_stopOrder => ?_
          exact InitializeStep.threadReturn thread (fun _ _ => .stillConnected) control
        | false => exact ih.weaken fun s hs => hs.initialize (.refl s) fun _ _ => .again
    refine .bind hasked fun connected => ?_
    cases connected with
    | false => exact hloop.weaken fun s hs => hs.initialize (.refl s) fun _ _ => .notConnected
    | true =>
      -- the requests of the building are one step, whatever they are
      have hbuilding : Hoare (Reaches env calls destructor (.initializing (.buildTrees .inside) thread))
          (buildConfigurationNameTrees plat setup env fuel)
          (fun _ => Reaches env calls destructor (.initializing (.buildTrees .inside) thread)) NotCaught :=
        reaches_of_unsent fun _ => buildConfigurationNameTrees_unsent fuel
      refine .bind (hbuilding.weaken fun s hs => ?_) fun _ => hloop.weaken fun s hs => ?_
      · have henter : Reaches env calls destructor (.initializing (.buildTrees .enter) thread) s :=
          hs.initialize (.refl s) fun _ _ => .connected
        exact henter.initialize (.refl s) fun _ _ => .request
      · exact hs.initialize (.refl s) fun _ _ => .built

/-! ### Reading -/

/-- Between two items. -/
def betweenItems : List Stage := [.reading (.read .enter), .reading .sleep]

/-- An item has been read, and there may be something to send. -/
def afterReading : List Stage := [.reading .ingest, .reading (.read .enter), .reading .sleep]

variable (env calls destructor) in
/-- Where an exception is caught, the thread sleeps. -/
def SleepsIfCaught (e : Abort) (s : ClientState) : Prop :=
  e.isCaught = true → Reaches env calls destructor (.reading .sleep) s

/-- What is not caught has no statement to follow. -/
theorem NotCaught.sleeps (e : Abort) (s : ClientState) (h : NotCaught e s) :
    SleepsIfCaught env calls destructor e s := by
  intro hcaught
  rw [h] at hcaught
  cases hcaught

/-- A statement of the reading loop that sends nothing. -/
theorem Reaches.read {pc pc' : ReadingPc} (h : Reaches env calls destructor (.reading pc) s)
    (hsame : Unsent s s') (hstep : ∀ m : Memory, m.m_isMmsReadingActivated = true →
      ReadingStep m pc .internal m pc') : Reaches env calls destructor (.reading pc') s' :=
  (h.goOn fun _ _ => .reading rfl (hstep _ rfl)).unsent hsame

/-- Behind a request, anything may follow that follows a reading. -/
theorem Reaches.afterRead (h : Reaches env calls destructor (.reading (.read .inside)) s) :
    CanBe env calls destructor afterReading s := by
  rintro stage (_ | ⟨_, _ | ⟨_, _ | ⟨_, ⟨⟩⟩⟩⟩)
  · exact h.read (.refl s) fun _ _ => .converted
  · exact h.read (.refl s) fun _ _ => .nothingToSend
  · exact h.read (.refl s) fun _ _ => .endOfCycle

/-- Between two items, the next request may be made. -/
theorem CanBe.enter (h : CanBe env calls destructor betweenItems s) :
    Reaches env calls destructor (.reading (.read .enter)) s := h _ (by simp [betweenItems])

/-- Between two items, the loop may be at its end. -/
theorem CanBe.ends (h : CanBe env calls destructor betweenItems s) :
    Reaches env calls destructor (.reading .sleep) s := h _ (by simp [betweenItems])

/-- Behind a reading, `ingest` may be called. -/
theorem CanBe.ingests (h : CanBe env calls destructor afterReading s) :
    Reaches env calls destructor (.reading .ingest) s := h _ (by simp [afterReading])

/-- Behind a reading, the next item may be next. -/
theorem CanBe.nextItem (h : CanBe env calls destructor afterReading s) :
    CanBe env calls destructor betweenItems s :=
  fun stage hmem => h stage (List.mem_cons_of_mem _ hmem)

/-- A Datapoint is handed over. -/
theorem Reaches.ingest {pc' : ReadingPc} (h : Reaches env calls destructor (.reading .ingest) s)
    (hstep : ∀ m : Memory, ReadingStep m .ingest .ingest m pc') (readingAssetName : String)
    (datapoint : Datapoint) :
    Reaches env calls destructor (.reading pc')
      { s with events := s.events ++ [.ingest readingAssetName datapoint] } := by
  rcases h with ⟨control, m_stopOrder, started, hattends, hran⟩
  refine ⟨control, m_stopOrder, started, hattends.later (Nat.le_refl _), ?_⟩
  have hmonitor : startMonitor started .ingest = some started := by cases started <;> rfl
  rw [sent_append, List.length_append]
  exact hran.step (.reading rfl (hstep _)) hmonitor

/-- A call of `ingest` goes back to where it came from. -/
theorem CanBe.ingest (h : CanBe env calls destructor afterReading s) (readingAssetName : String)
    (datapoint : Datapoint) :
    CanBe env calls destructor afterReading
      { s with events := s.events ++ [.ingest readingAssetName datapoint] } := by
  rintro stage (_ | ⟨_, _ | ⟨_, _ | ⟨_, ⟨⟩⟩⟩⟩)
  · exact h.ingests.ingest (fun _ => .sentMember) readingAssetName datapoint
  · exact h.ingests.ingest (fun _ => .sentItem) readingAssetName datapoint
  · exact h.ingests.ingest (fun _ => .sentLast) readingAssetName datapoint

section Reading

variable {plat : Platform} {setup : ClientSetup}

/-- Sending a Datapoint calls `ingest`, or does nothing. -/
theorem sendData_reaches (datapoint : Option Datapoint) :
    Hoare (CanBe env calls destructor afterReading) (sendData setup datapoint)
      (fun _ => CanBe env calls destructor afterReading) (SleepsIfCaught env calls destructor) := by
  cases datapoint with
  | none => exact .pure fun _ hs => hs
  | some datapoint => exact .ite (.modify fun s hs => hs.ingest _ _) (.pure fun _ hs => hs)

/-- A conversion, or another computation that may throw. -/
theorem liftExcept_reaches {α : Type} (x : Except Abort α) :
    Hoare (CanBe env calls destructor afterReading) (liftExcept x)
      (fun _ => CanBe env calls destructor afterReading)
      (SleepsIfCaught env calls destructor) := by
  cases x with
  | ok a => exact .of_ok fun s hs => ⟨a, s, rfl, hs⟩
  | error e => exact .throw fun s hs _ => hs.nextItem.ends

/-- `readDO` and `readDataset` are one statement of the thread. -/
theorem askRead_reaches : Hoare (Reaches env calls destructor (.reading (.read .enter)))
    (isConnected env) (fun _ => Reaches env calls destructor (.reading (.read .inside))) NotCaught :=
  .of_ok fun s hs => ⟨_, _, isConnected_run env s,
    hs.read (unsent_afterGetState s) fun _ _ => .read⟩

/-- A request of values, behind which anything may follow that follows a reading. -/
theorem requestRead_reaches {α : Type} {event : Event} (hevent : sent [event] = [])
    (answer : Nat → α × IedClientError) :
    Hoare (Reaches env calls destructor (.reading (.read .inside))) (request event answer)
      (fun _ => CanBe env calls destructor afterReading) NotCaught :=
  (reaches_of_unsent fun _ => request_unsent hevent answer).post fun _ _ hs => hs.afterRead

/-- The reading of one DO goes from between two items to between two items. -/
theorem readAndExportDO_reaches (dpConfig : DatapointConfig) :
    Hoare (CanBe env calls destructor betweenItems) (readAndExportDO plat setup env dpConfig)
      (fun _ => CanBe env calls destructor betweenItems) (SleepsIfCaught env calls destructor) := by
  have hread : Hoare (CanBe env calls destructor betweenItems)
      (readDO env dpConfig.dataPath dpConfig.functionalConstraint)
      (fun _ => CanBe env calls destructor afterReading) (SleepsIfCaught env calls destructor) := by
    refine Hoare.error ?_ NotCaught.sleeps
    refine .bind (askRead_reaches.weaken fun _ hs => hs.enter) fun connected => ?_
    exact .ite (.pure fun _ hs => hs.afterRead)
      (.bind (requestRead_reaches rfl _) fun _ => .pure fun _ hs => hs)
  refine .bind (deref_keeps.error NotCaught.sleeps) fun _ => .bind hread fun wrapped_mms => ?_
  cases wrapped_mms with
  | none => exact .pure fun _ hs => hs.nextItem
  | some wrapped_mms =>
    refine .bind (liftExcept_reaches _) fun datapoint => ?_
    exact (sendData_reaches datapoint).post fun _ _ hs => hs.nextItem

/-- So does the reading of one dataset. -/
theorem readAndExportOneDataset_reaches (datasetRef : String) (exchangedDataset : ExchangedData) :
    Hoare (CanBe env calls destructor betweenItems)
      (readAndExportOneDataset plat setup env datasetRef exchangedDataset)
      (fun _ => CanBe env calls destructor betweenItems) (SleepsIfCaught env calls destructor) := by
  have hread : Hoare (CanBe env calls destructor betweenItems) (readDataset env datasetRef)
      (fun _ => CanBe env calls destructor afterReading) (SleepsIfCaught env calls destructor) := by
    refine .bind ((askRead_reaches.weaken fun _ hs => hs.enter).error NotCaught.sleeps)
      fun connected => ?_
    refine .ite (.pure fun _ hs => hs.afterRead) ?_
    refine .bind ((requestRead_reaches rfl _).error NotCaught.sleeps) fun readDataset => ?_
    exact .bind (liftExcept_reaches _) fun _ => .pure fun _ hs => hs
  have hmember : ∀ member, Hoare (CanBe env calls destructor afterReading) (exportMember plat setup member)
      (fun _ => CanBe env calls destructor afterReading) (SleepsIfCaught env calls destructor) :=
    fun member => .ite (.bind (liftExcept_reaches _) fun datapoint => sendData_reaches datapoint)
      (.pure fun _ hs => hs)
  refine .bind (deref_keeps.error NotCaught.sleeps) fun _ => .bind hread fun wrapped_mms => ?_
  refine .bind (liftExcept_reaches _) fun _ => .bind (liftExcept_reaches _) fun elements => ?_
  exact (Hoare.forM fun member _ => hmember member).post fun _ _ hs => hs.nextItem

/-- The body of the reading loop ends at its sleep. -/
theorem readAndExportMms_reaches (horder : OrderKept env) (fuel rounds : Nat) :
    Hoare (Reaches env calls destructor (.reading (.isConnected .enter)))
      (readAndExportMms plat setup env fuel rounds)
      (fun _ => Reaches env calls destructor (.reading .sleep)) (SleepsIfCaught env calls destructor) := by
  have hasked : Hoare (Reaches env calls destructor (.reading (.isConnected .enter))) (isConnected env)
      (fun _ => Reaches env calls destructor (.reading (.isConnected .inside))) NotCaught :=
    .of_ok fun s hs => ⟨_, _, isConnected_run env s,
      hs.read (unsent_afterGetState s) fun _ _ => .askConnected⟩
  refine .bind (deref_keeps.error NotCaught.sleeps) fun _ => ?_
  refine .bind (hasked.error NotCaught.sleeps) fun connected => ?_
  cases connected with
  | false =>
    have hagain : Hoare (Reaches env calls destructor (.reading (.initializing (.destroy .test))))
        (initializeConnection plat setup env fuel rounds)
        (fun _ => Reaches env calls destructor (.reading .sleep)) NotCaught :=
      initializeConnection_reaches horder .reading fuel rounds
    exact (hagain.weaken fun s hs => hs.read (.refl s) fun _ _ => .notConnected).error
      NotCaught.sleeps
  | true =>
    refine .bind (deref_keeps.error NotCaught.sleeps) fun connection => ?_
    -- between the test and the items, the thread only asks whether an error is pending
    have htested : ∀ s, Reaches env calls destructor (.reading (.isConnected .inside)) s →
        Reaches env calls destructor (.reading (.isNoError .inside)) s := by
      intro s hs
      have henter : Reaches env calls destructor (.reading (.isNoError .enter)) s :=
        hs.read (.refl s) fun _ _ => .connected
      exact henter.read (.refl s) fun _ _ => .askNoError
    have hitems : ∀ s, Reaches env calls destructor (.reading (.isConnected .inside)) s →
        CanBe env calls destructor betweenItems s := by
      rintro s hs stage (_ | ⟨_, _ | ⟨_, ⟨⟩⟩⟩)
      · exact (htested s hs).read (.refl s) fun _ _ => .noError
      · exact (htested s hs).read (.refl s) fun _ _ => .nothingToRead
    refine .ite (.modify fun s hs => ?_) ?_
    · have henter : Reaches env calls destructor (.reading (.logError .enter)) s :=
        (htested s hs).read (.refl s) fun _ _ => .error
      have hinside : Reaches env calls destructor (.reading (.logError .inside)) s :=
        henter.read (.refl s) fun _ _ => .log
      refine hinside.read ⟨Nat.le_refl _, ?_, rfl⟩ fun _ _ => .logged
      rw [sent_append]
      exact List.append_nil _
    -- both modes go round in the one loop over items that the step relation has
    · cases hmode : setup.applicationParams.readMode with
      | DATASET_READING =>
        refine Hoare.bind (.get hitems) fun t => ?_
        exact (Hoare.forM fun it _ => readAndExportOneDataset_reaches it.1 it.2).post
          fun _ _ hs => hs.ends
      | DO_READING =>
        refine Hoare.bind (.get hitems) fun t => ?_
        exact (Hoare.forM fun dpConfig _ => readAndExportDO_reaches dpConfig).post
          fun _ _ hs => hs.ends

/-- A round of `readMmsLoop`. -/
theorem Reaches.pollCycle (horder : OrderKept env) {fuel rounds : Nat}
    (h : Reaches env calls destructor (.reading .testActivated) s)
    (hrun : pollCycle plat setup env fuel rounds s = .ok ⟨⟩ s') :
    Reaches env calls destructor (.reading .testActivated) s' := by
  have hbegins : Reaches env calls destructor (.reading (.isConnected .enter)) s :=
    h.read (.refl s) fun _ hactivated => .activated hactivated
  have hread : Hoare (Reaches env calls destructor (.reading (.isConnected .enter)))
      (readAndExportMms plat setup env fuel rounds)
      (fun _ => Reaches env calls destructor (.reading .sleep)) (SleepsIfCaught env calls destructor) :=
    readAndExportMms_reaches horder fuel rounds
  rcases hread s hbegins with ⟨hok, herror⟩
  have hsleeps : Reaches env calls destructor (.reading .sleep) s' := by
    rw [Iec61850South.pollCycle] at hrun
    cases hmms : readAndExportMms plat setup env fuel rounds s with
    | ok _ t =>
      rw [hmms] at hrun
      cases hrun
      exact hok _ _ hmms
    | error e t =>
      rw [hmms] at hrun
      cases hcaught : e.isCaught with
      | true =>
        simp only [hcaught, if_true] at hrun
        cases hrun
        exact herror e _ hmms hcaught
      | false =>
        simp only [hcaught] at hrun
        cases hrun
  exact hsleeps.read (.refl s') fun _ _ => .slept

end Reading

/-! ### `start` and `stop` -/

/-- `launch` up to `initializeConnection`. -/
theorem Ran.launch {m_stopOrder : Bool} (h : Ran calls false (sent s.events).length
      (restingThreads .idle m_stopOrder s.m_connection.isSome))
    (hseen : m_stopOrder = true → OrderSeen env s) :
    Reaches env (.callStart :: calls) destructor (.launching (.initializing (.destroy .test))) s := by
  have hcalled : Ran (.callStart :: calls) true (sent s.events).length
      (restingThreads (.start .spawn) m_stopOrder s.m_connection.isSome) :=
    h.step (.control .callStart) rfl
  have hspawned := hcalled.internal (.control .spawn)
  exact ⟨.idle, m_stopOrder, true, .idle hseen, hspawned.internal (.control .assign)⟩

/-- The rest of `launch`: the reading thread is created. -/
theorem Reaches.startMmsReading (h : Reaches env calls destructor (.launching .activate) s) :
    Reaches env calls destructor (.reading .testActivated) s := by
  rcases h with ⟨control, m_stopOrder, started, hattends, hran⟩
  have hactivated := hran.internal (.launch rfl .activate)
  have hspawned := hactivated.internal (.launch rfl .spawn)
  have hassigned := hspawned.internal (.launch rfl .assign)
  have hreading : Reaches env calls destructor (.reading .testNull) s :=
    ⟨control, m_stopOrder, started, hattends, hassigned⟩
  exact hreading.read (.refl s) fun _ _ => .testNull

/-- `stop` joins the launch thread, and then the reading thread. -/
theorem Reaches.joined (h : Reaches env calls destructor (.reading .testActivated) s) :
    Ran calls false (sent s.events).length
      (restingThreads (.stop destructor (.destroy .test)) true s.m_connection.isSome) := by
  have hjoinable := h.callStop.internal (.control (.joinable rfl))
  have hlaunch := hjoinable.internal (.control (.joinLaunch rfl))
  have htested := hlaunch.internal (.control (.activated rfl))
  have hcleared := htested.internal (.control .clearActivated)
  have hdone := hcleared.internal (.reading rfl (.deactivated rfl))
  exact hdone.internal (.control (.joinReading rfl))

/-- `stop` of a client that has not been started. -/
theorem Ran.notStarted {m_stopOrder c : Bool} {readings : Nat}
    (h : Ran calls false readings (restingThreads .idle m_stopOrder c)) :
    Ran calls false readings (restingThreads (.stop destructor (.destroy .test)) true c) := by
  have hcalled : Ran calls false readings
      (restingThreads (.stop destructor .setStopOrder) m_stopOrder c) := by
    cases destructor with
    | true => exact h.step (.control .callDestructor) rfl
    | false => exact h.step (.control .callStop) rfl
  have hordered := hcalled.internal (.control .setStopOrder)
  have hnothing := hordered.internal (.control (.notJoinable rfl))
  exact hnothing.internal (.control (.notActivated rfl))

/-- The end of `stop`. -/
theorem Ran.destroyConnection
    (h : Ran calls false (sent s.events).length
      (restingThreads (.stop destructor (.destroy .test)) true s.m_connection.isSome))
    (hrun : destroyConnection s = .ok ⟨⟩ s') :
    Ran (.stopReturns :: calls) false (sent s'.events).length
      (restingThreads (if destructor then .gone else .idle) true s'.m_connection.isSome) := by
  rcases destroyConnection_cases s with ⟨hnone, hrun'⟩ | ⟨hconn, hrun'⟩
  · rw [hrun] at hrun'
    cases hrun'
    have habsent : s.m_connection.isSome = false := by
      rw [hnone]
      rfl
    rw [habsent] at h ⊢
    exact h.step (.control (.returns (.absent rfl))) rfl
  · rw [hrun] at hrun'
    cases hrun'
    have hpresent : s.m_connection.isSome = true := hconn
    rw [hpresent] at h
    have hpointer := h.internal (.control (.destroy (.present rfl)))
    have hreset := hpointer.internal (.control (.destroy .reset))
    rw [sent_append, List.length_append]
    exact hreset.step (.control (.returns .closed)) rfl

end Functions

/-! ## Histories are runs -/

section Runs

variable {plat : Platform} {setup : ClientSetup} {env : Environment} {activity : Activity}
  {calls : List Label} {s : ClientState}

/-- The threads have run as far as the client, and do what it does. -/
def Activity.Follows (env : Environment) (calls : List Label) (s : ClientState) : Activity → Prop
  | .idle => ∃ m_stopOrder, (m_stopOrder = true → OrderSeen env s) ∧
    Ran calls false (sent s.events).length (restingThreads .idle m_stopOrder s.m_connection.isSome)
  | .reading => ∀ destructor, Reaches env calls destructor (.reading .testActivated) s
  | .gone => Ran calls false (sent s.events).length (restingThreads .gone true s.m_connection.isSome)

/-- By induction on the history: each call of the first model is a stretch of a run. -/
theorem ClientHistory.follows (horder : OrderKept env)
    (h : ClientHistory plat setup env activity calls s) : activity.Follows env calls s := by
  induction h with
  | constructed exchangedData => exact ⟨false, by simp, [], .nil _, rfl, rfl, rfl⟩
  | @launched calls fuel rounds s s' _ hrun ih =>
    intro destructor
    rcases ih with ⟨m_stopOrder, hseen, hran⟩
    have hconnects : Hoare
        (Reaches env (.callStart :: calls) destructor (.launching (.initializing (.destroy .test))))
        (initializeConnection plat setup env fuel rounds)
        (fun _ => Reaches env (.callStart :: calls) destructor (.launching .activate)) NotCaught :=
      initializeConnection_reaches horder .launch fuel rounds
    exact ((hconnects s (hran.launch hseen)).1 _ s' hrun).startMmsReading
  | cycle _ hrun ih => exact fun destructor => (ih destructor).pollCycle horder hrun
  | @stopped activity calls s s' destructor hgone _ hseen hrun ih =>
    -- `stop` joins whichever threads there are, and then destroys the connection
    have hjoined : Ran calls false (sent s.events).length
        (restingThreads (.stop destructor (.destroy .test)) true s.m_connection.isSome) := by
      cases activity with
      | idle =>
        rcases ih with ⟨_, _, hran⟩
        exact hran.notStarted
      | reading => exact (ih destructor).joined
      | gone => exact absurd rfl hgone
    have hreturns := hjoined.destroyConnection hrun
    have hcalls : s'.calls = s.calls := by
      rcases destroyConnection_cases s with ⟨_, hrun'⟩ | ⟨_, hrun'⟩
      · rw [hrun] at hrun'
        cases hrun'
        rfl
      · rw [hrun] at hrun'
        cases hrun'
        rfl
    cases destructor with
    | true => exact hreturns
    | false =>
      refine ⟨true, fun _ n hn => hseen n ?_, hreturns⟩
      rwa [← hcalls]

/-- Where the threads of a client are between the calls of its functions. -/
def Activity.Shows (t : ClientThreads) : Activity → Prop
  | .idle => t.control = .idle ∧ t.launch = none ∧ t.reading = none
  | .reading => t.reading = some .testActivated ∧ t.memory.m_isMmsReadingActivated = true
  | .gone => t.control = .gone ∧ t.launch = none ∧ t.reading = none

/-- **What the functions of a client compute is a run of its threads**, provided that an
order to stop is never taken back: the threads are started and stopped as the client is,
come to where it is, leave the same connection behind, and have handed over as many
readings. -/
theorem client_history_is_run (horder : OrderKept env)
    (h : ClientHistory plat setup env activity calls s) :
    ∃ ls t, Run ThreadStep {} ls t ∧ StartsOnce ls ∧ ls.filter Label.delimits = calls.reverse ∧
      activity.Shows t ∧ t.memory.m_connection = s.m_connection.isSome ∧
      ls.count .ingest = (sent s.events).length := by
  have hshown : ∃ started t, Ran calls started (sent s.events).length t ∧ activity.Shows t ∧
      t.memory.m_connection = s.m_connection.isSome := by
    have hfollows : activity.Follows env calls s := h.follows horder
    cases activity with
    | idle =>
      rcases hfollows with ⟨_, _, hran⟩
      exact ⟨_, _, hran, ⟨rfl, rfl, rfl⟩, rfl⟩
    | reading =>
      rcases hfollows false with ⟨_, _, _, _, hran⟩
      exact ⟨_, _, hran, ⟨rfl, rfl⟩, rfl⟩
    | gone => exact ⟨_, _, hfollows, ⟨rfl, rfl, rfl⟩, rfl⟩
  rcases hshown with ⟨started, t, ⟨ls, hrun, hmonitor, hcalls, hreadings⟩, hshows, hconnection⟩
  refine ⟨ls, t, hrun, ?_, ?_, hshows, hconnection, hreadings⟩
  · rw [StartsOnce, hmonitor]
    rfl
  · rw [← hcalls, List.reverse_reverse]

/-- A launch and one cycle. -/
theorem polledOnce_history :
    ClientHistory (.withDocuments []) (smallSetup .DO_READING []) smallIed .reading [.callStart]
      polledOnce := by
  rw [polledOnce]
  have hlaunched : ClientHistory (.withDocuments []) (smallSetup .DO_READING []) smallIed .reading
      [.callStart] (launched (smallSetup .DO_READING []) smallIed [smallDO "TS1" "SPSSO1"]) :=
    .launched (.constructed _) (eq_ok_of_returned (by decide +kernel))
  exact .cycle hlaunched (eq_ok_of_returned (by decide +kernel))

/-- The cycle has sent one reading. -/
theorem polledOnce_sent : (sent polledOnce.events).length = 1 := by
  rw [polledOnce]
  decide +kernel

/-- The same launch and cycle in the model of the threads. -/
theorem client_history_is_run_sample : ∃ ls t, Run ThreadStep {} ls t ∧ StartsOnce ls ∧
    ls.filter Label.delimits = [.callStart] ∧ Activity.reading.Shows t ∧
    t.memory.m_connection = true ∧ ls.count .ingest = 1 := by
  rw [← polledOnce_up.1, ← polledOnce_sent]
  exact client_history_is_run (fun _ h => h) polledOnce_history

end Runs

end Iec61850South
