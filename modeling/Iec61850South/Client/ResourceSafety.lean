import Iec61850South.Client.DatasetLabels
import Iec61850South.Client.Resources

/-! # What is left of the calls of a client

Over the whole life of a client: the connection and the objects of libiec61850 are
used only between their creation and their deletion, the mutex is locked around each
request and free afterwards, and what is never deleted are the lists of the dataset
directories. Two attempts to connect are a second apart.
-/

namespace Iec61850South

open Lib Std

namespace Library

/-! ## The name trees -/

section NameTrees

variable {plat : Platform} {setup : ClientSetup} {env : Environment} {fuel : Nat}
  {connection : Option Address} {due : Nat}

/-- `m_connection->` gives the connection that is held. -/
theorem deref_hoare {h : Holding} :
    Hoare (Owns h) deref (fun a s => h.connection = some a ∧ Owns h s) Uncaught := by
  refine .bind (R := fun _ s => Owns h s ∧ s.client.m_connection.isSome = true) ?_ fun _ => ?_
  · intro s hs
    cases hconn : s.client.m_connection with
    | none =>
      have hrun : lift Iec61850South.deref s = .error (.fault .nullConnection) s := by
        rw [lift, zoom, deref_run_none hconn]
      rw [hrun]
      refine ⟨fun a s' heq => (by cases heq), ?_⟩
      intro e s' heq
      cases heq
      rfl
    | some c =>
      have hrun : lift Iec61850South.deref s = .ok c s := by
        rw [lift, zoom, deref_run hconn]
      rw [hrun]
      refine ⟨?_, fun e s' heq => (by cases heq)⟩
      intro a s' heq
      cases heq
      exact ⟨hs, by rw [hconn]; rfl⟩
  · refine .of_ok fun s hs => ⟨s.m_iedConnection, s, rfl, ?_, hs.1⟩
    have hsome : h.connection.isSome = true := hs.1.connection.1.symm.trans hs.2
    rcases Option.isSome_iff_exists.mp hsome with ⟨a, ha⟩
    rw [ha, hs.1.connection.2 a ha]

/-- Between the calls no local variable is held, so that the mutex is free. -/
theorem ready_between {a : Address} (ha : connection = some a) : Ready a ⟨[], connection, due⟩ :=
  ⟨ha, List.not_mem_nil⟩

/-- The name tree of one DO leaves what is held as it was. -/
theorem buildDatapointNameTree_calm (dpConfig : DatapointConfig) :
    Calm ⟨[], connection, due⟩ (buildDatapointNameTree env fuel dpConfig) := by
  refine Hoare.bind deref_hoare fun a => .fact fun ha => ?_
  exact .bind (buildNameTree_calm (ready_between ha) fuel _ _ _) fun _ => .pure fun _ hs => hs

/-- So does that of one member of a dataset. -/
theorem buildMember_calm (selection : ExchangedData) (doPathWithFC : String) :
    Calm ⟨[], connection, due⟩ (buildMember plat env fuel selection doPathWithFC) := by
  refine .bind (lift_calm fun b => .liftExcept fun e he => ?_) fun parts => ?_
  · -- the positions given to `substr` are always within the string
    rcases splitDoPathWithFC_returns doPathWithFC with ⟨parts, hparts⟩
    rw [hparts] at he
    cases he
  · refine Hoare.bind deref_hoare fun a => .fact fun ha => ?_
    exact .bind (buildNameTree_calm (ready_between ha) fuel _ _ _) fun _ => .pure fun _ hs => hs

/-- So does a dataset, with the list of its directory. -/
theorem buildDataset_calm (datasetRef : String) (selection : ExchangedData) :
    Calm ⟨[], connection, due⟩ (buildDataset plat env fuel datasetRef selection) := by
  refine Hoare.bind deref_hoare fun a => .fact fun ha => ?_
  refine .bind (getDoPathListWithFCFromDataset_calm (ready_between ha) datasetRef) fun _ => ?_
  exact .bind (.mapM (buildMember_calm selection)) fun _ => lift_calm fun b => .modify fun _ hc => hc

/-- So does the whole building. -/
theorem buildConfigurationNameTrees_calm :
    Calm ⟨[], connection, due⟩ (buildConfigurationNameTrees plat setup env fuel) := by
  refine Hoare.bind (R := fun _ => Owns ⟨[], connection, due⟩) (.get fun _ hs => hs) fun s => ?_
  refine .bind (.mapM buildDatapointNameTree_calm) fun exchangedData => ?_
  refine .bind (lift_calm fun b => .modify fun _ hc => hc) fun _ => .forM ?_
  intro selectionEntry _
  exact buildDataset_calm selectionEntry.1 selectionEntry.2

end NameTrees

/-! ## Connections -/

section Connections

variable {setup : ClientSetup} {env : Environment} {h : Holding} {s : LibraryState}

/-- A connect makes a second due before the next one. -/
theorem Owns.connect (hs : Owns h s) (hdue : h.due = 0) :
    Owns { h with due := SECOND_IN_MILLISEC } { s with connects := s.connects ++ [s.slept] } := by
  have hrested : ∀ t ∈ s.connects, t + SECOND_IN_MILLISEC ≤ s.slept := by
    intro t ht
    have hle := hs.rested t ht
    rw [hdue] at hle
    exact hle
  refine ⟨hs.live, hs.fresh, hs.connection, ?_, ?_, hs.locked⟩
  · rw [List.pairwise_append]
    refine ⟨hs.spaced, List.pairwise_singleton _ _, ?_⟩
    intro t ht t' ht'
    rw [List.mem_singleton.mp ht']
    exact hrested t ht
  · intro t ht
    rcases List.mem_append.mp ht with ht | ht
    · exact (hrested t ht).trans (Nat.le_add_right _ _)
    · rw [List.mem_singleton.mp ht]

/-- Sleep pays off what is due. -/
theorem Owns.sleep (hs : Owns h s) (timespan : Nat) :
    Owns { h with due := h.due - timespan } { s with slept := s.slept + timespan } := by
  refine ⟨hs.live, hs.fresh, hs.connection, hs.spaced, ?_, hs.locked⟩
  intro t ht
  have hle : t + SECOND_IN_MILLISEC ≤ s.slept + h.due := hs.rested t ht
  show t + SECOND_IN_MILLISEC ≤ s.slept + timespan + (h.due - timespan)
  omega

/-- The sleep after an attempt to connect. -/
theorem reconnection_hoare {connection : Option Address} :
    Hoare (Owns ⟨[], connection, SECOND_IN_MILLISEC⟩)
      (sleep_for (SECOND_IN_MILLISEC / RECONNECTION_FREQUENCY_IN_HERTZ))
      (fun _ => Owns ⟨[], connection, 0⟩) Uncaught := by
  have htimespan : SECOND_IN_MILLISEC / RECONNECTION_FREQUENCY_IN_HERTZ = SECOND_IN_MILLISEC :=
    Nat.div_one _
  rw [htimespan]
  refine .modify fun s hs => ?_
  have hslept := hs.sleep SECOND_IN_MILLISEC
  rw [Nat.sub_self] at hslept
  exact hslept

/-- The OSI parameters are set on the connection that is there. -/
theorem keeps_setOsiConnectionParameters (osiParams : OsiParameters) {G : Abort → Prop} (b : Bool) :
    Keeps (fun c : ClientState => c.m_connection.isSome = b) G
      (IEC61850ClientConnection.setOsiConnectionParameters osiParams) :=
  .of_eq_ok fun c hc => ⟨PUnit.unit, _, setOsiConnectionParameters_run osiParams c, hc⟩

/-- Opening is one connect, under the mutex of the connection. -/
theorem openConnection_hoare {connection : Address} (hr : Ready connection h) (hdue : h.due = 0)
    (connParam : ServerConnectionParameters) :
    Hoare (Owns h) (openConnection env connection connParam)
      (fun _ => Owns { h with due := SECOND_IN_MILLISEC }) Uncaught := by
  -- after the parameters have been set
  have hconnect : Hoare (Owns (h.push (.mutex connection))) (do
      useConnection connection
      modify fun s => { s with connects := s.connects ++ [s.slept] }
      lift (request (.connect connParam.ipAddress connParam.mmsPort)
        fun n => (PUnit.unit, env.connect n)))
      (fun _ => Owns (Holding.push { h with due := SECOND_IN_MILLISEC } (.mutex connection)))
      Uncaught := by
    refine .bind (useConnection_calm hr) fun _ => ?_
    refine .bind (R := fun _ =>
      Owns (Holding.push { h with due := SECOND_IN_MILLISEC } (.mutex connection)))
      (.modify fun s hs => hs.connect hdue) fun _ => lift_calm (keeps_request _ _)
  have hguard : Hoare (Owns h) (openConnection env connection connParam)
      (fun _ s => True ∧ Owns { h with due := SECOND_IN_MILLISEC } s) Uncaught := by
    refine connectionGuard_hoare (g := fun _ => { h with due := SECOND_IN_MILLISEC }) hr ?_
    refine Hoare.post (Q := fun _ =>
      Owns (Holding.push { h with due := SECOND_IN_MILLISEC } (.mutex connection))) ?_
      fun _ _ hs => ⟨⟨trivial, hr.2⟩, hs⟩
    by_cases hosi : connParam.isOsiParametersEnabled = true
    · simp only [hosi, if_true]
      exact .bind (useConnection_calm hr) fun _ =>
        .bind (lift_calm (keeps_setOsiConnectionParameters _)) fun _ => hconnect
    · simp only [hosi]
      exact hconnect
  exact hguard.post fun _ _ hs => hs.2

/-- No call is under way, and the client may connect again. -/
def Settled (s : LibraryState) : Prop :=
  ∃ connection, Owns ⟨[], connection, 0⟩ s

/-- The connection that is constructed is stored. -/
theorem Owns.store {a : Address} (hs : Owns (Holding.push ⟨[], none, 0⟩ (.iedConnection a)) s)
    {c : ClientState} (hc : c.m_connection.isSome = true) :
    Owns ⟨[], some a, 0⟩ { s with client := c, m_iedConnection := a } := by
  rcases hs.live with ⟨live, hreplay, hlive⟩
  refine ⟨⟨live, hreplay, ?_⟩, hs.fresh, ⟨hc, ?_⟩, hs.spaced, hs.rested, hs.locked⟩
  · intro r
    rw [hlive r]
    constructor
    · rintro (hheld | ⟨_, heq, _⟩ | hkept)
      · exact .inr (.inl ⟨a, rfl, List.mem_singleton.mp hheld⟩)
      · cases heq
      · exact .inr (.inr hkept)
    · rintro (hheld | ⟨_, heq, rfl⟩ | hkept)
      · cases hheld
      · cases heq
        exact .inl List.mem_cons_self
      · exact .inr (.inr hkept)
  · rintro _ ⟨⟩
    rfl

/-- A constructed connection is held, and a second is due. -/
theorem construct_hoare (connParam : ServerConnectionParameters) :
    Hoare (Owns ⟨[], none, 0⟩) (construct env connParam)
      (fun _ s => ∃ a, Owns ⟨[], some a, SECOND_IN_MILLISEC⟩ s) Uncaught := by
  refine .bind (allocate_hoare fun _ => rfl) fun a => .fact fun _ => ?_
  refine .bind (R := fun _ s =>
    Owns (Holding.push ⟨[], none, 0⟩ (.iedConnection a)) s ∧ s.m_iedConnection = a) ?_ fun _ => ?_
  · refine .modify fun s hs => ⟨⟨hs.live, hs.fresh, ⟨hs.connection.1, ?_⟩, hs.spaced, hs.rested,
      hs.locked⟩, rfl⟩
    rintro _ ⟨⟩
  · refine .bind (R := fun _ => Owns ⟨[], some a, 0⟩) ?_ fun _ => ?_
    · refine .of_ok fun s hs => ⟨PUnit.unit, _, rfl, ?_⟩
      rcases hs with ⟨hs, rfl⟩
      exact hs.store rfl
    · exact (openConnection_hoare (ready_between rfl) rfl connParam).post fun _ s hs => ⟨a, hs⟩

/-- So is one that is created where there was none. -/
theorem createConnection_hoare :
    Hoare (Owns ⟨[], none, 0⟩) (createConnection setup env)
      (fun _ s => ∃ a, Owns ⟨[], some a, SECOND_IN_MILLISEC⟩ s) Uncaught := by
  refine .bind (R := fun s s' => s = s' ∧ Owns ⟨[], none, 0⟩ s') (.get fun s hs => ⟨rfl, hs⟩) ?_
  intro s s' hs
  rcases hs with ⟨rfl, hs⟩
  have hnone : s.client.m_connection.isNone = true := by
    have hsome := hs.connection.1
    cases hconn : s.client.m_connection with
    | none => rfl
    | some c =>
      rw [hconn] at hsome
      cases hsome
  rw [hnone]
  exact construct_hoare setup.connectionParam s hs

/-- The connection that is destroyed is no longer stored. -/
theorem Owns.unstore {a : Address} {due : Nat} (hs : Owns ⟨[], some a, due⟩ s) :
    Owns (Holding.push ⟨[], none, due⟩ (.iedConnection a))
      { s with client := { s.client with m_connection := none }, m_iedConnection := 0 } := by
  rcases hs.live with ⟨live, hreplay, hlive⟩
  refine ⟨⟨live, hreplay, ?_⟩, hs.fresh, ⟨rfl, ?_⟩, hs.spaced, hs.rested, hs.locked⟩
  · intro r
    rw [hlive r]
    constructor
    · rintro (hheld | ⟨_, heq, rfl⟩ | hkept)
      · cases hheld
      · cases heq
        exact .inl List.mem_cons_self
      · exact .inr (.inr hkept)
    · rintro (hheld | ⟨_, heq, _⟩ | hkept)
      · exact .inr (.inl ⟨a, rfl, List.mem_singleton.mp hheld⟩)
      · cases heq
      · exact .inr (.inr hkept)
  · rintro _ ⟨⟩

/-- The destructor gives back what the connection held. -/
theorem destroyConnection_hoare :
    Hoare Settled destroyConnection (fun _ => Owns ⟨[], none, 0⟩) Uncaught := by
  refine .exists fun connection => ?_
  refine .bind (R := fun s s' => s = s' ∧ Owns ⟨[], connection, 0⟩ s')
    (.get fun s hs => ⟨rfl, hs⟩) ?_
  intro s s' hs
  rcases hs with ⟨rfl, hs⟩
  have hsame : s.client.m_connection.isSome = connection.isSome := hs.connection.1
  cases connection with
  | none =>
    have hnone : s.client.m_connection.isSome = false := hsame
    have hskip : Hoare (Owns ⟨[], none, 0⟩) (pure PUnit.unit : LibraryM PUnit)
        (fun _ => Owns ⟨[], none, 0⟩) Uncaught := .pure fun _ hs => hs
    rw [hnone]
    exact hskip s hs
  | some a =>
    have hsome : s.client.m_connection.isSome = true := hsame
    have haddress : s.m_iedConnection = a := hs.connection.2 a rfl
    rw [hsome]
    -- the destructor closes the connection before it deletes it
    have hdestroy : Hoare (Owns ⟨[], some a, 0⟩) (do
        destruct a
        modify fun s => { s with
          client := { s.client with m_connection := none }, m_iedConnection := 0 })
        (fun _ => Owns ⟨[], none, 0⟩) Uncaught := by
      rw [destruct, bind_assoc]
      refine .bind (close_calm (ready_between rfl)) fun _ => ?_
      refine .of_ok fun s hs => ⟨PUnit.unit, _, rfl, ?_⟩
      have hnot : ¬ Live ⟨[], none, 0⟩ s.actions (.iedConnection a) := by
        rintro (hheld | ⟨_, heq, _⟩ | ⟨_, heq, _⟩)
        · cases hheld
        · cases heq
        · cases heq
      exact hs.unstore.release hnot
    have hrun := hdestroy s hs
    rw [← haddress] at hrun
    exact hrun

end Connections

/-! ## The threads -/

section Threads

variable {plat : Platform} {setup : ClientSetup} {env : Environment} {fuel : Nat}

/-- By induction on the rounds: each of them sleeps before the next connect. -/
theorem initializeConnection_hoare (rounds : Nat) :
    Hoare Settled (initializeConnection plat setup env fuel rounds) (fun _ => Settled)
      Uncaught := by
  induction rounds with
  | zero => exact .throw fun _ _ => rfl
  | succ rounds ih =>
    refine .bind destroyConnection_hoare fun _ => .bind createConnection_hoare fun _ =>
      .exists fun a => ?_
    -- the sleep lets the client connect again
    have hloop : Hoare (Owns ⟨[], some a, SECOND_IN_MILLISEC⟩) (do
        sleep_for (SECOND_IN_MILLISEC / RECONNECTION_FREQUENCY_IN_HERTZ)
        if ! (← lift (ask env.stopOrder)) then
          let connection ← deref
          if ! (← isConnected env connection) then
            initializeConnection plat setup env fuel rounds) (fun _ => Settled) Uncaught := by
      refine .bind reconnection_hoare fun _ => ?_
      refine .bind (lift_calm (keeps_ask _)) fun _ => .ite ?_ (.pure fun _ hs => ⟨_, hs⟩)
      refine .bind deref_hoare fun c => .fact fun hc => ?_
      refine .bind (isConnected_calm (ready_between hc)) fun _ => .ite ?_ (.pure fun _ hs => ⟨_, hs⟩)
      exact ih.weaken fun s hs => ⟨some a, hs⟩
    refine .bind deref_hoare fun c => .fact fun hc => ?_
    refine .bind (isConnected_calm (ready_between hc)) fun connected => ?_
    cases connected with
    | false => exact hloop
    | true => exact .bind buildConfigurationNameTrees_calm fun _ => hloop

/-- The conversion is pure. -/
theorem keeps_convert (plat : Platform) (mmsValue : Option MmsValue) (dpConfig : DatapointConfig)
    (b : Bool) :
    Keeps (fun c : ClientState => c.m_connection.isSome = b) (fun _ => True)
      (liftExcept (convertMmsToDatapoint plat mmsValue dpConfig) : ClientM (Option Datapoint)) :=
  .liftExcept fun _ _ => trivial

/-- The value is deleted at the end of its scope, whether it has been converted or not. -/
theorem wrapped_mms_hoare {h : Holding} {w : WrappedMms}
    (hgiven : Given h .mmsValue w.value.m_mmsValue w.m_mmsValue) {x : LibraryM PUnit}
    (hx : ∀ h, Balanced h x) :
    Hoare (Owns (Holding.wrapped h (some w))) (inScope w.destructor x) (fun _ => Owns h)
      (Unwound h) := by
  have hgive : ∀ s, Owns (Holding.wrapped h (some w)) s →
      Owns h { s with actions := s.actions ++ w.destructor } := by
    intro s hs
    rcases w with ⟨⟨value⟩, a⟩
    cases value with
    | none =>
      have ha : a = 0 := hgiven.1 rfl
      subst ha
      show Owns h { s with actions := s.actions ++ [] }
      rw [List.append_nil]
      exact hs
    | some value =>
      rcases hgiven.2 rfl with ⟨hne, hnot⟩
      have hdestructor : WrappedMms.destructor ⟨⟨some value⟩, a⟩ = [.release (.mmsValue a)] :=
        if_neg hne
      rw [hdestructor]
      exact Owns.release hs (not_live hnot rfl)
  refine inScope_hoare (hx _) (fun _ s hs => hgive s hs) ?_ ?_
  · intro e s hunwound hcaught _
    exact hgive s (hunwound hcaught)
  · intro e s _ huncaught hcaught
    rw [huncaught] at hcaught
    cases hcaught

/-- The reading of a DO frees the value that it got, on both exits. -/
theorem readAndExportDO_balanced {connection : Option Address} (dpConfig : DatapointConfig) :
    Balanced ⟨[], connection, 0⟩ (readAndExportDO plat setup env dpConfig) := by
  refine .bind (deref_hoare.error fun _ _ => Uncaught.unwound) fun a => .fact fun ha => ?_
  refine .bind ((readDO_hoare (ready_between ha) _ _).error fun _ _ => Uncaught.unwound) ?_
  intro wrapped_mms
  refine .fact fun hgiven => ?_
  cases wrapped_mms with
  | none => exact .pure fun _ hs => hs
  | some w =>
    refine wrapped_mms_hoare (hgiven w rfl) fun h => ?_
    exact .bind (lift_balanced (keeps_convert plat _ _)) fun _ =>
      lift_balanced (keeps_sendData setup _)

/-- The export of a member leaves the connection alone. -/
theorem keeps_exportMember (member : Option MmsValue × DatapointConfig) (b : Bool) :
    Keeps (fun c : ClientState => c.m_connection.isSome = b) (fun _ => True)
      (exportMember plat setup member) :=
  .ite (.bind (keeps_convert plat _ _ b) fun _ => keeps_sendData setup _ b) (.pure _)

/-- The reading of a dataset frees the array that it got, on both exits. -/
theorem readAndExportOneDataset_balanced {connection : Option Address} (datasetRef : String)
    (exchangedDataset : ExchangedData) :
    Balanced ⟨[], connection, 0⟩
      (readAndExportOneDataset plat setup env datasetRef exchangedDataset) := by
  refine .bind (deref_hoare.error fun _ _ => Uncaught.unwound) fun a => .fact fun ha => ?_
  refine .bind ((readDataset_hoare (ready_between ha) _).error fun _ _ => Uncaught.unwound) ?_
  intro wrapped_mms
  refine .fact fun hgiven => ?_
  cases wrapped_mms with
  | none =>
    refine .throw fun s hs hcaught => ?_
    cases hcaught
  | some w =>
    refine wrapped_mms_hoare (hgiven w rfl) fun h => ?_
    refine .bind (lift_balanced fun b => .liftExcept fun _ _ => trivial) fun elements => .forM ?_
    intro member _
    exact lift_balanced (keeps_exportMember member)

/-- What the reading loop catches leaves nothing held. -/
theorem readAndExportMms_hoare (rounds : Nat) :
    Hoare Settled (readAndExportMms plat setup env fuel rounds) (fun _ => Settled)
      (fun e s => e.isCaught = true → Settled s) := by
  refine .exists fun connection => ?_
  have hsettled : ∀ {x : LibraryM PUnit}, Balanced ⟨[], connection, 0⟩ x →
      Hoare (Owns ⟨[], connection, 0⟩) x (fun _ => Settled)
        (fun e s => e.isCaught = true → Settled s) := by
    intro x hx
    refine (hx.post fun _ s hs => ⟨connection, hs⟩).error ?_
    intro e s hunwound hcaught
    exact ⟨connection, hunwound hcaught⟩
  have huncaught : ∀ (e : Abort) (s : LibraryState), Uncaught e s → e.isCaught = true →
      Settled s := by
    intro e s huncaught hcaught
    rw [Uncaught, hcaught] at huncaught
    cases huncaught
  -- what is caught has been unwound, and what is not caught never comes back
  refine .bind (deref_hoare.error huncaught) fun a => .fact fun ha => ?_
  refine .bind (Hoare.error (isConnected_calm (ready_between ha)) huncaught) fun connected => ?_
  cases connected with
  | false =>
    exact ((initializeConnection_hoare rounds).error huncaught).weaken fun s hs => ⟨connection, hs⟩
  | true =>
    refine hsettled ?_
    refine .bind (lift_balanced fun b => ?_) fun c => .ite ?_ ?_
    · exact .bind .get fun s => by
        cases s.m_connection with
        | none => exact .throw trivial
        | some c => exact .pure c
    · exact lift_balanced (keeps_emitEvent _)
    · cases setup.applicationParams.readMode with
      | DATASET_READING =>
        refine .bind (.get fun _ hs => hs) fun s => .forM ?_
        intro it _
        exact readAndExportOneDataset_balanced it.1 it.2
      | DO_READING =>
        exact .bind (.get fun _ hs => hs) fun s => .forM fun dpConfig _ =>
          readAndExportDO_balanced dpConfig

/-- Between two cycles nothing but the connection is held. -/
theorem pollCycle_hoare (rounds : Nat) :
    Hoare Settled (pollCycle plat setup env fuel rounds) (fun _ => Settled) Uncaught := by
  refine .bind (R := fun _ => Settled) ?_ fun _ => ?_
  · intro s hs
    have hread : Hoare Settled (readAndExportMms plat setup env fuel rounds) (fun _ => Settled)
        (fun e s => e.isCaught = true → Settled s) := readAndExportMms_hoare rounds
    rcases hread s hs with ⟨hok, herror⟩
    unfold caught
    cases hrun : readAndExportMms plat setup env fuel rounds s with
    | ok a s' =>
      refine ⟨?_, fun e s'' heq => (by cases heq)⟩
      intro a' s'' heq
      cases heq
      exact hok a s' hrun
    | error e s' =>
      -- a caught exception leaves the resources as its throw does
      cases hcaught : e.isCaught with
      | true =>
        simp only [hcaught, if_true]
        refine ⟨?_, fun e s'' heq => (by cases heq)⟩
        intro a' s'' heq
        cases heq
        exact herror e s' hrun hcaught
      | false =>
        simp only [hcaught]
        refine ⟨fun a' s'' heq => (by cases heq), ?_⟩
        intro e' s'' heq
        cases heq
        exact hcaught
  -- the sleep of the loop only moves the clock
  · refine .modify fun s hs => ?_
    rcases hs with ⟨connection, hs⟩
    have hslept := hs.sleep (pollingPeriodInMs setup.applicationParams).toNat
    rw [Nat.zero_sub] at hslept
    exact ⟨connection, hslept⟩

end Threads

end Library

/-! ## A client with one dataset -/

/-- After its launch. -/
@[irreducible] def libraryLaunched : LibraryState :=
  finalState (Library.initializeConnection (.withDocuments []) wholeDataset smallIed 3 2
    { client := newClient [] })

/-- After a round of `readMmsLoop`. -/
@[irreducible] def libraryPolled : LibraryState :=
  finalState (Library.pollCycle (.withDocuments []) wholeDataset smallIed 3 2 libraryLaunched)

/-- After it has been stopped. -/
@[irreducible] def libraryStopped : LibraryState :=
  finalState (Library.destroyConnection libraryPolled)

/-- After it has been launched again. -/
@[irreducible] def libraryRelaunched : LibraryState :=
  finalState (Library.initializeConnection (.withDocuments []) wholeDataset smallIed 3 2
    libraryStopped)

/-- A client that has been launched, stopped and launched again. -/
theorem libraryRelaunched_life :
    LibraryLife (.withDocuments []) wholeDataset smallIed libraryRelaunched := by
  have hlaunched : LibraryLife (.withDocuments []) wholeDataset smallIed libraryLaunched := by
    rw [libraryLaunched]
    exact .initialized (.constructed []) (eq_ok_of_returned (by decide +kernel))
  have hpolled : LibraryLife (.withDocuments []) wholeDataset smallIed libraryPolled := by
    rw [libraryPolled]
    refine .cycle hlaunched (eq_ok_of_returned ?_)
    rw [libraryLaunched]
    decide +kernel
  have hstopped : LibraryLife (.withDocuments []) wholeDataset smallIed libraryStopped := by
    rw [libraryStopped]
    refine .destroyed hpolled (eq_ok_of_returned ?_)
    rw [libraryPolled, libraryLaunched]
    decide +kernel
  rw [libraryRelaunched]
  refine .initialized hstopped (eq_ok_of_returned ?_)
  rw [libraryStopped, libraryPolled, libraryLaunched]
  decide +kernel

/-! ## The life of a client -/

section Life

variable {plat : Platform} {setup : ClientSetup} {env : Environment} {s : LibraryState}

/-- In each life, between two calls, nothing but the connection is held. -/
theorem LibraryLife.settled (h : LibraryLife plat setup env s) : Library.Settled s := by
  induction h with
  | constructed exchangedData =>
    refine ⟨none, ⟨∅, rfl, ?_⟩, ?_, ⟨rfl, ?_⟩, List.Pairwise.nil, ?_, usedUnder_nil _⟩
    · intro r
      constructor
      · intro hr
        cases hr
      · rintro (hheld | ⟨_, heq, _⟩ | ⟨_, _, hmem⟩)
        · cases hheld
        · cases heq
        · cases hmem
    · intro r hr
      cases hr
    · rintro a ⟨⟩
    · intro t ht
      cases ht
  | @initialized fuel rounds s s' _ hrun ih =>
    exact (Library.initializeConnection_hoare rounds s ih).1 _ s' hrun
  | @cycle fuel rounds s s' _ hrun ih => exact (Library.pollCycle_hoare rounds s ih).1 _ s' hrun
  | @destroyed s s' _ hrun ih => exact ⟨none, (Library.destroyConnection_hoare s ih).1 _ s' hrun⟩

/-- **Two attempts to connect are at least a second apart**, in whatever order the client
is launched, polled, stopped and launched again. -/
theorem connects_spaced (h : LibraryLife plat setup env s) :
    s.connects.Pairwise fun t t' => t + SECOND_IN_MILLISEC ≤ t' := by
  rcases h.settled with ⟨connection, hs⟩
  exact hs.spaced

/-- Two launches, with two seconds of sleep between their connects. -/
theorem connects_spaced_sample :
    libraryRelaunched.connects = [0, 2000] ∧
      libraryRelaunched.connects.Pairwise fun t t' => t + SECOND_IN_MILLISEC ≤ t' := by
  refine ⟨?_, connects_spaced libraryRelaunched_life⟩
  rw [libraryRelaunched, libraryStopped, libraryPolled, libraryLaunched]
  decide +kernel

end Life

end Iec61850South
