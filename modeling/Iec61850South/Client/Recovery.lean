import Iec61850South.Client.Absence

/-! # Recovery from the error of a request

A cycle tests the error indicator before it makes a request, and only a request
overwrites the indicator. A connected client whose indicator holds an error
therefore never reads again, whatever the IED would answer (`recovery_iff`).
-/

namespace Iec61850South

open Lib IEC61850ClientConnection

variable (plat : Platform) (setup : ClientSetup) (env : Environment) (fuel rounds : Nat)

/-- `n` rounds of `readMmsLoop`. -/
def pollCycles : Nat → ClientM PUnit
  | 0 => pure ⟨⟩
  | n + 1 => do
    pollCycle plat setup env fuel rounds
    pollCycles n

/-- A request that reads values. -/
def Event.isRead : Event → Bool
  | .readObject _ _ => true
  | .readDataSetValues _ => true
  | _ => false

/-- The number of read requests. -/
def readCount (events : List Event) : Nat :=
  events.countP Event.isRead

/-- From question `n` on the connection is up and no request fails. -/
structure AnswersWithSuccess (n : Nat) : Prop where
  connected : ∀ m, n ≤ m → env.getState m = true
  success : ∀ m error, n ≤ m → AnswerCode env m error → error = IED_ERROR_OK

/-- The list of things to read is not empty. -/
def HasItems (s : ClientState) : Prop :=
  match setup.applicationParams.readMode with
  | .DATASET_READING => s.m_localExchangedDatasets.toList ≠ []
  | .DO_READING => s.m_localExchangedData ≠ []

/-! ## What a run of cycles preserves -/

variable {env : Environment}

/-- A cycle over a connection that is up keeps what the readings keep. -/
theorem Stable.keeps_pollCycle {P : ClientState → Prop} (hP : Stable env P)
    (hup : ∀ s, P s → env.getState s.calls = true) :
    Keeps P (fun _ => True) (pollCycle plat setup env fuel rounds) :=
  fun s hs => ⟨hP.steady.cycle_up hs (hup s hs), fun _ _ _ => trivial⟩

/-- So does any number of them. -/
theorem Stable.keeps_pollCycles {P : ClientState → Prop} (hP : Stable env P)
    (hup : ∀ s, P s → env.getState s.calls = true) (n : Nat) :
    Keeps P (fun _ => True) (pollCycles plat setup env fuel rounds n) := by
  induction n with
  | zero => exact .pure _
  | succ n ih => exact .bind (hP.keeps_pollCycle plat setup fuel rounds hup) fun _ => ih

/-- Enough questions have been asked for all later answers to be successes. -/
def After (n : Nat) (s : ClientState) : Prop :=
  s.m_connection.isSome ∧ n ≤ s.calls

/-- From the question `n` on, the IED says that it is connected. -/
theorem After.connected {n : Nat} (hans : AnswersWithSuccess env n) (s : ClientState)
    (hs : After n s) : env.getState s.calls = true :=
  hans.connected _ hs.2

/-- The indicator is clear, there is something to read, and no later answer is
an error. -/
def Healthy (setup : ClientSetup) (n : Nat) (s : ClientState) : Prop :=
  s.m_connection = some ⟨IED_ERROR_OK⟩ ∧ n ≤ s.calls ∧ HasItems setup s

/-- A healthy client has come as far as the question `n`. -/
theorem Healthy.after {setup : ClientSetup} {n : Nat} {s : ClientState} (hs : Healthy setup n s) :
    After n s :=
  ⟨by simp [hs.1], hs.2.1⟩

/-- While the IED answers with success, a healthy client stays healthy. -/
theorem healthy_stable (setup : ClientSetup) {n : Nat} (hans : AnswersWithSuccess env n) :
    Stable env (Healthy setup n) where
  connection s hs := hs.after.1
  event s event hs := hs
  calls s hs := ⟨hs.1, Nat.le_succ_of_le hs.2.1, hs.2.2⟩
  answered s event error hcode hs := by
    -- the new value of the indicator is an answer, and therefore no error
    have hok : error = IED_ERROR_OK := hans.success _ _ hs.2.1 hcode
    refine ⟨?_, Nat.le_succ_of_le hs.2.1, hs.2.2⟩
    simp [ClientState.afterRequest, hs.1, hok]

/-- The requests of two traces, one after the other. -/
theorem readCount_append (l l' : List Event) : readCount (l ++ l') = readCount l + readCount l' :=
  List.countP_append

/-- At least `k` read requests have been made. -/
def HasRead (n k : Nat) (s : ClientState) : Prop :=
  After n s ∧ k ≤ readCount s.events

/-- Read requests are never taken back. -/
theorem hasRead_stable (env : Environment) (n k : Nat) : Stable env (HasRead n k) where
  connection s hs := hs.1.1
  event s event hs := by
    refine ⟨hs.1, Nat.le_trans hs.2 ?_⟩
    rw [readCount_append]
    exact Nat.le_add_right ..
  calls s hs := ⟨⟨hs.1.1, Nat.le_succ_of_le hs.1.2⟩, hs.2⟩
  answered s event error _ hs := by
    have hconn : (s.afterRequest event error).m_connection.isSome :=
      (isSome_afterRequest event error s).trans hs.1.1
    refine ⟨⟨hconn, Nat.le_succ_of_le hs.1.2⟩, Nat.le_trans hs.2 ?_⟩
    rw [ClientState.afterRequest, readCount_append]
    exact Nat.le_add_right ..

/-! ## A healthy cycle reads -/

section Reads

variable {n k : Nat} {s : ClientState}

/-- The request of an item: one more read than before. -/
theorem HasRead.afterRead (hs : HasRead n k s) (env : Environment) {event : Event}
    (error : IedClientError) (hread : event.isRead = true) :
    HasRead n (k + 1) ((s.afterGetState env).afterRequest event error) := by
  rcases hs with ⟨⟨hconn, hcalls⟩, hk⟩
  refine ⟨⟨isSome_afterRead hconn, ?_⟩, ?_⟩
  · show n ≤ s.calls + 1 + 1
    omega
  · have hone : readCount [event] = 1 := by simp [readCount, hread]
    show k + 1 ≤ readCount (s.events ++ [.getState _] ++ [event])
    rw [readCount_append, readCount_append, hone]
    omega

/-- The reading of a DO is one read request at least. -/
theorem readAndExportDO_reads (hs : HasRead n k s) (hup : env.getState s.calls = true)
    (dpConfig : DatapointConfig) :
    HasRead n (k + 1) (finalState (readAndExportDO plat setup env dpConfig s)) := by
  rcases deref_run_of_isSome hs.1.1 with ⟨connection, hderef⟩
  unfold readAndExportDO
  rw [run_bind_ok hderef, run_bind_ok (readDO_run hup ..)]
  -- the request has been made, and what follows takes nothing back
  have hread := hs.afterRead env
    (env.readObject (s.calls + 1) dpConfig.dataPath dpConfig.functionalConstraint).2
    (show (Event.readObject dpConfig.dataPath dpConfig.functionalConstraint).isRead = true from rfl)
  exact ((hasRead_stable env n (k + 1)).steady.keeps_convertAndSend plat setup _ dpConfig _ hread).1

/-- So is that of a dataset. -/
theorem readAndExportOneDataset_reads (hs : HasRead n k s) (hup : env.getState s.calls = true)
    (it : String × ExchangedData) :
    HasRead n (k + 1) (finalState (readAndExportOneDataset plat setup env it.1 it.2 s)) := by
  rcases deref_run_of_isSome hs.1.1 with ⟨connection, hderef⟩
  unfold readAndExportOneDataset
  rw [run_bind_ok hderef]
  have hread := hs.afterRead env (env.readDataSetValues (s.calls + 1) it.1).2
    (show (Event.readDataSetValues it.1).isRead = true from rfl)
  refine Keeps.andThen (G := fun _ => True) ?_ fun _ =>
    (hasRead_stable env n (k + 1)).steady.keeps_exportMembers plat setup _ _
  -- the request is made even if its result is absent
  cases hvalues : getValues (env.readDataSetValues (s.calls + 1) it.1).1 with
  | ok values =>
    rw [readDataset_run hup it.1 hvalues]
    exact hread
  | error e =>
    rw [readDataset_run_error hup it.1 hvalues]
    exact hread

/-- With a DO to read, a cycle makes a read request. -/
theorem readAndExportAllDO_reads (hs : HasRead n k s) (hup : env.getState s.calls = true)
    (hitems : s.m_localExchangedData ≠ []) :
    HasRead n (k + 1) (finalState (readAndExportAllDO plat setup env s)) := by
  rcases List.exists_cons_of_ne_nil hitems with ⟨dpConfig, rest, hlist⟩
  unfold readAndExportAllDO
  rw [run_bind_ok (run_get s), hlist, List.forM_cons]
  -- the first DO is read, whatever becomes of the others
  exact Keeps.andThen (readAndExportDO_reads plat setup hs hup dpConfig)
    fun _ => .forM _ fun _ _ => (hasRead_stable env n (k + 1)).steady.keeps_readAndExportDO plat setup _

/-- With a dataset to read, so does a cycle. -/
theorem readAndExportAllDatasets_reads (hs : HasRead n k s) (hup : env.getState s.calls = true)
    (hitems : s.m_localExchangedDatasets.toList ≠ []) :
    HasRead n (k + 1) (finalState (readAndExportAllDatasets plat setup env s)) := by
  rcases List.exists_cons_of_ne_nil hitems with ⟨it, rest, hlist⟩
  unfold readAndExportAllDatasets
  rw [run_bind_ok (run_get s), hlist, List.forM_cons]
  exact Keeps.andThen (readAndExportOneDataset_reads plat setup hs hup it)
    fun _ => .forM _ fun _ _ =>
      (hasRead_stable env n (k + 1)).steady.keeps_readAndExportOneDataset plat setup _ _

/-- A healthy client makes a read request in each cycle. -/
theorem pollCycle_reads (hans : AnswersWithSuccess env n) (hs : Healthy setup n s) :
    HasRead n (readCount s.events + 1) (finalState (pollCycle plat setup env fuel rounds s)) := by
  rcases hs with ⟨hconn, hcalls, hitems⟩
  have hup : env.getState s.calls = true := hans.connected _ hcalls
  have hup' : env.getState (s.afterGetState env).calls = true :=
    hans.connected _ (Nat.le_succ_of_le hcalls)
  have hread : HasRead n (readCount s.events) (s.afterGetState env) :=
    (hasRead_stable env n _).steady.afterGetState ⟨⟨by simp [hconn], hcalls⟩, Nat.le_refl _⟩
  -- the indicator is clear, so the cycle goes on to the reading
  rw [finalState_pollCycle]
  unfold readAndExportMms
  rw [run_bind_ok (deref_run hconn), run_bind_ok (isConnected_run env s), hup, if_neg (by simp),
    run_bind_ok (deref_run (s := s.afterGetState env) hconn), if_neg (by simp [isNoError])]
  unfold HasItems at hitems
  cases hmode : setup.applicationParams.readMode with
  | DO_READING =>
    rw [hmode] at hitems
    exact readAndExportAllDO_reads plat setup hread hup' hitems
  | DATASET_READING =>
    rw [hmode] at hitems
    exact readAndExportAllDatasets_reads plat setup hread hup' hitems

end Reads

/-! ## A pending error stays -/

/-- The state after `n` cycles that have found a pending error. -/
def ClientState.afterPending (env : Environment) (connection : IEC61850ClientConnection)
    (s : ClientState) : Nat → ClientState
  | 0 => s
  | n + 1 => ClientState.afterPending env connection
    { s.afterGetState env with
      events := (s.afterGetState env).events ++ [.logError connection.m_networkStack_error] } n

/-- While the connection stays up, every cycle only logs the pending error. -/
theorem pollCycles_pendingError {connection : IEC61850ClientConnection} {s : ClientState}
    (hconn : s.m_connection = some connection) (herror : connection.isNoError = false)
    (hup : ∀ m, s.calls ≤ m → env.getState m = true) (n : Nat) :
    pollCycles plat setup env fuel rounds n s = .ok ⟨⟩ (s.afterPending env connection n) := by
  induction n generalizing s with
  | zero => rfl
  | succ n ih =>
    unfold pollCycles
    rw [run_bind_ok (pollCycle_pendingError hconn herror (hup _ (Nat.le_refl _)))]
    -- the indicator is as before, and one more question has been asked
    exact ih hconn fun m hm => hup m (Nat.le_of_succ_le hm)

/-- The log of a pending error is no read request. -/
theorem readCount_afterPending (connection : IEC61850ClientConnection) (s : ClientState) (n : Nat) :
    readCount (s.afterPending env connection n).events = readCount s.events := by
  induction n generalizing s with
  | zero => rfl
  | succ n ih =>
    unfold ClientState.afterPending
    rw [ih]
    simp [readCount, ClientState.afterGetState, Event.isRead]

/-! ## Recovery -/

/-- **When a client recovers.** Take a connected client with something to read,
and an IED that answers every request with success from now on. In every run,
two more cycles issue a read request exactly when no error is pending now. -/
theorem recovery_iff {s : ClientState} {connection : IEC61850ClientConnection}
    (hconn : s.m_connection = some connection) (hitems : HasItems setup s)
    (hans : AnswersWithSuccess env s.calls) :
    (∀ n s₁, pollCycles plat setup env fuel rounds n s = .ok ⟨⟩ s₁ →
        readCount s₁.events <
          readCount (finalState (pollCycles plat setup env fuel rounds 2 s₁)).events) ↔
      connection.m_networkStack_error = IED_ERROR_OK := by
  constructor
  · intro hreads
    -- with an error pending, the two cycles only log it
    by_contra herror
    have hstuck := pollCycles_pendingError plat setup fuel rounds hconn
      (by simpa [isNoError] using herror) hans.connected
    have hread := hreads 0 s rfl
    rw [hstuck 2, finalState_ok, readCount_afterPending] at hread
    exact Nat.lt_irrefl _ hread
  · intro hok n s₁ hrun
    -- the client stays healthy for all of the `n` cycles
    have hs : Healthy setup s.calls s := by
      refine ⟨?_, Nat.le_refl _, hitems⟩
      rw [hconn, ← hok]
    have hs₁ : Healthy setup s.calls s₁ := by
      have hkeep := ((healthy_stable setup hans).keeps_pollCycles plat setup fuel rounds
        (fun s hs => hs.after.connected hans) n s hs).1
      rwa [hrun] at hkeep
    -- the first of the two cycles reads, and the second one takes nothing back
    have hfinal := Keeps.andThen (G := fun _ => True) (f := fun _ =>
        pollCycles plat setup env fuel rounds 1) (pollCycle_reads plat setup fuel rounds hans hs₁)
      fun _ => (hasRead_stable env s.calls _).keeps_pollCycles plat setup fuel rounds
        (fun s hs => hs.1.connected hans) 1
    exact hfinal.2

/-! ## One failed read -/

/-- The small IED, except that the first read fails. -/
def smallIedFailing : Environment :=
  { smallIed with
    readObject := fun n doPath functionalConstraint =>
      if n = 10 then (none, 24) else smallIed.readObject n doPath functionalConstraint }

/-- The client after its first cycle. -/
@[irreducible] def oneIndication : ClientState :=
  finalState (pollCycle (.withDocuments []) (smallSetup .DO_READING []) smallIedFailing 3 2
    (launched (smallSetup .DO_READING []) smallIedFailing [smallDO "TS1" "SPSSO1"]))

/-- A client of the small IED, whose last request has failed. -/
theorem oneIndication_reachable : ClientReachable (.withDocuments [])
    (smallSetup .DO_READING []) smallIedFailing 3 2 oneIndication := by
  rw [oneIndication]
  exact .cycle (.launch (eq_ok_of_returned (by decide +kernel)))
    (eq_ok_of_returned (by decide +kernel))

/-- It has a connection with a pending error, and one DO to read. -/
theorem oneIndication_ready : oneIndication.m_connection = some ⟨24⟩ ∧ oneIndication.calls = 11 ∧
    oneIndication.m_localExchangedData.length = 1 := by
  rw [oneIndication]
  decide +kernel

/-- It has something to read. -/
theorem oneIndication_hasItems : HasItems (smallSetup .DO_READING []) oneIndication := by
  show oneIndication.m_localExchangedData ≠ []
  rw [← List.length_pos_iff, oneIndication_ready.2.2]
  decide

/-- From the next question on, the IED answers with success. -/
theorem smallIedFailing_success : AnswersWithSuccess smallIedFailing oneIndication.calls where
  connected _ _ := rfl
  success m error hm hcode := by
    rw [oneIndication_ready.2.1] at hm
    cases hcode with
    | readObject doPath fc =>
      have hlater : m ≠ 10 := by omega
      show (if m = 10 then (none, 24) else smallIed.readObject m doPath fc).2 = IED_ERROR_OK
      rw [if_neg hlater]
      rfl
    | _ => rfl

/-- The next two cycles of that client. -/
theorem recovery_iff_sample :
    (∀ n s₁, pollCycles (.withDocuments []) (smallSetup .DO_READING []) smallIedFailing 3 2 n
        oneIndication = .ok ⟨⟩ s₁ →
        readCount s₁.events < readCount (finalState (pollCycles (.withDocuments [])
          (smallSetup .DO_READING []) smallIedFailing 3 2 2 s₁)).events) ↔
      (24 : IedClientError) = IED_ERROR_OK :=
  recovery_iff _ _ 3 2 oneIndication_ready.1 oneIndication_hasItems smallIedFailing_success

/-- A reachable connected client that never reads again, although the IED would
answer every request. -/
theorem failed_read_blocks_forever :
    ClientReachable (.withDocuments []) (smallSetup .DO_READING []) smallIedFailing 3 2
        oneIndication ∧
      HasItems (smallSetup .DO_READING []) oneIndication ∧
      AnswersWithSuccess smallIedFailing oneIndication.calls ∧
      ∀ n, ∃ s', pollCycles (.withDocuments []) (smallSetup .DO_READING []) smallIedFailing 3 2 n
        oneIndication = .ok ⟨⟩ s' ∧ readCount s'.events = readCount oneIndication.events := by
  refine ⟨oneIndication_reachable, oneIndication_hasItems, smallIedFailing_success, ?_⟩
  intro n
  exact ⟨_, pollCycles_pendingError _ _ _ _ oneIndication_ready.1 rfl
    smallIedFailing_success.connected n, readCount_afterPending ..⟩

end Iec61850South
