import Iec61850South.Client.Conversion

/-! # A connection loss in the middle of a cycle

`isConnected` is asked again before each read, and the answer may have changed.
The reading of DOs copes with it. The reading of datasets does not: it uses the
result of `readDataset` without a test. `cycleDefects` lists what is wrong in a
cycle, in the order of its walk over the items: the cycle ends with the first
defect, and survives exactly when that one is thrown (`pollCycle_survives_iff`).
-/

namespace Iec61850South

open Lib Lib.Emission IEC61850ClientConnection

variable {plat : Platform} {setup : ClientSetup} {env : Environment}

/-! ## What can be wrong in a cycle -/

/-- What can be wrong in a cycle, each with its place in the source. -/
inductive CycleDefect where
  /-- the connection is down when the turn of a dataset comes, so there is no `WrappedMms` -/
  | lostDataset
  /-- the read of a dataset fails, so there is no `ClientDataSet` -/
  | unreadDataset
  /-- the value of a dataset is no array with one element for each member -/
  | datasetMismatch
  /-- a value does not fit its name tree -/
  | value (defect : Defect)

/-- The code tests for the defect, and throws. -/
def CycleDefect.isThrown : CycleDefect → Bool
  | .lostDataset => false
  | .unreadDataset => false
  | .datasetMismatch => true
  | .value defect => defect.isThrown

/-- How the cycle ends there. -/
def CycleDefect.abort : CycleDefect → Abort
  | .lostDataset => .fault .nullWrappedMms
  | .unreadDataset => .fault .nullClientDataSet
  | .datasetMismatch => .mmsParsingException "Dataset structure does not match"
  | .value defect => defect.abort

/-- A defect is thrown exactly when the cycle catches it. -/
theorem CycleDefect.isCaught_abort (defect : CycleDefect) :
    defect.abort.isCaught = defect.isThrown := by
  rcases defect with _ | _ | _ | defect
  case value => cases defect <;> rfl
  all_goals rfl

/-- One that is not thrown is the use of an absent object. -/
theorem CycleDefect.not_isThrown_iff (defect : CycleDefect) :
    defect.isThrown = false ↔ ∃ f, defect.abort = .fault f := by
  rcases defect with _ | _ | _ | defect
  case value =>
    cases defect <;> simp [CycleDefect.isThrown, CycleDefect.abort, Defect.isThrown, Defect.abort]
  all_goals simp [CycleDefect.isThrown, CycleDefect.abort]

/-- The defects of a value that is converted. One that could not be read is not. -/
def valueDefects (mmsValue : Option MmsValue) (dpConfig : DatapointConfig) : List CycleDefect :=
  if mmsValue.isSome then (defects mmsValue dpConfig.mmsNameTree).map .value else []

section Defects

variable (setup : ClientSetup) (env : Environment)

/-- What is wrong with the reading of a DO, in the order of the source. -/
def doDefects (n : Nat) (dpConfig : DatapointConfig) : List CycleDefect :=
  if env.getState n then
    valueDefects (env.readObject (n + 1) dpConfig.dataPath dpConfig.functionalConstraint).1 dpConfig
  else []

/-- Only a member with a label is converted. -/
def exportDefects (member : Option MmsValue × DatapointConfig) : List CycleDefect :=
  if member.2.label ≠ "" then valueDefects member.1 member.2 else []

/-- What is wrong with the members of a dataset, up to the one that ends the export. -/
def membersDefects (values : MmsValue) (exchangedDataset : ExchangedData) : List CycleDefect :=
  match values with
  | .aggregate .array elements =>
    if elements.length ≠ exchangedDataset.length then [.datasetMismatch]
    else ((elements.zip exchangedDataset).map exportDefects).flatten
  | _ => [.datasetMismatch]

/-- What is wrong with the reading of a dataset. -/
def datasetDefects (n : Nat) (it : String × ExchangedData) : List CycleDefect :=
  if env.getState n then
    match (env.readDataSetValues (n + 1) it.1).1 with
    | none => [.unreadDataset]
    | some dataSet => membersDefects dataSet.values it.2
  else [.lostDataset]

/-- What is wrong with each item of a cycle, from question `n` on. -/
def itemDefects (n : Nat) (exchangedData : ExchangedData) (exchangedDatasets : ExchangedDatasets) :
    List (List CycleDefect) :=
  match setup.applicationParams.readMode with
  | .DATASET_READING =>
    exchangedDatasets.toList.mapIdx fun k it => datasetDefects env (callAt env n k) it
  | .DO_READING =>
    exchangedData.mapIdx fun k dpConfig => doDefects env (callAt env n k) dpConfig

/-- What is wrong in a cycle that starts in the given state, in the order of the cycle
and as if it did not stop. -/
def cycleDefects (s : ClientState) : List CycleDefect :=
  (itemDefects setup env (s.calls + 1) s.m_localExchangedData s.m_localExchangedDatasets).flatten

end Defects

/-! ## The cycle ends with the first defect -/

/-- The conversion ends with its first defect. -/
theorem convertMmsToDatapoint_outcome (mmsValue : Option MmsValue) (dpConfig : DatapointConfig) :
    EndsWith CycleDefect.abort (valueDefects mmsValue dpConfig) (fun _ => True)
      (convertMmsToDatapoint plat mmsValue dpConfig) := by
  cases mmsValue with
  | none => exact .ok trivial
  | some mmsValue =>
    have houtcome : EndsWith CycleDefect.abort (valueDefects (some mmsValue) dpConfig) (fun _ => True)
        (buildDatapointFromMms plat (some mmsValue) dpConfig.mmsNameTree) :=
      (buildDatapointFromMms_outcome (some mmsValue) dpConfig.mmsNameTree).rename
        CycleDefect.value (fun _ => rfl) fun _ _ => trivial
    exact houtcome.map fun datapoint _ => ⟨_, rfl, trivial⟩

/-- So does the export of a converted value. -/
theorem convertAndSend_stopsWith (mmsValue : Option MmsValue) (dpConfig : DatapointConfig) :
    StopsWith CycleDefect.abort (valueDefects mmsValue dpConfig)
      (.after (convertMmsToDatapoint plat mmsValue dpConfig) (sends setup)) := by
  rw [← List.append_nil (valueDefects mmsValue dpConfig)]
  exact .after (convertMmsToDatapoint_outcome mmsValue dpConfig) fun _ _ => .of_go rfl

/-- The reading of a DO ends with its first defect. -/
theorem doEmission_stopsWith (n : Nat) (dpConfig : DatapointConfig) :
    StopsWith CycleDefect.abort (doDefects env n dpConfig)
      (doEmission plat setup env n dpConfig) := by
  unfold doEmission doDefects
  split
  · exact convertAndSend_stopsWith _ _
  · exact .of_go rfl

/-- The export of a member ends with its first defect. -/
theorem memberEmission_stopsWith (member : Option MmsValue × DatapointConfig) :
    StopsWith CycleDefect.abort (exportDefects member) (memberEmission plat setup member) := by
  unfold memberEmission exportDefects
  split
  · exact convertAndSend_stopsWith _ _
  · exact .of_go rfl

/-- So does that of all the members. -/
theorem membersEmission_stopsWith (values : MmsValue) (exchangedDataset : ExchangedData) :
    StopsWith CycleDefect.abort (membersDefects values exchangedDataset)
      (membersEmission plat setup values exchangedDataset) := by
  rcases values with ⟨_ | _, elements⟩ | value
  · exact .halt CycleDefect.datasetMismatch
  · rw [membersEmission, membersDefects, datasetElements]
    by_cases hlength : elements.length ≠ exchangedDataset.length
    · rw [if_pos hlength, if_pos hlength]
      exact .halt CycleDefect.datasetMismatch
    · rw [if_neg hlength, if_neg hlength]
      refine .seqAll ?_
      rw [List.forall₂_map_left_iff, List.forall₂_map_right_iff, List.forall₂_same]
      exact fun member _ => memberEmission_stopsWith member
  · exact .halt CycleDefect.datasetMismatch

/-- The reading of a dataset ends with its first defect. -/
theorem datasetEmission_stopsWith (n : Nat) (it : String × ExchangedData) :
    StopsWith CycleDefect.abort (datasetDefects env n it)
      (datasetEmission plat setup env n it) := by
  unfold datasetEmission datasetDefects
  split
  · cases (env.readDataSetValues (n + 1) it.1).1 with
    | none => exact .halt CycleDefect.unreadDataset
    | some dataSet => exact membersEmission_stopsWith dataSet.values it.2
  · exact .halt CycleDefect.lostDataset

/-- So does each item of a cycle. -/
theorem items_stopsWith (n : Nat) (exchangedData : ExchangedData)
    (exchangedDatasets : ExchangedDatasets) :
    List.Forall₂ (StopsWith CycleDefect.abort)
      (itemDefects setup env n exchangedData exchangedDatasets)
      (itemEmissions plat setup env n exchangedData exchangedDatasets) := by
  unfold itemDefects itemEmissions
  cases setup.applicationParams.readMode with
  | DO_READING => exact forall₂_mapIdx fun k dpConfig => doEmission_stopsWith _ dpConfig
  | DATASET_READING => exact forall₂_mapIdx fun k it => datasetEmission_stopsWith _ it

/-- The items of a cycle stop with the first defect of the cycle. -/
theorem cycle_stopsWith (plat : Platform) (setup : ClientSetup) (env : Environment)
    (s : ClientState) :
    StopsWith CycleDefect.abort (cycleDefects setup env s)
      (Emission.seqAll (itemEmissions plat setup env (s.calls + 1) s.m_localExchangedData
        s.m_localExchangedDatasets)) :=
  .seqAll (items_stopsWith _ _ _)

/-! ## A cycle, from any state with a connection -/

/-- A lost connection is built again, which uses no object that is not there. -/
theorem pollCycle_lost {fuel rounds : Nat} {s : ClientState} (hconn : HasConnection s)
    (hdown : env.getState s.calls = false) (f : Fault) (s' : ClientState) :
    pollCycle plat setup env fuel rounds s ≠ .error (.fault f) s' := by
  have hafter : HasConnection (s.afterGetState env) := hconn
  have hsafe := initializeConnection_safe plat setup env fuel rounds _ (Or.inr hafter)
  unfold pollCycle
  rw [cycle_down hconn hdown]
  -- what is left of the cycle is a new connection, which uses no absent object
  cases hinit : initializeConnection plat setup env fuel rounds (s.afterGetState env) with
  | ok _ s'' => simp
  | error e s'' =>
    dsimp only
    split
    · simp
    · intro heq
      cases heq
      exact hsafe _ _ hinit f rfl

/-- A pending error is logged, and nothing is read. -/
theorem pollCycle_pendingError {fuel rounds : Nat} {s : ClientState}
    {connection : IEC61850ClientConnection} (hconn : s.m_connection = some connection)
    (herror : connection.isNoError = false) (hup : env.getState s.calls = true) :
    pollCycle plat setup env fuel rounds s =
      .ok ⟨⟩ { s.afterGetState env with
        events := (s.afterGetState env).events ++ [.logError connection.m_networkStack_error] } := by
  have hrun : readAndExportMms plat setup env fuel rounds s =
      connection.logError (s.afterGetState env) := by
    rw [readAndExportMms, run_bind_ok (deref_run hconn), run_bind_ok (isConnected_run env s), hup,
      if_neg (by simp), run_bind_ok (deref_run (s := s.afterGetState env) hconn), herror]
    rfl
  unfold pollCycle
  rw [hrun]
  rfl

/-- The cycle gets to the reading of its items. -/
def ReadsItems (env : Environment) (s : ClientState) : Prop :=
  env.getState s.calls = true ∧ ∃ connection, s.m_connection = some connection ∧
    connection.isNoError = true

/-- A cycle that reads its items uses no absent object exactly when the first thing that
is wrong, if any, is tested for. -/
theorem pollCycle_noFault_iff {s : ClientState} (hreads : ReadsItems env s) (plat : Platform)
    (setup : ClientSetup) (fuel rounds : Nat) :
    (∀ f s', pollCycle plat setup env fuel rounds s ≠ .error (.fault f) s') ↔
      ∀ defect, (cycleDefects setup env s).head? = some defect → defect.isThrown = true := by
  rcases hreads with ⟨hup, connection, hconn, hok⟩
  have hstop := cycle_stopsWith plat setup env s
  have hfault := (pollCycle_sent hconn hok hup plat setup fuel rounds).2
  rw [show (Emission.seqAll _).stop = _ from hstop] at hfault
  constructor
  · intro hno defect hfirst
    by_contra hthrown
    rcases defect.not_isThrown_iff.mp (by simpa using hthrown) with ⟨f, hf⟩
    rcases (hfault f).mpr (by rw [hfirst, Option.map_some, hf]) with ⟨s', hrun⟩
    exact hno f s' hrun
  · intro hthrown f s' hrun
    rcases Option.map_eq_some_iff.mp ((hfault f).mp ⟨s', hrun⟩) with ⟨defect, hfirst, habort⟩
    have hnot := defect.not_isThrown_iff.mpr ⟨f, habort⟩
    rw [hthrown defect hfirst] at hnot
    cases hnot

/-- A cycle that does not get to its items uses no absent object. -/
theorem pollCycle_noFault {s : ClientState} (hconn : HasConnection s)
    (hreads : ¬ ReadsItems env s) (fuel rounds : Nat) (f : Fault) (s' : ClientState) :
    pollCycle plat setup env fuel rounds s ≠ .error (.fault f) s' := by
  rcases Option.isSome_iff_exists.mp hconn with ⟨connection, hsome⟩
  cases hup : env.getState s.calls with
  | false => exact pollCycle_lost hconn hup f s'
  | true =>
    have herror : connection.isNoError = false := by
      by_contra hok
      exact hreads ⟨hup, connection, hsome, by simpa using hok⟩
    rw [pollCycle_pendingError hsome herror hup]
    simp

/-! ## Reads that fail -/

section Survives

variable (plat : Platform) (setup : ClientSetup) (env : Environment)

/-- The read of item `k` fails: the connection is down when its turn comes, or the library
returns a null pointer. -/
def ReadFailed (s : ClientState) (k : Nat) : Prop :=
  let n := callAt env (s.calls + 1) k
  match setup.applicationParams.readMode with
  | .DO_READING => ∃ dpConfig, s.m_localExchangedData[k]? = some dpConfig ∧
      (env.getState n = true →
        (env.readObject (n + 1) dpConfig.dataPath dpConfig.functionalConstraint).1 = none)
  | .DATASET_READING => ∃ it, s.m_localExchangedDatasets.toList[k]? = some it ∧
      (env.getState n = true → (env.readDataSetValues (n + 1) it.1).1 = none)

/-- The items of the cycle, in order. -/
def cycleItems (s : ClientState) : List (Emission Datapoint Abort) :=
  itemEmissions plat setup env (s.calls + 1) s.m_localExchangedData s.m_localExchangedDatasets

/-- The cycle survives what the environment answers. -/
structure CycleSurvives (fuel rounds : Nat) (s : ClientState) : Prop where
  /-- Every object that is used is present. -/
  noFault : ∀ f s', pollCycle plat setup env fuel rounds s ≠ .error (.fault f) s'
  /-- Nothing is exported for an item whose read fails, and when its turn has come the next
  one follows, or an `MmsParsingException`. -/
  failedRead : ReadsItems env s → ∀ k, ReadFailed setup env s k →
    share (cycleItems plat setup env s) k = [] ∧
      ((∀ j < k, stopsAt (cycleItems plat setup env s) j = false) →
        stopsAt (cycleItems plat setup env s) k = false ∨
          ∃ msg, (cycleItems plat setup env s)[k]?.bind stop = some (.mmsParsingException msg))
  /-- The exceptions of the items are caught. -/
  returns : ReadsItems env s → ∃ s', pollCycle plat setup env fuel rounds s = .ok ⟨⟩ s'

end Survives

/-- A DO that could not be read is passed over. -/
theorem doEmission_of_unread {n : Nat} {dpConfig : DatapointConfig}
    (h : env.getState n = true →
      (env.readObject (n + 1) dpConfig.dataPath dpConfig.functionalConstraint).1 = none) :
    doEmission plat setup env n dpConfig = .done := by
  unfold doEmission
  cases hup : env.getState n with
  | false => rfl
  | true =>
    rw [if_pos rfl, h hup, convertMmsToDatapoint, after_ok, sends, Option.toList_none, ite_self]
    rfl

/-- A dataset that could not be read is used all the same. -/
theorem datasetEmission_of_unread {n : Nat} {it : String × ExchangedData}
    (h : env.getState n = true → (env.readDataSetValues (n + 1) it.1).1 = none) :
    ∃ f, (datasetEmission plat setup env n it).stop = some (.fault f) := by
  unfold datasetEmission
  cases hup : env.getState n with
  | false => exact ⟨.nullWrappedMms, rfl⟩
  | true =>
    rw [if_pos rfl, h hup]
    exact ⟨.nullClientDataSet, rfl⟩

/-- Without a fault, a read that fails only leaves out its item. -/
theorem failedRead_of_noFault {fuel rounds : Nat} {s : ClientState} (hreads : ReadsItems env s)
    (hno : ∀ f s', pollCycle plat setup env fuel rounds s ≠ .error (.fault f) s') {k : Nat}
    (hfailed : ReadFailed setup env s k) :
    share (cycleItems plat setup env s) k = [] ∧
      ((∀ j < k, stopsAt (cycleItems plat setup env s) j = false) →
        stopsAt (cycleItems plat setup env s) k = false) := by
  rw [ReadFailed] at hfailed
  cases hmode : setup.applicationParams.readMode with
  | DO_READING =>
    rw [hmode] at hfailed
    rcases hfailed with ⟨dpConfig, hget, hunread⟩
    have hitem : (cycleItems plat setup env s)[k]? = some .done := by
      rw [cycleItems, getElem?_itemEmissions_dos hmode, hget, Option.map_some,
        doEmission_of_unread hunread]
    have hout : outAt (cycleItems plat setup env s) k = [] := by
      rw [outAt, hitem]
      rfl
    refine ⟨share_eq_nil fun _ => hout, fun _ => ?_⟩
    rw [stopsAt, hitem]
    rfl
  | DATASET_READING =>
    rw [hmode] at hfailed
    rcases hfailed with ⟨it, hget, hunread⟩
    rcases datasetEmission_of_unread hunread with ⟨f, hfault⟩
    -- if its turn came, the cycle would end with the fault
    have hnever : ¬ ∀ j < k, stopsAt (cycleItems plat setup env s) j = false := by
      intro hturn
      have hstop : (Emission.seqAll (cycleItems plat setup env s)).stop = some (.fault f) := by
        refine seqAll_stop_eq_some.mpr ⟨k, ?_, hturn⟩
        rw [cycleItems, getElem?_itemEmissions_datasets hmode, hget, Option.map_some,
          Option.bind_some, hfault]
      rcases hreads with ⟨hup, connection, hconn, hok⟩
      rcases ((pollCycle_sent hconn hok hup plat setup fuel rounds).2 f).mpr hstop with ⟨s', hrun⟩
      exact hno f s' hrun
    exact ⟨share_eq_nil fun hturn => (hnever hturn).elim, fun hturn => (hnever hturn).elim⟩

/-- **A cycle survives the loss of the connection**, and every other answer, exactly when
the first thing that is wrong in it, if any, is tested for. -/
theorem pollCycle_survives_iff {s : ClientState} (hconn : HasConnection s) (fuel rounds : Nat) :
    (ReadsItems env s → sent (finalState (pollCycle plat setup env fuel rounds s)).events =
      sent s.events ++ (List.range (cycleItems plat setup env s).length).flatMap
        (share (cycleItems plat setup env s))) ∧
    (CycleSurvives plat setup env fuel rounds s ↔
      (ReadsItems env s → ∀ defect, (cycleDefects setup env s).head? = some defect →
        defect.isThrown = true)) := by
  refine ⟨?_, ?_, ?_⟩
  · rintro ⟨hup, connection, hsome, hok⟩
    rw [← seqAll_out_eq_shares]
    exact (pollCycle_sent hsome hok hup plat setup fuel rounds).1
  · intro hsurvives hreads
    exact (pollCycle_noFault_iff hreads plat setup fuel rounds).mp hsurvives.noFault
  · intro hthrown
    have hno : ∀ f s', pollCycle plat setup env fuel rounds s ≠ .error (.fault f) s' := by
      by_cases hreads : ReadsItems env s
      · exact (pollCycle_noFault_iff hreads plat setup fuel rounds).mpr (hthrown hreads)
      · exact pollCycle_noFault hconn hreads fuel rounds
    constructor
    case noFault => exact hno
    case failedRead =>
      intro hreads k hfailed
      rcases failedRead_of_noFault hreads hno hfailed with ⟨hshare, hgoes⟩
      exact ⟨hshare, fun hturn => Or.inl (hgoes hturn)⟩
    case returns =>
      rintro ⟨hup, connection, hsome, hok⟩
      refine (pollCycle_returns_iff hsome hok hup plat setup fuel rounds).mpr fun e he => ?_
      rw [show (Emission.seqAll _).stop = _ from cycle_stopsWith plat setup env s] at he
      rcases Option.map_eq_some_iff.mp he with ⟨defect, hfirst, rfl⟩
      rw [defect.isCaught_abort]
      exact hthrown ⟨hup, connection, hsome, hok⟩ defect hfirst

/-! ## A loss between two tests of the connection, a failed read, an absent value -/

/-- A client that reads one dataset. -/
@[irreducible] def oneDataset : ClientState :=
  launched (smallSetup .DATASET_READING [("IED1LD0/LLN0.DS1", [])]) smallIed []

/-- It is a client of the small IED. -/
theorem oneDataset_reachable : ClientReachable (.withDocuments [])
    (smallSetup .DATASET_READING [("IED1LD0/LLN0.DS1", [])]) smallIed 3 2 oneDataset := by
  rw [oneDataset]
  exact .launch (eq_ok_of_returned (by decide +kernel))

/-- The connection is lost after the test at the start of the cycle. -/
def smallIedLost : Environment :=
  { smallIed with getState := fun n => n ≠ 15 }

/-- The read of the dataset fails. -/
def smallIedRefusing : Environment :=
  { smallIed with readDataSetValues := fun _ _ => (none, 24) }

/-- The DOs are measurements with a magnitude, and the magnitude can not be accessed. -/
def smallIedMeasuring : Environment :=
  { smallIed with
    getDataDirectoryByFC := fun _ path _ =>
      (some (if ".mag.f".toList.isSuffixOf path.toList then []
        else if ".mag".toList.isSuffixOf path.toList then ["f"] else ["mag"]), IED_ERROR_OK)
    readObject := fun _ _ _ => (some unreadMagnitude, IED_ERROR_OK) }

/-- A client that reads one measured value. -/
@[irreducible] def oneMeasurement : ClientState :=
  launched (smallSetup .DO_READING []) smallIedMeasuring [smallDO "TM1" "AnIn1"]

/-- It is a client of an IED that measures. -/
theorem oneMeasurement_reachable : ClientReachable (.withDocuments [])
    (smallSetup .DO_READING []) smallIedMeasuring 3 2 oneMeasurement := by
  rw [oneMeasurement]
  exact .launch (eq_ok_of_returned (by decide +kernel))

/-- A dataset whose turn comes when the connection is lost. -/
theorem pollCycle_survives_iff_sample :
    (ReadsItems smallIedLost oneDataset →
      sent (finalState (pollCycle (.withDocuments [])
          (smallSetup .DATASET_READING [("IED1LD0/LLN0.DS1", [])]) smallIedLost 3 2
          oneDataset)).events =
        sent oneDataset.events ++
          (List.range (cycleItems (.withDocuments [])
            (smallSetup .DATASET_READING [("IED1LD0/LLN0.DS1", [])]) smallIedLost
            oneDataset).length).flatMap
          (share (cycleItems (.withDocuments [])
            (smallSetup .DATASET_READING [("IED1LD0/LLN0.DS1", [])]) smallIedLost oneDataset))) ∧
    (CycleSurvives (.withDocuments []) (smallSetup .DATASET_READING [("IED1LD0/LLN0.DS1", [])])
        smallIedLost 3 2 oneDataset ↔
      (ReadsItems smallIedLost oneDataset → ∀ defect,
        (cycleDefects (smallSetup .DATASET_READING [("IED1LD0/LLN0.DS1", [])]) smallIedLost
          oneDataset).head? = some defect → defect.isThrown = true)) :=
  pollCycle_survives_iff oneDataset_reachable.hasConnection 3 2

/-- Three cycles that use an absent object: two of datasets, and one of a DO. -/
theorem cycles_dereference_null :
    ClientReachable (.withDocuments []) (smallSetup .DATASET_READING [("IED1LD0/LLN0.DS1", [])])
        smallIed 3 2 oneDataset ∧
      ClientReachable (.withDocuments []) (smallSetup .DO_READING []) smallIedMeasuring 3 2
        oneMeasurement ∧
      (∃ s', pollCycle (.withDocuments []) (smallSetup .DATASET_READING [("IED1LD0/LLN0.DS1", [])])
        smallIedLost 3 2 oneDataset = .error (.fault .nullWrappedMms) s') ∧
      (∃ s', pollCycle (.withDocuments []) (smallSetup .DATASET_READING [("IED1LD0/LLN0.DS1", [])])
        smallIedRefusing 3 2 oneDataset = .error (.fault .nullClientDataSet) s') ∧
      (∃ s', pollCycle (.withDocuments []) (smallSetup .DO_READING []) smallIedMeasuring 3 2
        oneMeasurement = .error (.fault .nullDatapoint) s') ∧
      ¬ CycleSurvives (.withDocuments []) (smallSetup .DATASET_READING [("IED1LD0/LLN0.DS1", [])])
        smallIedLost 3 2 oneDataset ∧
      ¬ CycleSurvives (.withDocuments []) (smallSetup .DATASET_READING [("IED1LD0/LLN0.DS1", [])])
        smallIedRefusing 3 2 oneDataset ∧
      ¬ CycleSurvives (.withDocuments []) (smallSetup .DO_READING []) smallIedMeasuring 3 2
        oneMeasurement := by
  have hlost : ∃ s', pollCycle (.withDocuments [])
      (smallSetup .DATASET_READING [("IED1LD0/LLN0.DS1", [])]) smallIedLost 3 2 oneDataset =
        .error (.fault .nullWrappedMms) s' := by
    rw [oneDataset]
    exact ⟨_, eq_error_of_thrown (by decide +kernel)⟩
  have hrefused : ∃ s', pollCycle (.withDocuments [])
      (smallSetup .DATASET_READING [("IED1LD0/LLN0.DS1", [])]) smallIedRefusing 3 2 oneDataset =
        .error (.fault .nullClientDataSet) s' := by
    rw [oneDataset]
    exact ⟨_, eq_error_of_thrown (by decide +kernel)⟩
  have hunread : ∃ s', pollCycle (.withDocuments []) (smallSetup .DO_READING []) smallIedMeasuring
      3 2 oneMeasurement = .error (.fault .nullDatapoint) s' := by
    rw [oneMeasurement]
    exact ⟨_, eq_error_of_thrown (by decide +kernel)⟩
  exact ⟨oneDataset_reachable, oneMeasurement_reachable, hlost, hrefused, hunread,
    fun h => hlost.elim (h.noFault _), fun h => hrefused.elim (h.noFault _),
    fun h => hunread.elim (h.noFault _)⟩

end Iec61850South
