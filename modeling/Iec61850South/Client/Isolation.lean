import Iec61850South.Client.Cycle

/-! # Fault isolation between the items of a cycle

Two cycles that differ in one answer only. An exception leaves the loop over the
items, so whether the other items are sent does depend on that answer:
`isolation_iff` says exactly when it does not.
-/

namespace Iec61850South

open Lib Lib.Emission

variable {plat : Platform} {setup : ClientSetup} {env env' : Environment}

/-- The environments give the same answers, except to a reading request at
question `n`. -/
structure AgreeExceptAt (n : Nat) (env env' : Environment) : Prop where
  getState : env.getState = env'.getState
  readObject : ∀ m, m ≠ n → env.readObject m = env'.readObject m
  readDataSetValues : ∀ m, m ≠ n → env.readDataSetValues m = env'.readDataSetValues m

/-- While the connection stays up, an item takes two questions. -/
theorem callAt_of_up {n : Nat} (hup : ∀ m, n ≤ m → env.getState m = true) (k : Nat) :
    callAt env n k = n + 2 * k := by
  induction k with
  | zero => rfl
  | succ k ih =>
    rw [callAt_succ, ih, nextCall, hup _ (by omega), if_pos rfl]
    omega

/-- A DO whose own request is answered in the same way exports the same. -/
theorem doEmission_congr {i m : Nat} (h : AgreeExceptAt i env env') (hm : m + 1 ≠ i)
    (dpConfig : DatapointConfig) :
    doEmission plat setup env m dpConfig = doEmission plat setup env' m dpConfig := by
  unfold doEmission
  rw [h.getState, h.readObject _ hm]

/-- So does a dataset. -/
theorem datasetEmission_congr {i m : Nat} (h : AgreeExceptAt i env env') (hm : m + 1 ≠ i)
    (it : String × ExchangedData) :
    datasetEmission plat setup env m it = datasetEmission plat setup env' m it := by
  unfold datasetEmission
  rw [h.getState, h.readDataSetValues _ hm]

/-- Only the item whose answer differs has another emission. -/
theorem itemEmissions_congr {n i : Nat} (hup : ∀ m, n ≤ m → env.getState m = true)
    (h : AgreeExceptAt (n + 2 * i + 1) env env') (exchangedData : ExchangedData)
    (exchangedDatasets : ExchangedDatasets) (j : Nat) (hj : j ≠ i) :
    (itemEmissions plat setup env n exchangedData exchangedDatasets)[j]? =
      (itemEmissions plat setup env' n exchangedData exchangedDatasets)[j]? := by
  have hup' : ∀ m, n ≤ m → env'.getState m = true := fun m hm => by rw [← h.getState, hup m hm]
  -- two items never read at the same question
  have hcall : n + 2 * j + 1 ≠ n + 2 * i + 1 := by omega
  cases hmode : setup.applicationParams.readMode with
  | DO_READING =>
    rw [getElem?_itemEmissions_dos hmode, getElem?_itemEmissions_dos hmode, callAt_of_up hup,
      callAt_of_up hup']
    exact Option.map_congr fun dpConfig _ => doEmission_congr h hcall dpConfig
  | DATASET_READING =>
    rw [getElem?_itemEmissions_datasets hmode, getElem?_itemEmissions_datasets hmode,
      callAt_of_up hup, callAt_of_up hup']
    exact Option.map_congr fun it _ => datasetEmission_congr h hcall it

/-- **When one answer does not touch the other items.** Two cycles start in the
same state, connected and without a pending error, and differ only in the answer
for item `i`. What the other items send is the same in both exactly when an
earlier item stops the cycle anyway, or the answers for item `i` both stop it or
both do not, or no item that would come after `i` has anything to send. -/
theorem isolation_iff {s : ClientState} {connection : IEC61850ClientConnection} {i : Nat}
    (hconn : s.m_connection = some connection) (hok : connection.isNoError = true)
    (hup : ∀ m, s.calls ≤ m → env.getState m = true)
    (hagree : AgreeExceptAt (s.calls + 1 + 2 * i + 1) env env') (fuel rounds : Nat) :
    let xs := itemEmissions plat setup env (s.calls + 1) s.m_localExchangedData
      s.m_localExchangedDatasets
    let ys := itemEmissions plat setup env' (s.calls + 1) s.m_localExchangedData
      s.m_localExchangedDatasets
    sent (finalState (pollCycle plat setup env fuel rounds s)).events =
        sent s.events ++ (List.range xs.length).flatMap (share xs) ∧
      sent (finalState (pollCycle plat setup env' fuel rounds s)).events =
        sent s.events ++ (List.range ys.length).flatMap (share ys) ∧
      ((∀ j, j ≠ i → share xs j = share ys j) ↔
        (∃ j < i, stopsAt xs j) ∨ stopsAt xs i = stopsAt ys i ∨
          ∀ j, i < j → (∀ k, i < k → k < j → stopsAt xs k = false) → outAt xs j = []) := by
  intro xs ys
  have hup' : env'.getState s.calls = true := by rw [← hagree.getState, hup _ (Nat.le_refl _)]
  refine ⟨?_, ?_, ?_⟩
  · rw [← seqAll_out_eq_shares]
    exact (pollCycle_sent hconn hok (hup _ (Nat.le_refl _)) ..).1
  · rw [← seqAll_out_eq_shares]
    exact (pollCycle_sent hconn hok hup' ..).1
  -- the loop passes on what its items send, up to the first one that stops
  · exact share_congr_iff
      (itemEmissions_congr (fun m hm => hup m (by omega)) hagree _ _)

/-! ## An unsupported value -/

/-- The small IED, except that the first DO read has an unsupported type. -/
def smallIedUnsupported : Environment :=
  { smallIed with
    readObject := fun n doPath functionalConstraint =>
      if n = 14 then (some (.primitive (.other "octet-string")), IED_ERROR_OK)
      else smallIed.readObject n doPath functionalConstraint }

/-- A client that reads two DOs. -/
@[irreducible] def twoIndications : ClientState :=
  launched (smallSetup .DO_READING []) smallIed [smallDO "TS1" "SPSSO1", smallDO "TS2" "SPSSO10"]

/-- It is a client of the small IED, after its launch. -/
theorem twoIndications_reachable :
    ClientReachable (.withDocuments []) (smallSetup .DO_READING []) smallIed 3 2 twoIndications := by
  rw [twoIndications]
  exact .launch (eq_ok_of_returned (by decide +kernel))

/-- It has a connection without a pending error. -/
theorem twoIndications_ready : twoIndications.m_connection = some ⟨IED_ERROR_OK⟩ ∧
    twoIndications.calls = 12 := by
  rw [twoIndications]
  decide +kernel

/-- Both answer alike, but for the first DO of that cycle. -/
theorem smallIed_agree :
    AgreeExceptAt (twoIndications.calls + 1 + 2 * 0 + 1) smallIed smallIedUnsupported := by
  rw [twoIndications_ready.2]
  exact ⟨rfl, fun m hm => by simp [smallIedUnsupported, hm], fun m _ => rfl⟩

/-- The first DO has a value of an unsupported type. -/
theorem isolation_iff_sample :
    let xs := itemEmissions (.withDocuments []) (smallSetup .DO_READING []) smallIed
      (twoIndications.calls + 1) twoIndications.m_localExchangedData
      twoIndications.m_localExchangedDatasets
    let ys := itemEmissions (.withDocuments []) (smallSetup .DO_READING []) smallIedUnsupported
      (twoIndications.calls + 1) twoIndications.m_localExchangedData
      twoIndications.m_localExchangedDatasets
    (∀ j, j ≠ 0 → share xs j = share ys j) ↔
      (∃ j < 0, stopsAt xs j) ∨ stopsAt xs 0 = stopsAt ys 0 ∨
        ∀ j, 0 < j → (∀ k, 0 < k → k < j → stopsAt xs k = false) → outAt xs j = [] :=
  (isolation_iff twoIndications_ready.1 rfl (fun _ _ => rfl) smallIed_agree 3 2).2.2

/-- The value of the first DO is of an unsupported type in the second cycle, and
the second DO is not sent any more. -/
theorem unsupported_value_suppresses_next :
    ClientReachable (.withDocuments []) (smallSetup .DO_READING []) smallIed 3 2 twoIndications ∧
      twoIndications.m_connection = some ⟨IED_ERROR_OK⟩ ∧
      AgreeExceptAt (twoIndications.calls + 1 + 2 * 0 + 1) smallIed smallIedUnsupported ∧
      (sent (finalState (pollCycle (.withDocuments []) (smallSetup .DO_READING []) smallIed 3 2
        twoIndications)).events).map Datapoint.getName = ["TS1", "TS2"] ∧
      sent (finalState (pollCycle (.withDocuments []) (smallSetup .DO_READING [])
        smallIedUnsupported 3 2 twoIndications)).events = [] := by
  refine ⟨twoIndications_reachable, twoIndications_ready.1, smallIed_agree, ?_, ?_⟩
  · rw [twoIndications]
    decide +kernel
  · rw [← List.length_eq_zero_iff, twoIndications]
    decide +kernel

end Iec61850South
