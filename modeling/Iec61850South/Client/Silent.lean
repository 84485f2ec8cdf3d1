import Iec61850South.Client.Addresses
import Iec61850South.Client.Cycle
import Iec61850South.Client.Paths
import Iec61850South.Lib.Hoare

/-! # What sends nothing

The building of the name trees asks the IED, and sends nothing to Fledge.
-/

namespace Iec61850South

open Lib IEC61850ClientConnection

/-- From `s` to `s'` nothing has been sent, and the connection has stayed or been missing. -/
structure Unsent (s s' : ClientState) : Prop where
  calls : s.calls ≤ s'.calls
  sent : sent s'.events = sent s.events
  connection : s'.m_connection.isSome = s.m_connection.isSome

/-- No exception that is caught. -/
def NotCaught (e : Abort) (_ : ClientState) : Prop :=
  e.isCaught = false

section Statements

variable {plat : Platform} {env : Environment} {s s' s₀ : ClientState}

/-- No step sends nothing. -/
theorem Unsent.refl (s : ClientState) : Unsent s s := ⟨Nat.le_refl _, rfl, rfl⟩

/-- What is sent by neither of two parts is not sent by both. -/
theorem Unsent.trans {s'' : ClientState} (h : Unsent s s') (h' : Unsent s' s'') : Unsent s s'' :=
  ⟨Nat.le_trans h.calls h'.calls, h'.sent.trans h.sent, h'.connection.trans h.connection⟩

/-- `IedConnection_getState` is a question, not a reading. -/
theorem unsent_afterGetState (s : ClientState) : Unsent s (s.afterGetState env) := by
  refine ⟨Nat.le_succ _, ?_, rfl⟩
  rw [ClientState.afterGetState, sent_append]
  exact List.append_nil _

/-- A request of the library sends nothing to Fledge, whatever it answers. -/
theorem unsent_afterRequest {event : Event} (hevent : sent [event] = []) (error : IedClientError)
    (s : ClientState) : Unsent s (s.afterRequest event error) := by
  refine ⟨Nat.le_succ _, ?_, isSome_afterRequest event error s⟩
  rw [ClientState.afterRequest, sent_append, hevent, List.append_nil]

/-- The OSI parameters are set before the connection opens, without a word to Fledge. -/
theorem sent_parameterEvents (connParam : ServerConnectionParameters) :
    sent (parameterEvents connParam) = [] := by
  unfold parameterEvents
  cases connParam.isOsiParametersEnabled with
  | false => rfl
  | true =>
    rw [if_pos rfl, osiEvents, sent_append, sent_append]
    have htitle : ∀ (c : Prop) [Decidable c] (event : Event), sent [event] = [] →
        sent (if c then [event] else []) = [] := by
      intro c _ event hevent
      by_cases hc : c
      · rw [if_pos hc, hevent]
      · rw [if_neg hc]
        rfl
    rw [htitle _ _ rfl, htitle _ _ rfl]
    rfl

/-- The opening of a connection sends nothing. -/
theorem sent_opened (connParam : ServerConnectionParameters) (s : ClientState) :
    sent (s.opened env connParam).events = sent s.events := by
  rw [opened_events, sent_append, sent_append, sent_parameterEvents]
  exact List.append_nil _

/-- The closing of a connection sends nothing. -/
theorem sent_close (s : ClientState) : sent (s.events ++ [.close]) = sent s.events := by
  rw [sent_append]
  exact List.append_nil _

/-- `m_connection->` leaves the state as it is, and its fault is no exception that is
caught. -/
theorem deref_keeps {P : ClientState → Prop} : Hoare P deref (fun _ => P) NotCaught := by
  intro s hs
  cases hconn : s.m_connection with
  | none =>
    rw [deref_run_none hconn]
    refine ⟨fun _ _ heq => (by cases heq), ?_⟩
    intro e s' heq
    cases heq
    rfl
  | some connection =>
    rw [deref_run hconn]
    refine ⟨?_, fun _ _ heq => (by cases heq)⟩
    intro a s' heq
    cases heq
    exact hs

/-- The guard of every method of the connection sends nothing. -/
theorem isConnected_unsent {s₀ : ClientState} :
    Hoare (Unsent s₀) (isConnected env) (fun _ => Unsent s₀) NotCaught :=
  .of_ok fun s hs => ⟨_, _, isConnected_run env s, hs.trans (unsent_afterGetState s)⟩

/-- A request between two states sends nothing. -/
theorem request_unsent {α : Type} {s₀ : ClientState} {event : Event} (hevent : sent [event] = [])
    (answer : Nat → α × IedClientError) :
    Hoare (Unsent s₀) (request event answer) (fun _ => Unsent s₀) NotCaught :=
  .of_ok fun s hs => ⟨_, _, request_run event answer s, hs.trans (unsent_afterRequest hevent _ s)⟩

/-- By induction on the depth: a node asks for its children, and each of them for its own.
-/
theorem buildNameTree_unsent (fuel : Nat) (pathInDatamodel : String)
    (functionalConstraint : FunctionalConstraint) (nameTree : MmsNameNode) :
    Hoare (Unsent s₀) (buildNameTree env fuel pathInDatamodel functionalConstraint nameTree)
      (fun _ => Unsent s₀) NotCaught := by
  induction fuel generalizing pathInDatamodel nameTree with
  | zero => exact .throw fun _ _ => rfl
  | succ fuel ih =>
    refine .bind isConnected_unsent fun connected => .ite (.pure fun _ hs => hs) ?_
    refine .bind (request_unsent rfl _) fun names => ?_
    cases names with
    | none => exact .pure fun _ hs => hs
    | some dataAttributes =>
      exact .foldlM nameTree fun _ _ => .bind (ih _ _) fun _ => .pure fun _ hs => hs

/-- The name tree of a DO that is read by itself. -/
theorem buildDatapointNameTree_unsent (fuel : Nat) (dpConfig : DatapointConfig) :
    Hoare (Unsent s₀) (buildDatapointNameTree env fuel dpConfig) (fun _ => Unsent s₀) NotCaught :=
  .bind deref_keeps fun _ => .bind (buildNameTree_unsent fuel _ _ _) fun _ => .pure fun _ hs => hs

/-- The name tree of one member of a dataset: the split of its reference always returns. -/
theorem buildMember_unsent (fuel : Nat) (selection : ExchangedData) (doPathWithFC : String) :
    Hoare (Unsent s₀) (buildMember plat env fuel selection doPathWithFC) (fun _ => Unsent s₀)
      NotCaught := by
  rcases splitDoPathWithFC_returns doPathWithFC with ⟨parts, hparts⟩
  have hsplit : Hoare (Unsent s₀) (liftExcept (splitDoPathWithFC doPathWithFC))
      (fun _ => Unsent s₀) NotCaught := by
    rw [hparts]
    exact .of_ok fun s hs => ⟨parts, s, rfl, hs⟩
  exact .bind hsplit fun _ => .bind deref_keeps fun _ =>
    .bind (buildNameTree_unsent fuel _ _ _) fun _ => .pure fun _ hs => hs

/-- A dataset asks for its directory and then builds each member. -/
theorem buildDataset_unsent (fuel : Nat) (datasetRef : String) (selection : ExchangedData) :
    Hoare (Unsent s₀) (buildDataset plat env fuel datasetRef selection) (fun _ => Unsent s₀)
      NotCaught := by
  have hdirectory : Hoare (Unsent s₀) (getDoPathListWithFCFromDataset env datasetRef)
      (fun _ => Unsent s₀) NotCaught :=
    .bind isConnected_unsent fun _ => .ite (.pure fun _ hs => hs)
      (.bind (request_unsent rfl _) fun _ => .pure fun _ hs => hs)
  exact .bind deref_keeps fun _ => .bind hdirectory fun _ =>
    .bind (.mapM (buildMember_unsent fuel selection)) fun _ =>
      .modify fun _ hs => ⟨hs.calls, hs.sent, hs.connection⟩

/-- The whole building sends nothing to Fledge and throws nothing that is caught. -/
theorem buildConfigurationNameTrees_unsent {setup : ClientSetup} (fuel : Nat) :
    Hoare (Unsent s₀) (buildConfigurationNameTrees plat setup env fuel) (fun _ => Unsent s₀)
      NotCaught :=
  .bind (.get fun _ hs => hs) fun _ =>
    .bind (.mapM (buildDatapointNameTree_unsent fuel)) fun _ =>
      .bind (.modify fun _ hs => ⟨hs.calls, hs.sent, hs.connection⟩) fun _ =>
        .forM fun _ _ => buildDataset_unsent fuel _ _

end Statements

end Iec61850South
