import Iec61850South.Client.Liveness
import Iec61850South.Client.Silent

/-! # Where the threads of a client are

What the functions of a client compute, with all its data, and how its threads take
turns have been modelled apart. `Reaches env calls destructor stage s` connects the two: a
run of the threads has come to the stage, with the connection of `s`, after the same calls
of `start` and `stop`, and has handed over as many readings as the events of `s` show.
-/

namespace Iec61850South

open Lib

/-! ## Stages of the threads -/

/-- The statement that comes next, while `start` has returned. The launch thread is at
work, or it has ended and the reading thread is. -/
inductive Stage where
  | launching (pc : LaunchPc)
  | reading (pc : ReadingPc)

def Stage.threads (control : ControlPc) (m_stopOrder m_connection : Bool) : Stage → ClientThreads
  | .launching pc =>
    { memory := { m_stopOrder, m_connection, m_backgroundLaunchThread := true }
      control, launch := some pc }
  | .reading pc =>
    { memory :=
        { m_stopOrder, m_connection, m_isMmsReadingActivated := true
          m_backgroundLaunchThread := true, m_mmsReadingThread := true }
      control, launch := some .done, reading := some pc }

/-- Only the control thread is there. -/
def restingThreads (control : ControlPc) (m_stopOrder m_connection : Bool) : ClientThreads :=
  { memory := { m_stopOrder, m_connection }, control }

/-- A thread is in `initializeConnection`. -/
def Stage.initializing (pc : InitializePc) : ClientThread → Stage
  | .launch => .launching (.initializing pc)
  | .reading => .reading (.initializing pc)

/-- `initializeConnection` has returned. -/
def Stage.initialized : ClientThread → Stage
  | .launch => .launching .activate
  | .reading => .reading .sleep

/-- The beginning of `start`, and the end of `stop` or of the destructor. -/
def Label.delimits : Label → Bool
  | .callStart => true
  | .stopReturns => true
  | _ => false

/-- The threads have come to `t`, after these calls of `start` and returns of `stop`, the last
one in front, and with so many readings handed over. -/
def Ran (calls : List Label) (started : Bool) (readings : Nat) (t : ClientThreads) : Prop :=
  ∃ ls, Run ThreadStep {} ls t ∧ ls.foldlM startMonitor false = some started ∧
    (ls.filter Label.delimits).reverse = calls ∧ ls.count .ingest = readings

theorem Ran.step {calls : List Label} {started started' : Bool} {readings : Nat}
    {t t' : ClientThreads} {l : Label} (h : Ran calls started readings t)
    (hstep : ThreadStep t l t') (hl : startMonitor started l = some started') :
    Ran ([l].filter Label.delimits ++ calls) started' (readings + [l].count .ingest) t' := by
  rcases h with ⟨ls, hrun, hmonitor, rfl, rfl⟩
  refine ⟨ls ++ [l], hrun.append (.cons hstep (.nil t')), ?_, ?_, List.count_append ..⟩
  · rw [List.foldlM_append, hmonitor]
    simp [hl]
  · have hone : ([l].filter Label.delimits).reverse = [l].filter Label.delimits := by
      cases l <;> rfl
    rw [List.filter_append, List.reverse_append, hone]

theorem Ran.internal {calls : List Label} {started : Bool} {readings : Nat}
    {t t' : ClientThreads} (h : Ran calls started readings t) (hstep : ThreadStep t .internal t') :
    Ran calls started readings t' :=
  h.step hstep (startMonitor_internal started)

section Stages

variable (env : Environment) (calls : List Label) (destructor : Bool)

/-- Each test of the stop order finds it from now on. -/
def OrderSeen (s : ClientState) : Prop :=
  ∀ n, s.calls ≤ n → env.stopOrder n = true

/-- The control thread has returned from `start`, or waits in the call of `stop` that has
given the order. -/
inductive Attends (s : ClientState) : ControlPc → (m_stopOrder started : Bool) → Prop
  | idle {m_stopOrder : Bool} : (m_stopOrder = true → OrderSeen env s) →
      Attends s .idle m_stopOrder true
  | stopping : OrderSeen env s → Attends s (.stop destructor .testJoinable) true false

/-- The threads have run as far as the client has computed, and come to the stage. -/
def Reaches (stage : Stage) (s : ClientState) : Prop :=
  ∃ control m_stopOrder started, Attends env destructor s control m_stopOrder started ∧
    Ran calls started (sent s.events).length
      (stage.threads control m_stopOrder s.m_connection.isSome)

/-- The threads may have come to any of these stages. -/
def CanBe (stages : List Stage) (s : ClientState) : Prop :=
  ∀ stage ∈ stages, Reaches env calls destructor stage s

end Stages

section Steps

variable {env : Environment} {calls : List Label} {destructor : Bool} {s s' : ClientState}

theorem Attends.later {control : ControlPc} {m_stopOrder started : Bool}
    (h : Attends env destructor s control m_stopOrder started) (hcalls : s.calls ≤ s'.calls) :
    Attends env destructor s' control m_stopOrder started := by
  cases h with
  | idle horder => exact .idle fun hseen n hn => horder hseen n (Nat.le_trans hcalls hn)
  | stopping horder => exact .stopping fun n hn => horder n (Nat.le_trans hcalls hn)

/-- What the client has computed is a step of one of its threads. -/
theorem Reaches.step {stage stage' : Stage} (h : Reaches env calls destructor stage s)
    (hcalls : s.calls ≤ s'.calls) (hsent : (sent s'.events).length = (sent s.events).length)
    (hstep : ∀ control m_stopOrder,
      ThreadStep (stage.threads control m_stopOrder s.m_connection.isSome) .internal
        (stage'.threads control m_stopOrder s'.m_connection.isSome)) :
    Reaches env calls destructor stage' s' := by
  rcases h with ⟨control, m_stopOrder, started, hattends, hran⟩
  refine ⟨control, m_stopOrder, started, hattends.later hcalls, ?_⟩
  rw [hsent]
  exact hran.internal (hstep control m_stopOrder)

/-- A step that the client does not see. -/
theorem Reaches.goOn {stage stage' : Stage} (h : Reaches env calls destructor stage s)
    (hstep : ∀ control m_stopOrder,
      ThreadStep (stage.threads control m_stopOrder s.m_connection.isSome) .internal
        (stage'.threads control m_stopOrder s.m_connection.isSome)) :
    Reaches env calls destructor stage' s :=
  h.step (Nat.le_refl _) rfl hstep

/-- A statement of the client that is no step of a thread. -/
theorem Reaches.unsent {stage : Stage} (h : Reaches env calls destructor stage s) (hsame : Unsent s s') :
    Reaches env calls destructor stage s' := by
  rcases h with ⟨control, m_stopOrder, started, hattends, hran⟩
  refine ⟨control, m_stopOrder, started, hattends.later hsame.calls, ?_⟩
  rw [hsame.sent, hsame.connection]
  exact hran

/-! ### `initializeConnection`, in either thread -/

/-- A statement of `initializeConnection` is one of the thread that has called it. -/
theorem InitializeStep.threadStep {pc pc' : InitializePc} {c c' : Bool} (thread : ClientThread)
    (hstep : ∀ m : Memory, m.m_connection = c →
      InitializeStep m pc { m with m_connection := c' } (some pc')) (control : ControlPc)
    (m_stopOrder : Bool) :
    ThreadStep ((Stage.initializing pc thread).threads control m_stopOrder c) .internal
      ((Stage.initializing pc' thread).threads control m_stopOrder c') := by
  cases thread with
  | launch => exact .launch rfl (.initializing (hstep _ rfl))
  | reading => exact .reading rfl (.initializing (hstep _ rfl))

theorem InitializeStep.threadReturn {pc : InitializePc} {m_stopOrder c : Bool}
    (thread : ClientThread)
    (hstep : ∀ m : Memory, m.m_stopOrder = m_stopOrder → InitializeStep m pc m none)
    (control : ControlPc) :
    ThreadStep ((Stage.initializing pc thread).threads control m_stopOrder c) .internal
      ((Stage.initialized thread).threads control m_stopOrder c) := by
  cases thread with
  | launch => exact .launch rfl (.initialized (hstep _ rfl))
  | reading => exact .reading rfl (.initialized (hstep _ rfl))

theorem Reaches.initializeStep {pc pc' : InitializePc} {thread : ClientThread}
    (h : Reaches env calls destructor (.initializing pc thread) s) (hcalls : s.calls ≤ s'.calls)
    (hsent : sent s'.events = sent s.events)
    (hstep : ∀ m : Memory, m.m_connection = s.m_connection.isSome →
      InitializeStep m pc { m with m_connection := s'.m_connection.isSome } (some pc')) :
    Reaches env calls destructor (.initializing pc' thread) s' :=
  h.step hcalls (congrArg List.length hsent) (InitializeStep.threadStep thread hstep)

theorem Reaches.initialize {pc pc' : InitializePc} {thread : ClientThread}
    (h : Reaches env calls destructor (.initializing pc thread) s) (hsame : Unsent s s')
    (hstep : ∀ m : Memory, m.m_connection = s.m_connection.isSome →
      InitializeStep m pc m (some pc')) :
    Reaches env calls destructor (.initializing pc' thread) s' := by
  refine h.initializeStep hsame.calls hsame.sent fun m hm => ?_
  have hm' : { m with m_connection := s'.m_connection.isSome } = m := by
    rw [hsame.connection, ← hm]
  rw [hm']
  exact hstep m hm

end Steps

end Iec61850South
