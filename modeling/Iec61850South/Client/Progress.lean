import Iec61850South.Client.ThreadSafety

/-! # The way out of `stop`

`stop` joins the launch thread, and then the reading thread. Each of them ends if
the calls it has made return: the stop order ends the loop of
`initializeConnection`, and `m_isMmsReadingActivated` that of `readMmsLoop`. A rank
counts the statements that are left on the way out, when the connection is found
down and no list has another item.
-/

namespace Iec61850South

open Lib

/-! ## The way out -/

/-- Statements left in the destruction of the connection. -/
def DestroyPc.rank : DestroyPc → Nat
  | .test => 2
  | .reset => 1
  | .closing => 0

/-- Statements left in the creation of the connection. -/
def CreatePc.rank : CreatePc → Nat
  | .test => 2
  | .opening => 1
  | .store => 0

/-- Once `stop` has been ordered. -/
def InitializePc.rank : InitializePc → Nat
  | .destroy pc => 8 + pc.rank
  | .create pc => 5 + pc.rank
  | .isConnected .enter => 4
  | .isConnected .inside => 3
  | .buildTrees .enter => 4
  | .buildTrees .inside => 3
  | .sleep => 2
  | .testStopOrder => 1
  | .isStillConnected .enter => 2
  | .isStillConnected .inside => 1

/-- Statements left for the launch thread. -/
def LaunchPc.rank : LaunchPc → Nat
  | .initializing pc => 3 + pc.rank
  | .activate => 3
  | .spawn => 2
  | .assign => 1
  | .done => 0

/-- Once the reading has been deactivated. -/
def ReadingPc.rank : ReadingPc → Nat
  | .testNull => 2
  | .testActivated => 1
  | .isConnected .enter => 6
  | .isConnected .inside => 5
  | .initializing pc => 2 + pc.rank
  | .isNoError .enter => 4
  | .isNoError .inside => 3
  | .logError .enter => 4
  | .logError .inside => 3
  | .read .enter => 4
  | .read .inside => 3
  | .ingest => 3
  | .sleep => 2
  | .done => 0

/-- Statements left in `stop`. -/
def StopPc.rank : StopPc → Nat
  | .setStopOrder => 8
  | .testJoinable => 7
  | .joinLaunch => 6
  | .testActivated => 5
  | .clearActivated => 4
  | .joinReading => 3
  | .destroy pc => pc.rank

/-- What the launch thread and the reading thread have left. A reading thread that has
not been created starts at its first statement. -/
def threadsRank (launch : Option LaunchPc) (reading : Option ReadingPc) : Nat :=
  launch.elim 0 LaunchPc.rank + reading.elim (if launch.isSome then 2 else 0) ReadingPc.rank

/-! ## Each thread goes on -/

section Steps

variable {m : Memory}

/-- Once `stop` has been ordered, each statement of `initializeConnection` can come closer
to its end. -/
theorem exists_initializeStep {pc : InitializePc} (hstop : m.m_stopOrder = true)
    (hsafe : InitializeSafe m.m_connection pc) :
    ∃ m' pc', InitializeStep m pc m' pc' ∧ ∀ q, pc' = some q → q.rank < pc.rank := by
  cases pc with
  | destroy pc =>
    cases pc with
    | test =>
      cases hconn : m.m_connection with
      | false => exact ⟨_, _, .destroyed (.absent hconn), by rintro q ⟨⟩; decide⟩
      | true => exact ⟨_, _, .destroy (.present hconn), by rintro q ⟨⟩; decide⟩
    | reset => exact ⟨_, _, .destroy .reset, by rintro q ⟨⟩; decide⟩
    | closing => exact ⟨_, _, .destroyed .closed, by rintro q ⟨⟩; decide⟩
  | create pc =>
    cases pc with
    | test => exact ⟨_, _, .create (.absent hsafe), by rintro q ⟨⟩; decide⟩
    | opening => exact ⟨_, _, .create .opened, by rintro q ⟨⟩; decide⟩
    | store => exact ⟨_, _, .created .store, by rintro q ⟨⟩; decide⟩
  | isConnected pc =>
    cases pc with
    | enter => exact ⟨_, _, .askConnected, by rintro q ⟨⟩; decide⟩
    | inside => exact ⟨_, _, .notConnected, by rintro q ⟨⟩; decide⟩
  | buildTrees pc =>
    cases pc with
    | enter => exact ⟨_, _, .request, by rintro q ⟨⟩; decide⟩
    | inside => exact ⟨_, _, .built, by rintro q ⟨⟩; decide⟩
  | sleep => exact ⟨_, _, .slept, by rintro q ⟨⟩; decide⟩
  -- the stop order ends the loop
  | testStopOrder => exact ⟨_, none, .stopOrdered hstop, by rintro q ⟨⟩⟩
  | isStillConnected pc =>
    cases pc with
    | enter => exact ⟨_, _, .askStillConnected, by rintro q ⟨⟩; decide⟩
    | inside => exact ⟨_, none, .stillConnected, by rintro q ⟨⟩⟩

/-- Once the reading has been deactivated, so can each one of the reading thread. -/
theorem exists_readingStep {pc : ReadingPc} (hstop : m.m_stopOrder = true)
    (hactivated : m.m_isMmsReadingActivated = false) (hsafe : ReadingSafe m.m_connection pc)
    (hpc : pc ≠ .done) :
    ∃ l m' pc', ReadingStep m pc l m' pc' ∧ (l = .internal ∨ l = .ingest) ∧
      pc'.rank < pc.rank := by
  cases pc with
  | testNull => exact ⟨_, _, _, .testNull, .inl rfl, by decide⟩
  | testActivated => exact ⟨_, _, _, .deactivated hactivated, .inl rfl, by decide⟩
  | isConnected pc =>
    cases pc with
    | enter => exact ⟨_, _, _, .askConnected, .inl rfl, by decide⟩
    | inside => exact ⟨_, _, _, .connected, .inl rfl, by decide⟩
  | initializing pc =>
    rcases exists_initializeStep hstop hsafe with ⟨m', pc', hstep, hrank⟩
    cases pc' with
    | none =>
      refine ⟨_, m', .sleep, .initialized hstep, .inl rfl, ?_⟩
      -- `initializeConnection` ends only where the order to stop is seen, or at its last test
      have hpos : 0 < pc.rank := by
        cases hstep with
        | stopOrdered _ => decide
        | stillConnected => decide
      show 2 < 2 + pc.rank
      omega
    | some q =>
      have hlt : q.rank < pc.rank := hrank q rfl
      refine ⟨_, m', .initializing q, .initializing hstep, .inl rfl, ?_⟩
      show 2 + q.rank < 2 + pc.rank
      omega
  | isNoError pc =>
    cases pc with
    | enter => exact ⟨_, _, _, .askNoError, .inl rfl, by decide⟩
    | inside => exact ⟨_, _, _, .nothingToRead, .inl rfl, by decide⟩
  | logError pc =>
    cases pc with
    | enter => exact ⟨_, _, _, .log, .inl rfl, by decide⟩
    | inside => exact ⟨_, _, _, .logged, .inl rfl, by decide⟩
  | read pc =>
    cases pc with
    | enter => exact ⟨_, _, _, .read, .inl rfl, by decide⟩
    | inside => exact ⟨_, _, _, .endOfCycle, .inl rfl, by decide⟩
  | ingest => exact ⟨_, _, _, .sentLast, .inr rfl, by decide⟩
  | sleep => exact ⟨_, _, _, .slept, .inl rfl, by decide⟩
  | done => exact absurd rfl hpc

/-- So can each one of the launch thread, which may still create the reading thread. -/
theorem exists_launchStep {reading : Option ReadingPc} {pc : LaunchPc}
    (hstop : m.m_stopOrder = true) (hsafe : LaunchSafe m reading pc) (hpc : pc ≠ .done) :
    ∃ m' reading' pc', LaunchStep m reading pc m' reading' pc' ∧
      threadsRank (some pc') reading' < threadsRank (some pc) reading := by
  cases pc with
  | initializing pc =>
    rcases hsafe with ⟨hreading, _, _, hsafe⟩
    rcases exists_initializeStep hstop hsafe with ⟨m', pc', hstep, hrank⟩
    cases pc' with
    | none =>
      refine ⟨m', reading, .activate, .initialized hstep, ?_⟩
      have hpos : 0 < pc.rank := by
        cases hstep with
        | stopOrdered _ => decide
        | stillConnected => decide
      exact Nat.add_lt_add_right (show 3 < 3 + pc.rank by omega) _
    | some q =>
      have hlt : q.rank < pc.rank := hrank q rfl
      refine ⟨m', reading, .initializing q, .initializing hstep, ?_⟩
      exact Nat.add_lt_add_right (Nat.add_lt_add_left hlt 3) _
  | activate =>
    refine ⟨_, reading, .spawn, .activate, ?_⟩
    exact Nat.add_lt_add_right (show 2 < 3 by decide) _
  | spawn =>
    have hreading : reading = none := hsafe.1
    subst hreading
    exact ⟨_, _, .assign, .spawn, by decide⟩
  | assign =>
    refine ⟨_, reading, .done, .assign, ?_⟩
    exact Nat.add_lt_add_right (show 0 < 1 by decide) _
  | done => exact absurd rfl hpc

end Steps

/-! ## The stop order is not taken back -/

section StopOrder

variable {m m' : Memory}

/-- The destruction of the connection leaves the order to stop. -/
theorem DestroyStep.stopOrder {pc : DestroyPc} {pc' : Option DestroyPc}
    (h : DestroyStep m pc m' pc') : m'.m_stopOrder = m.m_stopOrder := by
  cases h <;> rfl

/-- So does `initializeConnection`, which only reads it. -/
theorem InitializeStep.stopOrder {pc : InitializePc} {pc' : Option InitializePc}
    (h : InitializeStep m pc m' pc') : m'.m_stopOrder = m.m_stopOrder := by
  cases h with
  | destroy hstep => exact hstep.stopOrder
  | destroyed hstep => exact hstep.stopOrder
  | create hstep => cases hstep <;> rfl
  | created hstep => cases hstep <;> rfl
  | _ => rfl

/-- The stop order, once `stop` has given it. -/
def StopOrdered (t : ClientThreads) : Prop :=
  ∀ destructor pc, t.control = .stop destructor pc → pc ≠ .setStopOrder →
    t.memory.m_stopOrder = true

/-- Before `stop` has been called there is nothing to keep. -/
theorem StopOrdered.of_idle {t : ClientThreads} (h : t.control = .idle) : StopOrdered t := by
  intro destructor pc hcontrol
  rw [h] at hcontrol
  cases hcontrol

/-- No thread takes the order to stop back. -/
theorem StopOrdered.step {t t' : ClientThreads} {l : Label} (h : StopOrdered t)
    (hstep : ThreadStep t l t') : StopOrdered t' := by
  intro destructor pc hcontrol hpc
  cases hstep with
  | control hstep =>
    generalize hat : t.control = at_ at hstep
    cases hstep with
    | callStop =>
      cases hcontrol
      exact absurd rfl hpc
    | callDestructor =>
      cases hcontrol
      exact absurd rfl hpc
    | setStopOrder => rfl
    | callStart => cases hcontrol
    | spawn => cases hcontrol
    | assign => cases hcontrol
    | @returns d _ _ _ => cases d <;> cases hcontrol
    | destroy hstep => exact hstep.stopOrder.trans (h _ _ hat (by simp))
    | _ => exact h _ _ hat (by simp)
  | launch _ hstep =>
    -- the background threads only read it
    have hsame := h destructor pc hcontrol hpc
    cases hstep with
    | initializing hstep => exact hstep.stopOrder.trans hsame
    | initialized hstep => exact hstep.stopOrder.trans hsame
    | _ => exact hsame
  | reading _ hstep =>
    have hsame := h destructor pc hcontrol hpc
    cases hstep with
    | initializing hstep => exact hstep.stopOrder.trans hsame
    | initialized hstep => exact hstep.stopOrder.trans hsame
    | _ => exact hsame

end StopOrder

/-! ## The three threads go on -/

namespace ClientThreads

/-- The statements of that way until `stop` returns. -/
def stopRank (t : ClientThreads) (pc : StopPc) : Nat :=
  pc.rank + threadsRank t.launch t.reading

/-- `stop` returns, or a thread takes it closer to its end. -/
theorem Coherent.exists_stopStep {t : ClientThreads} (h : t.Coherent false)
    (hordered : StopOrdered t) {destructor : Bool} {pc : StopPc}
    (hpc : t.control = .stop destructor pc) :
    (∃ t', ThreadStep t .stopReturns t') ∨
      ∃ l t' pc', ThreadStep t l t' ∧ (l = .internal ∨ l = .ingest) ∧
        t'.control = .stop destructor pc' ∧ t'.stopRank pc' < t.stopRank pc := by
  have hsafe : t.ControlSafe false (.stop destructor pc) := by
    rw [← hpc]
    exact h
  have hcontrol : ∀ {l : Label} {t' : ClientThreads},
      ControlStep t (.stop destructor pc) l t' → ThreadStep t l t' := by
    intro l t' hstep
    rw [← hpc] at hstep
    exact .control hstep
  cases pc with
  | setStopOrder =>
    right
    refine ⟨_, _, .testJoinable, hcontrol .setStopOrder, .inl rfl, rfl, ?_⟩
    exact Nat.add_lt_add_right (show 7 < 8 by decide) _
  | testJoinable =>
    right
    cases hjoinable : t.memory.m_backgroundLaunchThread with
    | true =>
      refine ⟨_, _, .joinLaunch, hcontrol (.joinable hjoinable), .inl rfl, rfl, ?_⟩
      exact Nat.add_lt_add_right (show 6 < 7 by decide) _
    | false =>
      refine ⟨_, _, .testActivated, hcontrol (.notJoinable hjoinable), .inl rfl, rfl, ?_⟩
      exact Nat.add_lt_add_right (show 5 < 7 by decide) _
  | joinLaunch =>
    right
    rcases hsafe with ⟨_, _, launch, hlaunch, hlaunchSafe⟩
    by_cases hdone : launch = .done
    · subst hdone
      refine ⟨_, _, .testActivated, hcontrol (.joinLaunch hlaunch), .inl rfl, rfl, ?_⟩
      rcases hlaunchSafe.2.2 with ⟨reading, hreading, _⟩
      unfold stopRank threadsRank
      rw [hlaunch, hreading]
      show 5 + (0 + reading.rank) < 6 + (0 + reading.rank)
      omega
    -- the launch thread is still running, and has been told to stop
    · have hstop : t.memory.m_stopOrder = true := hordered destructor _ hpc (by simp)
      rcases exists_launchStep hstop hlaunchSafe hdone with ⟨m', reading', pc', hstep, hrank⟩
      refine ⟨_, _, .joinLaunch, .launch hlaunch hstep, .inl rfl, hpc, ?_⟩
      unfold stopRank
      rw [hlaunch]
      exact Nat.add_lt_add_left hrank _
  | testActivated =>
    right
    cases hactivated : t.memory.m_isMmsReadingActivated with
    | true =>
      refine ⟨_, _, .clearActivated, hcontrol (.activated hactivated), .inl rfl, rfl, ?_⟩
      exact Nat.add_lt_add_right (show 4 < 5 by decide) _
    | false =>
      refine ⟨_, _, .destroy .test, hcontrol (.notActivated hactivated), .inl rfl, rfl, ?_⟩
      exact Nat.add_lt_add_right (show 2 < 5 by decide) _
  | clearActivated =>
    right
    refine ⟨_, _, .joinReading, hcontrol .clearActivated, .inl rfl, rfl, ?_⟩
    exact Nat.add_lt_add_right (show 3 < 4 by decide) _
  | joinReading =>
    right
    rcases hsafe with ⟨_, hlaunch, _, _, hactivated, reading, hreading, hreadingSafe⟩
    by_cases hdone : reading = .done
    · subst hdone
      refine ⟨_, _, .destroy .test, hcontrol (.joinReading hreading), .inl rfl, rfl, ?_⟩
      unfold stopRank threadsRank
      rw [hlaunch, hreading]
      show 2 + (0 + 0) < 3 + (0 + 0)
      decide
    · have hstop : t.memory.m_stopOrder = true := hordered destructor _ hpc (by simp)
      rcases exists_readingStep hstop hactivated hreadingSafe hdone with
        ⟨l, m', pc', hstep, hl, hrank⟩
      refine ⟨l, _, .joinReading, .reading hreading hstep, hl, hpc, ?_⟩
      unfold stopRank threadsRank
      rw [hlaunch, hreading]
      show 3 + (0 + pc'.rank) < 3 + (0 + reading.rank)
      omega
  | destroy pc =>
    cases pc with
    | test =>
      cases hconn : t.memory.m_connection with
      | false => exact .inl ⟨_, hcontrol (.returns (.absent hconn))⟩
      | true =>
        right
        refine ⟨_, _, .destroy .reset, hcontrol (.destroy (.present hconn)), .inl rfl, rfl, ?_⟩
        exact Nat.add_lt_add_right (show 1 < 2 by decide) _
    | reset =>
      right
      refine ⟨_, _, .destroy .closing, hcontrol (.destroy .reset), .inl rfl, rfl, ?_⟩
      exact Nat.add_lt_add_right (show 0 < 1 by decide) _
    | closing => exact .inl ⟨_, hcontrol (.returns .closed)⟩

end ClientThreads

end Iec61850South
