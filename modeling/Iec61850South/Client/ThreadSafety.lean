import Iec61850South.Client.ThreadInvariant

/-! # Safety of the threads of a client

What the invariant says about the accesses to the connection and about the
handles, in every run of the three threads.
-/

namespace Iec61850South

open Lib

/-! ## Accesses to the connection -/

/-- The thread calls a method through the pointer. -/
def InitializePc.uses : InitializePc → Bool
  | .isConnected _ => true
  | .buildTrees _ => true
  | .isStillConnected _ => true
  | _ => false

/-- The reading thread uses the object. -/
def ReadingPc.uses : ReadingPc → Bool
  | .isConnected _ => true
  | .isNoError _ => true
  | .logError _ => true
  | .read _ => true
  | .initializing pc => pc.uses
  | _ => false

/-- The launch thread uses it only inside `initializeConnection`. -/
def LaunchPc.uses : LaunchPc → Bool
  | .initializing pc => pc.uses
  | _ => false

/-- The thread reads or writes the pointer, or uses or destroys the object. -/
def InitializePc.accesses : InitializePc → Bool
  | .sleep => false
  | .testStopOrder => false
  | _ => true

/-- The reading thread reads the pointer before each use. -/
def ReadingPc.accesses : ReadingPc → Bool
  | .testNull => true
  | .initializing pc => pc.accesses
  | pc => pc.uses

/-- The launch thread accesses it only inside `initializeConnection`. -/
def LaunchPc.accesses : LaunchPc → Bool
  | .initializing pc => pc.accesses
  | _ => false

/-- `stop` destroys the connection as its last statement. -/
def ControlPc.accesses : ControlPc → Bool
  | .stop _ (.destroy _) => true
  | _ => false

/-- The threads that run code of a client. -/
inductive Thread where
  | control
  | launch
  | reading
deriving DecidableEq

namespace ClientThreads

/-- The thread uses the object. -/
def uses (s : ClientThreads) : Thread → Bool
  | .control => false
  | .launch => s.launch.any LaunchPc.uses
  | .reading => s.reading.any ReadingPc.uses

/-- The thread reads or writes the pointer, or uses or destroys the object. -/
def accesses (s : ClientThreads) : Thread → Bool
  | .control => s.control.accesses
  | .launch => s.launch.any LaunchPc.accesses
  | .reading => s.reading.any ReadingPc.accesses

/-- No thread of the client runs, and there is no connection. -/
def Ended (s : ClientThreads) : Prop :=
  s.launch = none ∧ s.reading = none ∧ s.memory.m_connection = false

end ClientThreads

/-- What no statement that comes next may violate. -/
structure ThreadsSafe (s : ClientThreads) : Prop where
  /-- The connection is not null while it is used. -/
  notNull : ∀ t, s.uses t = true → s.memory.m_connection = true
  /-- No two threads access the connection. -/
  exclusive : ∀ t t', s.accesses t = true → s.accesses t' = true → t = t'
  /-- A handle that is assigned is not joinable, and its thread is a new one. -/
  assignLaunch : ∀ pc, s.control = .start pc → s.memory.m_backgroundLaunchThread = false
  spawnLaunch : s.control = .start .spawn → s.launch = none
  assignReading : s.launch = some .spawn ∨ s.launch = some .assign →
    s.memory.m_mmsReadingThread = false
  spawnReading : s.launch = some .spawn → s.reading = none
  /-- A handle that is joined is joinable. -/
  joinLaunch : ∀ d, s.control = .stop d .joinLaunch → s.memory.m_backgroundLaunchThread = true
  joinReading : ∀ d, s.control = .stop d .joinReading → s.memory.m_mmsReadingThread = true
  /-- The destructor leaves no joinable handle behind. -/
  destroyed : s.control = .gone →
    s.memory.m_backgroundLaunchThread = false ∧ s.memory.m_mmsReadingThread = false

/-! ## What the invariant says about the accesses -/

/-- At each use inside `initializeConnection` there is a connection. -/
theorem InitializeSafe.uses {c : Bool} {pc : InitializePc} (h : InitializeSafe c pc)
    (huses : pc.uses = true) : c = true := by
  cases pc with
  | isConnected _ => exact h
  | buildTrees _ => exact h
  | isStillConnected _ => exact h
  | _ => cases huses

/-- At each use of the reading thread there is a connection. -/
theorem ReadingSafe.uses {c : Bool} {pc : ReadingPc} (h : ReadingSafe c pc)
    (huses : pc.uses = true) : c = true := by
  cases pc with
  | initializing pc => exact InitializeSafe.uses h huses
  | _ => exact h

/-- At each use of the launch thread there is a connection. -/
theorem LaunchSafe.uses {m : Memory} {reading : Option ReadingPc} {pc : LaunchPc}
    (h : LaunchSafe m reading pc) (huses : pc.uses = true) : m.m_connection = true := by
  cases pc with
  | initializing pc => exact h.2.2.2.uses huses
  | _ => cases huses

/-- So there is at each use of a reading thread that may be missing. -/
theorem Reads.uses {m : Memory} {reading : Option ReadingPc} (h : Reads m reading)
    (huses : reading.any ReadingPc.uses = true) : m.m_connection = true := by
  rcases h with ⟨pc, rfl, hsafe⟩
  exact hsafe.uses huses

namespace ClientThreads

section Accesses

variable {s : ClientThreads} {started : Bool}

/-- `owner` alone may access the connection, and it is there when it is used. -/
structure Owned (s : ClientThreads) (owner : Thread) : Prop where
  accesses : ∀ t, s.accesses t = true → t = owner
  uses : ∀ t, s.uses t = true → s.memory.m_connection = true

/-- Without threads, the pointer is left to the thread of Fledge. -/
theorem Alone.owned (h : s.Alone) : s.Owned .control := by
  rcases h with ⟨hlaunch, hreading, -⟩
  constructor
  · intro t ht
    cases t <;> simp_all [ClientThreads.accesses]
  · intro t ht
    cases t <;> simp_all [ClientThreads.uses]

/-- The reading thread has the connection to itself. -/
theorem owned_of_reads (h : Reads s.memory s.reading) (hcontrol : s.control.accesses = false)
    (hlaunch : s.launch.any LaunchPc.accesses = false)
    (huses : s.launch.any LaunchPc.uses = false) : s.Owned .reading := by
  constructor
  · intro t ht
    cases t <;> simp_all [ClientThreads.accesses]
  · intro t ht
    cases t with
    | control => cases ht
    | launch =>
      unfold ClientThreads.uses at ht
      rw [huses] at ht
      cases ht
    | reading => exact Reads.uses h ht

/-- While only the reading thread runs, the pointer is its own. -/
theorem ReadsAlone.owned {activated : Bool} (h : s.ReadsAlone activated)
    (hcontrol : s.control.accesses = false) : s.Owned .reading := by
  rcases h with ⟨hlaunch, -, -, -, hreads⟩
  exact owned_of_reads hreads hcontrol (by rw [hlaunch]; rfl) (by rw [hlaunch]; rfl)

/-- The launch thread gives the pointer up before it creates the reading thread. -/
theorem Launched.owned {handle : Bool} (h : s.Launched handle)
    (hcontrol : s.control.accesses = false) : ∃ owner, s.Owned owner := by
  rcases h with ⟨-, pc, hpc, hsafe⟩
  by_cases hreading : s.reading = none
  · refine ⟨.launch, ?_, ?_⟩
    · intro t ht
      cases t <;> simp_all [ClientThreads.accesses]
    · intro t ht
      cases t with
      | control => cases ht
      | launch =>
        unfold ClientThreads.uses at ht
        rw [hpc] at ht
        exact hsafe.uses ht
      | reading => simp [ClientThreads.uses, hreading] at ht
  · -- the launch thread has handed the connection over
    refine ⟨.reading, ?_⟩
    cases pc with
    | assign =>
      exact owned_of_reads hsafe.2.2 hcontrol (by rw [hpc]; rfl) (by rw [hpc]; rfl)
    | done =>
      exact owned_of_reads hsafe.2.2 hcontrol (by rw [hpc]; rfl) (by rw [hpc]; rfl)
    | _ => exact absurd hsafe.1 hreading

/-- The phases of a life, whatever the control thread is at. -/
theorem ControlSafe.phase {pc : ControlPc} (h : s.ControlSafe started pc) :
    s.Alone ∨ pc.accesses = false ∧
      ((∃ handle, s.Launched handle) ∨ ∃ activated, s.ReadsAlone activated) := by
  -- the caller may have started the client or not
  have hlaunched : s.Launched true ∨ s.Stopped →
      s.Alone ∨ false = false ∧
        ((∃ handle, s.Launched handle) ∨ ∃ activated, s.ReadsAlone activated) := by
    rintro (hl | hs)
    · exact .inr ⟨rfl, .inl ⟨true, hl⟩⟩
    · exact .inl hs.1
  cases pc with
  | idle => exact hlaunched h.launched_or_stopped
  | start pc =>
    cases pc with
    | spawn => exact .inl h.2.1
    | assign => exact .inr ⟨rfl, .inl ⟨false, h.2⟩⟩
  | gone => exact .inl h.1
  | stop d pc =>
    cases pc with
    | setStopOrder => exact hlaunched h.2
    | testJoinable => exact hlaunched h.2
    | joinLaunch => exact hlaunched (.inl h.2)
    | testActivated =>
      rcases h.2 with hr | hs
      · exact .inr ⟨rfl, .inr ⟨true, hr⟩⟩
      · exact .inl hs.1
    | clearActivated => exact .inr ⟨rfl, .inr ⟨true, h.2⟩⟩
    | joinReading => exact .inr ⟨rfl, .inr ⟨false, h.2⟩⟩
    | destroy pc => exact .inl h.2.1

/-- At each moment the pointer belongs to one thread. -/
theorem Coherent.owned (h : s.Coherent started) : ∃ owner, s.Owned owner := by
  rcases ControlSafe.phase h with halone | ⟨hcontrol, ⟨handle, hl⟩ | ⟨activated, hr⟩⟩
  · exact ⟨.control, halone.owned⟩
  · exact hl.owned hcontrol
  · exact ⟨.reading, hr.owned hcontrol⟩

/-- Where the launch thread stands, its own invariant holds. -/
theorem Coherent.launchSafe {pc : LaunchPc} (h : s.Coherent started) (hpc : s.launch = some pc) :
    LaunchSafe s.memory s.reading pc := by
  have hsome : s.launch ≠ none := by simp [hpc]
  rcases ControlSafe.phase h with halone | ⟨-, ⟨handle, hl⟩ | ⟨activated, hr⟩⟩
  · exact absurd halone.1 hsome
  · rcases hl with ⟨-, pc', hpc', hsafe⟩
    rw [hpc, Option.some.injEq] at hpc'
    rw [hpc']
    exact hsafe
  · exact absurd hr.1 hsome

/-- What is promised of the threads follows from the invariant. -/
theorem Coherent.threadsSafe (h : s.Coherent started) : ThreadsSafe s := by
  rcases h.owned with ⟨owner, howned⟩
  constructor
  case notNull => exact howned.uses
  case exclusive =>
    intro t t' ht ht'
    rw [howned.accesses t ht, howned.accesses t' ht']
  -- the other clauses stand in the invariant of the statement that is about to be executed
  case assignLaunch =>
    intro pc hpc
    unfold Coherent at h
    rw [hpc] at h
    cases pc with
    | spawn => exact h.2.1.2.2.1
    | assign => exact h.2.1
  case spawnLaunch =>
    intro hpc
    unfold Coherent at h
    rw [hpc] at h
    exact h.2.1.1
  case assignReading =>
    rintro (hpc | hpc)
    · exact (h.launchSafe hpc).2.1
    · exact (h.launchSafe hpc).1
  case spawnReading =>
    intro hpc
    exact (h.launchSafe hpc).1
  case joinLaunch =>
    intro d hpc
    unfold Coherent at h
    rw [hpc] at h
    exact h.2.1
  case joinReading =>
    intro d hpc
    unfold Coherent at h
    rw [hpc] at h
    exact h.2.2.2.1
  case destroyed =>
    intro hpc
    unfold Coherent at h
    rw [hpc] at h
    exact ⟨h.1.2.2.1, h.1.2.2.2.1⟩

end Accesses

/-! ## After `stop` -/

section Stop

variable {s s' : ClientThreads}

/-- A stopped client has no thread left. -/
theorem Stopped.ended (h : s.Stopped) : s.Ended := ⟨h.1.1, h.1.2.1, h.2⟩

/-- `stop` finds nothing to do the second time. -/
theorem Stopped.control_step {l : Label} (h : s.Stopped) (hsafe : s.ControlSafe false s.control)
    (hstep : ControlStep s s.control l s') (hl : l ≠ .callStart) : s'.Stopped := by
  generalize s.control = pc at hsafe hstep
  rcases h with ⟨⟨hlaunch, hreading, hhandle, hassigned, hactivated⟩, hconnection⟩
  cases hstep with
  | callStart => exact absurd rfl hl
  | spawn => cases hsafe.1
  | assign => cases hsafe.1
  | joinLaunch hdone =>
    rw [hlaunch] at hdone
    cases hdone
  | joinReading hdone =>
    rw [hreading] at hdone
    cases hdone
  -- there is no thread to join any more
  | clearActivated => exact ⟨⟨hlaunch, hreading, hhandle, hassigned, rfl⟩, hconnection⟩
  | destroy hstep =>
    cases hstep with
    | present hpresent => exact ⟨⟨hlaunch, hreading, hhandle, hassigned, hactivated⟩, hconnection⟩
    | reset => exact ⟨⟨hlaunch, hreading, hhandle, hassigned, hactivated⟩, rfl⟩
  | returns hstep =>
    cases hstep with
    | absent _ => exact ⟨⟨hlaunch, hreading, hhandle, hassigned, hactivated⟩, hconnection⟩
    | closed => exact ⟨⟨hlaunch, hreading, hhandle, hassigned, hactivated⟩, hconnection⟩
  | _ => exact ⟨⟨hlaunch, hreading, hhandle, hassigned, hactivated⟩, hconnection⟩

/-- No thread is left that could send a reading. -/
theorem Stopped.not_ingest (h : s.Stopped) : ¬ ThreadStep s .ingest s' := by
  intro hstep
  cases hstep with
  | control hstep =>
    generalize s.control = pc at hstep
    cases hstep
  | reading hpc _ =>
    rw [h.1.2.1] at hpc
    cases hpc

/-- Nothing is left, and the caller has not begun to start the client again. -/
def Quiet (s : ClientThreads) : Prop :=
  s.Coherent false ∧ s.Stopped

/-- A stopped client stays stopped until it is started again. -/
theorem Quiet.step {l : Label} (h : s.Quiet) (hstep : ThreadStep s l s') (hl : l ≠ .callStart) :
    s'.Quiet := by
  rcases h with ⟨hcoherent, hstopped⟩
  constructor
  · apply hcoherent.step hstep
    cases l with
    | callStart => exact absurd rfl hl
    | _ => rfl
  · cases hstep with
    | control hstep => exact hstopped.control_step hcoherent hstep hl
    | launch hpc _ =>
      rw [hstopped.1.1] at hpc
      cases hpc
    | reading hpc _ =>
      rw [hstopped.1.2.1] at hpc
      cases hpc

/-- When `stop` returns, both threads have been joined. -/
theorem Coherent.stopReturns {started : Bool} (h : s.Coherent started)
    (hstep : ThreadStep s .stopReturns s') : s'.Quiet := by
  cases hstep with
  | control hcontrol =>
    rcases ControlSafe.returns_step h hcontrol with ⟨rfl, hstopped, -⟩
    exact ⟨h.step (.control hcontrol) rfl, hstopped⟩
  | reading _ hreading => cases hreading

end Stop

/-- A client that has just been constructed. -/
theorem coherent_initial : Coherent false {} :=
  ⟨⟨rfl, rfl, rfl, rfl, rfl⟩, rfl⟩

/-- The invariant holds along each run in which `start` is not called twice. -/
theorem coherent_of_run {s : ClientThreads} {ls : List Label} (hrun : Run ThreadStep {} ls s)
    (hcalls : StartsOnce ls) : ∃ started, s.Coherent started := by
  rcases Option.isSome_iff_exists.mp hcalls with ⟨started, hstarted⟩
  refine ⟨started, hrun.monitored ?_ coherent_initial hstarted⟩
  intro b s l s' b' h hstep hnext
  exact h.step hstep hnext

end ClientThreads

/-- In every run of the three threads in which `start` is not called again before
a `stop`, whatever the connection answers: the connection is never null where it
is used, only one thread has it at a time, the handles are assigned and joined
in turn; and after `stop` has returned nothing is left and nothing is sent,
until `start` is called. -/
theorem client_threads_safe {s : ClientThreads} {ls : List Label}
    (hrun : Run ThreadStep {} ls s) (hcalls : StartsOnce ls) :
    ThreadsSafe s ∧
      ∀ stopped, ThreadStep s .stopReturns stopped →
        ∀ (ls' : List Label) (s' : ClientThreads), Run ThreadStep stopped ls' s' →
          .callStart ∉ ls' → s'.Ended ∧ .ingest ∉ ls' := by
  rcases ClientThreads.coherent_of_run hrun hcalls with ⟨started, hcoherent⟩
  refine ⟨hcoherent.threadsSafe, ?_⟩
  intro stopped hreturns ls' s' hrun' hnoStart
  have hquiet := hcoherent.stopReturns hreturns
  -- from here on the client stays quiet until it is started
  have hallowed : ∀ l ∈ ls', l ≠ .callStart := by
    rintro l hl rfl
    exact hnoStart hl
  have hstep : ∀ (s : ClientThreads) (l : Label) (s' : ClientThreads),
      s.Quiet → ThreadStep s l s' → l ≠ .callStart → s'.Quiet :=
    fun s l s' h hstep hl => h.step hstep hl
  constructor
  · exact (hrun'.invariant hstep hquiet hallowed).2.ended
  · exact hrun'.not_mem hstep (fun s s' h => h.2.not_ingest) hquiet hallowed

/-- A life in which `stop` is called while the launch thread still connects, and
a reading is sent before the reading thread is told to end. -/
def oneLife : List Label :=
  [.callStart] ++ List.replicate 10 .internal ++ [.callStop] ++ List.replicate 13 .internal ++
    [.ingest] ++ List.replicate 10 .internal

/-- The client whose `stop` is about to return. -/
def returning : ClientThreads :=
  { memory := { m_stopOrder := true }, control := .stop false (.destroy .closing) }

/-- The statements of one whole life, one after the other. -/
theorem oneLife_run : Run ThreadStep {} oneLife returning := by
  refine .cons (.control .callStart) <| .cons (.control .spawn) <| .cons (.control .assign) ?_
  -- the launch thread connects
  refine .cons (.launch rfl (.initializing (.destroyed (.absent rfl)))) ?_
  refine .cons (.launch rfl (.initializing (.create (.absent rfl)))) ?_
  refine .cons (.launch rfl (.initializing (.create .opened))) ?_
  refine .cons (.launch rfl (.initializing (.created .store))) ?_
  refine .cons (.launch rfl (.initializing .askConnected)) ?_
  refine .cons (.launch rfl (.initializing .connected)) ?_
  refine .cons (.launch rfl (.initializing .request)) ?_
  refine .cons (.launch rfl (.initializing .built)) ?_
  refine .cons (.control .callStop) <| .cons (.control .setStopOrder) ?_
  -- it creates the reading thread all the same
  refine .cons (.launch rfl (.initializing .slept)) ?_
  refine .cons (.launch rfl (.initialized (.stopOrdered rfl))) ?_
  refine .cons (.launch rfl .activate) <| .cons (.launch rfl .spawn) ?_
  refine .cons (.reading rfl .testNull) <| .cons (.reading rfl (.activated rfl)) ?_
  refine .cons (.reading rfl .askConnected) <| .cons (.reading rfl .connected) ?_
  refine .cons (.reading rfl .askNoError) <| .cons (.reading rfl .noError) ?_
  refine .cons (.reading rfl .read) <| .cons (.reading rfl .converted) ?_
  refine .cons (.reading rfl .sentLast) ?_
  refine .cons (.control (.joinable rfl)) <| .cons (.launch rfl .assign) ?_
  refine .cons (.control (.joinLaunch rfl)) <| .cons (.control (.activated rfl)) ?_
  refine .cons (.control .clearActivated) ?_
  refine .cons (.reading rfl .slept) <| .cons (.reading rfl (.deactivated rfl)) ?_
  refine .cons (.control (.joinReading rfl)) <| .cons (.control (.destroy (.present rfl))) ?_
  exact .cons (.control (.destroy .reset)) (.nil _)

/-- The run of one life, at whose end no thread is left. -/
theorem client_threads_safe_sample :
    ThreadsSafe returning ∧
      ({ memory := { m_stopOrder := true }, control := .idle } : ClientThreads).Ended := by
  rcases client_threads_safe oneLife_run (by decide) with ⟨hsafe, hafter⟩
  exact ⟨hsafe, (hafter _ (.control (.returns .closed)) [] _ (.nil _) (by decide)).1⟩

end Iec61850South
