import Iec61850South.Client.Threads

/-! # The invariant of the threads of a client

The order of the statements in `stop` decides who may use the connection: the
launch thread until it has created the reading thread, then the reading thread
until it has been joined, then the control thread. `Coherent` says this for each
program counter of the control thread.
-/

namespace Iec61850South

/-! ## Who knows what

`c` tells whether the connection is not null. -/

/-- The destruction of the connection, where it stands, has the pointer that it needs. -/
def DestroySafe (c : Bool) : DestroyPc → Prop
  | .test => True
  | .reset => c = true
  | .closing => c = false

/-- `initializeConnection` uses the pointer only between creation and destruction. -/
def InitializeSafe (c : Bool) : InitializePc → Prop
  | .destroy pc => DestroySafe c pc
  | .create _ => c = false
  | _ => c = true

/-- The reading thread uses the pointer only behind its own test or initialisation. -/
def ReadingSafe (c : Bool) : ReadingPc → Prop
  | .initializing pc => InitializeSafe c pc
  | _ => c = true

/-- The reading thread runs, and no thread but itself touches the connection. -/
def Reads (m : Memory) (reading : Option ReadingPc) : Prop :=
  ∃ pc, reading = some pc ∧ ReadingSafe m.m_connection pc

/-- The launch thread initialises alone, then activates the reading and hands it over. -/
def LaunchSafe (m : Memory) (reading : Option ReadingPc) : LaunchPc → Prop
  | .initializing pc => reading = none ∧ m.m_mmsReadingThread = false ∧
    m.m_isMmsReadingActivated = false ∧ InitializeSafe m.m_connection pc
  | .activate => reading = none ∧ m.m_mmsReadingThread = false ∧
    m.m_isMmsReadingActivated = false ∧ m.m_connection = true
  | .spawn => reading = none ∧ m.m_mmsReadingThread = false ∧
    m.m_isMmsReadingActivated = true ∧ m.m_connection = true
  | .assign => m.m_mmsReadingThread = false ∧ m.m_isMmsReadingActivated = true ∧ Reads m reading
  | .done => m.m_mmsReadingThread = true ∧ m.m_isMmsReadingActivated = true ∧ Reads m reading

namespace ClientThreads

/-- The launch thread has been created, and its handle is `handle`. -/
def Launched (s : ClientThreads) (handle : Bool) : Prop :=
  s.memory.m_backgroundLaunchThread = handle ∧
    ∃ pc, s.launch = some pc ∧ LaunchSafe s.memory s.reading pc

/-- The launch thread has been joined, and the reading thread has not. -/
def ReadsAlone (s : ClientThreads) (activated : Bool) : Prop :=
  s.launch = none ∧ s.memory.m_backgroundLaunchThread = false ∧
    s.memory.m_mmsReadingThread = true ∧ s.memory.m_isMmsReadingActivated = activated ∧
    Reads s.memory s.reading

/-- Only the control thread is left. -/
def Alone (s : ClientThreads) : Prop :=
  s.launch = none ∧ s.reading = none ∧ s.memory.m_backgroundLaunchThread = false ∧
    s.memory.m_mmsReadingThread = false ∧ s.memory.m_isMmsReadingActivated = false

/-- Nothing runs, and there is no connection. -/
def Stopped (s : ClientThreads) : Prop :=
  s.Alone ∧ s.memory.m_connection = false

/-- What holds at each statement of the control thread. -/
def ControlSafe (s : ClientThreads) (started : Bool) : ControlPc → Prop
  | .idle => if started then s.Launched true else s.Stopped
  | .start .spawn => started = true ∧ s.Stopped
  | .start .assign => started = true ∧ s.Launched false
  | .stop _ .setStopOrder => started = false ∧ (s.Launched true ∨ s.Stopped)
  | .stop _ .testJoinable => started = false ∧ (s.Launched true ∨ s.Stopped)
  | .stop _ .joinLaunch => started = false ∧ s.Launched true
  | .stop _ .testActivated => started = false ∧ (s.ReadsAlone true ∨ s.Stopped)
  | .stop _ .clearActivated => started = false ∧ s.ReadsAlone true
  | .stop _ .joinReading => started = false ∧ s.ReadsAlone false
  | .stop _ (.destroy pc) => started = false ∧ s.Alone ∧ DestroySafe s.memory.m_connection pc
  | .gone => s.Stopped

/-- The invariant; `started` tells whether `start` has been called since the last
call of `stop`. -/
def Coherent (started : Bool) (s : ClientThreads) : Prop :=
  s.ControlSafe started s.control

end ClientThreads

/-! ## Steps of one thread -/

section Steps

variable {m m' : Memory}

/-- A statement of the destruction changes no more than the pointer. -/
theorem DestroyStep.safe {pc : DestroyPc} {pc' : Option DestroyPc}
    (h : DestroyStep m pc m' pc') (hs : DestroySafe m.m_connection pc) :
    ∃ c, m' = { m with m_connection := c } ∧ (∀ q, pc' = some q → DestroySafe c q) ∧
      (pc' = none → c = false) := by
  cases h with
  | absent h => exact ⟨false, by rw [← h], by simp, by simp⟩
  | present h => exact ⟨true, by rw [← h], by simp [DestroySafe], by simp⟩
  | reset => exact ⟨false, rfl, by simp [DestroySafe], by simp⟩
  | closed => exact ⟨m.m_connection, rfl, by simp, fun _ => hs⟩

/-- The object is created after the old one has been destroyed. -/
theorem CreateStep.safe {pc : CreatePc} {pc' : Option CreatePc} (h : CreateStep m pc m' pc')
    (hs : m.m_connection = false) :
    ∃ c, m' = { m with m_connection := c } ∧ (∀ q, pc' = some q → c = false) ∧
      (pc' = none → c = true) := by
  cases h with
  | present h =>
    rw [hs] at h
    cases h
  | absent _ => exact ⟨m.m_connection, rfl, fun _ _ => hs, by simp⟩
  | opened => exact ⟨m.m_connection, rfl, fun _ _ => hs, by simp⟩
  | store => exact ⟨true, rfl, by simp, fun _ => rfl⟩

/-- A statement of `initializeConnection` changes no more than the pointer, which is there
at the end. -/
theorem InitializeStep.safe {pc : InitializePc} {pc' : Option InitializePc}
    (h : InitializeStep m pc m' pc') (hs : InitializeSafe m.m_connection pc) :
    ∃ c, m' = { m with m_connection := c } ∧ (∀ q, pc' = some q → InitializeSafe c q) ∧
      (pc' = none → c = true) := by
  cases h with
  | destroy hstep =>
    rcases hstep.safe hs with ⟨c, hm, hsome, _⟩
    exact ⟨c, hm, by simpa [InitializeSafe] using hsome, by simp⟩
  | destroyed hstep =>
    rcases hstep.safe hs with ⟨c, hm, _, hnone⟩
    exact ⟨c, hm, by simpa [InitializeSafe] using hnone, by simp⟩
  | create hstep =>
    rcases hstep.safe hs with ⟨c, hm, hsome, _⟩
    exact ⟨c, hm, by simpa [InitializeSafe] using hsome, by simp⟩
  | created hstep =>
    rcases hstep.safe hs with ⟨c, hm, _, hnone⟩
    exact ⟨c, hm, by simpa [InitializeSafe] using hnone, by simp⟩
  -- the next round may start with any connection, for it tests the pointer
  | again => exact ⟨m.m_connection, rfl, by simp [InitializeSafe, DestroySafe], by simp⟩
  | stopOrdered _ => exact ⟨m.m_connection, rfl, by simp, fun _ => hs⟩
  | stillConnected => exact ⟨m.m_connection, rfl, by simp, fun _ => hs⟩
  | _ => exact ⟨m.m_connection, rfl, by simpa [InitializeSafe] using hs, by simp⟩

/-- A statement of the reading thread changes no more than the pointer. -/
theorem ReadingStep.safe {pc pc' : ReadingPc} {l : Label} (h : ReadingStep m pc l m' pc')
    (hs : ReadingSafe m.m_connection pc) :
    ∃ c, m' = { m with m_connection := c } ∧ ReadingSafe c pc' := by
  cases h with
  | notConnected => exact ⟨m.m_connection, rfl, trivial⟩
  | initializing hstep =>
    rcases hstep.safe hs with ⟨c, hm, hsome, _⟩
    exact ⟨c, hm, hsome _ rfl⟩
  | initialized hstep =>
    rcases hstep.safe hs with ⟨c, hm, _, hnone⟩
    exact ⟨c, hm, hnone rfl⟩
  | _ => exact ⟨m.m_connection, rfl, hs⟩

/-- A statement of the launch thread leaves its own handle alone. -/
theorem LaunchStep.safe {reading reading' : Option ReadingPc} {pc pc' : LaunchPc}
    (h : LaunchStep m reading pc m' reading' pc') (hs : LaunchSafe m reading pc) :
    LaunchSafe m' reading' pc' ∧ m'.m_backgroundLaunchThread = m.m_backgroundLaunchThread := by
  cases h with
  | initializing hstep =>
    rcases hs with ⟨hreading, hhandle, hactivated, hpc⟩
    rcases hstep.safe hpc with ⟨c, rfl, hsome, _⟩
    exact ⟨⟨hreading, hhandle, hactivated, hsome _ rfl⟩, rfl⟩
  | initialized hstep =>
    rcases hs with ⟨hreading, hhandle, hactivated, hpc⟩
    rcases hstep.safe hpc with ⟨c, rfl, _, hnone⟩
    exact ⟨⟨hreading, hhandle, hactivated, hnone rfl⟩, rfl⟩
  | activate =>
    rcases hs with ⟨hreading, hhandle, _, hconn⟩
    exact ⟨⟨hreading, hhandle, rfl, hconn⟩, rfl⟩
  | spawn =>
    -- from here on the connection belongs to the reading thread
    rcases hs with ⟨_, hhandle, hactivated, hconn⟩
    exact ⟨⟨hhandle, hactivated, .testNull, rfl, hconn⟩, rfl⟩
  | assign =>
    rcases hs with ⟨_, hactivated, hreads⟩
    exact ⟨⟨rfl, hactivated, hreads⟩, rfl⟩

/-- The reading thread goes on alone. -/
theorem Reads.reading_step {pc pc' : ReadingPc} {l : Label}
    (h : Reads m (some pc)) (hstep : ReadingStep m pc l m' pc') :
    ∃ c, m' = { m with m_connection := c } ∧ Reads m' (some pc') := by
  rcases h with ⟨pc₀, hpc₀, hsafe⟩
  rw [Option.some.injEq] at hpc₀
  subst hpc₀
  rcases hstep.safe hsafe with ⟨c, hm, hsafe'⟩
  refine ⟨c, hm, pc', rfl, ?_⟩
  rw [hm]
  exact hsafe'

end Steps

/-! ## The three threads together -/

namespace ClientThreads

section Invariant

variable {s s' : ClientThreads} {started : Bool}

/-- The launch thread goes on, and may have created the reading thread. -/
theorem Launched.launch_step {handle : Bool} {pc pc' : LaunchPc} {m' : Memory}
    {reading' : Option ReadingPc} (h : s.Launched handle) (hpc : s.launch = some pc)
    (hstep : LaunchStep s.memory s.reading pc m' reading' pc') :
    ({ s with launch := some pc', memory := m', reading := reading' } : ClientThreads).Launched
      handle := by
  rcases h with ⟨hhandle, pc₀, hpc₀, hsafe⟩
  rw [hpc, Option.some.injEq] at hpc₀
  subst hpc₀
  rcases hstep.safe hsafe with ⟨hsafe', hsame⟩
  exact ⟨hsame.trans hhandle, pc', rfl, hsafe'⟩

/-- The reading thread goes on beside a launch thread that is done with the pointer. -/
theorem Launched.reading_step {handle : Bool} {pc pc' : ReadingPc} {l : Label} {m' : Memory}
    (h : s.Launched handle) (hpc : s.reading = some pc)
    (hstep : ReadingStep s.memory pc l m' pc') :
    ({ s with reading := some pc', memory := m' } : ClientThreads).Launched handle := by
  rcases h with ⟨hhandle, launch, hlaunch, hsafe⟩
  rw [hpc] at hsafe
  cases launch with
  | assign =>
    rcases hsafe with ⟨hassigned, hactivated, hreads⟩
    rcases hreads.reading_step hstep with ⟨c, rfl, hreads'⟩
    exact ⟨hhandle, .assign, hlaunch, hassigned, hactivated, hreads'⟩
  | done =>
    rcases hsafe with ⟨hassigned, hactivated, hreads⟩
    rcases hreads.reading_step hstep with ⟨c, rfl, hreads'⟩
    exact ⟨hhandle, .done, hlaunch, hassigned, hactivated, hreads'⟩
  | _ =>
    -- the reading thread has not been created yet
    cases hsafe.1

/-- The reading thread goes on after the launch thread has been joined. -/
theorem ReadsAlone.reading_step {activated : Bool} {pc pc' : ReadingPc} {l : Label} {m' : Memory}
    (h : s.ReadsAlone activated) (hpc : s.reading = some pc)
    (hstep : ReadingStep s.memory pc l m' pc') :
    ({ s with reading := some pc', memory := m' } : ClientThreads).ReadsAlone activated := by
  rcases h with ⟨hlaunch, hhandle, hassigned, hactivated, hreads⟩
  rw [hpc] at hreads
  rcases hreads.reading_step hstep with ⟨c, rfl, hreads'⟩
  exact ⟨hlaunch, hhandle, hassigned, hactivated, hreads'⟩

/-- The control thread only relies on which threads there are and on what they
may do. -/
theorem ControlSafe.transfer {pc : ControlPc} (h : s.ControlSafe started pc)
    (hlaunched : ∀ handle, s.Launched handle → s'.Launched handle)
    (hreads : ∀ activated, s.ReadsAlone activated → s'.ReadsAlone activated)
    (halone : ¬ s.Alone) : s'.ControlSafe started pc := by
  have hstopped : ¬ s.Stopped := fun hs => halone hs.1
  cases pc with
  | idle =>
    cases started with
    | true => exact hlaunched true h
    | false => exact absurd h hstopped
  | start pc =>
    cases pc with
    | spawn => exact absurd h.2 hstopped
    | assign => exact ⟨h.1, hlaunched false h.2⟩
  | stop d pc =>
    cases pc with
    | setStopOrder => exact ⟨h.1, .inl (hlaunched true (h.2.resolve_right hstopped))⟩
    | testJoinable => exact ⟨h.1, .inl (hlaunched true (h.2.resolve_right hstopped))⟩
    | joinLaunch => exact ⟨h.1, hlaunched true h.2⟩
    | testActivated => exact ⟨h.1, .inl (hreads true (h.2.resolve_right hstopped))⟩
    | clearActivated => exact ⟨h.1, hreads true h.2⟩
    | joinReading => exact ⟨h.1, hreads false h.2⟩
    | destroy pc => exact absurd h.2.1 halone
  | gone => exact absurd h hstopped

/-- The launch thread goes on, wherever the thread of Fledge stands. -/
theorem ControlSafe.launch_step {cpc : ControlPc} {pc pc' : LaunchPc} {m' : Memory}
    {reading' : Option ReadingPc} (h : s.ControlSafe started cpc) (hpc : s.launch = some pc)
    (hstep : LaunchStep s.memory s.reading pc m' reading' pc') :
    ({ s with launch := some pc', memory := m', reading := reading' } : ClientThreads).ControlSafe
      started cpc := by
  have hsome : s.launch ≠ none := by simp [hpc]
  refine h.transfer (fun handle hl => hl.launch_step hpc hstep) ?_ (fun ha => hsome ha.1)
  intro activated hreads
  exact absurd hreads.1 hsome

/-- So does the reading thread. -/
theorem ControlSafe.reading_step {cpc : ControlPc} {pc pc' : ReadingPc} {l : Label} {m' : Memory}
    (h : s.ControlSafe started cpc) (hpc : s.reading = some pc)
    (hstep : ReadingStep s.memory pc l m' pc') :
    ({ s with reading := some pc', memory := m' } : ClientThreads).ControlSafe started cpc := by
  have hsome : s.reading ≠ none := by simp [hpc]
  exact h.transfer (fun handle hl => hl.reading_step hpc hstep)
    (fun activated hr => hr.reading_step hpc hstep) (fun ha => hsome ha.2.1)

/-- Between two calls the client is launched or stopped. -/
theorem ControlSafe.launched_or_stopped (h : s.ControlSafe started .idle) :
    s.Launched true ∨ s.Stopped := by
  cases started with
  | true => exact .inl h
  | false => exact .inr h

/-- A statement of `start`, `stop` or the destructor that neither begins nor ends it. -/
theorem ControlSafe.internal_step {cpc : ControlPc} (h : s.ControlSafe started cpc)
    (hstep : ControlStep s cpc .internal s') : s'.Coherent started := by
  cases hstep with
  | spawn =>
    rcases h with ⟨hstarted, ⟨-, hreading, hhandle, hassigned, hactivated⟩, -⟩
    exact ⟨hstarted, hhandle, _, rfl, hreading, hassigned, hactivated, trivial⟩
  | assign =>
    rcases h with ⟨rfl, -, hpc⟩
    exact ⟨rfl, hpc⟩
  | setStopOrder => exact h
  | joinable hjoinable =>
    refine ⟨h.1, h.2.resolve_right ?_⟩
    rintro ⟨⟨-, -, hhandle, -⟩, -⟩
    rw [hjoinable] at hhandle
    cases hhandle
  | notJoinable hnot =>
    refine ⟨h.1, .inr (h.2.resolve_left ?_)⟩
    rintro ⟨hhandle, -⟩
    rw [hnot] at hhandle
    cases hhandle
  | joinLaunch hdone =>
    -- the launch thread has ended, so it has created the reading thread
    rcases h with ⟨hstarted, -, pc, hpc, hsafe⟩
    rw [hdone, Option.some.injEq] at hpc
    subst hpc
    rcases hsafe with ⟨hassigned, hactivated, hreads⟩
    exact ⟨hstarted, .inl ⟨rfl, rfl, hassigned, hactivated, hreads⟩⟩
  | notActivated hnot =>
    have hstopped : s.Stopped := by
      refine h.2.resolve_left ?_
      rintro ⟨-, -, -, hactivated, -⟩
      rw [hnot] at hactivated
      cases hactivated
    exact ⟨h.1, hstopped.1, trivial⟩
  | activated hactivated =>
    refine ⟨h.1, h.2.resolve_right ?_⟩
    rintro ⟨⟨-, -, -, -, hnot⟩, -⟩
    rw [hactivated] at hnot
    cases hnot
  | clearActivated =>
    rcases h with ⟨hstarted, hlaunch, hhandle, hassigned, -, hreads⟩
    exact ⟨hstarted, hlaunch, hhandle, hassigned, rfl, hreads⟩
  | joinReading hdone =>
    rcases h with ⟨hstarted, hlaunch, hhandle, -, hactivated, -⟩
    exact ⟨hstarted, ⟨hlaunch, rfl, hhandle, rfl, hactivated⟩, trivial⟩
  | destroy hstep =>
    rcases h with ⟨hstarted, halone, hsafe⟩
    rcases hstep.safe hsafe with ⟨c, rfl, hsome, -⟩
    exact ⟨hstarted, halone, hsome _ rfl⟩

/-- Once `stop` returns, nothing is left. -/
theorem ControlSafe.returns_step {cpc : ControlPc} (h : s.ControlSafe started cpc)
    (hstep : ControlStep s cpc .stopReturns s') :
    started = false ∧ s'.Stopped ∧ (s'.control = .idle ∨ s'.control = .gone) := by
  cases hstep with
  | @returns d _ _ hstep =>
    rcases h with ⟨hstarted, halone, hsafe⟩
    rcases hstep.safe hsafe with ⟨c, rfl, -, hnone⟩
    refine ⟨hstarted, ⟨halone, hnone rfl⟩, ?_⟩
    cases d with
    | true => exact .inr rfl
    | false => exact .inl rfl

/-- The thread of Fledge goes on: one case for each of its statements. -/
theorem ControlSafe.control_step {cpc : ControlPc} {l : Label} {started' : Bool}
    (h : s.ControlSafe started cpc) (hstep : ControlStep s cpc l s')
    (hnext : startMonitor started l = some started') : s'.Coherent started' := by
  cases l with
  | callStart =>
    cases hstep
    cases started with
    | true => cases hnext
    | false =>
      cases hnext
      exact ⟨rfl, h⟩
  -- `stop` may be called in any state of the threads, before `start` as well
  | callStop =>
    cases hstep
    rw [startMonitor_callStop, Option.some.injEq] at hnext
    exact ⟨hnext.symm, h.launched_or_stopped⟩
  | callDestructor =>
    cases hstep
    rw [startMonitor_callDestructor, Option.some.injEq] at hnext
    exact ⟨hnext.symm, h.launched_or_stopped⟩
  | stopReturns =>
    rcases h.returns_step hstep with ⟨rfl, hstopped, hcontrol⟩
    cases hnext
    unfold Coherent
    rcases hcontrol with hcontrol | hcontrol
    · rw [hcontrol]
      exact hstopped
    · rw [hcontrol]
      exact hstopped
  | ingest => cases hstep
  | internal =>
    rw [startMonitor_internal, Option.some.injEq] at hnext
    rw [← hnext]
    exact h.internal_step hstep

/-- One statement of one thread keeps the invariant. -/
theorem Coherent.step {l : Label} {started' : Bool} (h : s.Coherent started)
    (hstep : ThreadStep s l s') (hnext : startMonitor started l = some started') :
    s'.Coherent started' := by
  unfold Coherent at h
  cases hstep with
  | control hstep => exact h.control_step hstep hnext
  | launch hpc hstep =>
    rw [startMonitor_internal, Option.some.injEq] at hnext
    rw [← hnext]
    exact h.launch_step hpc hstep
  | reading hpc hstep =>
    -- neither the reading nor a sent Datapoint concerns the caller
    have hsame : startMonitor started l = some started := by
      cases hstep <;> cases started <;> rfl
    rw [hsame, Option.some.injEq] at hnext
    rw [← hnext]
    exact h.reading_step hpc hstep

end Invariant

end ClientThreads

end Iec61850South
