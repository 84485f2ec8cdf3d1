import Iec61850South.Lib.Transition

/-! # The threads of a client

The control thread calls `start`, `stop` and the destructor. `start` creates the
launch thread, which initialises the connection and then creates the reading
thread. The step relation lets the three threads take turns in any order, one
statement at a time. What the connection answers is left open, and so is what
becomes of each answer.

A program counter names the statement that comes next. A call through
`m_connection->` takes time: at `enter` the pointer is dereferenced next, at
`inside` the call is under way.
-/

namespace Iec61850South

/-- The members that the threads share. A `std::thread` is told by whether it is
joinable, `m_connection` by whether it is not null. -/
structure Memory where
  m_stopOrder : Bool := false
  m_isMmsReadingActivated : Bool := false
  m_connection : Bool := false
  m_backgroundLaunchThread : Bool := false
  m_mmsReadingThread : Bool := false
deriving DecidableEq, Repr

/-! ## Program counters -/

/-- A call of a method with a lock: before it, and inside. -/
inductive CallPc where
  | enter
  | inside
deriving DecidableEq, Repr

/-- `destroyConnection`. `reset` writes the null pointer, and then closes. -/
inductive DestroyPc where
  | test
  | reset
  | closing
deriving DecidableEq, Repr

/-- `createConnection`. The object is opened before it is stored. -/
inductive CreatePc where
  | test
  | opening
  | store
deriving DecidableEq, Repr

/-- Where a thread stands in `initializeConnection`. -/
inductive InitializePc where
  | destroy (pc : DestroyPc)
  | create (pc : CreatePc)
  | isConnected (pc : CallPc)
  /-- a request of `buildConfigurationNameTrees` -/
  | buildTrees (pc : CallPc)
  | sleep
  | testStopOrder
  /-- the test of the `do … while` loop -/
  | isStillConnected (pc : CallPc)
deriving DecidableEq, Repr

/-- `launch` -/
inductive LaunchPc where
  | initializing (pc : InitializePc)
  | activate
  | spawn
  /-- The thread runs, but `m_mmsReadingThread` has not been assigned. -/
  | assign
  | done
deriving DecidableEq, Repr

/-- `readMmsLoop` -/
inductive ReadingPc where
  | testNull
  | testActivated
  | isConnected (pc : CallPc)
  | initializing (pc : InitializePc)
  | isNoError (pc : CallPc)
  | logError (pc : CallPc)
  /-- `readDO` or `readDataset` -/
  | read (pc : CallPc)
  /-- a Datapoint is sent -/
  | ingest
  | sleep
  | done
deriving DecidableEq, Repr

/-- Where the thread of Fledge stands in `start`. -/
inductive StartPc where
  | spawn
  | assign
deriving DecidableEq, Repr

/-- `stop`, with `stopMmsReading` -/
inductive StopPc where
  | setStopOrder
  | testJoinable
  | joinLaunch
  | testActivated
  | clearActivated
  | joinReading
  | destroy (pc : DestroyPc)
deriving DecidableEq, Repr

/-- The control thread. `stop` is also what the destructor does. -/
inductive ControlPc where
  | idle
  | start (pc : StartPc)
  | stop (destructor : Bool) (pc : StopPc)
  | gone
deriving DecidableEq, Repr

/-- A thread that has ended but has not been joined is at `done`. -/
structure ClientThreads where
  memory : Memory := {}
  control : ControlPc := .idle
  launch : Option LaunchPc := none
  reading : Option ReadingPc := none
deriving DecidableEq, Repr

/-- What a step shows. -/
inductive Label where
  | callStart
  | callStop
  | callDestructor
  | stopReturns
  | ingest
  | internal
deriving DecidableEq, Repr

/-! ## Steps

A function that has returned has no program counter any more. -/

/-- The statements of `destroyConnection`. -/
inductive DestroyStep (m : Memory) : DestroyPc → Memory → Option DestroyPc → Prop
  | absent : m.m_connection = false → DestroyStep m .test m none
  | present : m.m_connection = true → DestroyStep m .test m (some .reset)
  | reset : DestroyStep m .reset { m with m_connection := false } (some .closing)
  | closed : DestroyStep m .closing m none

/-- The statements of `createConnection`. -/
inductive CreateStep (m : Memory) : CreatePc → Memory → Option CreatePc → Prop
  | present : m.m_connection = true → CreateStep m .test m none
  | absent : m.m_connection = false → CreateStep m .test m (some .opening)
  | opened : CreateStep m .opening m (some .store)
  | store : CreateStep m .store { m with m_connection := true } none

/-- The statements of `initializeConnection`. -/
inductive InitializeStep (m : Memory) : InitializePc → Memory → Option InitializePc → Prop
  | destroy {pc pc' : DestroyPc} {m' : Memory} : DestroyStep m pc m' (some pc') →
      InitializeStep m (.destroy pc) m' (some (.destroy pc'))
  | destroyed {pc : DestroyPc} {m' : Memory} : DestroyStep m pc m' none →
      InitializeStep m (.destroy pc) m' (some (.create .test))
  | create {pc pc' : CreatePc} {m' : Memory} : CreateStep m pc m' (some pc') →
      InitializeStep m (.create pc) m' (some (.create pc'))
  | created {pc : CreatePc} {m' : Memory} : CreateStep m pc m' none →
      InitializeStep m (.create pc) m' (some (.isConnected .enter))
  | askConnected : InitializeStep m (.isConnected .enter) m (some (.isConnected .inside))
  | connected : InitializeStep m (.isConnected .inside) m (some (.buildTrees .enter))
  /-- not connected, or nothing to build -/
  | notConnected : InitializeStep m (.isConnected .inside) m (some .sleep)
  | request : InitializeStep m (.buildTrees .enter) m (some (.buildTrees .inside))
  | nextRequest : InitializeStep m (.buildTrees .inside) m (some (.buildTrees .enter))
  | built : InitializeStep m (.buildTrees .inside) m (some .sleep)
  | slept : InitializeStep m .sleep m (some .testStopOrder)
  | stopOrdered : m.m_stopOrder = true → InitializeStep m .testStopOrder m none
  | notOrdered : m.m_stopOrder = false →
      InitializeStep m .testStopOrder m (some (.isStillConnected .enter))
  | askStillConnected :
      InitializeStep m (.isStillConnected .enter) m (some (.isStillConnected .inside))
  | stillConnected : InitializeStep m (.isStillConnected .inside) m none
  | again : InitializeStep m (.isStillConnected .inside) m (some (.destroy .test))

/-- The statements of `readMmsLoop`. -/
inductive ReadingStep (m : Memory) : ReadingPc → Label → Memory → ReadingPc → Prop
  | testNull : ReadingStep m .testNull .internal m .testActivated
  | activated : m.m_isMmsReadingActivated = true →
      ReadingStep m .testActivated .internal m (.isConnected .enter)
  | deactivated : m.m_isMmsReadingActivated = false →
      ReadingStep m .testActivated .internal m .done
  | askConnected : ReadingStep m (.isConnected .enter) .internal m (.isConnected .inside)
  | connected : ReadingStep m (.isConnected .inside) .internal m (.isNoError .enter)
  | notConnected : ReadingStep m (.isConnected .inside) .internal m (.initializing (.destroy .test))
  | initializing {pc pc' : InitializePc} {m' : Memory} : InitializeStep m pc m' (some pc') →
      ReadingStep m (.initializing pc) .internal m' (.initializing pc')
  | initialized {pc : InitializePc} {m' : Memory} : InitializeStep m pc m' none →
      ReadingStep m (.initializing pc) .internal m' .sleep
  | askNoError : ReadingStep m (.isNoError .enter) .internal m (.isNoError .inside)
  | error : ReadingStep m (.isNoError .inside) .internal m (.logError .enter)
  | noError : ReadingStep m (.isNoError .inside) .internal m (.read .enter)
  | nothingToRead : ReadingStep m (.isNoError .inside) .internal m .sleep
  | log : ReadingStep m (.logError .enter) .internal m (.logError .inside)
  | logged : ReadingStep m (.logError .inside) .internal m .sleep
  | read : ReadingStep m (.read .enter) .internal m (.read .inside)
  | converted : ReadingStep m (.read .inside) .internal m .ingest
  | nothingToSend : ReadingStep m (.read .inside) .internal m (.read .enter)
  /-- the last item, or an exception -/
  | endOfCycle : ReadingStep m (.read .inside) .internal m .sleep
  /-- the next member of a dataset -/
  | sentMember : ReadingStep m .ingest .ingest m .ingest
  | sentItem : ReadingStep m .ingest .ingest m (.read .enter)
  | sentLast : ReadingStep m .ingest .ingest m .sleep
  | slept : ReadingStep m .sleep .internal m .testActivated

/-- A step of the launch thread may create the reading thread. -/
inductive LaunchStep (m : Memory) (reading : Option ReadingPc) :
    LaunchPc → Memory → Option ReadingPc → LaunchPc → Prop
  | initializing {pc pc' : InitializePc} {m' : Memory} : InitializeStep m pc m' (some pc') →
      LaunchStep m reading (.initializing pc) m' reading (.initializing pc')
  | initialized {pc : InitializePc} {m' : Memory} : InitializeStep m pc m' none →
      LaunchStep m reading (.initializing pc) m' reading .activate
  | activate :
      LaunchStep m reading .activate { m with m_isMmsReadingActivated := true } reading .spawn
  | spawn : LaunchStep m reading .spawn m (some .testNull) .assign
  | assign : LaunchStep m reading .assign { m with m_mmsReadingThread := true } reading .done

/-- The statements of `start`, `stop` and the destructor, and the calls of Fledge. -/
inductive ControlStep (s : ClientThreads) : ControlPc → Label → ClientThreads → Prop
  | callStart : ControlStep s .idle .callStart { s with control := .start .spawn }
  | callStop : ControlStep s .idle .callStop { s with control := .stop false .setStopOrder }
  | callDestructor :
      ControlStep s .idle .callDestructor { s with control := .stop true .setStopOrder }
  | spawn : ControlStep s (.start .spawn) .internal
      { s with control := .start .assign, launch := some (.initializing (.destroy .test)) }
  | assign : ControlStep s (.start .assign) .internal
      { s with control := .idle, memory := { s.memory with m_backgroundLaunchThread := true } }
  | setStopOrder {d : Bool} : ControlStep s (.stop d .setStopOrder) .internal
      { s with control := .stop d .testJoinable, memory := { s.memory with m_stopOrder := true } }
  | joinable {d : Bool} : s.memory.m_backgroundLaunchThread = true →
      ControlStep s (.stop d .testJoinable) .internal { s with control := .stop d .joinLaunch }
  | notJoinable {d : Bool} : s.memory.m_backgroundLaunchThread = false →
      ControlStep s (.stop d .testJoinable) .internal { s with control := .stop d .testActivated }
  | joinLaunch {d : Bool} : s.launch = some .done →
      ControlStep s (.stop d .joinLaunch) .internal
        { s with
          control := .stop d .testActivated, launch := none
          memory := { s.memory with m_backgroundLaunchThread := false } }
  | notActivated {d : Bool} : s.memory.m_isMmsReadingActivated = false →
      ControlStep s (.stop d .testActivated) .internal { s with control := .stop d (.destroy .test) }
  | activated {d : Bool} : s.memory.m_isMmsReadingActivated = true →
      ControlStep s (.stop d .testActivated) .internal { s with control := .stop d .clearActivated }
  | clearActivated {d : Bool} : ControlStep s (.stop d .clearActivated) .internal
      { s with
        control := .stop d .joinReading
        memory := { s.memory with m_isMmsReadingActivated := false } }
  | joinReading {d : Bool} : s.reading = some .done →
      ControlStep s (.stop d .joinReading) .internal
        { s with
          control := .stop d (.destroy .test), reading := none
          memory := { s.memory with m_mmsReadingThread := false } }
  | destroy {d : Bool} {pc pc' : DestroyPc} {m' : Memory} : DestroyStep s.memory pc m' (some pc') →
      ControlStep s (.stop d (.destroy pc)) .internal
        { s with control := .stop d (.destroy pc'), memory := m' }
  | returns {d : Bool} {pc : DestroyPc} {m' : Memory} : DestroyStep s.memory pc m' none →
      ControlStep s (.stop d (.destroy pc)) .stopReturns
        { s with control := if d then .gone else .idle, memory := m' }

/-- One statement of one thread. -/
inductive ThreadStep (s : ClientThreads) : Label → ClientThreads → Prop
  | control {l : Label} {s' : ClientThreads} : ControlStep s s.control l s' → ThreadStep s l s'
  | launch {pc pc' : LaunchPc} {m' : Memory} {reading' : Option ReadingPc} :
      s.launch = some pc → LaunchStep s.memory s.reading pc m' reading' pc' →
      ThreadStep s .internal { s with launch := some pc', memory := m', reading := reading' }
  | reading {pc pc' : ReadingPc} {l : Label} {m' : Memory} :
      s.reading = some pc → ReadingStep s.memory pc l m' pc' →
      ThreadStep s l { s with reading := some pc', memory := m' }

/-! ## Callers -/

/-- Whether `start` has been called since the last call of `stop`. It must not be
called again then. -/
def startMonitor : Bool → Label → Option Bool
  | true, .callStart => none
  | false, .callStart => some true
  | _, .callStop => some false
  | _, .callDestructor => some false
  | started, _ => some started

@[simp] theorem startMonitor_internal (started : Bool) :
    startMonitor started .internal = some started := by
  cases started <;> rfl

@[simp] theorem startMonitor_callStop (started : Bool) :
    startMonitor started .callStop = some false := by
  cases started <;> rfl

@[simp] theorem startMonitor_callDestructor (started : Bool) :
    startMonitor started .callDestructor = some false := by
  cases started <;> rfl

/-- `start` is never called again before a `stop`. -/
def StartsOnce (labels : List Label) : Prop :=
  (labels.foldlM startMonitor false).isSome

instance {labels : List Label} : Decidable (StartsOnce labels) :=
  inferInstanceAs (Decidable (_ = true))

end Iec61850South
