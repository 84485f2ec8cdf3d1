import Iec61850South.Client.Threads
import Iec61850South.Plugin.Clients

/-! # The plugin with the threads of all its clients

The entry points of the plugin run in the thread of Fledge. Each client adds its
launch thread and its reading thread, which send readings through
`IEC61850::ingest` of the one plugin object, under `m_ingestMutex`. The step
relation lets all of them take turns in any order: a call of Fledge that works on
a client takes the steps of that client's control thread.

`registerIngest` does not lock the mutex, so its two assignments are steps of
their own.
-/

namespace Iec61850South

open Lib Std

/-! ## States -/

/-- A function of Fledge, by its address. -/
abbrev IngestCallback := Nat

/-- `INGEST_DATA_TYPE`; 0 is the null pointer. -/
abbrev IngestData := Nat

/-- The members of the plugin object that the Fledge 'feed' process uses. -/
structure Feed where
  m_ingest_callback : Option IngestCallback := none
  m_data : IngestData := 0
  m_ingestMutex : Bool := false

/-- `IEC61850::ingest`, once the mutex is locked. The callback and its argument
are loaded one after the other. -/
inductive IngestPc where
  | test
  | loadCallback
  | loadData (callback : Option IngestCallback)
  | call (callback : Option IngestCallback) (data : IngestData)
  | calling
  | unlock

/-- An `IEC61850Client` object: the arguments of its constructor, its threads, and
the statement of `ingest` at which its reading thread is. -/
structure ClientObject where
  created : RunningClient
  threads : ClientThreads := {}
  ingest : Option IngestPc := none

abbrev ClientObjects := ExtTreeMap String ClientObject

/-- The statement of the thread of Fledge that comes next. -/
inductive SystemPc where
  | idle
  /-- `m_ingest_callback = ingest_cb` -/
  | registerCallback (ingest_cb : Option IngestCallback) (data : IngestData)
  /-- `m_data = data` -/
  | registerData (data : IngestData)
  /-- the loop of `stop`, with the keys it has not come to -/
  | stopping (caller : StopCaller) (keys : List String)
  /-- `client.second->stop()` -/
  | inStop (caller : StopCaller) (key : String) (keys : List String)
  /-- `m_clients.clear()` -/
  | clearing (caller : StopCaller)
  /-- the destructor of one of the clients that are cleared -/
  | inClear (caller : StopCaller) (key : String)
  | importing (caller : ImportCaller) (assignments : List Assignment) (defect : Option ImportStop)
  /-- the loop of `start`, with the entries it has not come to -/
  | starting (entries : List (String × ServerConnectionParameters))
  /-- the new client is in its place, and the old one has not been destroyed -/
  | replacing (key : String) (old : ClientObject)
      (entries : List (String × ServerConnectionParameters))
  /-- the destructor of the old client -/
  | inReplace (key : String) (old : ClientObject)
      (entries : List (String × ServerConnectionParameters))
  /-- `m_clients[key]->start()` comes next -/
  | launching (key : String) (entries : List (String × ServerConnectionParameters))
  | inStart (key : String) (entries : List (String × ServerConnectionParameters))

/-- The object behind the handle of the plugin. -/
structure SystemObject where
  m_config : IEC61850ClientConfig
  m_clients : ClientObjects
  feed : Feed
  pc : SystemPc

inductive SystemState where
  | absent
  | loaded (object : SystemObject)
  | aborted

inductive SystemLabel where
  | call (operation : Operation)
  /-- `plugin_register_ingest` -/
  | registerIngest (ingest_cb : Option IngestCallback) (data : IngestData)
  | startReturns
  | stopReturns
  /-- `(*m_ingest_callback)(m_data, …)` -/
  | callback (function : Option IngestCallback) (data : IngestData)
  | callbackReturns
  /-- `IEC61850::ingest` returns to the client -/
  | ingestReturns
  | internal

/-- The client at a place. -/
def SystemObject.clientAt (o : SystemObject) : Place → Option ClientObject
  | .stored key => o.m_clients[key]?
  | .replaced =>
    match o.pc with
    | .replacing _ old _ => some old
    | .inReplace _ old _ => some old
    | _ => none

/-- Another state of the client at a place. -/
def SystemObject.setClient (o : SystemObject) (client : ClientObject) : Place → SystemObject
  | .stored key => { o with m_clients := o.m_clients.insert key client }
  | .replaced =>
    match o.pc with
    | .replacing key _ entries => { o with pc := .replacing key client entries }
    | .inReplace key _ entries => { o with pc := .inReplace key client entries }
    | _ => o

/-! ## Steps -/

/-- A statement of `start`, `stop` or the destructor of a client, which the thread of
Fledge executes. -/
def ClientObject.Controlled (client : ClientObject) (l : Label) (client' : ClientObject) : Prop :=
  ∃ threads, ControlStep client.threads client.threads.control l threads ∧
    client' = { client with threads := threads }

/-- A statement of the launch thread or of the reading thread of a client. -/
inductive BackgroundStep (f : Feed) (client : ClientObject) :
    SystemLabel → Feed → ClientObject → Prop
  | launch {pc pc' : LaunchPc} {m' : Memory} {reading' : Option ReadingPc} :
      client.threads.launch = some pc →
      LaunchStep client.threads.memory client.threads.reading pc m' reading' pc' →
      BackgroundStep f client .internal f
        { client with
          threads := { client.threads with launch := some pc', memory := m', reading := reading' } }
  | reading {pc pc' : ReadingPc} {m' : Memory} : client.threads.reading = some pc →
      ReadingStep client.threads.memory pc .internal m' pc' →
      BackgroundStep f client .internal f
        { client with threads := { client.threads with reading := some pc', memory := m' } }
  -- `IEC61850::ingest`
  | lock : client.threads.reading = some .ingest → client.ingest = none →
      f.m_ingestMutex = false →
      BackgroundStep f client .internal { f with m_ingestMutex := true }
        { client with ingest := some .test }
  | registered : client.ingest = some .test → f.m_ingest_callback.isSome = true →
      BackgroundStep f client .internal f { client with ingest := some .loadCallback }
  | notRegistered : client.ingest = some .test → f.m_ingest_callback.isSome = false →
      BackgroundStep f client .internal f { client with ingest := some .unlock }
  | loadCallback : client.ingest = some .loadCallback →
      BackgroundStep f client .internal f
        { client with ingest := some (.loadData f.m_ingest_callback) }
  | loadData {callback : Option IngestCallback} : client.ingest = some (.loadData callback) →
      BackgroundStep f client .internal f { client with ingest := some (.call callback f.m_data) }
  | call {callback : Option IngestCallback} {data : IngestData} :
      client.ingest = some (.call callback data) →
      BackgroundStep f client (.callback callback data) f { client with ingest := some .calling }
  | callReturns : client.ingest = some .calling →
      BackgroundStep f client .callbackReturns f { client with ingest := some .unlock }
  | unlock {pc pc' : ReadingPc} {m' : Memory} : client.ingest = some .unlock →
      client.threads.reading = some pc → ReadingStep client.threads.memory pc .ingest m' pc' →
      BackgroundStep f client .ingestReturns { f with m_ingestMutex := false }
        { client with
          threads := { client.threads with reading := some pc', memory := m' }, ingest := none }

section Steps

variable (plat : Platform)

inductive SystemStep : SystemState → SystemLabel → SystemState → Prop
  /-- another thread -/
  | background {o : SystemObject} {place : Place} {client client' : ClientObject} {f' : Feed}
      {l : SystemLabel} : o.clientAt place = some client →
      BackgroundStep o.feed client l f' client' →
      SystemStep (.loaded o) l (.loaded { o.setClient client' place with feed := f' })
  -- the entry points
  | init (config : Option ConfigCategory) (uninit : Nat → OsiParameters) :
      SystemStep .absent (.call (.init config))
        (.loaded ⟨{}, ∅, {}, .importing .init (initAssignments (plat.withMemory uninit) config).out
          (initAssignments (plat.withMemory uninit) config).stop⟩)
  | registerIngest {c : IEC61850ClientConfig} {m : ClientObjects} {f : Feed}
      (ingest_cb : Option IngestCallback) (data : IngestData) :
      SystemStep (.loaded ⟨c, m, f, .idle⟩) (.registerIngest ingest_cb data)
        (.loaded ⟨c, m, f, .registerCallback ingest_cb data⟩)
  | start {c : IEC61850ClientConfig} {m : ClientObjects} {f : Feed} :
      SystemStep (.loaded ⟨c, m, f, .idle⟩) (.call .start)
        (.loaded ⟨c, m, f, .starting c.serverConfigDict.toList⟩)
  | stop {c : IEC61850ClientConfig} {m : ClientObjects} {f : Feed} :
      SystemStep (.loaded ⟨c, m, f, .idle⟩) (.call .stop)
        (.loaded ⟨c, m, f, .stopping .stop m.keys⟩)
  | reconfigure {c : IEC61850ClientConfig} {m : ClientObjects} {f : Feed}
      (newConfig : ConfigCategory) :
      SystemStep (.loaded ⟨c, m, f, .idle⟩) (.call (.reconfigure (some newConfig)))
        (.loaded ⟨c, m, f, .stopping (.reconfigure newConfig) m.keys⟩)
  | malformed {c : IEC61850ClientConfig} {m : ClientObjects} {f : Feed} :
      SystemStep (.loaded ⟨c, m, f, .idle⟩) (.call (.reconfigure none)) (.loaded ⟨c, m, f, .idle⟩)
  | shutdown {c : IEC61850ClientConfig} {m : ClientObjects} {f : Feed} :
      SystemStep (.loaded ⟨c, m, f, .idle⟩) (.call .shutdown)
        (.loaded ⟨c, m, f, .stopping .shutdown m.keys⟩)
  -- `registerIngest`
  | registerCallback {c : IEC61850ClientConfig} {m : ClientObjects} {f : Feed}
      {ingest_cb : Option IngestCallback} {data : IngestData} :
      SystemStep (.loaded ⟨c, m, f, .registerCallback ingest_cb data⟩) .internal
        (.loaded ⟨c, m, { f with m_ingest_callback := ingest_cb }, .registerData data⟩)
  | registerData {c : IEC61850ClientConfig} {m : ClientObjects} {f : Feed} {data : IngestData} :
      SystemStep (.loaded ⟨c, m, f, .registerData data⟩) .internal
        (.loaded ⟨c, m, { f with m_data := data }, .idle⟩)
  -- `IEC61850::stop`
  | callStop {c : IEC61850ClientConfig} {m : ClientObjects} {f : Feed} {caller : StopCaller}
      {key : String} {keys : List String} {client client' : ClientObject} :
      m[key]? = some client → client.Controlled .callStop client' →
      SystemStep (.loaded ⟨c, m, f, .stopping caller (key :: keys)⟩) .internal
        (.loaded ⟨c, m.insert key client', f, .inStop caller key keys⟩)
  | stopClient {c : IEC61850ClientConfig} {m : ClientObjects} {f : Feed} {caller : StopCaller}
      {key : String} {keys : List String} {client client' : ClientObject} :
      m[key]? = some client → client.Controlled .internal client' →
      SystemStep (.loaded ⟨c, m, f, .inStop caller key keys⟩) .internal
        (.loaded ⟨c, m.insert key client', f, .inStop caller key keys⟩)
  | clientStopped {c : IEC61850ClientConfig} {m : ClientObjects} {f : Feed} {caller : StopCaller}
      {key : String} {keys : List String} {client client' : ClientObject} :
      m[key]? = some client → client.Controlled .stopReturns client' →
      SystemStep (.loaded ⟨c, m, f, .inStop caller key keys⟩) .internal
        (.loaded ⟨c, m.insert key client', f, .stopping caller keys⟩)
  | clear {c : IEC61850ClientConfig} {m : ClientObjects} {f : Feed} {caller : StopCaller} :
      SystemStep (.loaded ⟨c, m, f, .stopping caller []⟩) .internal
        (.loaded ⟨c, m, f, .clearing caller⟩)
  | callDestructor {c : IEC61850ClientConfig} {m : ClientObjects} {f : Feed} {caller : StopCaller}
      {key : String} {client client' : ClientObject} :
      m[key]? = some client → client.Controlled .callDestructor client' →
      SystemStep (.loaded ⟨c, m, f, .clearing caller⟩) .internal
        (.loaded ⟨c, m.insert key client', f, .inClear caller key⟩)
  | destroyClient {c : IEC61850ClientConfig} {m : ClientObjects} {f : Feed} {caller : StopCaller}
      {key : String} {client client' : ClientObject} :
      m[key]? = some client → client.Controlled .internal client' →
      SystemStep (.loaded ⟨c, m, f, .inClear caller key⟩) .internal
        (.loaded ⟨c, m.insert key client', f, .inClear caller key⟩)
  | clientDestroyed {c : IEC61850ClientConfig} {m : ClientObjects} {f : Feed} {caller : StopCaller}
      {key : String} {client client' : ClientObject} :
      m[key]? = some client → client.Controlled .stopReturns client' →
      SystemStep (.loaded ⟨c, m, f, .inClear caller key⟩) .internal
        (.loaded ⟨c, m.erase key, f, .clearing caller⟩)
  | stopReturns {c : IEC61850ClientConfig} {m : ClientObjects} {f : Feed} : m = ∅ →
      SystemStep (.loaded ⟨c, m, f, .clearing .stop⟩) .stopReturns (.loaded ⟨c, m, f, .idle⟩)
  | stopReturnsToReconfigure {c : IEC61850ClientConfig} {m : ClientObjects} {f : Feed}
      {newConfig : ConfigCategory} (uninit : Nat → OsiParameters) : m = ∅ →
      SystemStep (.loaded ⟨c, m, f, .clearing (.reconfigure newConfig)⟩) .stopReturns
        (.loaded ⟨c, m, f, .importing .reconfigure
          (configAssignments (plat.withMemory uninit) newConfig).out
          (configAssignments (plat.withMemory uninit) newConfig).stop⟩)
  | stopReturnsToShutdown {c : IEC61850ClientConfig} {m : ClientObjects} {f : Feed} : m = ∅ →
      SystemStep (.loaded ⟨c, m, f, .clearing .shutdown⟩) .stopReturns .absent
  -- `importConfig`
  | assign {c : IEC61850ClientConfig} {m : ClientObjects} {f : Feed} {caller : ImportCaller}
      {a : Assignment} {assignments : List Assignment} {defect : Option ImportStop} :
      SystemStep (.loaded ⟨c, m, f, .importing caller (a :: assignments) defect⟩) .internal
        (.loaded ⟨assign c a, m, f, .importing caller assignments defect⟩)
  | initReturns {c : IEC61850ClientConfig} {m : ClientObjects} {f : Feed} :
      SystemStep (.loaded ⟨c, m, f, .importing .init [] none⟩) .internal (.loaded ⟨c, m, f, .idle⟩)
  | initThrows {c : IEC61850ClientConfig} {m : ClientObjects} {f : Feed} {msg : String} :
      SystemStep (.loaded ⟨c, m, f, .importing .init [] (some (.configurationException msg))⟩)
        .internal .absent
  | imported {c : IEC61850ClientConfig} {m : ClientObjects} {f : Feed} :
      SystemStep (.loaded ⟨c, m, f, .importing .reconfigure [] none⟩) .internal
        (.loaded ⟨c, m, f, .starting c.serverConfigDict.toList⟩)
  | reconfigureThrows {c : IEC61850ClientConfig} {m : ClientObjects} {f : Feed} {msg : String} :
      SystemStep
        (.loaded ⟨c, m, f, .importing .reconfigure [] (some (.configurationException msg))⟩)
        .internal (.loaded ⟨c, m, f, .idle⟩)
  | assertionFails {c : IEC61850ClientConfig} {m : ClientObjects} {f : Feed}
      {caller : ImportCaller} {accessor : String} :
      SystemStep (.loaded ⟨c, m, f, .importing caller [] (some (.assertion accessor))⟩)
        .internal .aborted
  -- `IEC61850::start`
  | create {c : IEC61850ClientConfig} {m : ClientObjects} {f : Feed} {key : String}
      {param : ServerConnectionParameters} {entries : List (String × ServerConnectionParameters)} :
      m[key]? = none →
      SystemStep (.loaded ⟨c, m, f, .starting ((key, param) :: entries)⟩) .internal
        (.loaded ⟨c, m.insert key { created := IEC61850.newClient c param }, f,
          .launching key entries⟩)
  | replace {c : IEC61850ClientConfig} {m : ClientObjects} {f : Feed} {key : String}
      {old : ClientObject} {param : ServerConnectionParameters}
      {entries : List (String × ServerConnectionParameters)} : m[key]? = some old →
      SystemStep (.loaded ⟨c, m, f, .starting ((key, param) :: entries)⟩) .internal
        (.loaded ⟨c, m.insert key { created := IEC61850.newClient c param }, f,
          .replacing key old entries⟩)
  | callOldDestructor {c : IEC61850ClientConfig} {m : ClientObjects} {f : Feed} {key : String}
      {old old' : ClientObject} {entries : List (String × ServerConnectionParameters)} :
      old.Controlled .callDestructor old' →
      SystemStep (.loaded ⟨c, m, f, .replacing key old entries⟩) .internal
        (.loaded ⟨c, m, f, .inReplace key old' entries⟩)
  | destroyOld {c : IEC61850ClientConfig} {m : ClientObjects} {f : Feed} {key : String}
      {old old' : ClientObject} {entries : List (String × ServerConnectionParameters)} :
      old.Controlled .internal old' →
      SystemStep (.loaded ⟨c, m, f, .inReplace key old entries⟩) .internal
        (.loaded ⟨c, m, f, .inReplace key old' entries⟩)
  | oldDestroyed {c : IEC61850ClientConfig} {m : ClientObjects} {f : Feed} {key : String}
      {old old' : ClientObject} {entries : List (String × ServerConnectionParameters)} :
      old.Controlled .stopReturns old' →
      SystemStep (.loaded ⟨c, m, f, .inReplace key old entries⟩) .internal
        (.loaded ⟨c, m, f, .launching key entries⟩)
  | callStart {c : IEC61850ClientConfig} {m : ClientObjects} {f : Feed} {key : String}
      {client client' : ClientObject} {entries : List (String × ServerConnectionParameters)} :
      m[key]? = some client → client.Controlled .callStart client' →
      SystemStep (.loaded ⟨c, m, f, .launching key entries⟩) .internal
        (.loaded ⟨c, m.insert key client', f, .inStart key entries⟩)
  | startClient {c : IEC61850ClientConfig} {m : ClientObjects} {f : Feed} {key : String}
      {client client' : ClientObject} {entries : List (String × ServerConnectionParameters)} :
      m[key]? = some client → client.Controlled .internal client' →
      client'.threads.control ≠ .idle →
      SystemStep (.loaded ⟨c, m, f, .inStart key entries⟩) .internal
        (.loaded ⟨c, m.insert key client', f, .inStart key entries⟩)
  | clientStarted {c : IEC61850ClientConfig} {m : ClientObjects} {f : Feed} {key : String}
      {client client' : ClientObject} {entries : List (String × ServerConnectionParameters)} :
      m[key]? = some client → client.Controlled .internal client' →
      client'.threads.control = .idle →
      SystemStep (.loaded ⟨c, m, f, .inStart key entries⟩) .internal
        (.loaded ⟨c, m.insert key client', f, .starting entries⟩)
  | startReturns {c : IEC61850ClientConfig} {m : ClientObjects} {f : Feed} :
      SystemStep (.loaded ⟨c, m, f, .starting []⟩) .startReturns (.loaded ⟨c, m, f, .idle⟩)

end Steps

end Iec61850South
