import Iec61850South.Lib.Transition
import Iec61850South.Plugin.Reconfigure

/-! # The clients of the plugin, step by step

The entry points of the plugin, broken up into steps: one client is stopped or
replaced at a time, and an import carries out one assignment at a time. Here a
client has been created or runs, and a client that another one takes the place of
still runs while it is destroyed. `client_set` is what holds after each step, and
`call_result` says that a whole call does what `plugin_start`, `plugin_reconfigure`
and the others say at once.
-/

namespace Iec61850South

open Lib Std

/-! ## States -/

/-- A client that the plugin owns: the arguments it has been created with, and
whether its threads run. -/
structure OwnedClient where
  created : RunningClient
  running : Bool

abbrev OwnedClients := ExtTreeMap String OwnedClient

/-- The function that has called `IEC61850::stop`. -/
inductive StopCaller where
  | stop
  | reconfigure (newConfig : ConfigCategory)
  | shutdown

/-- The function that has called `importConfig`. -/
inductive ImportCaller where
  | init
  | reconfigure

/-- The statement that comes next. -/
inductive PluginPc where
  | idle
  /-- the loop of `stop`, with the keys it has not come to -/
  | stopping (caller : StopCaller) (keys : List String)
  /-- `m_clients.clear()` -/
  | clearing (caller : StopCaller)
  /-- `importConfig`, with the assignments that are left -/
  | importing (caller : ImportCaller) (assignments : List Assignment) (defect : Option ImportStop)
  /-- the loop of `start`, with the entries it has not come to -/
  | starting (entries : List (String × ServerConnectionParameters))
  /-- the new client is in its place, and the old one is being destroyed -/
  | replacing (key : String) (old : OwnedClient)
      (entries : List (String × ServerConnectionParameters))
  /-- `m_clients[key]->start()` -/
  | launching (key : String) (entries : List (String × ServerConnectionParameters))

/-- The object behind the handle of the plugin. -/
structure PluginObject where
  m_config : IEC61850ClientConfig
  m_clients : OwnedClients
  pc : PluginPc

inductive PluginState where
  | absent
  | loaded (object : PluginObject)
  | aborted

/-- What may be called. A reconfiguration without a category is one whose text the
constructor of `ConfigCategory` rejects. -/
inductive Operation where
  | init (config : Option ConfigCategory)
  | start
  | stop
  | reconfigure (newConfig : Option ConfigCategory)
  | shutdown

inductive PluginLabel where
  | call (operation : Operation)
  | startReturns
  | stopReturns
  | internal

/-! ## Steps -/

section Steps

variable (plat : Platform)

/-- Without a configuration, `plugin_init` imports nothing. -/
def initAssignments (config : Option ConfigCategory) : Assignments :=
  match config with
  | none => .done
  | some config => configAssignments plat config

/-- One step. An import begins with what it finds in memory, which may be anything. -/
inductive PluginStep : PluginState → PluginLabel → PluginState → Prop
  | init (config : Option ConfigCategory) (uninit : Nat → OsiParameters) :
      PluginStep .absent (.call (.init config))
        (.loaded ⟨{}, ∅, .importing .init (initAssignments (plat.withMemory uninit) config).out
          (initAssignments (plat.withMemory uninit) config).stop⟩)
  | start {c : IEC61850ClientConfig} {m : OwnedClients} :
      PluginStep (.loaded ⟨c, m, .idle⟩) (.call .start)
        (.loaded ⟨c, m, .starting c.serverConfigDict.toList⟩)
  | stop {c : IEC61850ClientConfig} {m : OwnedClients} :
      PluginStep (.loaded ⟨c, m, .idle⟩) (.call .stop) (.loaded ⟨c, m, .stopping .stop m.keys⟩)
  | reconfigure {c : IEC61850ClientConfig} {m : OwnedClients} (newConfig : ConfigCategory) :
      PluginStep (.loaded ⟨c, m, .idle⟩) (.call (.reconfigure (some newConfig)))
        (.loaded ⟨c, m, .stopping (.reconfigure newConfig) m.keys⟩)
  | malformed {c : IEC61850ClientConfig} {m : OwnedClients} :
      PluginStep (.loaded ⟨c, m, .idle⟩) (.call (.reconfigure none)) (.loaded ⟨c, m, .idle⟩)
  | shutdown {c : IEC61850ClientConfig} {m : OwnedClients} :
      PluginStep (.loaded ⟨c, m, .idle⟩) (.call .shutdown)
        (.loaded ⟨c, m, .stopping .shutdown m.keys⟩)
  -- `IEC61850::stop`
  | stopClient {c : IEC61850ClientConfig} {m : OwnedClients} {caller : StopCaller} {key : String}
      {keys : List String} {client : OwnedClient} : m[key]? = some client →
      PluginStep (.loaded ⟨c, m, .stopping caller (key :: keys)⟩) .internal
        (.loaded ⟨c, m.insert key { client with running := false }, .stopping caller keys⟩)
  | clear {c : IEC61850ClientConfig} {m : OwnedClients} {caller : StopCaller} :
      PluginStep (.loaded ⟨c, m, .stopping caller []⟩) .internal (.loaded ⟨c, m, .clearing caller⟩)
  | destroyClient {c : IEC61850ClientConfig} {m : OwnedClients} {caller : StopCaller}
      {key : String} : key ∈ m →
      PluginStep (.loaded ⟨c, m, .clearing caller⟩) .internal
        (.loaded ⟨c, m.erase key, .clearing caller⟩)
  | stopReturns {c : IEC61850ClientConfig} {m : OwnedClients} : m = ∅ →
      PluginStep (.loaded ⟨c, m, .clearing .stop⟩) .stopReturns (.loaded ⟨c, m, .idle⟩)
  | stopReturnsToReconfigure {c : IEC61850ClientConfig} {m : OwnedClients}
      {newConfig : ConfigCategory} (uninit : Nat → OsiParameters) : m = ∅ →
      PluginStep (.loaded ⟨c, m, .clearing (.reconfigure newConfig)⟩) .stopReturns
        (.loaded ⟨c, m, .importing .reconfigure
          (configAssignments (plat.withMemory uninit) newConfig).out
          (configAssignments (plat.withMemory uninit) newConfig).stop⟩)
  | stopReturnsToShutdown {c : IEC61850ClientConfig} {m : OwnedClients} : m = ∅ →
      PluginStep (.loaded ⟨c, m, .clearing .shutdown⟩) .stopReturns .absent
  -- `importConfig`
  | assign {c : IEC61850ClientConfig} {m : OwnedClients} {caller : ImportCaller} {a : Assignment}
      {assignments : List Assignment} {defect : Option ImportStop} :
      PluginStep (.loaded ⟨c, m, .importing caller (a :: assignments) defect⟩) .internal
        (.loaded ⟨assign c a, m, .importing caller assignments defect⟩)
  | initReturns {c : IEC61850ClientConfig} {m : OwnedClients} :
      PluginStep (.loaded ⟨c, m, .importing .init [] none⟩) .internal (.loaded ⟨c, m, .idle⟩)
  | initThrows {c : IEC61850ClientConfig} {m : OwnedClients} {msg : String} :
      PluginStep (.loaded ⟨c, m, .importing .init [] (some (.configurationException msg))⟩)
        .internal .absent
  | imported {c : IEC61850ClientConfig} {m : OwnedClients} :
      PluginStep (.loaded ⟨c, m, .importing .reconfigure [] none⟩) .internal
        (.loaded ⟨c, m, .starting c.serverConfigDict.toList⟩)
  | reconfigureThrows {c : IEC61850ClientConfig} {m : OwnedClients} {msg : String} :
      PluginStep (.loaded ⟨c, m, .importing .reconfigure [] (some (.configurationException msg))⟩)
        .internal (.loaded ⟨c, m, .idle⟩)
  | assertionFails {c : IEC61850ClientConfig} {m : OwnedClients} {caller : ImportCaller}
      {accessor : String} :
      PluginStep (.loaded ⟨c, m, .importing caller [] (some (.assertion accessor))⟩)
        .internal .aborted
  -- `IEC61850::start`
  | create {c : IEC61850ClientConfig} {m : OwnedClients} {key : String}
      {param : ServerConnectionParameters} {entries : List (String × ServerConnectionParameters)} :
      m[key]? = none →
      PluginStep (.loaded ⟨c, m, .starting ((key, param) :: entries)⟩) .internal
        (.loaded ⟨c, m.insert key ⟨IEC61850.newClient c param, false⟩, .launching key entries⟩)
  | replace {c : IEC61850ClientConfig} {m : OwnedClients} {key : String} {old : OwnedClient}
      {param : ServerConnectionParameters} {entries : List (String × ServerConnectionParameters)} :
      m[key]? = some old →
      PluginStep (.loaded ⟨c, m, .starting ((key, param) :: entries)⟩) .internal
        (.loaded ⟨c, m.insert key ⟨IEC61850.newClient c param, false⟩,
          .replacing key old entries⟩)
  | replaced {c : IEC61850ClientConfig} {m : OwnedClients} {key : String} {old : OwnedClient}
      {entries : List (String × ServerConnectionParameters)} :
      PluginStep (.loaded ⟨c, m, .replacing key old entries⟩) .internal
        (.loaded ⟨c, m, .launching key entries⟩)
  | launch {c : IEC61850ClientConfig} {m : OwnedClients} {key : String} {client : OwnedClient}
      {entries : List (String × ServerConnectionParameters)} : m[key]? = some client →
      PluginStep (.loaded ⟨c, m, .launching key entries⟩) .internal
        (.loaded ⟨c, m.insert key { client with running := true }, .starting entries⟩)
  | startReturns {c : IEC61850ClientConfig} {m : OwnedClients} :
      PluginStep (.loaded ⟨c, m, .starting []⟩) .startReturns (.loaded ⟨c, m, .idle⟩)

end Steps

/-! ## The set of clients -/

/-- Where a client may be. -/
inductive Place where
  | stored (key : String)
  | replaced
deriving DecidableEq

def PluginObject.clientAt (o : PluginObject) : Place → Option OwnedClient
  | .stored key => o.m_clients[key]?
  | .replaced =>
    match o.pc with
    | .replacing _ old _ => some old
    | _ => none

def PluginPc.isImporting : PluginPc → Bool
  | .importing _ _ _ => true
  | _ => false

/-- What holds of the clients of a plugin at any moment. -/
structure ClientSet (plat : Platform) (o : PluginObject) : Prop where
  /-- The parameters of a connection are stored under their own key. -/
  keys : ∀ (key : String) (param : ServerConnectionParameters),
    o.m_config.serverConfigDict[key]? = some param → key = buildKey param
  /-- A client has been created with the parameters that are stored under its key. -/
  clients : ∀ (key : String) (client : OwnedClient), o.m_clients[key]? = some client →
    o.m_config.serverConfigDict[key]? = some client.created.connectionParam
  /-- Of two clients with one address and port, only one runs. -/
  oneRunning : ∀ place place' client client',
    o.clientAt place = some client → o.clientAt place' = some client' →
    client.running = true → client'.running = true →
    client.created.connectionParam.ipAddress = client'.created.connectionParam.ipAddress →
    client.created.connectionParam.mmsPort = client'.created.connectionParam.mmsPort →
    place = place'
  /-- No client runs while the configuration is rewritten. -/
  importAlone : o.pc.isImporting = true → ∀ place client, o.clientAt place = some client →
    client.running = false
  /-- When `start` returns, each connection has its client. -/
  startReturns : ∀ s', PluginStep plat (.loaded o) .startReturns s' →
    ∃ o', s' = .loaded o' ∧ ∀ key, key ∈ o'.m_clients ↔ key ∈ o'.m_config.serverConfigDict
  /-- When `stop` returns, no client is left. -/
  stopReturns : ∀ s', PluginStep plat (.loaded o) .stopReturns s' →
    o.m_clients = ∅ ∧ ∀ o', s' = .loaded o' → o'.m_clients = ∅

/-! ## The invariant -/

/-- The parameters of a connection are stored under their own key. -/
def Keyed (c : IEC61850ClientConfig) : Prop :=
  ∀ (key : String) (param : ServerConnectionParameters),
    c.serverConfigDict[key]? = some param → key = buildKey param

/-- A client has been created with the parameters that are stored under its key. -/
def Owned (c : IEC61850ClientConfig) (m : OwnedClients) : Prop :=
  ∀ (key : String) (client : OwnedClient), m[key]? = some client →
    c.serverConfigDict[key]? = some client.created.connectionParam

/-- The connections without a client are among the entries to come. -/
structure Pending (c : IEC61850ClientConfig) (m : OwnedClients)
    (entries : List (String × ServerConnectionParameters)) : Prop where
  stored : ∀ entry ∈ entries, c.serverConfigDict[entry.1]? = some entry.2
  covered : ∀ key ∈ c.serverConfigDict, key ∈ m ∨ ∃ entry ∈ entries, entry.1 = key

/-- What holds at each statement. -/
def PcInvariant (c : IEC61850ClientConfig) (m : OwnedClients) : PluginPc → Prop
  | .idle => True
  | .stopping _ keys => ∀ (key : String) (client : OwnedClient), m[key]? = some client →
    client.running = true → key ∈ keys
  | .clearing _ => ∀ (key : String) (client : OwnedClient), m[key]? = some client →
    client.running = false
  | .importing _ _ _ => m = ∅
  | .starting entries => Pending c m entries
  | .replacing key old entries =>
    Pending c m entries ∧ c.serverConfigDict[key]? = some old.created.connectionParam ∧
      ∃ client, m[key]? = some client ∧ client.running = false
  | .launching _ entries => Pending c m entries

structure PluginInvariant (o : PluginObject) : Prop where
  keyed : Keyed o.m_config
  owned : Owned o.m_config o.m_clients
  pc : PcInvariant o.m_config o.m_clients o.pc

/-! ## Each step preserves it -/

variable {c : IEC61850ClientConfig} {m : OwnedClients}

theorem keyed_empty : Keyed {} := by
  intro key param h
  simp at h

/-- An import stores each connection under its key. -/
theorem Keyed.assign (h : Keyed c) (a : Assignment) : Keyed (assign c a) := by
  cases a with
  | server param =>
    intro key param' hparam
    have hparam : (c.serverConfigDict.insert (buildKey param) param)[key]? = some param' := hparam
    rw [getElem?_insert_eq] at hparam
    by_cases hkey : buildKey param = key
    · rw [if_pos hkey] at hparam
      cases hparam
      exact hkey.symm
    · rw [if_neg hkey] at hparam
      exact h key param' hparam
  | _ => exact h

theorem owned_empty (c : IEC61850ClientConfig) : Owned c ∅ := by
  intro key client h
  simp at h

theorem Owned.insert (h : Owned c m) {key : String} {client : OwnedClient}
    (hparam : c.serverConfigDict[key]? = some client.created.connectionParam) :
    Owned c (m.insert key client) := by
  intro key' client' hclient
  rw [getElem?_insert_eq] at hclient
  by_cases hkey : key = key'
  · rw [if_pos hkey] at hclient
    cases hclient
    rw [← hkey]
    exact hparam
  · rw [if_neg hkey] at hclient
    exact h key' client' hclient

theorem Owned.erase (h : Owned c m) (key : String) : Owned c (m.erase key) := by
  intro key' client hclient
  rw [getElem?_erase_eq] at hclient
  by_cases hkey : key = key'
  · rw [if_pos hkey] at hclient
    cases hclient
  · rw [if_neg hkey] at hclient
    exact h key' client hclient

theorem pending_toList (c : IEC61850ClientConfig) (m : OwnedClients) :
    Pending c m c.serverConfigDict.toList where
  stored entry hmem := ExtTreeMap.mem_toList_iff_getElem?_eq_some.mp hmem
  covered key hkey := by
    rcases mem_iff_exists.mp hkey with ⟨param, hparam⟩
    have hentry : (key, param) ∈ c.serverConfigDict.toList :=
      ExtTreeMap.mem_toList_iff_getElem?_eq_some.mpr hparam
    exact Or.inr ⟨(key, param), hentry, rfl⟩

/-- A further client covers no less. -/
theorem Pending.insert {entries : List (String × ServerConnectionParameters)}
    (h : Pending c m entries) (key : String) (client : OwnedClient) :
    Pending c (m.insert key client) entries where
  stored := h.stored
  covered key' hkey' := by
    rcases h.covered key' hkey' with hmem | hentry
    · have hmem : key' ∈ m.insert key client := ExtTreeMap.mem_insert.mpr (Or.inr hmem)
      exact Or.inl hmem
    · exact Or.inr hentry

/-- The entry that comes next gets its client. -/
theorem Pending.next {entry : String × ServerConnectionParameters}
    {entries : List (String × ServerConnectionParameters)} (h : Pending c m (entry :: entries))
    (client : OwnedClient) : Pending c (m.insert entry.1 client) entries where
  stored other hother := h.stored other (List.mem_cons_of_mem _ hother)
  covered key hkey := by
    rcases h.covered key hkey with hmem | ⟨other, hother, rfl⟩
    · have hmem : key ∈ m.insert entry.1 client := ExtTreeMap.mem_insert.mpr (Or.inr hmem)
      exact Or.inl hmem
    · rcases List.mem_cons.mp hother with rfl | hother
      · exact Or.inl ExtTreeMap.mem_insert_self
      · exact Or.inr ⟨other, hother, rfl⟩

/-- All keys are to come when the loop of `stop` starts. -/
theorem pcInvariant_stopping (c : IEC61850ClientConfig) (m : OwnedClients) (caller : StopCaller) :
    PcInvariant c m (.stopping caller m.keys) := by
  intro key client hclient _
  have hmem : key ∈ m := mem_iff_exists.mpr ⟨client, hclient⟩
  exact ExtTreeMap.mem_keys.mpr hmem

/-- **The step lemma.** One case for each kind of step. -/
theorem PluginInvariant.step {plat : Platform} {o o' : PluginObject} {l : PluginLabel}
    (h : PluginInvariant o) (hstep : PluginStep plat (.loaded o) l (.loaded o')) :
    PluginInvariant o' := by
  rcases h with ⟨hkeyed, howned, hpc⟩
  cases hstep with
  | start => exact ⟨hkeyed, howned, pending_toList _ _⟩
  | stop => exact ⟨hkeyed, howned, pcInvariant_stopping _ _ _⟩
  | reconfigure newConfig => exact ⟨hkeyed, howned, pcInvariant_stopping _ _ _⟩
  | malformed => exact ⟨hkeyed, howned, trivial⟩
  | shutdown => exact ⟨hkeyed, howned, pcInvariant_stopping _ _ _⟩
  | @stopClient c m caller key keys client hclient =>
    have hparam : c.serverConfigDict[key]? = some client.created.connectionParam :=
      howned key client hclient
    refine ⟨hkeyed, howned.insert hparam, ?_⟩
    intro key' client' hclient' hrunning
    rw [getElem?_insert_eq] at hclient'
    by_cases hkey : key = key'
    · -- the client that has just been stopped
      rw [if_pos hkey] at hclient'
      cases hclient'
      cases hrunning
    · rw [if_neg hkey] at hclient'
      rcases List.mem_cons.mp (hpc key' client' hclient' hrunning) with heq | hmem
      · exact absurd heq.symm hkey
      · exact hmem
  | clear =>
    refine ⟨hkeyed, howned, ?_⟩
    intro key client hclient
    cases hrunning : client.running with
    | false => rfl
    | true => cases hpc key client hclient hrunning
  | @destroyClient c m caller key hmem =>
    refine ⟨hkeyed, howned.erase key, ?_⟩
    intro key' client hclient
    rw [getElem?_erase_eq] at hclient
    by_cases hkey : key = key'
    · rw [if_pos hkey] at hclient
      cases hclient
    · rw [if_neg hkey] at hclient
      exact hpc key' client hclient
  | stopReturns _ => exact ⟨hkeyed, howned, trivial⟩
  | stopReturnsToReconfigure _ hempty => exact ⟨hkeyed, howned, hempty⟩
  | @assign c m caller a assignments defect =>
    have hempty : m = ∅ := hpc
    refine ⟨hkeyed.assign a, ?_, hempty⟩
    rw [hempty]
    exact owned_empty _
  | initReturns => exact ⟨hkeyed, howned, trivial⟩
  | imported => exact ⟨hkeyed, howned, pending_toList _ _⟩
  | reconfigureThrows => exact ⟨hkeyed, howned, trivial⟩
  | @create c m key param entries _ =>
    have hpending : Pending c m ((key, param) :: entries) := hpc
    have hparam : c.serverConfigDict[key]? = some param :=
      hpending.stored (key, param) List.mem_cons_self
    exact ⟨hkeyed, howned.insert hparam, hpending.next _⟩
  | @replace c m key old param entries hold =>
    have hpending : Pending c m ((key, param) :: entries) := hpc
    have hparam : c.serverConfigDict[key]? = some param :=
      hpending.stored (key, param) List.mem_cons_self
    -- the successor has been created, and has not been started
    refine ⟨hkeyed, howned.insert hparam, hpending.next _, howned key old hold, ?_⟩
    exact ⟨_, ExtTreeMap.getElem?_insert_self, rfl⟩
  | replaced => exact ⟨hkeyed, howned, hpc.1⟩
  | @launch c m key client entries hclient =>
    have hpending : Pending c m entries := hpc
    have hparam : c.serverConfigDict[key]? = some client.created.connectionParam :=
      howned key client hclient
    exact ⟨hkeyed, howned.insert hparam, hpending.insert key _⟩
  | startReturns => exact ⟨hkeyed, howned, trivial⟩

/-! ## Runs -/

/-- The invariant of a state in which there is an object. -/
def StateInvariant (s : PluginState) : Prop :=
  ∀ o, s = .loaded o → PluginInvariant o

theorem StateInvariant.step {plat : Platform} {s s' : PluginState} {l : PluginLabel}
    (h : StateInvariant s) (hstep : PluginStep plat s l s') : StateInvariant s' := by
  rintro o' rfl
  cases s with
  | loaded o => exact (h o rfl).step hstep
  | absent =>
    cases hstep
    exact ⟨keyed_empty, owned_empty _, rfl⟩
  | aborted => cases hstep

theorem StateInvariant.of_run {plat : Platform} {ls : List PluginLabel} {s : PluginState}
    (hrun : Run (PluginStep plat) .absent ls s) : StateInvariant s := by
  have hstep : ∀ s l s', StateInvariant s → PluginStep plat s l s' → True → StateInvariant s' :=
    fun s l s' h hstep _ => h.step hstep
  have habsent : StateInvariant .absent := by
    intro o h
    cases h
  exact hrun.invariant hstep habsent fun _ _ => trivial

/-! ## What follows from it -/

section Consequences

variable {o : PluginObject} (h : PluginInvariant o)

include h

/-- A client that is being replaced has the key of its successor, which does not run. -/
theorem PluginInvariant.replaced {client : OwnedClient}
    (hclient : o.clientAt .replaced = some client) :
    ∃ key successor, o.m_clients[key]? = some successor ∧ successor.running = false ∧
      key = buildKey client.created.connectionParam := by
  rcases o with ⟨c, m, pc⟩
  cases pc with
  | replacing key old entries =>
    cases hclient
    rcases h.pc with ⟨_, hold, successor, hsuccessor, hrunning⟩
    exact ⟨key, successor, hsuccessor, hrunning, h.keyed key _ hold⟩
  | _ => cases hclient

theorem PluginInvariant.stored {key : String} {client : OwnedClient}
    (hclient : o.clientAt (.stored key) = some client) :
    key = buildKey client.created.connectionParam := by
  have hparam : o.m_config.serverConfigDict[key]? = some client.created.connectionParam :=
    h.owned key client hclient
  exact h.keyed key _ hparam

/-- The running client with a given key is not one that is being replaced. -/
theorem PluginInvariant.not_replaced {key : String} {client old : OwnedClient}
    (hclient : o.clientAt (.stored key) = some client) (hrunning : client.running = true)
    (hold : o.clientAt .replaced = some old)
    (hsame : buildKey client.created.connectionParam = buildKey old.created.connectionParam) :
    False := by
  rcases h.replaced hold with ⟨key', successor, hsuccessor, hstopped, hkey'⟩
  have hkey : key = key' := by
    rw [h.stored hclient, hsame, hkey']
  rw [← hkey] at hsuccessor
  have heq : some client = some successor := hclient.symm.trans hsuccessor
  cases heq
  rw [hrunning] at hstopped
  cases hstopped

theorem PluginInvariant.oneRunning {place place' : Place} {client client' : OwnedClient}
    (hclient : o.clientAt place = some client) (hclient' : o.clientAt place' = some client')
    (hrunning : client.running = true) (hrunning' : client'.running = true)
    (hsame : buildKey client.created.connectionParam = buildKey client'.created.connectionParam) :
    place = place' := by
  cases place with
  | stored key =>
    cases place' with
    | stored key' =>
      rw [h.stored hclient, h.stored hclient', hsame]
    | replaced => exact (h.not_replaced hclient hrunning hclient' hsame).elim
  | replaced =>
    cases place' with
    | stored key' => exact (h.not_replaced hclient' hrunning' hclient hsame.symm).elim
    | replaced => rfl

/-- There is no client at all while the configuration is rewritten. -/
theorem PluginInvariant.importAlone (himporting : o.pc.isImporting = true) (place : Place) :
    o.clientAt place = none := by
  rcases o with ⟨c, m, pc⟩
  cases pc with
  | importing caller assignments defect =>
    cases place with
    | stored key =>
      have hempty : m = ∅ := h.pc
      show m[key]? = none
      rw [hempty]
      exact ExtTreeMap.getElem?_empty
    | replaced => rfl
  | _ => cases himporting

theorem PluginInvariant.startReturns {plat : Platform} {s' : PluginState}
    (hstep : PluginStep plat (.loaded o) .startReturns s') :
    ∃ o', s' = .loaded o' ∧ ∀ key, key ∈ o'.m_clients ↔ key ∈ o'.m_config.serverConfigDict := by
  cases hstep with
  | @startReturns c m =>
    refine ⟨_, rfl, ?_⟩
    intro key
    constructor
    · intro hkey
      rcases mem_iff_exists.mp hkey with ⟨client, hclient⟩
      exact mem_iff_exists.mpr ⟨_, h.owned key client hclient⟩
    · intro hkey
      -- no entry is to come any more
      have hpending : Pending c m [] := h.pc
      rcases hpending.covered key hkey with hmem | ⟨_, hentry, _⟩
      · exact hmem
      · cases hentry

end Consequences

theorem stopReturns_empty {plat : Platform} {o : PluginObject} {s' : PluginState}
    (hstep : PluginStep plat (.loaded o) .stopReturns s') :
    o.m_clients = ∅ ∧ ∀ o', s' = .loaded o' → o'.m_clients = ∅ := by
  cases hstep with
  | stopReturns hempty =>
    refine ⟨hempty, ?_⟩
    rintro o' heq
    cases heq
    exact hempty
  | stopReturnsToReconfigure _ hempty =>
    refine ⟨hempty, ?_⟩
    rintro o' heq
    cases heq
    exact hempty
  | stopReturnsToShutdown hempty =>
    refine ⟨hempty, ?_⟩
    rintro o' heq
    cases heq

/-- **The set of clients**, after any sequence of calls and in the middle of each. -/
theorem client_set {plat : Platform} {ls : List PluginLabel} {o : PluginObject}
    (hrun : Run (PluginStep plat) .absent ls (.loaded o)) : ClientSet plat o := by
  have h : PluginInvariant o := StateInvariant.of_run hrun o rfl
  refine ⟨h.keyed, h.owned, ?_, ?_, fun s' hstep => h.startReturns hstep,
    fun s' hstep => stopReturns_empty hstep⟩
  · intro place place' client client' hclient hclient' hrunning hrunning' hip hport
    refine h.oneRunning hclient hclient' hrunning hrunning' ?_
    rw [buildKey, buildKey, hip, hport]
  · intro himporting place client hclient
    rw [h.importAlone himporting place] at hclient
    cases hclient

/-! ## Whole calls

What the call that is under way may make of the object, if it comes to its end, is
known from the memory that its import finds. No step adds to it. -/

section Result

variable (plat : Platform)

/-- The object as a call of Fledge sees it: each client by its arguments. -/
def PluginObject.toIEC61850 (o : PluginObject) : IEC61850 :=
  ⟨o.m_config, o.m_clients.map fun _ client => client.created⟩

def PluginState.toIEC61850 : PluginState → IEC61850
  | .loaded o => o.toIEC61850
  | _ => {}

/-- What is left to do after `stop`. -/
def StopCaller.result (p : IEC61850) : StopCaller → Option IEC61850
  | .stop => some (IEC61850.stop p)
  | .reconfigure newConfig => some (finalState (plugin_reconfigure plat newConfig p))
  | .shutdown => none

/-- What is left to do after an import. -/
def ImportCaller.result (c : IEC61850ClientConfig) (defect : Option ImportStop) :
    ImportCaller → Option IEC61850
  | .init => if defect.isSome then none else some ⟨c, ∅⟩
  | .reconfigure => some (if defect.isSome then ⟨c, ∅⟩ else IEC61850.start ⟨c, ∅⟩)

/-- The rest of the loop of `start`. -/
def startEntries (p : IEC61850) (entries : List (String × ServerConnectionParameters)) : IEC61850 :=
  { p with
    m_clients := insertAll p.m_clients
      (entries.map fun s => (s.1, IEC61850.newClient p.m_config s.2)) }

def PluginObject.result (o : PluginObject) : Option IEC61850 :=
  match o.pc with
  | .idle => some o.toIEC61850
  | .stopping caller _ => caller.result plat o.toIEC61850
  | .clearing caller => caller.result plat o.toIEC61850
  | .importing caller assignments defect =>
    caller.result (assignAll o.m_config assignments) defect
  | .starting entries => some (startEntries o.toIEC61850 entries)
  | .replacing _ _ entries => some (startEntries o.toIEC61850 entries)
  | .launching _ entries => some (startEntries o.toIEC61850 entries)

/-- What a call makes of the object at once; none is left if it throws or deletes. -/
def Operation.result (p : IEC61850) : Operation → Option IEC61850
  | .init config => (plugin_init plat config).toOption
  | .start => some (finalState (plugin_start p))
  | .stop => some (IEC61850.stop p)
  | .reconfigure none => some p
  | .reconfigure (some newConfig) => some (finalState (plugin_reconfigure plat newConfig p))
  | .shutdown => none

variable {plat}

theorem map_insert (m : OwnedClients) (key : String) (client : OwnedClient) :
    (m.insert key client).map (fun _ client => client.created) =
      (m.map fun _ client => client.created).insert key client.created := by
  apply ExtTreeMap.ext_getElem?
  intro key'
  rw [ExtTreeMap.getElem?_map, getElem?_insert_eq, getElem?_insert_eq, ExtTreeMap.getElem?_map]
  split <;> rfl

/-- Starting or stopping a client does not show. -/
theorem map_insert_running {m : OwnedClients} {key : String} {client : OwnedClient}
    (h : m[key]? = some client) (running : Bool) :
    (m.insert key { client with running := running }).map (fun _ client => client.created) =
      m.map fun _ client => client.created := by
  apply ExtTreeMap.ext_getElem?
  intro key'
  rw [ExtTreeMap.getElem?_map, getElem?_insert_eq, ExtTreeMap.getElem?_map]
  split
  · rename_i heq
    rw [← heq, h]
    rfl
  · rfl

/-- After `stop`, it does not matter which clients there were. -/
theorem StopCaller.result_congr (caller : StopCaller) {p p' : IEC61850}
    (h : p.m_config = p'.m_config) : caller.result plat p = caller.result plat p' := by
  rcases p with ⟨c, m⟩
  rcases p' with ⟨c', m'⟩
  cases h
  cases caller <;> rfl

/-- A reconfiguration imports into the stopped object. -/
theorem result_reconfigure (newConfig : ConfigCategory) (p : IEC61850) :
    StopCaller.result plat p (.reconfigure newConfig) =
      ImportCaller.result (assignAll p.m_config (configAssignments plat newConfig).out)
        (configAssignments plat newConfig).stop .reconfigure := by
  show some (finalState (plugin_reconfigure plat newConfig p)) = _
  cases hstop : (configAssignments plat newConfig).stop with
  | none =>
    rw [plugin_reconfigure_of_go hstop]
    rfl
  | some e =>
    rw [plugin_reconfigure_of_stop hstop]
    rfl

theorem result_init (config : Option ConfigCategory) :
    (plugin_init plat config).toOption =
      ImportCaller.result (assignAll {} (initAssignments plat config).out)
        (initAssignments plat config).stop .init := by
  cases config with
  | none => rfl
  | some config =>
    rw [plugin_init, setConfig_run, initAssignments]
    cases hstop : (configAssignments plat config).stop with
    | none =>
      rw [Emission.result_of_go hstop]
      rfl
    | some e =>
      rw [Emission.result_of_stop hstop]
      rfl

/-- An object without clients. -/
theorem toIEC61850_empty {c : IEC61850ClientConfig} {m : OwnedClients} (hempty : m = ∅)
    (pc : PluginPc) : PluginObject.toIEC61850 ⟨c, m, pc⟩ = ⟨c, ∅⟩ := by
  rw [hempty]
  refine congrArg (IEC61850.mk c) (ExtTreeMap.ext_getElem? fun key => ?_)
  rw [ExtTreeMap.getElem?_map, ExtTreeMap.getElem?_empty, ExtTreeMap.getElem?_empty]
  rfl

/-- A new client takes its place, whether it starts now or later. -/
theorem startEntries_cons (c : IEC61850ClientConfig) (m : OwnedClients) (key : String)
    (param : ServerConnectionParameters) (entries : List (String × ServerConnectionParameters))
    (pc pc' : PluginPc) :
    startEntries (PluginObject.toIEC61850 ⟨c, m.insert key ⟨IEC61850.newClient c param, false⟩, pc⟩)
        entries =
      startEntries (PluginObject.toIEC61850 ⟨c, m, pc'⟩) ((key, param) :: entries) := by
  unfold PluginObject.toIEC61850
  rw [map_insert]
  rfl

/-- **The step lemma.** After a step of a call, it will make of the object what it
would have made of it before, with some memory for its import. -/
theorem PluginObject.result_step {o o' : PluginObject} {l : PluginLabel} (h : PluginInvariant o)
    (hstep : PluginStep plat (.loaded o) l (.loaded o')) (hl : ∀ operation, l ≠ .call operation)
    (uninit : Nat → OsiParameters) :
    ∃ uninit', o'.result (plat.withMemory uninit) = o.result (plat.withMemory uninit') := by
  have hpc := h.pc
  cases hstep with
  | start => exact absurd rfl (hl _)
  | stop => exact absurd rfl (hl _)
  | reconfigure newConfig => exact absurd rfl (hl _)
  | malformed => exact absurd rfl (hl _)
  | shutdown => exact absurd rfl (hl _)
  | @stopReturnsToReconfigure c m newConfig uninit' _ =>
    -- this is where the import finds its memory
    exact ⟨uninit', (result_reconfigure newConfig (PluginObject.toIEC61850 ⟨c, m, _⟩)).symm⟩
  | @stopClient c m caller key keys client _ => exact ⟨uninit, caller.result_congr rfl⟩
  | clear => exact ⟨uninit, rfl⟩
  | @destroyClient c m caller key _ => exact ⟨uninit, caller.result_congr rfl⟩
  | @stopReturns c m hempty => exact ⟨uninit, congrArg some (toIEC61850_empty hempty _)⟩
  | assign => exact ⟨uninit, rfl⟩
  | @initReturns c m =>
    have hempty : m = ∅ := hpc
    exact ⟨uninit, congrArg some (toIEC61850_empty hempty _)⟩
  | @imported c m =>
    have hempty : m = ∅ := hpc
    refine ⟨uninit, ?_⟩
    show some (startEntries (PluginObject.toIEC61850 ⟨c, m, _⟩) _) = some (IEC61850.start ⟨c, ∅⟩)
    rw [toIEC61850_empty hempty]
    rfl
  | @reconfigureThrows c m msg =>
    have hempty : m = ∅ := hpc
    exact ⟨uninit, congrArg some (toIEC61850_empty hempty _)⟩
  | @create c m key param entries _ =>
    exact ⟨uninit, congrArg some (startEntries_cons c m key param entries _ _)⟩
  | @replace c m key old param entries _ =>
    exact ⟨uninit, congrArg some (startEntries_cons c m key param entries _ _)⟩
  | replaced => exact ⟨uninit, rfl⟩
  | @launch c m key client entries hclient =>
    have hmap := map_insert_running hclient true
    refine ⟨uninit, ?_⟩
    show some (startEntries ⟨c, _⟩ entries) = some (startEntries ⟨c, _⟩ entries)
    rw [hmap]
  | startReturns => exact ⟨uninit, rfl⟩

/-- The call itself promises what the operation does at once. -/
theorem PluginObject.result_call {s : PluginState} {o : PluginObject} {operation : Operation}
    (hcall : PluginStep plat s (.call operation) (.loaded o)) (uninit : Nat → OsiParameters) :
    ∃ uninit', o.result (plat.withMemory uninit) =
      operation.result (plat.withMemory uninit') s.toIEC61850 := by
  cases hcall with
  | init config uninit' => exact ⟨uninit', (result_init config).symm⟩
  | start => exact ⟨uninit, rfl⟩
  | stop => exact ⟨uninit, rfl⟩
  | reconfigure newConfig => exact ⟨uninit, rfl⟩
  | malformed => exact ⟨uninit, rfl⟩
  | shutdown => exact ⟨uninit, rfl⟩

/-- **A whole call**, in as many steps as it takes, does to the configuration and to
the set of clients what the operation does at once. -/
theorem call_result {s : PluginState} {o o' : PluginObject} {operation : Operation}
    {before ls : List PluginLabel} (hbefore : Run (PluginStep plat) .absent before s)
    (hcall : PluginStep plat s (.call operation) (.loaded o))
    (hrun : Run (PluginStep plat) (.loaded o) ls (.loaded o'))
    (hls : ∀ l ∈ ls, ∀ operation, l ≠ .call operation) (hidle : o'.pc = .idle) :
    ∃ uninit, operation.result (plat.withMemory uninit) s.toIEC61850 = some o'.toIEC61850 := by
  have hinv : StateInvariant (.loaded o) := (StateInvariant.of_run hbefore).step hcall
  -- the invariant of the rest of the call
  let Promised (s : PluginState) : Prop := ∀ t, s = .loaded t → ∀ uninit, ∃ uninit',
    t.result (plat.withMemory uninit) = o.result (plat.withMemory uninit')
  have hstep : ∀ s l s', StateInvariant s ∧ Promised s → PluginStep plat s l s' →
      (∀ operation, l ≠ .call operation) → StateInvariant s' ∧ Promised s' := by
    rintro s l s' ⟨hs, hresult⟩ hstep hl
    refine ⟨hs.step hstep, ?_⟩
    rintro t' rfl uninit
    cases s with
    | loaded t =>
      rcases PluginObject.result_step (hs t rfl) hstep hl uninit with ⟨uninit', hsame⟩
      rcases hresult t rfl uninit' with ⟨uninit'', hpromised⟩
      exact ⟨uninit'', hsame.trans hpromised⟩
    | absent =>
      cases hstep
      exact absurd rfl (hl _)
    | aborted => cases hstep
  have hstart : Promised (.loaded o) := by
    rintro t heq uninit
    cases heq
    exact ⟨uninit, rfl⟩
  rcases (hrun.invariant hstep ⟨hinv, hstart⟩ hls).2 o' rfl plat.uninit with ⟨uninit, hend⟩
  rcases PluginObject.result_call hcall uninit with ⟨uninit', hresult⟩
  refine ⟨uninit', ?_⟩
  rw [← hresult, ← hend, PluginObject.result, hidle]

end Result

/-! ## Loops that run to their end -/

theorem import_run (plat : Platform) (assignments : List Assignment) (c : IEC61850ClientConfig)
    (m : OwnedClients) (caller : ImportCaller) (defect : Option ImportStop) :
    ∃ ls, Run (PluginStep plat) (.loaded ⟨c, m, .importing caller assignments defect⟩) ls
      (.loaded ⟨assignAll c assignments, m, .importing caller [] defect⟩) := by
  induction assignments generalizing c with
  | nil => exact ⟨[], .nil _⟩
  | cons a assignments ih =>
    rcases ih (assign c a) with ⟨ls, hrun⟩
    exact ⟨.internal :: ls, .cons .assign hrun⟩

theorem start_run (plat : Platform) (entries : List (String × ServerConnectionParameters))
    (c : IEC61850ClientConfig) (m : OwnedClients) :
    ∃ ls m', Run (PluginStep plat) (.loaded ⟨c, m, .starting entries⟩) ls
      (.loaded ⟨c, m', .starting []⟩) := by
  induction entries generalizing m with
  | nil => exact ⟨[], m, .nil _⟩
  | cons entry entries ih =>
    rcases entry with ⟨key, param⟩
    let created : OwnedClient := ⟨IEC61850.newClient c param, false⟩
    rcases ih ((m.insert key created).insert key { created with running := true }) with
      ⟨ls, m', hrun⟩
    have hlaunch : PluginStep plat (.loaded ⟨c, m.insert key created, .launching key entries⟩)
        .internal (.loaded ⟨c, (m.insert key created).insert key { created with running := true },
          .starting entries⟩) := .launch ExtTreeMap.getElem?_insert_self
    cases hold : m[key]? with
    | none => exact ⟨_, m', .cons (.create hold) (.cons hlaunch hrun)⟩
    | some old => exact ⟨_, m', .cons (.replace hold) (.cons .replaced (.cons hlaunch hrun))⟩

/-! ## A plugin with one connection -/

def olderStored : IEC61850ClientConfig :=
  assignAll {} (configAssignments samplePlatform olderConfig).out

theorem olderStored_connection :
    olderStored.serverConfigDict["192.168.0.10_102"]?.isSome = true := by
  decide +kernel

/-- The plugin right before `plugin_start` returns. -/
theorem olderStored_started : ∃ ls m, Run (PluginStep samplePlatform) .absent ls
    (.loaded ⟨olderStored, m, .starting []⟩) := by
  have hgo : (configAssignments samplePlatform olderConfig).stop = none :=
    accepted_iff.mp (samples_accepted olderConfig (by simp))
  have hcall : PluginStep samplePlatform .absent (.call (.init (some olderConfig)))
      (.loaded ⟨{}, ∅, .importing .init (configAssignments samplePlatform olderConfig).out none⟩) := by
    have hinit := @PluginStep.init samplePlatform (some olderConfig) samplePlatform.uninit
    rw [Platform.withMemory_uninit, initAssignments, hgo] at hinit
    exact hinit
  obtain ⟨ls, himport⟩ :=
    import_run samplePlatform (configAssignments samplePlatform olderConfig).out {} ∅ .init none
  obtain ⟨ls', m, hstart⟩ :=
    start_run samplePlatform olderStored.serverConfigDict.toList olderStored ∅
  exact ⟨_, m, .cons hcall (himport.append (.cons .initReturns (.cons .start hstart)))⟩

theorem client_set_sample : ∃ m, ClientSet samplePlatform ⟨olderStored, m, .starting []⟩ ∧
    olderStored.serverConfigDict["192.168.0.10_102"]?.isSome = true := by
  rcases olderStored_started with ⟨ls, m, hrun⟩
  exact ⟨m, client_set hrun, olderStored_connection⟩

end Iec61850South
