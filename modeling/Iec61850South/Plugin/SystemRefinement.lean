import Iec61850South.Plugin.SystemSafety

/-! # The plugin with its threads refines the plugin

In `PluginStep` a client runs or does not run, and is started and stopped in one
step. Here a client runs as long as it has a thread. Then each step of the plugin
with its threads is one of `PluginStep`, or does not show there.
-/

namespace Iec61850South

open Lib Std

/-- The client has a thread. -/
def ClientObject.running (client : ClientObject) : Bool :=
  client.threads.launch.isSome || client.threads.reading.isSome

/-- The coarse view of a client: whether it runs. -/
def ClientObject.toOwned (client : ClientObject) : OwnedClient :=
  ⟨client.created, client.running⟩

/-- The clients as `PluginStep` has them. -/
def coarseClients (m : ClientObjects) : OwnedClients :=
  m.map fun _ client => client.toOwned

/-- The client with the given key runs. -/
def runs (m : ClientObjects) (key : String) : Bool :=
  (coarseClients m)[key]?.any OwnedClient.running

/-- Where `PluginStep` is. A client has been started as soon as its launch thread has
been created, and it has been stopped as soon as its last thread has been joined. -/
def SystemPc.coarsen (m : ClientObjects) : SystemPc → PluginPc
  | .idle => .idle
  | .registerCallback _ _ => .idle
  | .registerData _ => .idle
  | .stopping caller keys => .stopping caller keys
  | .inStop caller key keys => .stopping caller (if runs m key then key :: keys else keys)
  | .clearing caller => .clearing caller
  | .inClear caller _ => .clearing caller
  | .importing caller assignments defect => .importing caller assignments defect
  | .starting entries => .starting entries
  | .replacing key old entries => .replacing key ⟨old.created, true⟩ entries
  | .inReplace key old entries => .replacing key ⟨old.created, true⟩ entries
  | .launching key entries => .launching key entries
  | .inStart key entries => if runs m key then .starting entries else .launching key entries

/-- The coarse view of the object: its configuration, its clients and the call under way. -/
def SystemObject.coarsen (o : SystemObject) : PluginObject :=
  ⟨o.m_config, coarseClients o.m_clients, o.pc.coarsen o.m_clients⟩

def SystemState.coarsen : SystemState → PluginState
  | .absent => .absent
  | .loaded o => .loaded o.coarsen
  | .aborted => .aborted

/-- What Fledge sees of a step. -/
def SystemLabel.sight : SystemLabel → Option PluginLabel
  | .call operation => some (.call operation)
  | .startReturns => some .startReturns
  | .stopReturns => some .stopReturns
  | _ => none

/-- What Fledge sees of a coarse step. -/
def PluginLabel.sight : PluginLabel → Option PluginLabel
  | .internal => none
  | l => some l

/-! ## Clients that run -/

section Running

variable {client client' : ClientObject}

/-- A serving client runs. -/
theorem Status.Holds.running (h : Status.serving.Holds client.threads) : client.running = true := by
  rcases h with ⟨hcontrol, hcoherent⟩
  unfold ClientThreads.Coherent at hcoherent
  rw [hcontrol] at hcoherent
  rcases hcoherent with ⟨_, pc, hpc, _⟩
  rw [ClientObject.running, hpc]
  rfl

/-- A client without threads does not run. -/
theorem not_running_of_threadless (h : client.Threadless) : client.running = false := by
  rw [ClientObject.running, h.1, h.2]
  rfl

/-- A halted client has no threads. -/
theorem Status.Holds.threadless (h : Status.halted.Holds client.threads) : client.Threadless :=
  ⟨h.2.2.1.1, h.2.2.1.2.1⟩

/-- Nor has one that is destroyed after that. -/
theorem Status.Holds.threadless_destroying (h : Status.destroying.Holds client.threads) :
    client.Threadless := ⟨h.2.1.2.1.1, h.2.1.2.1.2.1⟩

/-- The threads of a client create and end no thread that shows. -/
theorem BackgroundStep.toOwned {f f' : Feed} {l : SystemLabel}
    (h : BackgroundStep f client l f' client') : client'.toOwned = client.toOwned := by
  cases h with
  | launch hpc _ => simp [ClientObject.toOwned, ClientObject.running, hpc]
  | reading hpc _ => simp [ClientObject.toOwned, ClientObject.running, hpc]
  | unlock _ hpc _ => simp [ClientObject.toOwned, ClientObject.running, hpc]
  | _ => rfl

/-- A call begins or ends without creating or joining a thread. -/
theorem ClientObject.Controlled.toOwned {l : Label} (h : client.Controlled l client')
    (hl : l ≠ .internal) : client'.toOwned = client.toOwned := by
  rcases h with ⟨threads, hstep, rfl⟩
  generalize client.threads.control = pc at hstep
  cases hstep with
  | callStart => rfl
  | callStop => rfl
  | callDestructor => rfl
  | returns _ => rfl
  | _ => exact absurd rfl hl

/-- `stop` joins threads, and creates none. -/
theorem ClientObject.Controlled.stops {destructor : Bool}
    (h : client.Controlled .internal client')
    (hstopping : (Status.stopping destructor).Holds client.threads) :
    client'.toOwned = client.toOwned ∨
      client.running = true ∧ client'.toOwned = { client.toOwned with running := false } := by
  rcases h with ⟨threads, hstep, rfl⟩
  rcases hstopping with ⟨⟨pc, hpc⟩, hcoherent, _⟩
  unfold ClientThreads.Coherent at hcoherent
  rw [hpc] at hstep hcoherent
  cases hstep with
  | joinLaunch hdone =>
    -- the launch thread has ended, so there is a reading thread
    left
    rcases hcoherent with ⟨_, _, launch, hlaunch, hsafe⟩
    rw [hdone, Option.some.injEq] at hlaunch
    subst hlaunch
    rcases hsafe.2.2 with ⟨reading, hreading, _⟩
    simp [ClientObject.toOwned, ClientObject.running, hreading]
  | joinReading hdone =>
    right
    have hlaunch : client.threads.launch = none := hcoherent.2.1
    simp [ClientObject.toOwned, ClientObject.running, hdone, hlaunch]
  | _ => exact .inl rfl

/-- `start` creates the launch thread. -/
theorem ClientObject.Controlled.starts (h : client.Controlled .internal client')
    (hstarting : Status.starting.Holds client.threads) :
    (client'.threads.control = .idle ∧ client.running = true ∧ client'.toOwned = client.toOwned) ∨
      (client'.threads.control ≠ .idle ∧ client.running = false ∧
        client'.toOwned = { client.toOwned with running := true }) := by
  rcases h with ⟨threads, hstep, rfl⟩
  rcases hstarting with ⟨⟨pc, hpc⟩, hcoherent⟩
  unfold ClientThreads.Coherent at hcoherent
  rw [hpc] at hstep hcoherent
  cases hstep with
  | spawn =>
    right
    have hstopped : client.threads.Stopped := hcoherent.2
    have hnot : client.running = false :=
      not_running_of_threadless ⟨hstopped.1.1, hstopped.1.2.1⟩
    exact ⟨by simp, hnot, rfl⟩
  | assign =>
    left
    rcases hcoherent.2.2 with ⟨launch, hlaunch, _⟩
    have hrunning : client.running = true := by
      rw [ClientObject.running, hlaunch]
      rfl
    exact ⟨rfl, hrunning, rfl⟩

end Running

/-! ## Each step -/

section Clients

variable {m : ClientObjects} {key : String} {client client' : ClientObject}

/-- The coarse view of the clients, key by key. -/
theorem getElem?_coarseClients (m : ClientObjects) (key : String) :
    (coarseClients m)[key]? = m[key]?.map ClientObject.toOwned :=
  ExtTreeMap.getElem?_map

/-- A client that is there has its coarse view there. -/
theorem coarseClients_get (h : m[key]? = some client) :
    (coarseClients m)[key]? = some client.toOwned := by
  rw [getElem?_coarseClients, h]
  rfl

/-- An insertion shows as an insertion. -/
theorem coarseClients_insert (m : ClientObjects) (key : String) (client : ClientObject) :
    coarseClients (m.insert key client) = (coarseClients m).insert key client.toOwned :=
  map_insert_eq m key client ClientObject.toOwned

/-- A change of a client that does not show. -/
theorem coarseClients_same (h : m[key]? = some client) (hsame : client'.toOwned = client.toOwned) :
    coarseClients (m.insert key client') = coarseClients m := by
  rw [coarseClients_insert, hsame]
  exact insert_self_eq (coarseClients_get h)

/-- Whether the client at a key runs. -/
theorem runs_of_get (h : m[key]? = some client) : runs m key = client.running := by
  rw [runs, coarseClients_get h]
  rfl

/-- What has been inserted runs or not. -/
theorem runs_insert (m : ClientObjects) (key : String) (client : ClientObject) :
    runs (m.insert key client) key = client.running :=
  runs_of_get ExtTreeMap.getElem?_insert_self

/-- Where `PluginStep` is depends on what it has of the clients. -/
theorem SystemPc.coarsen_congr {m m' : ClientObjects} (h : coarseClients m' = coarseClients m)
    (pc : SystemPc) : pc.coarsen m' = pc.coarsen m := by
  have hruns : ∀ key, runs m' key = runs m key := by
    intro key
    rw [runs, runs, h]
  cases pc with
  | inStop caller key keys => simp only [SystemPc.coarsen, hruns]
  | inStart key entries => simp only [SystemPc.coarsen, hruns]
  | _ => rfl

/-- No clients, no coarse clients. -/
theorem coarseClients_empty : coarseClients ∅ = ∅ := by
  apply ExtTreeMap.ext_getElem?
  intro key
  rw [getElem?_coarseClients, ExtTreeMap.getElem?_empty, ExtTreeMap.getElem?_empty]
  rfl

/-- Both have the same keys. -/
theorem coarseClients_keys (m : ClientObjects) : (coarseClients m).keys = m.keys :=
  ExtTreeMap.keys_map

/-- A key that is there is there in the coarse view. -/
theorem mem_coarseClients (h : m[key]? = some client) : key ∈ coarseClients m :=
  mem_iff_exists.mpr ⟨_, coarseClients_get h⟩

end Clients

/-- What the threads of a client do does not show. -/
theorem coarsen_setClient {o : SystemObject} {place : Place} {client client' : ClientObject}
    (hclient : o.clientAt place = some client) (hsame : client'.toOwned = client.toOwned)
    (f' : Feed) :
    SystemObject.coarsen { o.setClient client' place with feed := f' } = o.coarsen := by
  rcases o with ⟨c, m, f, pc⟩
  cases place with
  | stored key =>
    have hclients : coarseClients (m.insert key client') = coarseClients m :=
      coarseClients_same hclient hsame
    show PluginObject.mk c (coarseClients (m.insert key client'))
      (pc.coarsen (m.insert key client')) = _
    rw [SystemPc.coarsen_congr hclients, hclients]
    rfl
  | replaced =>
    have hcreated : client'.created = client.created := congrArg OwnedClient.created hsame
    cases pc with
    | replacing key old entries =>
      cases hclient
      show PluginObject.mk c (coarseClients m) (.replacing key ⟨client'.created, true⟩ entries) = _
      rw [hcreated]
      rfl
    | inReplace key old entries =>
      cases hclient
      show PluginObject.mk c (coarseClients m) (.replacing key ⟨client'.created, true⟩ entries) = _
      rw [hcreated]
      rfl
    | _ => cases hclient

section Refinement

variable {plat : Platform} {c : IEC61850ClientConfig} {m : ClientObjects} {f : Feed}
  {pc pc' : SystemPc} {key : String} {client client' : ClientObject}

/-- A client changes in a way that does not show. -/
theorem coarsen_insert_same (hclient : m[key]? = some client)
    (hsame : client'.toOwned = client.toOwned) (hpc : pc'.coarsen m = pc.coarsen m) :
    SystemObject.coarsen ⟨c, m.insert key client', f, pc'⟩ = SystemObject.coarsen ⟨c, m, f, pc⟩ := by
  have hclients : coarseClients (m.insert key client') = coarseClients m :=
    coarseClients_same hclient hsame
  show PluginObject.mk c (coarseClients (m.insert key client'))
    (pc'.coarsen (m.insert key client')) = _
  rw [SystemPc.coarsen_congr hclients, hclients, hpc]
  rfl

/-- An empty map stays empty. -/
theorem coarseClients_eq_empty (hempty : m = ∅) : coarseClients m = ∅ := by
  rw [hempty]
  exact coarseClients_empty

/-- **The step lemma.** -/
theorem system_refines_step {o o' : SystemObject} {l : SystemLabel} (h : SystemInvariant o)
    (hstep : SystemStep plat (.loaded o) l (.loaded o')) :
    (l.sight = none ∧ o'.coarsen = o.coarsen) ∨
      ∃ l', PluginStep plat (.loaded o.coarsen) l' (.loaded o'.coarsen) ∧ l'.sight = l.sight := by
  cases hstep with
  | @background o place client client' f' l hclient hback =>
    refine .inl ⟨?_, coarsen_setClient hclient hback.toOwned f'⟩
    cases hback <;> rfl
  -- registering a callback and the statements of the clients do not show
  | registerIngest ingest_cb data => exact .inl ⟨rfl, rfl⟩
  | registerCallback => exact .inl ⟨rfl, rfl⟩
  | registerData => exact .inl ⟨rfl, rfl⟩
  | start => exact .inr ⟨.call .start, .start, rfl⟩
  | @stop c m f =>
    refine .inr ⟨.call .stop, ?_, rfl⟩
    rw [SystemObject.coarsen, SystemObject.coarsen, SystemPc.coarsen, ← coarseClients_keys]
    exact .stop
  | @reconfigure c m f newConfig =>
    refine .inr ⟨.call (.reconfigure (some newConfig)), ?_, rfl⟩
    rw [SystemObject.coarsen, SystemObject.coarsen, SystemPc.coarsen, ← coarseClients_keys]
    exact .reconfigure newConfig
  | malformed => exact .inr ⟨.call (.reconfigure none), .malformed, rfl⟩
  | @shutdown c m f =>
    refine .inr ⟨.call .shutdown, ?_, rfl⟩
    rw [SystemObject.coarsen, SystemObject.coarsen, SystemPc.coarsen, ← coarseClients_keys]
    exact .shutdown
  | @callStop c m f caller key keys client client' hclient hcontrolled =>
    have hserving : (SystemPc.statusAt (.stopping caller (key :: keys)) (.stored key)).Holds
        client.threads := h.threads (.stored key) client hclient
    rw [SystemPc.statusAt, if_pos List.mem_cons_self] at hserving
    refine .inl ⟨rfl, coarsen_insert_same hclient (hcontrolled.toOwned (by simp)) ?_⟩
    rw [SystemPc.coarsen, SystemPc.coarsen, runs_of_get hclient, hserving.running]
    rfl
  | @stopClient c m f caller key keys client client' hclient hcontrolled =>
    have hstopping : (SystemPc.statusAt (.inStop caller key keys) (.stored key)).Holds
        client.threads := h.threads (.stored key) client hclient
    rw [SystemPc.statusAt, if_pos rfl] at hstopping
    rcases hcontrolled.stops hstopping with hsame | ⟨hrunning, hjoined⟩
    · exact .inl ⟨rfl, coarsen_insert_same hclient hsame rfl⟩
    · -- the last thread has been joined
      refine .inr ⟨.internal, ?_, rfl⟩
      have hstopped : client'.running = false := congrArg OwnedClient.running hjoined
      rw [SystemObject.coarsen, SystemObject.coarsen, SystemPc.coarsen, SystemPc.coarsen,
        runs_of_get hclient, runs_insert, hrunning, hstopped, coarseClients_insert, hjoined]
      exact .stopClient (coarseClients_get hclient)
  | @clientStopped c m f caller key keys client client' hclient hcontrolled =>
    have hstopping : (SystemPc.statusAt (.inStop caller key keys) (.stored key)).Holds
        client.threads := h.threads (.stored key) client hclient
    rw [SystemPc.statusAt, if_pos rfl] at hstopping
    refine .inl ⟨rfl, coarsen_insert_same hclient (hcontrolled.toOwned (by simp)) ?_⟩
    -- `stop` has joined both threads before it returns, so nothing is left to show
    have hnot : client.running = false := by
      rcases hcontrolled with ⟨threads, hcontrol, _⟩
      exact not_running_of_threadless (threadless_of_returns hstopping hcontrol)
    rw [SystemPc.coarsen, SystemPc.coarsen, runs_of_get hclient, hnot]
    rfl
  | clear => exact .inr ⟨.internal, .clear, rfl⟩
  | callDestructor hclient hcontrolled =>
    exact .inl ⟨rfl, coarsen_insert_same hclient (hcontrolled.toOwned (by simp)) rfl⟩
  | @destroyClient c m f caller key client client' hclient hcontrolled =>
    have hdestroying : (SystemPc.statusAt (.inClear caller key) (.stored key)).Holds
        client.threads := h.threads (.stored key) client hclient
    rw [SystemPc.statusAt, if_pos rfl] at hdestroying
    have hnot : client.running = false :=
      not_running_of_threadless hdestroying.threadless_destroying
    have hnot' : client'.running = false := by
      rcases hcontrolled with ⟨threads, hcontrol, rfl⟩
      exact not_running_of_threadless (hdestroying.destroy hcontrol).threadless_destroying
    -- a halted client shows nothing until it is erased
    have hcreated : client'.created = client.created := by
      rcases hcontrolled with ⟨threads, _, rfl⟩
      rfl
    refine .inl ⟨rfl, coarsen_insert_same hclient ?_ rfl⟩
    rw [ClientObject.toOwned, ClientObject.toOwned, hnot, hnot', hcreated]
  | @clientDestroyed c m f caller key client client' hclient _ =>
    refine .inr ⟨.internal, ?_, rfl⟩
    have herase : coarseClients (m.erase key) = (coarseClients m).erase key :=
      map_erase_eq m key ClientObject.toOwned
    rw [SystemObject.coarsen, SystemObject.coarsen, herase]
    exact .destroyClient (mem_coarseClients hclient)
  | stopReturns hempty => exact .inr ⟨.stopReturns, .stopReturns (coarseClients_eq_empty hempty), rfl⟩
  | stopReturnsToReconfigure uninit hempty =>
    exact .inr ⟨.stopReturns, .stopReturnsToReconfigure uninit (coarseClients_eq_empty hempty), rfl⟩
  | assign => exact .inr ⟨.internal, .assign, rfl⟩
  | initReturns => exact .inr ⟨.internal, .initReturns, rfl⟩
  | imported => exact .inr ⟨.internal, .imported, rfl⟩
  | reconfigureThrows => exact .inr ⟨.internal, .reconfigureThrows, rfl⟩
  | @create c m f key param entries hnew =>
    refine .inr ⟨.internal, ?_, rfl⟩
    have hnew' : (coarseClients m)[key]? = none := by
      rw [getElem?_coarseClients, hnew]
      rfl
    rw [SystemObject.coarsen, SystemObject.coarsen, coarseClients_insert]
    exact .create hnew'
  | @replace c m f key old param entries hold =>
    refine .inr ⟨.internal, ?_, rfl⟩
    -- the coarse model destroys the old client in one step, so only its running shows
    have hserving : Status.serving.Holds old.threads := h.threads (.stored key) old hold
    have hold' : (coarseClients m)[key]? = some ⟨old.created, true⟩ := by
      rw [coarseClients_get hold, ClientObject.toOwned, hserving.running]
    rw [SystemObject.coarsen, SystemObject.coarsen, coarseClients_insert]
    exact .replace hold'
  | @callOldDestructor c m f key old old' entries hcontrolled =>
    have hcreated : old'.created = old.created := by
      rcases hcontrolled with ⟨threads, _, rfl⟩
      rfl
    refine .inl ⟨rfl, ?_⟩
    rw [SystemObject.coarsen, SystemObject.coarsen, SystemPc.coarsen, SystemPc.coarsen, hcreated]
  | @destroyOld c m f key old old' entries hcontrolled =>
    have hcreated : old'.created = old.created := by
      rcases hcontrolled with ⟨threads, _, rfl⟩
      rfl
    refine .inl ⟨rfl, ?_⟩
    rw [SystemObject.coarsen, SystemObject.coarsen, SystemPc.coarsen, SystemPc.coarsen, hcreated]
  | oldDestroyed _ => exact .inr ⟨.internal, .replaced, rfl⟩
  | @callStart c m f key client client' entries hclient hcontrolled =>
    have hhalted : (SystemPc.statusAt (.launching key entries) (.stored key)).Holds
        client.threads := h.threads (.stored key) client hclient
    rw [SystemPc.statusAt, if_pos rfl] at hhalted
    refine .inl ⟨rfl, coarsen_insert_same hclient (hcontrolled.toOwned (by simp)) ?_⟩
    rw [SystemPc.coarsen, SystemPc.coarsen, runs_of_get hclient,
      not_running_of_threadless hhalted.threadless]
    rfl
  | @startClient c m f key client client' entries hclient hcontrolled hcontrol =>
    have hstarting : (SystemPc.statusAt (.inStart key entries) (.stored key)).Holds
        client.threads := h.threads (.stored key) client hclient
    rw [SystemPc.statusAt, if_pos rfl] at hstarting
    rcases hcontrolled.starts hstarting with ⟨hidle, _⟩ | ⟨_, hnot, hcreated⟩
    · exact absurd hidle hcontrol
    · -- the launch thread has been created
      refine .inr ⟨.internal, ?_, rfl⟩
      have hrunning : client'.running = true := congrArg OwnedClient.running hcreated
      rw [SystemObject.coarsen, SystemObject.coarsen, SystemPc.coarsen, SystemPc.coarsen,
        runs_of_get hclient, runs_insert, hrunning, hnot, coarseClients_insert, hcreated]
      exact .launch (coarseClients_get hclient)
  | @clientStarted c m f key client client' entries hclient hcontrolled hcontrol =>
    have hstarting : (SystemPc.statusAt (.inStart key entries) (.stored key)).Holds
        client.threads := h.threads (.stored key) client hclient
    rw [SystemPc.statusAt, if_pos rfl] at hstarting
    rcases hcontrolled.starts hstarting with ⟨_, hrunning, hsame⟩ | ⟨hbusy, _⟩
    · refine .inl ⟨rfl, coarsen_insert_same hclient hsame ?_⟩
      rw [SystemPc.coarsen, SystemPc.coarsen, runs_of_get hclient, hrunning]
      rfl
    · exact absurd hcontrol hbusy
  | startReturns => exact .inr ⟨.startReturns, .startReturns, rfl⟩

end Refinement

/-! ## Runs -/

/-- Each step of the threads is a coarse step, or does not show. -/
theorem system_refines_state {plat : Platform} : Refines (SystemStep plat) (PluginStep plat)
    SystemState.Invariant SystemState.coarsen SystemLabel.sight PluginLabel.sight := by
  intro s l s' h hstep
  cases s with
  | aborted => cases hstep
  | absent =>
    cases hstep with
    | init config uninit =>
      refine .inr ⟨.call (.init config), ?_, rfl⟩
      rw [SystemState.coarsen, SystemState.coarsen, SystemObject.coarsen, coarseClients_empty]
      exact .init config uninit
  | loaded o =>
    cases s' with
    | loaded o' =>
      rcases system_refines_step (h o rfl) hstep with ⟨hunseen, hsame⟩ | hseen
      · exact .inl ⟨hunseen, congrArg PluginState.loaded hsame⟩
      · exact .inr hseen
    | absent =>
      cases hstep with
      | stopReturnsToShutdown hempty =>
        exact .inr ⟨.stopReturns, .stopReturnsToShutdown (coarseClients_eq_empty hempty), rfl⟩
      | initThrows => exact .inr ⟨.internal, .initThrows, rfl⟩
    | aborted =>
      cases hstep with
      | assertionFails => exact .inr ⟨.internal, .assertionFails, rfl⟩

/-- **Refinement.** Whatever the threads of the clients do, the plugin with its threads
takes Fledge through the same calls and returns as the plugin without them, and has
the same configuration and the same clients. -/
theorem system_refines {plat : Platform} {ls : List SystemLabel} {s : SystemState}
    (hrun : Run (SystemStep plat) .absent ls s) :
    ∃ ls', Run (PluginStep plat) .absent ls' s.coarsen ∧
      ls'.filterMap PluginLabel.sight = ls.filterMap SystemLabel.sight := by
  have habsent : SystemState.Invariant .absent := by
    intro o h
    cases h
  exact hrun.refined system_refines_state (fun _ _ _ h hstep => h.step hstep) habsent

/-- A run in which Fledge starts the plugin. -/
theorem system_refines_sample : ∃ (ls : List SystemLabel) (ls' : List PluginLabel)
    (s : SystemState), .call .start ∈ ls.filterMap SystemLabel.sight ∧
      Run (PluginStep samplePlatform) .absent ls' s.coarsen ∧
      ls'.filterMap PluginLabel.sight = ls.filterMap SystemLabel.sight := by
  rcases olderStored_running with ⟨n, m, key, param, entries, hrun⟩
  rcases system_refines hrun with ⟨ls', hrun', hsight⟩
  exact ⟨_, ls', _, by simp [SystemLabel.sight], hrun', hsight⟩

end Iec61850South
