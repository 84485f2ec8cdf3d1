import Iec61850South.Config.Endpoints
import Iec61850South.Plugin.SystemRefinement

/-! # The clients of the plugin with its threads

The refinement carries the invariant of the plugin over: at each moment of any run, the
clients are those of the stored connections, and no two of them are connected to one
endpoint.
-/

namespace Iec61850South

open Lib Std

/-! ## Endpoints -/

/-- The connections that an import is about to store. -/
def PluginPc.pending : PluginPc → List Assignment
  | .importing _ assignments _ => assignments
  | _ => []

/-- The connections that are stored have an endpoint, and so have those that will be. -/
structure EndpointsKnown (o : PluginObject) : Prop where
  stored : ∀ (key : String) (param : ServerConnectionParameters),
    o.m_config.serverConfigDict[key]? = some param → ∃ endpoint, param.Reaches endpoint
  pending : ∀ a ∈ o.pc.pending, a.HasEndpoint

theorem endpoints_assign {c : IEC61850ClientConfig}
    (h : ∀ (key : String) (param : ServerConnectionParameters),
      c.serverConfigDict[key]? = some param → ∃ endpoint, param.Reaches endpoint)
    {a : Assignment} (ha : a.HasEndpoint) :
    ∀ (key : String) (param : ServerConnectionParameters),
      (assign c a).serverConfigDict[key]? = some param → ∃ endpoint, param.Reaches endpoint := by
  cases a with
  | server param =>
    intro key param' hparam
    have hparam : (c.serverConfigDict.insert (buildKey param) param)[key]? = some param' := hparam
    rw [getElem?_insert_eq] at hparam
    by_cases hkey : buildKey param = key
    · rw [if_pos hkey] at hparam
      cases hparam
      exact ha
    · rw [if_neg hkey] at hparam
      exact h key param' hparam
  | _ => exact h

/-- Only an import changes what is stored. -/
theorem EndpointsKnown.step {plat : Platform} {o o' : PluginObject} {l : PluginLabel}
    (h : EndpointsKnown o) (hstep : PluginStep plat (.loaded o) l (.loaded o')) :
    EndpointsKnown o' := by
  have hnone : ∀ a ∈ ([] : List Assignment), a.HasEndpoint := by
    intro a ha
    cases ha
  cases hstep with
  | stopReturnsToReconfigure _ _ => exact ⟨h.stored, configAssignments_endpoint (plat.withMemory _) _⟩
  | @assign c m caller a assignments defect =>
    have ha : a.HasEndpoint := h.pending a List.mem_cons_self
    exact ⟨endpoints_assign h.stored ha, fun b hb => h.pending b (List.mem_cons_of_mem a hb)⟩
  | _ => exact ⟨h.stored, hnone⟩

theorem initAssignments_endpoint (plat : Platform) (config : Option ConfigCategory) :
    (initAssignments plat config).EmitsIn Assignment.HasEndpoint := by
  cases config with
  | none => exact .silent rfl
  | some config => exact configAssignments_endpoint plat config

theorem EndpointsKnown.of_run {plat : Platform} {ls : List PluginLabel} {s : PluginState}
    (hrun : Run (PluginStep plat) .absent ls s) : ∀ o, s = .loaded o → EndpointsKnown o := by
  have hstep : ∀ (s : PluginState) (l : PluginLabel) (s' : PluginState),
      (∀ o, s = .loaded o → EndpointsKnown o) → PluginStep plat s l s' → True →
      ∀ o, s' = .loaded o → EndpointsKnown o := by
    rintro s l s' h hstep - o' rfl
    cases s with
    | loaded o => exact (h o rfl).step hstep
    | absent =>
      cases hstep with
      | init config uninit =>
        refine ⟨fun key param hparam => ?_, initAssignments_endpoint (plat.withMemory uninit) config⟩
        simp at hparam
    | aborted => cases hstep
  have habsent : ∀ o, PluginState.absent = .loaded o → EndpointsKnown o := by
    intro o heq
    cases heq
  exact hrun.invariant hstep habsent fun _ _ => trivial

/-! ## The set of clients -/

/-- What holds of the clients at any moment. -/
structure SystemClientSet (o : SystemObject) : Prop where
  /-- A client refers to the parameters that are stored under its key. -/
  parameters : ∀ (key : String) (client : ClientObject), o.m_clients[key]? = some client →
    key = buildKey client.created.connectionParam ∧
      o.m_config.serverConfigDict[key]? = some client.created.connectionParam
  /-- What is stored has an endpoint, and no other key has the same one. -/
  endpoints : ∀ (key : String) (param : ServerConnectionParameters),
    o.m_config.serverConfigDict[key]? = some param → ∃ endpoint, param.Reaches endpoint ∧
      ∀ (key' : String) (param' : ServerConnectionParameters),
        o.m_config.serverConfigDict[key']? = some param' → param'.Reaches endpoint → key' = key
  /-- Of two clients of one endpoint, only one has threads. -/
  oneRunning : ∀ place place' client client' endpoint,
    o.clientAt place = some client → o.clientAt place' = some client' →
    client.running = true → client'.running = true →
    client.created.connectionParam.Reaches endpoint →
    client'.created.connectionParam.Reaches endpoint → place = place'
  /-- When `start` is about to return, each connection has its client, which runs. -/
  started : o.pc = .starting [] → ∀ key, key ∈ o.m_config.serverConfigDict →
    ∃ client, o.m_clients[key]? = some client ∧ client.running = true

/-- A client that has a thread runs in `PluginStep`, too. -/
theorem coarse_clientAt {o : SystemObject} {place : Place} {client : ClientObject}
    (hclient : o.clientAt place = some client) (hrunning : client.running = true) :
    o.coarsen.clientAt place = some ⟨client.created, true⟩ := by
  rcases o with ⟨c, m, f, pc⟩
  cases place with
  | stored key =>
    have hcoarse : (coarseClients m)[key]? = some client.toOwned := coarseClients_get hclient
    rw [ClientObject.toOwned, hrunning] at hcoarse
    exact hcoarse
  | replaced =>
    cases pc with
    | replacing key old entries =>
      cases hclient
      rfl
    | inReplace key old entries =>
      cases hclient
      rfl
    | _ => cases hclient

/-- **The set of clients**, at any moment of any run of the plugin with its threads. -/
theorem system_client_set {plat : Platform} {ls : List SystemLabel} {o : SystemObject}
    (hrun : Run (SystemStep plat) .absent ls (.loaded o)) : SystemClientSet o := by
  have hinv : SystemInvariant o := SystemState.Invariant.of_run hrun o rfl
  have habsent : SystemState.Invariant .absent := by
    intro o h
    cases h
  -- what the coarse model knows about keys, parameters and endpoints holds of this run too
  rcases hrun.refined system_refines_state (fun _ _ _ h hstep => h.step hstep) habsent with
    ⟨ls', hrun', _⟩
  have hplugin : PluginInvariant o.coarsen := StateInvariant.of_run hrun' o.coarsen rfl
  have hendpoints : EndpointsKnown o.coarsen := EndpointsKnown.of_run hrun' o.coarsen rfl
  constructor
  case parameters =>
    intro key client hclient
    have hcoarse : (coarseClients o.m_clients)[key]? = some client.toOwned :=
      coarseClients_get hclient
    exact ⟨hplugin.stored hcoarse, hplugin.owned key client.toOwned hcoarse⟩
  case endpoints =>
    intro key param hparam
    rcases hendpoints.stored key param hparam with ⟨endpoint, hreach⟩
    refine ⟨endpoint, hreach, ?_⟩
    intro key' param' hparam' hreach'
    rw [hplugin.keyed key param hparam, hplugin.keyed key' param' hparam']
    exact (buildKey_eq_iff_endpoint hreach' hreach).mpr rfl
  case oneRunning =>
    intro place place' client client' endpoint hclient hclient' hrunning hrunning' hreach hreach'
    refine hplugin.oneRunning (coarse_clientAt hclient hrunning)
      (coarse_clientAt hclient' hrunning') rfl rfl ?_
    exact (buildKey_eq_iff_endpoint hreach hreach').mpr rfl
  case started =>
    intro hpc key hkey
    rcases o with ⟨c, m, f, pc⟩
    have hpc : pc = .starting [] := hpc
    subst hpc
    -- no entry is left, so each key that is stored has its client
    have hpending : Pending c (coarseClients m) [] := hplugin.pc
    rcases hpending.covered key hkey with hmem | ⟨_, hentry, _⟩
    · rcases mem_iff_exists.mp hmem with ⟨owned, howned⟩
      rw [getElem?_coarseClients, Option.map_eq_some_iff] at howned
      rcases howned with ⟨client, hclient, _⟩
      have hserving : Status.serving.Holds client.threads := hinv.threads (.stored key) client hclient
      exact ⟨client, hclient, hserving.running⟩
    · cases hentry

theorem system_client_set_sample : ∃ m entries, ∃ (key : String) (client : ClientObject),
    SystemClientSet ⟨olderStored, m, {}, .starting entries⟩ ∧
      m[key]? = some client ∧ client.running = true := by
  rcases olderStored_running with ⟨n, m, key, param, entries, hrun⟩
  exact ⟨_, entries, key, _, system_client_set hrun, ExtTreeMap.getElem?_insert_self, rfl⟩

end Iec61850South
