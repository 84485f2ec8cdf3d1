import Iec61850South.Config.Fields

/-! # The plugin and its clients

`IEC61850` owns one configuration object and one client for each connection.
The entry points of `plugin.cpp` are computations on it that may throw, and
what they have changed before a `throw` stays changed. A client is seen here
from outside: what it has been created with, and that it is running.

A client holds references into the configuration object. `Reachable.coherent`
is why values do for them: no configuration changes under a running client.
-/

namespace Iec61850South

open Lib Std

/-- A started `IEC61850Client`, by the arguments of its constructor. -/
structure RunningClient where
  connectionParam : ServerConnectionParameters
  exchangedData : ExchangedData
  selectedDOInExchangedDatasets : ExchangedDatasets
  applicationParams : ApplicationParameters

/-- Main class for managing the IEC61850 clients. -/
structure IEC61850 where
  m_config : IEC61850ClientConfig := {}
  m_clients : ExtTreeMap String RunningClient := ∅

/-- A call of Fledge, on the object of the plugin. -/
abbrev PluginM := EStateM ImportStop IEC61850

namespace IEC61850

variable (plat : Platform)

/-- The import, into the configuration that is there. -/
def setConfig (config : ConfigCategory) : PluginM PUnit := fun p =>
  match importConfig plat config p.m_config with
  | .ok _ c => .ok ⟨⟩ { p with m_config := c }
  | .error e c => .error e { p with m_config := c }

/-- The client that is created for one connection. -/
def newClient (c : IEC61850ClientConfig) (param : ServerConnectionParameters) : RunningClient where
  connectionParam := param
  exchangedData := c.exchangedData
  selectedDOInExchangedDatasets := c.selectedDOInExchangedDatasets
  applicationParams := c.applicationParams

/-- Create and start the IEC61850 clients. -/
def start (p : IEC61850) : IEC61850 :=
  let clients :=
    p.m_config.serverConfigDict.toList.map fun s => (s.1, newClient p.m_config s.2)
  { p with m_clients := insertAll p.m_clients clients }

/-- Each client is stopped and then destroyed, so that none is left. -/
def stop (p : IEC61850) : IEC61850 :=
  { p with m_clients := ∅ }

end IEC61850

variable (plat : Platform)

/-- `plugin_init`: no handle is returned when the configuration is rejected. -/
def plugin_init (config : Option ConfigCategory) : Except ImportStop IEC61850 :=
  match config with
  | none => .ok {}
  | some config =>
    match IEC61850.setConfig plat config {} with
    | .ok _ iec61850 => .ok iec61850
    | .error e _ => .error e

def plugin_start : PluginM PUnit :=
  modify IEC61850.start

def plugin_reconfigure (newConfig : ConfigCategory) : PluginM PUnit := do
  modify IEC61850.stop
  IEC61850.setConfig plat newConfig
  modify IEC61850.start

/-- The states that the plugin can be in between two calls of Fledge. Each import
finds memory of its own. -/
inductive Reachable : IEC61850 → Prop
  | init {config : Option ConfigCategory} {uninit : Nat → OsiParameters} {p : IEC61850} :
      plugin_init (plat.withMemory uninit) config = .ok p → Reachable p
  | start {p : IEC61850} : Reachable p → Reachable (finalState (plugin_start p))
  | reconfigure {p : IEC61850} (newConfig : ConfigCategory) (uninit : Nat → OsiParameters) :
      Reachable p →
      Reachable (finalState (plugin_reconfigure (plat.withMemory uninit) newConfig p))

/-! ## What one call does -/

variable {plat}

/-- What was assigned before an exception stays assigned. -/
theorem setConfig_run (config : ConfigCategory) (p : IEC61850) :
    IEC61850.setConfig plat config p =
      (configAssignments plat config).result
        { p with m_config := assignAll p.m_config (configAssignments plat config).out } := by
  rw [IEC61850.setConfig, importConfig_run]
  cases h : (configAssignments plat config).stop with
  | none => rw [Emission.result_of_go h, Emission.result_of_go h]
  | some e => rw [Emission.result_of_stop h, Emission.result_of_stop h]

/-- The configuration after a reconfiguration: the old one with the assignments
of the new one, up to its first defect. -/
def reconfigured (plat : Platform) (newConfig : ConfigCategory) (p : IEC61850) :
    IEC61850ClientConfig :=
  assignAll p.m_config (configAssignments plat newConfig).out

/-- A configuration that goes through restarts the plugin. -/
theorem plugin_reconfigure_of_go {newConfig : ConfigCategory}
    (h : (configAssignments plat newConfig).stop = none) (p : IEC61850) :
    plugin_reconfigure plat newConfig p =
      .ok ⟨⟩ (IEC61850.start ⟨reconfigured plat newConfig p, ∅⟩) := by
  have hset : IEC61850.setConfig plat newConfig (IEC61850.stop p) =
      .ok ⟨⟩ ⟨reconfigured plat newConfig p, ∅⟩ := by
    rw [setConfig_run, Emission.result_of_go h]
    rfl
  rw [plugin_reconfigure, run_bind_ok (run_modify ..), run_bind_ok hset, run_modify]

/-- An exception leaves the plugin stopped, with what was assigned before it. -/
theorem plugin_reconfigure_of_stop {newConfig : ConfigCategory} {e : ImportStop}
    (h : (configAssignments plat newConfig).stop = some e) (p : IEC61850) :
    plugin_reconfigure plat newConfig p = .error e ⟨reconfigured plat newConfig p, ∅⟩ := by
  have hset : IEC61850.setConfig plat newConfig (IEC61850.stop p) =
      .error e ⟨reconfigured plat newConfig p, ∅⟩ := by
    rw [setConfig_run, Emission.result_of_stop h]
    rfl
  rw [plugin_reconfigure, run_bind_ok (run_modify ..), run_bind_error hset]

/-- After a start there is a client for each connection, and the others are
those that were running before. -/
theorem start_clients (p : IEC61850) (key : String) :
    (IEC61850.start p).m_clients[key]? =
      (p.m_config.serverConfigDict[key]?.map (IEC61850.newClient p.m_config)).or
        p.m_clients[key]? :=
  getElem?_insertAll_toList ..

/-! ## Clients and configuration agree in every reachable state -/

/-- Every running client has been created from what the configuration holds now. -/
def Coherent (p : IEC61850) : Prop :=
  ∀ (key : String) (client : RunningClient), p.m_clients[key]? = some client →
    ∃ param, p.m_config.serverConfigDict[key]? = some param ∧
      client = IEC61850.newClient p.m_config param

/-- Without clients there is nothing to agree with. -/
theorem coherent_of_stopped (c : IEC61850ClientConfig) : Coherent ⟨c, ∅⟩ := by
  intro key client h
  simp at h

/-- `start` creates a client for each connection that is stored. -/
theorem coherent_start {p : IEC61850} (h : Coherent p) : Coherent (IEC61850.start p) := by
  intro key client hclient
  rw [start_clients] at hclient
  cases hparam : p.m_config.serverConfigDict[key]? with
  | some param =>
    rw [hparam] at hclient
    exact ⟨param, hparam, (Option.some.inj hclient).symm⟩
  | none =>
    rw [hparam] at hclient
    exact h key client hclient

/-- What a reconfiguration leaves behind, whether it has been accepted or not. -/
theorem plugin_reconfigure_cases (newConfig : ConfigCategory) (p : IEC61850) :
    (∃ e, plugin_reconfigure plat newConfig p = .error e ⟨reconfigured plat newConfig p, ∅⟩) ∨
      plugin_reconfigure plat newConfig p =
        .ok ⟨⟩ (IEC61850.start ⟨reconfigured plat newConfig p, ∅⟩) := by
  cases h : (configAssignments plat newConfig).stop with
  | none => exact Or.inr (plugin_reconfigure_of_go h p)
  | some e => exact Or.inl ⟨e, plugin_reconfigure_of_stop h p⟩

/-- **No configuration changes under a running client.** -/
theorem Reachable.coherent {p : IEC61850} (h : Reachable plat p) : Coherent p := by
  induction h with
  | @init config uninit p hinit =>
    cases config with
    | none =>
      cases hinit
      exact coherent_of_stopped _
    | some config =>
      rw [plugin_init, setConfig_run] at hinit
      cases hstop : (configAssignments (plat.withMemory uninit) config).stop with
      | none =>
        rw [Emission.result_of_go hstop] at hinit
        cases hinit
        exact coherent_of_stopped _
      | some e =>
        rw [Emission.result_of_stop hstop] at hinit
        cases hinit
  | start _ ih => exact coherent_start ih
  | @reconfigure p newConfig uninit _ _ =>
    rcases plugin_reconfigure_cases newConfig p with ⟨e, hrun⟩ | hrun
    · rw [hrun]
      exact coherent_of_stopped _
    · rw [hrun]
      exact coherent_start (coherent_of_stopped _)

end Iec61850South
