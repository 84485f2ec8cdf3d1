import Iec61850South.Plugin.SystemInvariant

/-! # Safety of the plugin with its threads

What the invariant says: the plugin never starts a client twice, so the threads of
each client are safe; no object is destroyed while a thread works on it; and no
configuration is rewritten while a client refers to it.
-/

namespace Iec61850South

open Lib Std

/-- `importConfig` is under way. -/
def SystemPc.isImporting : SystemPc → Bool
  | .importing _ _ _ => true
  | _ => false

/-- `start` follows. -/
def StopCaller.restarts : StopCaller → Bool
  | .reconfigure _ => true
  | _ => false

def ImportCaller.restarts : ImportCaller → Bool
  | .init => false
  | .reconfigure => true

/-- A call of Fledge is under way that creates clients, or will. -/
def SystemPc.starts : SystemPc → Bool
  | .idle => false
  | .registerCallback _ _ => false
  | .registerData _ => false
  | .stopping caller _ => caller.restarts
  | .inStop caller _ _ => caller.restarts
  | .clearing caller => caller.restarts
  | .inClear caller _ => caller.restarts
  | .importing caller _ _ => caller.restarts
  | _ => true

/-- No thread of the client runs. -/
def ClientObject.Threadless (client : ClientObject) : Prop :=
  client.threads.launch = none ∧ client.threads.reading = none

def SystemObject.NoClient (o : SystemObject) : Prop :=
  ∀ place, o.clientAt place = none

/-- What no statement that comes next may violate. -/
structure SystemSafe (plat : Platform) (o : SystemObject) : Prop where
  clients : ∀ place client, o.clientAt place = some client → ThreadsSafe client.threads
  /-- Of all the clients, one at most is inside `ingest`, -/
  ingest : ∀ place place' client client', o.clientAt place = some client →
    o.clientAt place' = some client' → client.ingest.isSome = true →
    client'.ingest.isSome = true → place = place'
  /-- and it has the mutex, which nobody else keeps. -/
  mutex : o.feed.m_ingestMutex = true ↔
    ∃ place client, o.clientAt place = some client ∧ client.ingest.isSome = true
  /-- While the configuration is rewritten, there is no client that refers to it. -/
  importing : o.pc.isImporting = true → o.NoClient
  /-- A client that is about to disappear has no thread left. -/
  destroyed : ∀ l o', SystemStep plat (.loaded o) l (.loaded o') →
    ∀ place client, o.clientAt place = some client → o'.clientAt place = none →
      client.Threadless
  /-- The plugin object is deleted when no client is left. -/
  deleted : ∀ l, SystemStep plat (.loaded o) l .absent → o.NoClient
  stopReturns : ∀ s', SystemStep plat (.loaded o) .stopReturns s' →
    o.NoClient ∧ ∀ o', s' = .loaded o' → o'.NoClient

/-! ## Clients that disappear -/

/-- When `stop` is about to return, the threads have been joined. -/
theorem threadless_of_returns {t t' : ClientThreads} {destructor : Bool}
    (h : (Status.stopping destructor).Holds t) (hstep : ControlStep t t.control .stopReturns t') :
    t.launch = none ∧ t.reading = none := by
  rcases h with ⟨⟨pc, hpc⟩, hcoherent, _⟩
  unfold ClientThreads.Coherent at hcoherent
  rw [hpc] at hstep hcoherent
  cases hstep with
  | returns _ => exact ⟨hcoherent.2.1.1, hcoherent.2.1.2.1⟩

/-- Only a client whose destructor returns leaves its place empty. -/
theorem SystemInvariant.threadless {plat : Platform} {o o' : SystemObject} {l : SystemLabel}
    (h : SystemInvariant o) (hstep : SystemStep plat (.loaded o) l (.loaded o')) {place : Place}
    {client : ClientObject} (hclient : o.clientAt place = some client)
    (hgone : o'.clientAt place = none) : client.Threadless := by
  -- a client that is written does not disappear
  have hwritten : ∀ {c c' : IEC61850ClientConfig} {m : ClientObjects} {f f' : Feed}
      {pc pc' : SystemPc} {key : String} {client' : ClientObject},
      SystemObject.clientAt ⟨c, m, f, pc⟩ place = some client →
      SystemObject.clientAt ⟨c', m.insert key client', f', pc'⟩ place = none →
      place = .replaced := by
    intro c c' m f f' pc pc' key client' hclient hgone
    cases place with
    | stored other =>
      rw [clientAt_stored, getElem?_insert_eq] at hgone
      by_cases hkey : key = other
      · rw [if_pos hkey] at hgone
        cases hgone
      · rw [if_neg hkey] at hgone
        cases hgone.symm.trans hclient
    | replaced => rfl
  have hkept : ∀ {c c' : IEC61850ClientConfig} {m : ClientObjects} {f f' : Feed}
      {pc pc' : SystemPc}, SystemObject.clientAt ⟨c, m, f, pc⟩ place = some client →
      SystemObject.clientAt ⟨c', m, f', pc'⟩ place = none → place = .replaced := by
    intro c c' m f f' pc pc' hclient hgone
    cases place with
    | stored other =>
      cases hgone.symm.trans hclient
    | replaced => rfl
  cases hstep with
  | @background o at_ client₁ client₂ f' l hclient₁ _ =>
    have hgone : (o.setClient client₂ at_).clientAt place = none := hgone
    by_cases hplace : place = at_
    · rw [hplace, clientAt_setClient_self hclient₁] at hgone
      cases hgone
    · rw [clientAt_setClient_other hplace, hclient] at hgone
      cases hgone
  | @clientDestroyed c m f caller key client₁ client₂ hclient₁ hcontrolled =>
    cases place with
    | stored other =>
      by_cases hkey : key = other
      · have hdestroying : (SystemPc.statusAt (.inClear caller key) (.stored other)).Holds
            client.threads := h.threads (.stored other) client hclient
        rw [SystemPc.statusAt, if_pos hkey.symm] at hdestroying
        exact ⟨hdestroying.2.1.2.1.1, hdestroying.2.1.2.1.2.1⟩
      · rw [clientAt_stored, getElem?_erase_eq, if_neg hkey] at hgone
        rw [clientAt_stored, hgone] at hclient
        cases hclient
    | replaced => cases hclient
  | @oldDestroyed c m f key old old' entries hcontrolled =>
    rw [hkept hclient hgone] at hclient
    cases hclient
    rcases hcontrolled with ⟨threads, hcontrol, _⟩
    exact threadless_of_returns (h.threads .replaced client rfl) hcontrol
  | callStop _ _ => cases (hwritten hclient hgone) ▸ hclient
  | stopClient _ _ => cases (hwritten hclient hgone) ▸ hclient
  | clientStopped _ _ => cases (hwritten hclient hgone) ▸ hclient
  | callDestructor _ _ => cases (hwritten hclient hgone) ▸ hclient
  | destroyClient _ _ => cases (hwritten hclient hgone) ▸ hclient
  | callStart _ _ => cases (hwritten hclient hgone) ▸ hclient
  | startClient _ _ _ => cases (hwritten hclient hgone) ▸ hclient
  | clientStarted _ _ _ => cases (hwritten hclient hgone) ▸ hclient
  | create _ => cases (hwritten hclient hgone) ▸ hclient
  | replace _ => cases (hwritten hclient hgone) ▸ hclient
  | callOldDestructor _ =>
    rw [hkept hclient hgone] at hgone
    cases hgone
  | destroyOld _ =>
    rw [hkept hclient hgone] at hgone
    cases hgone
  | malformed => cases (hkept hclient hgone) ▸ hclient
  | _ => cases (hkept hclient hgone) ▸ hclient

/-! ## The invariant implies safety -/

theorem noClient_of_empty {c : IEC61850ClientConfig} {m : ClientObjects} {f : Feed} {pc : SystemPc}
    (hempty : m = ∅) (hreplaced : SystemObject.clientAt ⟨c, ∅, f, pc⟩ .replaced = none) :
    SystemObject.NoClient ⟨c, m, f, pc⟩ := by
  rw [hempty]
  exact clientAt_empty hreplaced

theorem SystemInvariant.noClient_importing {o : SystemObject} (h : SystemInvariant o)
    (himporting : o.pc.isImporting = true) : o.NoClient := by
  rcases o with ⟨c, m, f, pc⟩
  cases pc with
  | importing caller assignments defect => exact noClient_of_empty h.pc rfl
  | _ => cases himporting

theorem SystemInvariant.safe {o : SystemObject} (h : SystemInvariant o) (plat : Platform) :
    SystemSafe plat o := by
  constructor
  case clients =>
    intro place client hclient
    rcases (h.threads place client hclient).coherent with ⟨started, hcoherent⟩
    exact hcoherent.threadsSafe
  case ingest => exact h.ingest.alone
  case mutex =>
    constructor
    · exact h.ingest.holder
    · rintro ⟨place, client, hclient, hingest⟩
      exact h.ingest.held place client hclient hingest
  case importing => exact h.noClient_importing
  case destroyed =>
    intro l o' hstep place client hclient hgone
    exact h.threadless hstep hclient hgone
  case deleted =>
    intro l hstep
    cases hstep with
    | stopReturnsToShutdown hempty => exact noClient_of_empty hempty rfl
    | initThrows => exact noClient_of_empty h.pc rfl
  case stopReturns =>
    intro s' hstep
    cases hstep with
    | background _ hstep => cases hstep
    -- in each of the three callers, `stop` returns with an empty map
    | stopReturns hempty =>
      refine ⟨noClient_of_empty hempty rfl, ?_⟩
      rintro o' heq
      cases heq
      exact noClient_of_empty hempty rfl
    | stopReturnsToReconfigure _ hempty =>
      refine ⟨noClient_of_empty hempty rfl, ?_⟩
      rintro o' heq
      cases heq
      exact noClient_of_empty hempty rfl
    | stopReturnsToShutdown hempty =>
      refine ⟨noClient_of_empty hempty rfl, ?_⟩
      rintro o' heq
      cases heq

/-! ## After `stop` -/

/-- There is no client, and no call of Fledge is about to create one. -/
def SystemState.Silent (s : SystemState) : Prop :=
  ∀ o, s = .loaded o → SystemInvariant o ∧ o.NoClient ∧ o.pc.starts = false

/-- Fledge asks the plugin to create clients. -/
def SystemLabel.starts : SystemLabel → Bool
  | .call .start => true
  | .call (.reconfigure (some _)) => true
  | _ => false

/-- A reading is passed to Fledge, or its sender goes on. -/
def SystemLabel.feeds : SystemLabel → Bool
  | .callback _ _ => true
  | .callbackReturns => true
  | .ingestReturns => true
  | _ => false

theorem SystemState.Silent.step {plat : Platform} {s s' : SystemState} {l : SystemLabel}
    (h : s.Silent) (hstep : SystemStep plat s l s') (hl : l.starts = false) : s'.Silent := by
  rintro o' rfl
  cases s with
  | absent =>
    cases hstep
    exact ⟨.empty rfl rfl rfl, noClient_of_empty rfl rfl, rfl⟩
  | aborted => cases hstep
  | loaded o =>
    rcases h o rfl with ⟨hinv, hnone, hstarts⟩
    have hinv' : SystemInvariant o' := hinv.step hstep
    refine ⟨hinv', ?_⟩
    -- whatever names a client does not apply
    cases hstep with
    | background hclient _ =>
      rw [hnone] at hclient
      cases hclient
    | start => cases hl
    | reconfigure newConfig => cases hl
    | @callStop _ _ _ _ key _ _ _ hclient _ => cases (hnone (.stored key)).symm.trans hclient
    | @stopClient _ _ _ _ key _ _ _ hclient _ => cases (hnone (.stored key)).symm.trans hclient
    | @clientStopped _ _ _ _ key _ _ _ hclient _ => cases (hnone (.stored key)).symm.trans hclient
    | @callDestructor _ _ _ _ key _ _ hclient _ => cases (hnone (.stored key)).symm.trans hclient
    | @destroyClient _ _ _ _ key _ _ hclient _ => cases (hnone (.stored key)).symm.trans hclient
    | @clientDestroyed _ _ _ _ key _ _ hclient _ => cases (hnone (.stored key)).symm.trans hclient
    | stopReturnsToReconfigure _ _ => cases hstarts
    | imported => cases hstarts
    | reconfigureThrows => cases hstarts
    | create _ => cases hstarts
    | replace _ => cases hstarts
    | callOldDestructor _ => cases hstarts
    | destroyOld _ => cases hstarts
    | oldDestroyed _ => cases hstarts
    | callStart _ _ => cases hstarts
    | startClient _ _ _ => cases hstarts
    | clientStarted _ _ _ => cases hstarts
    | startReturns => cases hstarts
    | _ =>
      refine ⟨?_, by first | rfl | exact hstarts⟩
      intro place
      cases place with
      | stored key => exact hnone (.stored key)
      | replaced => rfl

theorem SystemState.Silent.not_feeds {plat : Platform} {s s' : SystemState} {l : SystemLabel}
    (h : s.Silent) (hstep : SystemStep plat s l s') : l.feeds = false := by
  cases hstep with
  | @background o place client client' f' l hclient _ =>
    rw [(h o rfl).2.1] at hclient
    cases hclient
  | _ => rfl

/-- **The plugin with all its threads is safe** after any sequence of calls and in the
middle of each, in whatever order the threads of the clients take their turns. From
the return of `stop` on, no reading is passed to Fledge until it starts the plugin
again. -/
theorem system_safe {plat : Platform} {ls : List SystemLabel} {o : SystemObject}
    (hrun : Run (SystemStep plat) .absent ls (.loaded o)) :
    SystemSafe plat o ∧
      ∀ stopped, SystemStep plat (.loaded o) .stopReturns stopped → o.pc.starts = false →
        ∀ (ls' : List SystemLabel) (s' : SystemState), Run (SystemStep plat) stopped ls' s' →
          (∀ l ∈ ls', l.starts = false) → ∀ l ∈ ls', l.feeds = false := by
  have hinv : SystemInvariant o := SystemState.Invariant.of_run hrun o rfl
  have hsafe : SystemSafe plat o := hinv.safe plat
  refine ⟨hsafe, ?_⟩
  intro stopped hreturns hfinal ls' s' hrun' hcalls
  have hsilent : stopped.Silent := by
    rintro o' rfl
    refine ⟨hinv.step hreturns, (hsafe.stopReturns _ hreturns).2 o' rfl, ?_⟩
    cases hreturns with
    | background _ hstep => cases hstep
    | stopReturns _ => rfl
    | stopReturnsToReconfigure _ _ => cases hfinal
  -- nothing is left that could pass a reading
  intro l hl
  by_contra hfeeds
  have hfeeds : l.feeds = true := by simpa using hfeeds
  have hno : ∀ s₁ s₂, SystemState.Silent s₁ → ¬ SystemStep plat s₁ l s₂ := by
    intro s₁ s₂ h hstep
    rw [h.not_feeds hstep] at hfeeds
    cases hfeeds
  exact Run.not_mem (fun _ _ _ h hstep hl => h.step hstep hl) hno hrun' hsilent hcalls hl

/-! ## A plugin with a started client -/

theorem system_import_run (plat : Platform) (assignments : List Assignment)
    (c : IEC61850ClientConfig) (m : ClientObjects) (f : Feed) (caller : ImportCaller)
    (defect : Option ImportStop) :
    ∃ n, Run (SystemStep plat) (.loaded ⟨c, m, f, .importing caller assignments defect⟩)
      (List.replicate n .internal)
      (.loaded ⟨assignAll c assignments, m, f, .importing caller [] defect⟩) := by
  induction assignments generalizing c with
  | nil => exact ⟨0, .nil _⟩
  | cons a assignments ih =>
    rcases ih (assign c a) with ⟨n, hrun⟩
    exact ⟨n + 1, .cons .assign hrun⟩

/-- The threads of a client when its `start` returns. -/
def startedThreads : ClientThreads :=
  { memory := { m_backgroundLaunchThread := true }, launch := some (.initializing (.destroy .test)) }

theorem system_create_run (plat : Platform) {c : IEC61850ClientConfig} {m : ClientObjects}
    {f : Feed} {key : String} {param : ServerConnectionParameters}
    {entries : List (String × ServerConnectionParameters)} (hnew : m[key]? = none) :
    ∃ m' : ClientObjects, Run (SystemStep plat)
      (.loaded ⟨c, m, f, .starting ((key, param) :: entries)⟩)
      (List.replicate 4 .internal)
      (.loaded ⟨c, m'.insert key { created := IEC61850.newClient c param, threads := startedThreads },
        f, .starting entries⟩) := by
  have hself : ∀ (m : ClientObjects) (client : ClientObject),
      (m.insert key client)[key]? = some client := fun _ _ => ExtTreeMap.getElem?_insert_self
  exact ⟨_, .cons (.create hnew) <| .cons (.callStart (hself _ _) ⟨_, .callStart, rfl⟩) <|
    .cons (.startClient (hself _ _) ⟨_, .spawn, rfl⟩ (by simp)) <|
    .cons (.clientStarted (hself _ _) ⟨_, .assign, rfl⟩ rfl) (.nil _)⟩

/-- A plugin that starts its clients, with what Fledge has registered. -/
theorem system_started_run (f : Feed) (key : String) (param : ServerConnectionParameters)
    (entries : List (String × ServerConnectionParameters)) :
    ∃ m : ClientObjects, Run (SystemStep samplePlatform)
      (.loaded ⟨olderStored, ∅, f, .starting ((key, param) :: entries)⟩) (List.replicate 4 .internal)
      (.loaded ⟨olderStored, m.insert key
        { created := IEC61850.newClient olderStored param, threads := startedThreads }, f,
        .starting entries⟩) :=
  system_create_run samplePlatform ExtTreeMap.getElem?_empty

/-- The plugin after `plugin_init`. -/
theorem olderStored_initialized : ∃ n, Run (SystemStep samplePlatform) .absent
    (.call (.init (some olderConfig)) :: List.replicate n .internal ++ [.internal])
    (.loaded ⟨olderStored, ∅, {}, .idle⟩) := by
  have hgo : (configAssignments samplePlatform olderConfig).stop = none :=
    accepted_iff.mp (samples_accepted olderConfig (by simp))
  have hcall : SystemStep samplePlatform .absent (.call (.init (some olderConfig)))
      (.loaded ⟨{}, ∅, {}, .importing .init (configAssignments samplePlatform olderConfig).out
        none⟩) := by
    have hinit := @SystemStep.init samplePlatform (some olderConfig) samplePlatform.uninit
    rw [Platform.withMemory_uninit, initAssignments, hgo] at hinit
    exact hinit
  rcases system_import_run samplePlatform (configAssignments samplePlatform olderConfig).out {} ∅ {}
    .init none with ⟨n, himport⟩
  exact ⟨n, .cons hcall (himport.append (.cons .initReturns (.nil _)))⟩

theorem olderStored_entries : ∃ key param entries,
    olderStored.serverConfigDict.toList = (key, param) :: entries := by
  cases hentries : olderStored.serverConfigDict.toList with
  | nil =>
    have hempty : olderStored.serverConfigDict = ∅ := ExtTreeMap.toList_eq_nil_iff.mp hentries
    have hconnection := olderStored_connection
    rw [hempty] at hconnection
    simp at hconnection
  | cons entry entries => exact ⟨entry.1, entry.2, entries, rfl⟩

theorem olderStored_start {key : String} {param : ServerConnectionParameters}
    {entries : List (String × ServerConnectionParameters)}
    (hentries : olderStored.serverConfigDict.toList = (key, param) :: entries) (f : Feed) :
    SystemStep samplePlatform (.loaded ⟨olderStored, ∅, f, .idle⟩) (.call .start)
      (.loaded ⟨olderStored, ∅, f, .starting ((key, param) :: entries)⟩) := by
  rw [← hentries]
  exact .start

/-- `plugin_init` has been called, and `plugin_start` has started a first client. -/
theorem olderStored_running : ∃ (n : Nat) (m : ClientObjects) (key : String)
    (param : ServerConnectionParameters) (entries : List (String × ServerConnectionParameters)),
    Run (SystemStep samplePlatform) .absent
      ((.call (.init (some olderConfig)) :: List.replicate n .internal ++ [.internal]) ++
        .call .start :: List.replicate 4 .internal)
      (.loaded ⟨olderStored, m.insert key
        { created := IEC61850.newClient olderStored param, threads := startedThreads }, {},
        .starting entries⟩) := by
  rcases olderStored_initialized with ⟨n, hinit⟩
  rcases olderStored_entries with ⟨key, param, entries, hentries⟩
  rcases system_started_run {} key param entries with ⟨m, hcreate⟩
  exact ⟨n, m, key, param, entries, hinit.append (.cons (olderStored_start hentries {}) hcreate)⟩

theorem system_safe_sample : ∃ m entries, ∃ (key : String) (client : ClientObject),
    SystemSafe samplePlatform ⟨olderStored, m, {}, .starting entries⟩ ∧
      m[key]? = some client ∧ client.threads.launch.isSome = true := by
  rcases olderStored_running with ⟨n, m, key, param, entries, hrun⟩
  exact ⟨_, entries, key, _, (system_safe hrun).1, ExtTreeMap.getElem?_insert_self, rfl⟩

end Iec61850South
