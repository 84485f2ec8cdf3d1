import Iec61850South.Client.Addresses
import Iec61850South.Client.Stable
import Iec61850South.Lib.Hoare

/-! # Name trees of the current connection

The trees are built when a connection is found up right after it has been opened.
Whatever finds it down later shows in the events, and a connection that has once
been found down does not come back (`NeverBack`). So at any moment there is no
connection, or it has been found down, or the trees are those that were built on
it, with the connection up during the whole building (`Fresh`).
-/

namespace Iec61850South

open Lib IEC61850ClientConnection

/-! ## Connections that are found down -/

/-- Since the last connection was opened, it has been found down. -/
def FoundDown (events : List Event) : Prop :=
  ∃ before after, events = before ++ .getState false :: after ∧
    ∀ hostname tcpPort, .connect hostname tcpPort ∉ after

/-- A connection object that has been found down is not found up later. -/
def NeverBack (events : List Event) : Prop :=
  ∀ before after, events = before ++ .getState true :: after → ¬ FoundDown before

theorem FoundDown.append {events used : List Event} (h : FoundDown events)
    (hused : ∀ event ∈ used, event.isUse = true) : FoundDown (events ++ used) := by
  rcases h with ⟨before, after, rfl, hafter⟩
  refine ⟨before, after ++ used, by simp, ?_⟩
  intro hostname tcpPort hmem
  rcases List.mem_append.mp hmem with hmem | hmem
  · exact hafter hostname tcpPort hmem
  · -- opening a connection is no use of it
    cases hused _ hmem

/-- Being found down among other uses. -/
theorem foundDown_of_mem {events used : List Event} (hmem : .getState false ∈ used)
    (hused : ∀ event ∈ used, event.isUse = true) : FoundDown (events ++ used) := by
  rcases List.append_of_mem hmem with ⟨before, after, rfl⟩
  refine ⟨events ++ before, after, by simp, ?_⟩
  intro hostname tcpPort hconnect
  have hmem : .connect hostname tcpPort ∈ before ++ .getState false :: after := by simp [hconnect]
  -- opening a connection is no use of it
  cases hused _ hmem

theorem NeverBack.not_foundDown {events : List Event}
    (h : NeverBack (events ++ [.getState true])) : ¬ FoundDown events :=
  h events [] rfl

/-! ## What was built on a connection -/

section Fresh

variable (plat : Platform) (setup : ClientSetup) (env : Environment)

/-- The local configuration of `s` is the result of a building that has run to its
end (from `t` to `t'`) after the current connection had been opened and found up.
It has never been found down during the building, and no connection has been
opened or closed since. -/
inductive BuiltOn (s : ClientState) : Prop
  | intro (fuel : Nat) (t t' : ClientState) (before built after : List Event)
      (opened : t.events = before ++ [.connect setup.connectionParam.ipAddress
        setup.connectionParam.mmsPort, .getState true])
      (ran : buildConfigurationNameTrees plat setup env fuel t = .ok ⟨⟩ t')
      (building : t'.events = t.events ++ built)
      (up : ∀ event ∈ built, event.isUse = true ∧ event ≠ .getState false)
      (since : s.events = t'.events ++ after)
      (used : ∀ event ∈ after, event.isUse = true)
      (data : s.m_localExchangedData = t'.m_localExchangedData)
      (datasets : s.m_localExchangedDatasets = t'.m_localExchangedDatasets)

/-- The connection exists, and it has been found down or has its trees. -/
def Known (s : ClientState) : Prop :=
  HasConnection s ∧ (FoundDown s.events ∨ BuiltOn plat setup env s)

/-- There is no connection, or it has been found down or has its trees. -/
def Fresh (s : ClientState) : Prop :=
  HasConnection s → FoundDown s.events ∨ BuiltOn plat setup env s

variable {plat setup env}

/-! ## Uses of a connection -/

/-- From `s` to `s'` the connection has only been used. -/
structure Used (s s' : ClientState) : Prop where
  connection : s'.m_connection.isSome = s.m_connection.isSome
  events : ∃ used, s'.events = s.events ++ used ∧ ∀ event ∈ used, event.isUse = true

theorem Used.refl (s : ClientState) : Used s s :=
  ⟨rfl, [], by simp, by simp⟩

theorem Used.trans {s s' s'' : ClientState} (h : Used s s') (h' : Used s' s'') : Used s s'' := by
  rcases h with ⟨hconn, used, hevents, hused⟩
  rcases h' with ⟨hconn', used', hevents', hused'⟩
  refine ⟨hconn'.trans hconn, used ++ used', ?_, ?_⟩
  · rw [hevents', hevents, List.append_assoc]
  · exact List.forall_mem_append.mpr ⟨hused, hused'⟩

theorem Used.event {event : Event} (huse : event.isUse = true) (s : ClientState) :
    Used s { s with events := s.events ++ [event] } :=
  ⟨rfl, [event], rfl, by simpa using huse⟩

theorem Used.answered {event : Event} (huse : event.isUse = true) (error : IedClientError)
    (s : ClientState) : Used s (s.afterRequest event error) :=
  ⟨isSome_afterRequest event error s, [event], rfl, by simpa using huse⟩

theorem used_steady (s : ClientState) : Steady env fun s' => HasConnection s' ∧ Used s s' where
  connection _ ht := ht.1
  event t _ huse ht := ⟨ht.1, ht.2.trans (.event huse t)⟩
  calls _ ht := ⟨ht.1, ht.2.connection, ht.2.events⟩
  answered t event error huse _ ht :=
    ⟨ht.1.answered event error, ht.2.trans (.answered huse error t)⟩

/-- Using the connection changes neither what it has been found, nor its trees. -/
theorem Known.use {s s' : ClientState} (h : Known plat setup env s) (huse : Used s s')
    (hdata : s'.m_localExchangedData = s.m_localExchangedData)
    (hdatasets : s'.m_localExchangedDatasets = s.m_localExchangedDatasets) :
    Known plat setup env s' := by
  have hconn : HasConnection s' := huse.connection.trans h.1
  rcases huse.events with ⟨used, hevents, hused⟩
  rcases h.2 with hdown | ⟨fuel, t, t', before, built, after, opened, ran, building, up, since,
    hafter, data, datasets⟩
  · have hdown' : FoundDown s'.events := by
      rw [hevents]
      exact hdown.append hused
    exact ⟨hconn, Or.inl hdown'⟩
  · refine ⟨hconn, Or.inr ⟨fuel, t, t', before, built, after ++ used, opened, ran, building, up, ?_,
      ?_, hdata.trans data, hdatasets.trans datasets⟩⟩
    · rw [hevents, since, List.append_assoc]
    · exact List.forall_mem_append.mpr ⟨hafter, hused⟩

theorem known_steady : Steady env (Known plat setup env) where
  connection s hs := hs.1
  event s event huse hs := hs.use (.event huse s) rfl rfl
  calls s hs := hs.use ⟨rfl, [], by simp, by simp⟩ rfl rfl
  answered s event error huse _ hs := hs.use (.answered huse error s) rfl rfl

/-! ## The building -/

variable (plat setup env) in
/-- The building uses the connection, and only stops when the model runs out of steps. -/
theorem buildConfigurationNameTrees_uses (fuel : Nat) {s : ClientState} (hs : HasConnection s) :
    (HasConnection (finalState (buildConfigurationNameTrees plat setup env fuel s)) ∧
        Used s (finalState (buildConfigurationNameTrees plat setup env fuel s))) ∧
      ∀ e s', buildConfigurationNameTrees plat setup env fuel s = .error e s' → e = .outOfFuel := by
  have hP : Steady env fun s' => HasConnection s' ∧ Used s s' := used_steady s
  have htree := hP.keeps_buildNameTree (G := fun e => e = .outOfFuel) rfl fuel
  exact hP.keeps_buildConfigurationNameTrees htree
    (fun _ _ ht => ⟨ht.1, ht.2.connection, ht.2.events⟩)
    (fun _ _ ht => ⟨ht.1, ht.2.connection, ht.2.events⟩) plat setup s ⟨hs, .refl s⟩

/-- After a building the connection has been found down during it, or has its trees. -/
theorem Known.of_build {fuel : Nat} {t t' : ClientState} {before : List Event}
    (ht : HasConnection t)
    (hopened : t.events = before ++ [.connect setup.connectionParam.ipAddress
      setup.connectionParam.mmsPort, .getState true])
    (hran : buildConfigurationNameTrees plat setup env fuel t = .ok ⟨⟩ t') :
    Known plat setup env t' := by
  have huses := (buildConfigurationNameTrees_uses plat setup env fuel ht).1
  rw [hran, finalState_ok] at huses
  rcases huses with ⟨hconn, huse⟩
  rcases huse.events with ⟨built, hevents, hused⟩
  refine ⟨hconn, ?_⟩
  by_cases hdown : .getState false ∈ built
  · left
    rw [hevents]
    exact foundDown_of_mem hdown hused
  · right
    refine ⟨fuel, t, t', before, built, [], hopened, hran, hevents, ?_, by simp, by simp, rfl, rfl⟩
    intro event hmem
    refine ⟨hused event hmem, ?_⟩
    rintro rfl
    exact hdown hmem

/-! ## What the building has asked for -/

/-- The request for the attributes of a DO. -/
def DatapointConfig.directoryRequest (dpConfig : DatapointConfig) : Event :=
  .getDataDirectoryByFC dpConfig.dataPath dpConfig.functionalConstraint

/-- Since `s₀`, the requests have been made or the connection has been found down, and the
local DOs are `exchangedData`. -/
def AskedSince (s₀ : ClientState) (exchangedData : ExchangedData) (requests : List Event)
    (s : ClientState) : Prop :=
  s.m_localExchangedData = exchangedData ∧ ∃ used, s.events = s₀.events ++ used ∧
    (.getState false ∈ used ∨ ∀ request ∈ requests, request ∈ used)

section Asked

variable {s₀ : ClientState} {exchangedData : ExchangedData} {requests requests' : List Event}
  {fuel : Nat}

/-- Any outcome is fine for an error. -/
abbrev Anyhow (_ : Abort) (_ : ClientState) : Prop := True

theorem AskedSince.fewer {s : ClientState} (h : AskedSince s₀ exchangedData (requests ++ requests') s) :
    AskedSince s₀ exchangedData requests s := by
  rcases h with ⟨hdata, used, hevents, hdown | hasked⟩
  · exact ⟨hdata, used, hevents, .inl hdown⟩
  · exact ⟨hdata, used, hevents, .inr fun request hmem =>
      hasked request (List.mem_append_left _ hmem)⟩

theorem deref_asked : Hoare (AskedSince s₀ exchangedData requests) deref
    (fun _ => AskedSince s₀ exchangedData requests) Anyhow := by
  intro s hs
  cases hconn : s.m_connection with
  | none =>
    rw [deref_run_none hconn]
    exact ⟨fun _ _ heq => (by cases heq), fun _ _ _ => trivial⟩
  | some connection =>
    rw [deref_run hconn]
    refine ⟨?_, fun _ _ _ => trivial⟩
    intro a s' heq
    cases heq
    exact hs

/-- A connection that is found down has whatever requests one likes. -/
theorem isConnected_asked (more : List Event) :
    Hoare (AskedSince s₀ exchangedData requests) (isConnected env)
      (fun connected s => if connected then AskedSince s₀ exchangedData requests s
        else AskedSince s₀ exchangedData (requests ++ more) s) Anyhow := by
  refine .of_ok fun s hs => ⟨_, _, isConnected_run env s, ?_⟩
  rcases hs with ⟨hdata, used, hevents, hasked⟩
  have hevents' : (s.afterGetState env).events =
      s₀.events ++ (used ++ [.getState (env.getState s.calls)]) := by
    rw [← List.append_assoc, ← hevents]
    rfl
  cases hup : env.getState s.calls with
  | true =>
    refine ⟨hdata, _, hevents', ?_⟩
    rcases hasked with hdown | hasked
    · exact .inl (List.mem_append_left _ hdown)
    · exact .inr fun request hmem => List.mem_append_left _ (hasked request hmem)
  | false =>
    refine ⟨hdata, _, hevents', .inl ?_⟩
    rw [hup]
    exact List.mem_append_right _ (List.mem_singleton_self _)

theorem request_asked {α : Type} (event : Event) (answer : Nat → α × IedClientError) :
    Hoare (AskedSince s₀ exchangedData requests) (request event answer)
      (fun _ => AskedSince s₀ exchangedData (requests ++ [event])) Anyhow := by
  refine .of_ok fun s hs => ⟨_, _, request_run event answer s, ?_⟩
  rcases hs with ⟨hdata, used, hevents, hasked⟩
  refine ⟨hdata, used ++ [event], ?_, ?_⟩
  · rw [← List.append_assoc, ← hevents]
    rfl
  · rcases hasked with hdown | hasked
    · exact .inl (List.mem_append_left _ hdown)
    · right
      intro request hmem
      rcases List.mem_append.mp hmem with hmem | hmem
      · exact List.mem_append_left _ (hasked request hmem)
      · exact List.mem_append_right _ hmem

/-- The first request is the one for the attributes of the path itself. -/
theorem buildNameTree_asked (path : String) (fc : FunctionalConstraint) (nameTree : MmsNameNode) :
    Hoare (AskedSince s₀ exchangedData requests) (buildNameTree env fuel path fc nameTree)
      (fun _ => AskedSince s₀ exchangedData (requests ++ [.getDataDirectoryByFC path fc])) Anyhow := by
  induction fuel generalizing path nameTree requests with
  | zero => exact .throw fun _ _ => trivial
  | succ fuel ih =>
    refine .bind (isConnected_asked [.getDataDirectoryByFC path fc]) fun connected => ?_
    cases connected with
    | false => exact .pure fun _ hs => hs
    | true =>
      refine .bind (request_asked (.getDataDirectoryByFC path fc) _) fun names => ?_
      cases names with
      | none => exact .pure fun _ hs => hs
      | some dataAttributes =>
        refine .foldlM nameTree fun nameTree daName => ?_
        exact .bind (ih _ _) fun _ => .pure fun _ hs => hs.fewer

theorem buildDatapointNameTree_asked (dpConfig : DatapointConfig) :
    Hoare (AskedSince s₀ exchangedData requests) (buildDatapointNameTree env fuel dpConfig)
      (fun built => AskedSince s₀ exchangedData (requests ++ [built.directoryRequest])) Anyhow :=
  .bind deref_asked fun _ => .bind (buildNameTree_asked _ _ _) fun _ => .pure fun _ hs => hs

theorem buildMember_asked (selection : ExchangedData) (doPathWithFC : String) :
    Hoare (AskedSince s₀ exchangedData requests) (buildMember plat env fuel selection doPathWithFC)
      (fun _ => AskedSince s₀ exchangedData requests) Anyhow := by
  have hsplit : Hoare (AskedSince s₀ exchangedData requests)
      (liftExcept (splitDoPathWithFC doPathWithFC))
      (fun _ => AskedSince s₀ exchangedData requests) Anyhow := by
    rcases splitDoPathWithFC_returns doPathWithFC with ⟨parts, hparts⟩
    rw [hparts]
    exact .pure fun _ hs => hs
  refine .bind hsplit fun parts => .bind deref_asked fun _ => ?_
  exact .bind (buildNameTree_asked _ _ _) fun _ => .pure fun _ hs => hs.fewer

/-- The round of a dataset begins with the request for its members. -/
theorem buildDataset_asked (datasetRef : String) (selection : ExchangedData) :
    Hoare (AskedSince s₀ exchangedData requests) (buildDataset plat env fuel datasetRef selection)
      (fun _ => AskedSince s₀ exchangedData (requests ++ [.getDataSetDirectory datasetRef]))
      Anyhow := by
  have hdirectory : Hoare (AskedSince s₀ exchangedData requests)
      (getDoPathListWithFCFromDataset env datasetRef)
      (fun _ => AskedSince s₀ exchangedData (requests ++ [.getDataSetDirectory datasetRef]))
      Anyhow := by
    refine .bind (isConnected_asked [.getDataSetDirectory datasetRef]) fun connected => ?_
    cases connected with
    | false => exact .pure fun _ hs => hs
    | true =>
      exact .bind (request_asked (.getDataSetDirectory datasetRef) _) fun _ =>
        .pure fun _ hs => hs
  refine .bind deref_asked fun _ => .bind hdirectory fun _ => ?_
  exact .bind (.mapM (buildMember_asked selection)) fun _ => .modify fun _ hs => hs

/-- A building asks for each DO and for each selected dataset. -/
theorem buildConfigurationNameTrees_asked (s₀ : ClientState) :
    Hoare (fun s => s = s₀) (buildConfigurationNameTrees plat setup env fuel)
      (fun _ s => AskedSince s₀ s.m_localExchangedData
        (s.m_localExchangedData.flatMap (fun dpConfig => [dpConfig.directoryRequest]) ++
          setup.selectedDOInExchangedDatasets.toList.flatMap
            (fun selectionEntry => [.getDataSetDirectory selectionEntry.1])) s) Anyhow := by
  have hstart : ∀ s : ClientState, s = s₀ → AskedSince s₀ s₀.m_localExchangedData [] s := by
    rintro s rfl
    exact ⟨rfl, [], by simp, .inr (by simp)⟩
  refine .bind (R := fun _ => AskedSince s₀ s₀.m_localExchangedData []) (.get hstart) fun t => ?_
  refine .bind (.mapM_marks (fun dpConfig _ => buildDatapointNameTree_asked dpConfig) _ [])
    fun built => ?_
  refine .bind (R := fun _ => AskedSince s₀ built
    (built.flatMap fun dpConfig => [dpConfig.directoryRequest])) ?_ fun _ => ?_
  · exact .modify fun s hs => ⟨rfl, hs.2⟩
  · refine (Hoare.forM_marks
      (fun selectionEntry _ => buildDataset_asked selectionEntry.1 selectionEntry.2) _ _).post ?_
    rintro _ s hs
    rw [hs.1]
    exact hs

end Asked

/-- On the current connection, while it has been up, the attributes of each local DO and the
members of each selected dataset have been asked for. -/
theorem BuiltOn.requests {s : ClientState} (h : BuiltOn plat setup env s) :
    ∃ before built after, s.events = before ++ [.connect setup.connectionParam.ipAddress
        setup.connectionParam.mmsPort, .getState true] ++ built ++ after ∧
      (∀ event ∈ built ++ after, event.isUse = true) ∧ .getState false ∉ built ∧
      (∀ dpConfig ∈ s.m_localExchangedData,
        .getDataDirectoryByFC dpConfig.dataPath dpConfig.functionalConstraint ∈ built) ∧
      ∀ datasetRef ∈ setup.selectedDOInExchangedDatasets,
        .getDataSetDirectory datasetRef ∈ built := by
  rcases h with ⟨fuel, t, t', before, built, after, opened, ran, building, up, since, used, data, _⟩
  have hnever : .getState false ∉ built := fun hmem => (up _ hmem).2 rfl
  rcases (buildConfigurationNameTrees_asked t t rfl).1 _ t' ran with ⟨_, asked, hasked, hrequests⟩
  have hsame : asked = built := List.append_cancel_left (hasked.symm.trans building)
  subst hsame
  have hrequests := hrequests.resolve_left hnever
  refine ⟨before, asked, after, ?_, ?_, hnever, ?_, ?_⟩
  · rw [since, building, opened]
  · exact List.forall_mem_append.mpr ⟨fun event hmem => (up event hmem).1, used⟩
  · intro dpConfig hmem
    rw [data] at hmem
    refine hrequests _ (List.mem_append_left _ (List.mem_flatMap.mpr ⟨dpConfig, hmem, ?_⟩))
    exact List.mem_singleton_self _
  · intro datasetRef hmem
    rcases Std.ExtTreeMap.mem_iff_isSome_getElem?.mp hmem |> Option.isSome_iff_exists.mp with
      ⟨selection, hselection⟩
    refine hrequests _ (List.mem_append_right _ (List.mem_flatMap.mpr ⟨(datasetRef, selection), ?_,
      List.mem_singleton_self _⟩))
    exact Std.ExtTreeMap.mem_toList_iff_getElem?_eq_some.mpr hselection

/-! ## Opening a connection -/

theorem destroyConnection_closes (s : ClientState) :
    ∃ s', destroyConnection s = .ok ⟨⟩ s' ∧ s'.m_connection = none := by
  rcases destroyConnection_cases s with ⟨hnone, hrun⟩ | ⟨_, hrun⟩
  · exact ⟨s, hrun, hnone⟩
  · exact ⟨_, hrun, rfl⟩

variable (setup env) in
/-- A new connection object, which has just been opened. -/
theorem createConnection_opens {s : ClientState} (hs : s.m_connection = none) :
    ∃ s' before, createConnection setup env s = .ok ⟨⟩ s' ∧ HasConnection s' ∧
      s'.events = before ++ [.connect setup.connectionParam.ipAddress
        setup.connectionParam.mmsPort] := by
  rcases createConnection_cases setup env s with ⟨hconn, _⟩ | ⟨_, hrun⟩
  · rw [HasConnection, hs] at hconn
    cases hconn
  · exact ⟨s.opened env setup.connectionParam, s.events ++ parameterEvents setup.connectionParam,
      hrun.trans (construct_run env setup.connectionParam s), rfl, rfl⟩

variable (plat setup env) in
/-- Whatever a client starts from, `initializeConnection` leaves a connection that
has been found down or has its trees. -/
theorem initializeConnection_known (fuel rounds : Nat) (s : ClientState) :
    Ends (Known plat setup env) (fun e => e = .outOfFuel)
      (initializeConnection plat setup env fuel rounds) s := by
  induction rounds generalizing s with
  | zero => exact Ends.throw (G := fun e => e = Abort.outOfFuel) rfl s
  | succ rounds ih =>
    have hP : Steady env (Known plat setup env) := known_steady
    -- after the first test and the building, the connection is only used
    have hloop : ∀ s, Known plat setup env s →
        Ends (Known plat setup env) (fun e => e = .outOfFuel) (do
          if ! (← ask env.stopOrder) then
            let _ ← deref
            if ! (← isConnected env) then
              initializeConnection plat setup env fuel rounds) s := by
      intro s hs
      refine .bind ((hP.keeps_ask _).ends hs) fun _ s hs => .ite ?_ ((Keeps.pure _).ends hs)
      refine .bind (hP.keeps_deref.ends hs) fun _ s hs => ?_
      exact .bind (hP.keeps_isConnected.ends hs) fun _ s hs =>
        .ite (ih s) ((Keeps.pure _).ends hs)
    rcases destroyConnection_closes s with ⟨s₁, hdestroy, hnone⟩
    rcases createConnection_opens setup env hnone with
      ⟨s₂, before, hcreate, hconn, hopened⟩
    rcases deref_run_of_isSome hconn with ⟨connection, hderef⟩
    rw [initializeConnection]
    refine .step hdestroy (.step hcreate (.step hderef (.step (isConnected_run env s₂) ?_)))
    have hconn : HasConnection (s₂.afterGetState env) := hconn
    cases hup : env.getState s₂.calls with
    | false =>
      -- nothing is built on it, and nothing will be read from it
      rw [if_neg (by simp)]
      have hdown : FoundDown (s₂.afterGetState env).events := by
        refine ⟨s₂.events, [], ?_, by simp⟩
        rw [ClientState.afterGetState, hup]
      exact hloop _ ⟨hconn, Or.inl hdown⟩
    | true =>
      rw [if_pos rfl]
      have hopened : (s₂.afterGetState env).events = before ++ [.connect
          setup.connectionParam.ipAddress setup.connectionParam.mmsPort, .getState true] := by
        rw [ClientState.afterGetState, hup, hopened]
        simp
      have hbuild := buildConfigurationNameTrees_uses plat setup env fuel hconn
      have hbuilt : Ends (Known plat setup env) (fun e => e = .outOfFuel)
          (buildConfigurationNameTrees plat setup env fuel) (s₂.afterGetState env) :=
        ⟨fun _ s' hrun => .of_build hconn hopened hrun, hbuild.2⟩
      exact .bind hbuilt fun _ s hs => hloop s hs

/-! ## The life of a client -/

variable (plat setup env)

/-- What becomes of a client while its threads take turns: the launch thread
initialises the connection, the reading thread polls, and the control thread
destroys the connection. No two of them use it at the same time (`ThreadsSafe.exclusive`), so
their calls come one after the other. -/
inductive ClientLife : ClientState → Prop
  | constructed (exchangedData : ExchangedData) : ClientLife (newClient exchangedData)
  | initialized {fuel rounds : Nat} {s s' : ClientState} : ClientLife s →
      initializeConnection plat setup env fuel rounds s = .ok ⟨⟩ s' → ClientLife s'
  | cycle {fuel rounds : Nat} {s s' : ClientState} : ClientLife s →
      pollCycle plat setup env fuel rounds s = .ok ⟨⟩ s' → ClientLife s'
  | destroyed {s s' : ClientState} : ClientLife s → destroyConnection s = .ok ⟨⟩ s' →
      ClientLife s'

variable {plat setup env}

/-- A cycle that starts over and returns has opened a connection. -/
theorem Known.of_cycle_down {fuel rounds : Nat} {s s' : ClientState} (hconn : HasConnection s)
    (hdown : env.getState s.calls = false)
    (hrun : pollCycle plat setup env fuel rounds s = .ok ⟨⟩ s') : Known plat setup env s' := by
  have hinit := initializeConnection_known plat setup env fuel rounds (s.afterGetState env)
  rw [pollCycle, cycle_down hconn hdown] at hrun
  cases hresult : initializeConnection plat setup env fuel rounds (s.afterGetState env) with
  | ok a t =>
    rw [hresult] at hrun
    cases hrun
    exact hinit.1 a _ hresult
  | error e t =>
    -- running out of steps is not caught
    have hfuel : e = .outOfFuel := hinit.2 e t hresult
    rw [hresult, hfuel] at hrun
    cases hrun

theorem ClientLife.fresh {s : ClientState} (h : ClientLife plat setup env s) :
    Fresh plat setup env s := by
  induction h with
  | constructed exchangedData =>
    intro hconn
    cases hconn
  | @initialized fuel rounds s s' _ hrun _ =>
    intro _
    -- the trees have just been built, on the connection just opened
    have hknown : Known plat setup env s' :=
      (initializeConnection_known plat setup env fuel rounds s).1 ⟨⟩ s' hrun
    exact hknown.2
  | @cycle fuel rounds s s' _ hrun ih =>
    intro _
    by_cases hconn : HasConnection s
    · cases hup : env.getState s.calls with
      | true =>
        have hknown : Known plat setup env
            (finalState (pollCycle plat setup env fuel rounds s)) :=
          known_steady.cycle_up ⟨hconn, ih hconn⟩ hup
        rw [hrun] at hknown
        exact hknown.2
      | false =>
        have hknown : Known plat setup env s' := .of_cycle_down hconn hup hrun
        exact hknown.2
    · -- the first statement of a cycle uses the connection
      have hnone : s.m_connection = none := by simpa [HasConnection] using hconn
      rw [pollCycle, readAndExportMms, run_bind_error (deref_run_none hnone)] at hrun
      cases hrun
  | @destroyed s s' _ hrun _ =>
    intro hconn
    -- there is no connection any more, and so nothing to be fresh for
    rcases destroyConnection_closes s with ⟨t, hclose, hnone⟩
    rw [hclose] at hrun
    cases hrun
    rw [HasConnection, hnone] at hconn
    cases hconn

/-- **Values are only read with name trees of the current connection**: whenever
`readAndExportMms` finds the connection up, the trees have been built on it. -/
theorem read_with_current_trees {s : ClientState} (hlife : ClientLife plat setup env s)
    (hconn : s.m_connection.isSome) (hup : env.getState s.calls = true)
    (hback : NeverBack (s.afterGetState env).events) : BuiltOn plat setup env s := by
  rw [ClientState.afterGetState, hup] at hback
  rcases hlife.fresh hconn with hdown | hbuilt
  · -- a connection that has been found down would have come back
    exact (hback.not_foundDown hdown).elim
  · exact hbuilt

end Fresh

/-! ## A client of the small IED -/

def Event.isDown : Event → Bool
  | .getState connected => ! connected
  | _ => false

theorem neverBack_of_up {events : List Event}
    (h : (events.all fun event => ! event.isDown) = true) : NeverBack events := by
  intro before after hevents hdown
  rcases hdown with ⟨before', after', rfl, _⟩
  rw [List.all_eq_true] at h
  have hup := h (.getState false) (by simp [hevents])
  cases hup

/-- The client after its first cycle. -/
@[irreducible] def polledOnce : ClientState :=
  finalState (pollCycle (.withDocuments []) (smallSetup .DO_READING []) smallIed 3 2
    (launched (smallSetup .DO_READING []) smallIed [smallDO "TS1" "SPSSO1"]))

theorem polledOnce_life :
    ClientLife (.withDocuments []) (smallSetup .DO_READING []) smallIed polledOnce := by
  rw [polledOnce]
  have hnew : ClientLife (.withDocuments []) (smallSetup .DO_READING []) smallIed
      (newClient [smallDO "TS1" "SPSSO1"]) := .constructed _
  have hlaunched : ClientLife (.withDocuments []) (smallSetup .DO_READING []) smallIed
      (launched (smallSetup .DO_READING []) smallIed [smallDO "TS1" "SPSSO1"]) :=
    .initialized hnew (eq_ok_of_returned (by decide +kernel))
  exact .cycle hlaunched (eq_ok_of_returned (by decide +kernel))

theorem polledOnce_up : polledOnce.m_connection.isSome ∧
    ((polledOnce.afterGetState smallIed).events.all fun event => ! event.isDown) = true := by
  rw [polledOnce]
  decide +kernel

theorem read_with_current_trees_sample :
    BuiltOn (.withDocuments []) (smallSetup .DO_READING []) smallIed polledOnce :=
  read_with_current_trees polledOnce_life polledOnce_up.1 rfl (neverBack_of_up polledOnce_up.2)

end Iec61850South
