import Iec61850South.Plugin.SystemMutex
import Iec61850South.Plugin.SystemRanks

/-! # Who waits for whom

A thread of the plugin waits at two places only: `stop` joins the threads of a client, and
`ingest` locks its mutex. Whoever waits there is blocked, and whoever else has not ended
can act. Nobody waits for himself, be it through others, so there is no deadlock.
-/

namespace Iec61850South

open Lib Std

/-! ## The threads of a client -/

section Steps

variable (m : Memory)

/-- `initializeConnection` can go on, whatever the members are. -/
theorem InitializePc.exists_step (pc : InitializePc) : ∃ m' pc', InitializeStep m pc m' pc' := by
  -- both branches of every test are there, so that no value of a member blocks
  cases pc with
  | destroy pc =>
    cases pc with
    | test =>
      cases hconnection : m.m_connection with
      | true => exact ⟨_, _, .destroy (.present hconnection)⟩
      | false => exact ⟨_, _, .destroyed (.absent hconnection)⟩
    | reset => exact ⟨_, _, .destroy .reset⟩
    | closing => exact ⟨_, _, .destroyed .closed⟩
  | create pc =>
    cases pc with
    | test =>
      cases hconnection : m.m_connection with
      | true => exact ⟨_, _, .created (.present hconnection)⟩
      | false => exact ⟨_, _, .create (.absent hconnection)⟩
    | opening => exact ⟨_, _, .create .opened⟩
    | store => exact ⟨_, _, .created .store⟩
  | isConnected pc =>
    cases pc with
    | enter => exact ⟨_, _, .askConnected⟩
    | inside => exact ⟨_, _, .connected⟩
  | buildTrees pc =>
    cases pc with
    | enter => exact ⟨_, _, .request⟩
    | inside => exact ⟨_, _, .built⟩
  | sleep => exact ⟨_, _, .slept⟩
  | testStopOrder =>
    cases hstop : m.m_stopOrder with
    | true => exact ⟨_, _, .stopOrdered hstop⟩
    | false => exact ⟨_, _, .notOrdered hstop⟩
  | isStillConnected pc =>
    cases pc with
    | enter => exact ⟨_, _, .askStillConnected⟩
    | inside => exact ⟨_, _, .stillConnected⟩

/-- `launch` can go on until it has ended. -/
theorem LaunchPc.exists_step (reading : Option ReadingPc) {pc : LaunchPc} (hpc : pc ≠ .done) :
    ∃ m' reading' pc', LaunchStep m reading pc m' reading' pc' := by
  cases pc with
  | initializing pc =>
    rcases pc.exists_step m with ⟨m', pc', hstep⟩
    cases pc' with
    | none => exact ⟨_, _, _, .initialized hstep⟩
    | some pc' => exact ⟨_, _, _, .initializing hstep⟩
  | activate => exact ⟨_, _, _, .activate⟩
  | spawn => exact ⟨_, _, _, .spawn⟩
  | assign => exact ⟨_, _, _, .assign⟩
  | done => exact absurd rfl hpc

/-- `readMmsLoop` can go on until it has ended, unless it calls `ingest`. -/
theorem ReadingPc.exists_step {pc : ReadingPc} (hpc : pc ≠ .done) (hingest : pc ≠ .ingest) :
    ∃ m' pc', ReadingStep m pc .internal m' pc' := by
  cases pc with
  | testNull => exact ⟨_, _, .testNull⟩
  | testActivated =>
    cases hactivated : m.m_isMmsReadingActivated with
    | true => exact ⟨_, _, .activated hactivated⟩
    | false => exact ⟨_, _, .deactivated hactivated⟩
  | isConnected pc =>
    cases pc with
    | enter => exact ⟨_, _, .askConnected⟩
    | inside => exact ⟨_, _, .connected⟩
  | initializing pc =>
    rcases pc.exists_step m with ⟨m', pc', hstep⟩
    cases pc' with
    | none => exact ⟨_, _, .initialized hstep⟩
    | some pc' => exact ⟨_, _, .initializing hstep⟩
  | isNoError pc =>
    cases pc with
    | enter => exact ⟨_, _, .askNoError⟩
    | inside => exact ⟨_, _, .noError⟩
  | logError pc =>
    cases pc with
    | enter => exact ⟨_, _, .log⟩
    | inside => exact ⟨_, _, .logged⟩
  | read pc =>
    cases pc with
    | enter => exact ⟨_, _, .read⟩
    | inside => exact ⟨_, _, .converted⟩
  | ingest => exact absurd rfl hingest
  | sleep => exact ⟨_, _, .slept⟩
  | done => exact absurd rfl hpc

end Steps

/-- Where `stop` joins a thread that has not ended, it stays. -/
theorem ClientThreads.not_controlStep {t t' : ClientThreads} {thread : ClientThread} {l : Label}
    (hwaits : t.waitsFor = some thread) : ¬ ControlStep t t.control l t' := by
  rcases t with ⟨m, control, launch, reading⟩
  intro hstep
  cases hstep with
  | joinLaunch hdone =>
    have hdone : launch = some .done := hdone
    simp [waitsFor, hdone] at hwaits
  | joinReading hdone =>
    have hdone : reading = some .done := hdone
    simp [waitsFor, hdone] at hwaits
  | _ => cases hwaits

/-! ## Whom a thread waits for -/

/-- The thread has been created, and has not ended; the one of Fledge is in a call. -/
def SystemObject.Alive (o : SystemObject) : SystemThread → Prop
  | .fledge => o.pc ≠ .idle
  | .client place .launch =>
    ∃ client pc, o.clientAt place = some client ∧ client.threads.launch = some pc ∧ pc ≠ .done
  | .client place .reading =>
    ∃ client pc, o.clientAt place = some client ∧ client.threads.reading = some pc ∧ pc ≠ .done

/-- The two places where a thread may wait for another one. -/
inductive SystemObject.WaitsFor (o : SystemObject) : SystemThread → SystemThread → Prop
  /-- `stop` of the client joins its thread -/
  | join {place : Place} {client : ClientObject} {thread : ClientThread} :
      o.pc.current = some place → o.clientAt place = some client →
      client.threads.waitsFor = some thread → o.WaitsFor .fledge (.client place thread)
  /-- `ingest` locks the mutex, which another client has -/
  | lock {place holder : Place} {client other : ClientObject} :
      o.clientAt place = some client → client.AtIngest none →
      o.clientAt holder = some other → other.ingest.isSome = true →
      o.WaitsFor (.client place .reading) (.client holder .reading)

section Waits

variable {plat : Platform} {o : SystemObject} {place : Place} {client : ClientObject}

/-- Whoever has the mutex does not wait for it. -/
theorem waitsFor_fledge {a b c : SystemThread} (hab : o.WaitsFor a b) (hbc : o.WaitsFor b c) :
    a = .fledge := by
  cases hab with
  | join _ _ _ => rfl
  | lock _ _ hother hingest =>
    cases hbc with
    | lock hclient hat _ _ =>
      rw [hother, Option.some.injEq] at hclient
      subst hclient
      rw [hat.2] at hingest
      cases hingest

/-- Fledge waits for a client, which may wait for the one that has the mutex, and that is all. -/
theorem waitsFor_wellFounded (o : SystemObject) : WellFounded (Function.swap o.WaitsFor) := by
  refine ⟨fun a => .intro a fun b hab => .intro b fun c hbc => .intro c fun d hcd => ?_⟩
  have hb : b = .fledge := waitsFor_fledge hbc hcd
  subst hb
  cases hab

/-- Whom a thread waits for has not ended. -/
theorem SystemInvariant.alive (h : SystemInvariant o) {thread other : SystemThread}
    (hwaits : o.WaitsFor thread other) : o.Alive other := by
  cases hwaits with
  | @join place client thread _ hclient hwaits =>
    have hholds : (o.pc.statusAt place).Holds client.threads := h.threads place client hclient
    rcases hholds.coherent with ⟨started, hcoherent⟩
    cases thread with
    | launch =>
      rcases hcoherent.waits_launch hholds.ordered hwaits with ⟨pc, hpc, _, _, _, hstep⟩
      refine ⟨client, pc, hclient, hpc, ?_⟩
      rintro rfl
      cases hstep
    | reading =>
      rcases hcoherent.waits_reading hholds.ordered hwaits with ⟨pc, hpc, _, _, _, hstep, _⟩
      refine ⟨client, pc, hclient, hpc, ?_⟩
      rintro rfl
      cases hstep
  | lock _ _ hother hingest =>
    exact ⟨_, _, hother, h.ingest.reading _ _ hother hingest, by simp⟩

/-! ### Whoever waits is blocked -/

/-- The thread of Fledge does not get past a join. -/
theorem not_acts_of_join {client : ClientObject} {thread : ClientThread} {s' : SystemState}
    (hcurrent : o.pc.current = some place) (hclient : o.clientAt place = some client)
    (hwaits : client.threads.waitsFor = some thread) :
    ¬ SystemActs plat .fledge (.loaded o) s' := by
  have hblocked : ∀ {l : Label} {client' : ClientObject}, ¬ client.Controlled l client' := by
    rintro l client' ⟨t', hstep, _⟩
    exact ClientThreads.not_controlStep hwaits hstep
  have hstored : ∀ {m : ClientObjects} {key : String} {client₁ client' : ClientObject} {l : Label},
      m[key]? = some client → m[key]? = some client₁ → ¬ client₁.Controlled l client' := by
    intro m key client₁ client' l hclient hclient₁
    rw [hclient, Option.some.injEq] at hclient₁
    subst hclient₁
    exact hblocked
  rintro ⟨l, hstep, _, hnot⟩
  cases hstep with
  -- a statement of a client is not one of the thread of Fledge
  | background hclient₁ hback =>
    rcases actsAt_of_background hclient₁ hback with ⟨thread, hacts⟩
    exact hnot _ _ hacts
  -- inside a client, each statement would be one of the client that is waiting
  | stopClient hclient₁ hstep =>
    cases hcurrent
    exact hstored hclient hclient₁ hstep
  | clientStopped hclient₁ hstep =>
    cases hcurrent
    exact hstored hclient hclient₁ hstep
  | destroyClient hclient₁ hstep =>
    cases hcurrent
    exact hstored hclient hclient₁ hstep
  | clientDestroyed hclient₁ hstep =>
    cases hcurrent
    exact hstored hclient hclient₁ hstep
  | startClient hclient₁ hstep _ =>
    cases hcurrent
    exact hstored hclient hclient₁ hstep
  | clientStarted hclient₁ hstep _ =>
    cases hcurrent
    exact hstored hclient hclient₁ hstep
  | destroyOld hstep =>
    cases hcurrent
    cases hclient
    exact hblocked hstep
  | oldDestroyed hstep =>
    cases hcurrent
    cases hclient
    exact hblocked hstep
  -- anywhere else there is no current client
  | _ => cases hcurrent

/-- A reading thread does not get past the mutex that another one has. -/
theorem not_acts_of_lock {s' : SystemState} (hclient : o.clientAt place = some client)
    (hat : client.AtIngest none) (hlocked : o.feed.m_ingestMutex = true) :
    ¬ ActsAt place .reading (.loaded o) s' := by
  rcases hat with ⟨hreading, hnone⟩
  intro hacts
  cases hacts with
  | reading hclient₁ hstep hsame =>
    rw [hclient, Option.some.injEq] at hclient₁
    subst hclient₁
    cases hstep with
    -- the launch thread of the same client is another one
    | launch hpc hstep =>
      rw [hpc, Option.some.injEq] at hsame
      exact hstep.moves hsame
    | reading hpc hstep =>
      rw [hreading, Option.some.injEq] at hpc
      subst hpc
      cases hstep
    | lock _ _ hfree =>
      rw [hlocked] at hfree
      cases hfree
    | unlock hpc _ _ =>
      rw [hnone] at hpc
      cases hpc
    | registered hpc _ =>
      rw [hnone] at hpc
      cases hpc
    | notRegistered hpc _ =>
      rw [hnone] at hpc
      cases hpc
    | _ hpc =>
      rw [hnone] at hpc
      cases hpc

/-! ### Whoever does not wait can act -/

theorem exists_launchAct (hclient : o.clientAt place = some client) {pc : LaunchPc}
    (hpc : client.threads.launch = some pc) (hdone : pc ≠ .done) :
    ∃ s', ActsAt place .launch (.loaded o) s' := by
  rcases LaunchPc.exists_step client.threads.memory client.threads.reading hdone with
    ⟨m', reading', pc', hstep⟩
  refine ⟨_, .launch hclient (.launch hpc hstep) ?_⟩
  show some pc' ≠ client.threads.launch
  rw [hpc]
  exact fun heq => hstep.moves (Option.some.inj heq)

/-- A reading thread can act, or another one has the mutex that it locks. -/
theorem SystemInvariant.exists_readingAct (h : SystemInvariant o)
    (hclient : o.clientAt place = some client) {pc : ReadingPc}
    (hpc : client.threads.reading = some pc) (hdone : pc ≠ .done) :
    (∃ s', ActsAt place .reading (.loaded o) s') ∨
      client.AtIngest none ∧ o.feed.m_ingestMutex = true := by
  by_cases hat : pc = .ingest
  · subst hat
    cases hingest : client.ingest with
    | some at_ => exact .inl (h.exists_ingestAct hclient (by rw [hingest]; rfl))
    | none =>
      cases hlocked : o.feed.m_ingestMutex with
      | true => exact .inr ⟨⟨hpc, hingest⟩, rfl⟩
      | false => exact .inl ⟨_, .reading hclient (.lock hpc hingest hlocked) rfl⟩
  · rcases ReadingPc.exists_step client.threads.memory hdone hat with ⟨m', pc', hstep⟩
    exact .inl ⟨_, .reading hclient (.reading hpc hstep) rfl⟩

/-- **A thread that has not ended** can act, or waits for another one. -/
theorem SystemInvariant.acts_or_waits (plat : Platform) (h : SystemInvariant o)
    {thread : SystemThread} (halive : o.Alive thread) :
    (∃ s', SystemActs plat thread (.loaded o) s') ∨ ∃ other, o.WaitsFor thread other := by
  cases thread with
  | fledge =>
    cases hhelper : o.helper with
    | fledge => exact .inl (h.exists_fledgeAct plat halive hhelper)
    | client place thread =>
      rcases helper_client hhelper with ⟨hcurrent, client, hclient, hwaits⟩
      exact .inr ⟨_, .join hcurrent hclient hwaits⟩
  | client place thread =>
    cases thread with
    | launch =>
      rcases halive with ⟨client, pc, hclient, hpc, hdone⟩
      exact .inl (exists_launchAct hclient hpc hdone)
    | reading =>
      rcases halive with ⟨client, pc, hclient, hpc, hdone⟩
      rcases h.exists_readingAct hclient hpc hdone with hacts | ⟨hat, hlocked⟩
      · exact .inl hacts
      · rcases h.ingest.holder hlocked with ⟨holder, other, hother, hingest⟩
        exact .inr ⟨_, .lock hclient hat hother hingest⟩

theorem SystemInvariant.not_acts (h : SystemInvariant o) {thread other : SystemThread}
    (hwaits : o.WaitsFor thread other) : ¬ ∃ s', SystemActs plat thread (.loaded o) s' := by
  rintro ⟨s', hacts⟩
  cases hwaits with
  | join hcurrent hclient hwaits => exact not_acts_of_join hcurrent hclient hwaits hacts
  | lock hclient hat hother hingest =>
    exact not_acts_of_lock hclient hat (h.ingest.held _ _ hother hingest) hacts

end Waits

/-! ## No deadlock -/

/-- No thread waits for ever because others wait for it. -/
structure SystemObject.DeadlockFree (plat : Platform) (o : SystemObject) : Prop where
  /-- To wait is the only reason not to act. -/
  acts : ∀ thread, o.Alive thread →
    ((∃ s', SystemActs plat thread (.loaded o) s') ↔ ∀ other, ¬ o.WaitsFor thread other)
  /-- Nobody waits for a thread that has ended. -/
  alive : ∀ thread other, o.WaitsFor thread other → o.Alive other
  acyclic : ∀ thread, ¬ Relation.TransGen o.WaitsFor thread thread
  /-- At the end of each chain of waiting threads is one that can act. -/
  goesOn : ∀ thread, o.Alive thread → ∃ other, Relation.ReflTransGen o.WaitsFor thread other ∧
    o.Alive other ∧ ∃ s', SystemActs plat other (.loaded o) s'

theorem SystemInvariant.deadlockFree {o : SystemObject} (h : SystemInvariant o) (plat : Platform) :
    o.DeadlockFree plat := by
  have hwf : WellFounded (Function.swap o.WaitsFor) := waitsFor_wellFounded o
  constructor
  case acts =>
    intro thread halive
    constructor
    · intro hacts other hwaits
      exact h.not_acts hwaits hacts
    · intro hnot
      rcases h.acts_or_waits plat halive with hacts | ⟨other, hwaits⟩
      · exact hacts
      · exact absurd hwaits (hnot other)
  case alive =>
    intro thread other hwaits
    exact h.alive hwaits
  case acyclic =>
    intro thread hcycle
    have hback : Relation.TransGen (Function.swap o.WaitsFor) thread thread :=
      Relation.transGen_swap.mpr hcycle
    exact hwf.transGen.asymmetric _ _ hback hback
  case goesOn =>
    intro thread halive
    induction thread using hwf.induction with
    | _ thread ih =>
      rcases h.acts_or_waits plat halive with hacts | ⟨next, hwaits⟩
      · exact ⟨thread, .refl, halive, hacts⟩
      · rcases ih next hwaits (h.alive hwaits) with ⟨other, hchain, halive', hacts⟩
        exact ⟨other, .head hwaits hchain, halive', hacts⟩

/-- **No deadlock**, in whatever order the threads of the plugin and of its clients have taken
turns: a thread that has not ended can act, or waits for a chain of others that ends with one
that can. -/
theorem system_deadlockFree {plat : Platform} {ls : List SystemLabel} {o : SystemObject}
    (hrun : Run (SystemStep plat) .absent ls (.loaded o)) : o.DeadlockFree plat :=
  (SystemState.Invariant.of_run hrun o rfl).deadlockFree plat

theorem system_deadlockFree_sample : ∃ (o : SystemObject) (place : Place),
    o.Alive (.client place .launch) ∧ o.DeadlockFree samplePlatform := by
  rcases olderStored_running with ⟨_, m, key, _, entries, hrun⟩
  refine ⟨_, .stored key, ⟨_, _, ExtTreeMap.getElem?_insert_self, rfl, ?_⟩,
    system_deadlockFree hrun⟩
  simp

end Iec61850South
