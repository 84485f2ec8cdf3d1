import Iec61850South.Lib.Fairness
import Iec61850South.Client.Liveness
import Iec61850South.Plugin.SystemProgress

/-! # Who acts

Each step of the plugin is one of the thread of Fledge or of a thread of a client. An
execution is fair if each of them goes on that can do so again and again, so that
whoever waits for the mutex gets it in the end, and if each loop over the items of a
list ends. From each state there is such an execution.
-/

namespace Iec61850South

open Lib Std

/-! ## Who acts -/

/-- A step of one of the threads of the client at a place. The launch thread never stays
where it is, and the reading thread leaves it alone. -/
inductive ActsAt (place : Place) : ClientThread → SystemState → SystemState → Prop
  | launch {o : SystemObject} {client client' : ClientObject} {f' : Feed} {l : SystemLabel} :
      o.clientAt place = some client → BackgroundStep o.feed client l f' client' →
      client'.threads.launch ≠ client.threads.launch →
      ActsAt place .launch (.loaded o) (.loaded { o.setClient client' place with feed := f' })
  | reading {o : SystemObject} {client client' : ClientObject} {f' : Feed} {l : SystemLabel} :
      o.clientAt place = some client → BackgroundStep o.feed client l f' client' →
      client'.threads.launch = client.threads.launch →
      ActsAt place .reading (.loaded o) (.loaded { o.setClient client' place with feed := f' })

/-- The thread of Fledge, and the two threads of each client. -/
inductive SystemThread where
  /-- the thread of Fledge, in the middle of a call -/
  | fledge
  | client (place : Place) (thread : ClientThread)

section Acts

variable (plat : Platform)

/-- A statement of this thread. -/
def SystemActs : SystemThread → SystemState → SystemState → Prop
  | .fledge, s, s' => ∃ l, SystemStep plat s l s' ∧ l.isCall = false ∧
    ∀ place thread, ¬ ActsAt place thread s s'
  | .client place thread, s, s' => ActsAt place thread s s'

/-- Fledge calls the plugin if it likes to. -/
def SystemCalls (s s' : SystemState) : Prop :=
  ∃ l, SystemStep plat s l s' ∧ l.isCall = true

/-- An endless execution of the plugin. -/
abbrev SystemExecution := Execution (SystemActs plat) (SystemCalls plat)

end Acts

/-- In a loop over the items of a list. -/
def SystemThread.IsLooping : SystemThread → SystemState → Prop
  | .fledge, _ => False
  | .client place thread, s => ∃ o client, s = .loaded o ∧ o.clientAt place = some client ∧
    client.threads.isLooping thread = true

section Background

variable {o : SystemObject} {client client' : ClientObject} {f f' : Feed} {l : SystemLabel}

/-- A statement of a client is one of its launch or its reading thread. -/
theorem actsAt_of_background {place : Place} (hclient : o.clientAt place = some client)
    (hstep : BackgroundStep o.feed client l f' client') :
    ∃ thread, ActsAt place thread (.loaded o) (.loaded { o.setClient client' place with feed := f' }) := by
  by_cases hsame : client'.threads.launch = client.threads.launch
  · exact ⟨.reading, .reading hclient hstep hsame⟩
  · exact ⟨.launch, .launch hclient hstep hsame⟩

/-- Each step that is no call is one of some thread. -/
theorem SystemStep.acts {plat : Platform} {s s' : SystemState} (hstep : SystemStep plat s l s')
    (hl : l.isCall = false) : ∃ thread, SystemActs plat thread s s' := by
  by_cases hback : ∃ place thread, ActsAt place thread s s'
  · rcases hback with ⟨place, thread, hacts⟩
    exact ⟨.client place thread, hacts⟩
  · exact ⟨.fledge, l, hstep, hl, fun place thread hacts => hback ⟨place, thread, hacts⟩⟩

/-- What a thread of a client does is a step of the system. -/
theorem ActsAt.step (plat : Platform) {place : Place} {thread : ClientThread} {s s' : SystemState}
    (h : ActsAt place thread s s') : ∃ l, SystemStep plat s l s' := by
  cases h with
  | launch hclient hstep _ => exact ⟨_, .background hclient hstep⟩
  | reading hclient hstep _ => exact ⟨_, .background hclient hstep⟩

/-- What a thread does is a step of the system. -/
theorem SystemActs.step {plat : Platform} {thread : SystemThread} {s s' : SystemState}
    (h : SystemActs plat thread s s') : ∃ l, SystemStep plat s l s' := by
  cases thread with
  | fledge =>
    rcases h with ⟨l, hstep, _⟩
    exact ⟨l, hstep⟩
  | client place thread => exact ActsAt.step plat h

end Background

/-! ## Executions -/

/-- The invariant holds along an execution. -/
theorem invariant_always {plat : Platform} {e : SystemExecution plat}
    (hstart : (e.state 0).Invariant) (n : Nat) : (e.state n).Invariant := by
  refine e.always ?_ ?_ hstart n
  · intro thread s s' hinv hacts
    rcases hacts.step with ⟨l, hstep⟩
    exact hinv.step hstep
  · rintro s s' hinv ⟨l, hstep, _⟩
    exact hinv.step hstep

/-! ## There are fair executions -/

section Feasible

variable {plat : Platform}

/-- `plugin_shutdown` is under way. -/
def SystemPc.ShutsDown : SystemPc → Prop
  | .stopping caller _ => caller = .shutdown
  | .inStop caller _ _ => caller = .shutdown
  | .clearing caller => caller = .shutdown
  | .inClear caller _ => caller = .shutdown
  | _ => False

/-- … or has returned. -/
def SystemState.ShutsDown : SystemState → Prop
  | .absent => True
  | .loaded o => o.pc.ShutsDown
  | .aborted => False

/-- Without a new call, a shutdown stays under way or is done. -/
theorem SystemState.ShutsDown.step {s s' : SystemState} {l : SystemLabel} (h : s.ShutsDown)
    (hstep : SystemStep plat s l s') (hl : l.isCall = false) : s'.ShutsDown := by
  cases hstep with
  | @background o place client client' f' _ hclient _ =>
    -- a client is replaced by the start only
    have hnone : o.clientAt .replaced = none := by
      rcases o with ⟨c, m, f, pc⟩
      cases pc with
      | replacing key old entries => cases h
      | inReplace key old entries => cases h
      | _ => rfl
    show (o.setClient client' place).pc.ShutsDown
    rw [pc_setClient hnone]
    exact h
  | init _ _ => cases hl
  | registerIngest _ _ => cases hl
  | start => cases hl
  | stop => cases hl
  | reconfigure _ => cases hl
  | malformed => cases hl
  | shutdown => cases hl
  | callStop _ _ => exact h
  | stopClient _ _ => exact h
  | clientStopped _ _ => exact h
  | clear => exact h
  | callDestructor _ _ => exact h
  | destroyClient _ _ => exact h
  | clientDestroyed _ _ => exact h
  | stopReturns _ => cases h
  | stopReturnsToReconfigure _ _ => cases h
  | stopReturnsToShutdown _ => trivial
  | _ => cases h

/-- Steps of threads, or calls of Fledge. -/
abbrev Moves (plat : Platform) (s s' : SystemState) : Prop :=
  (∃ thread, SystemActs plat thread s s') ∨ SystemCalls plat s s'

/-- A run without its labels. -/
theorem moves_of_run {s s' : SystemState} {ls : List SystemLabel}
    (hrun : Run (SystemStep plat) s ls s') : Relation.ReflTransGen (Moves plat) s s' := by
  induction hrun with
  | nil s => exact .refl
  | @cons s s₁ _ l _ hfirst _ ih =>
    refine .head ?_ ih
    cases hl : l.isCall with
    | true => exact .inr ⟨l, hfirst, hl⟩
    | false => exact .inl (hfirst.acts hl)

/-- Without the object, no thread has anything to do. -/
theorem quiet_of_not_loaded {s : SystemState} (h : ∀ o, s ≠ .loaded o) :
    Execution.Quiet (SystemActs plat) s := by
  intro thread s' hacts
  cases thread with
  | fledge =>
    rcases hacts with ⟨l, hstep, hl, _⟩
    cases hstep with
    | init _ _ => cases hl
    | _ => exact h _ rfl
  | client place thread =>
    have hacts : ActsAt place thread s s' := hacts
    cases hacts with
    | launch _ _ _ => exact h _ rfl
    | reading _ _ _ => exact h _ rfl

/-- The call that is under way may end, and then the plugin may be shut down. -/
theorem SystemState.Invariant.exists_quiet {s : SystemState} (h : s.Invariant) :
    ∃ s', Relation.ReflTransGen (Moves plat) s s' ∧ ∀ o, s' ≠ .loaded o := by
  have hends : ∀ s : SystemState, s.Invariant → s.CanEnd plat := by
    intro s h
    cases s with
    | absent => exact canEnd_of_idle trivial
    | aborted => exact canEnd_aborted
    | loaded o => exact (h o rfl).canEnd plat
  rcases hends s h with ⟨ls, s₁, hrun, hls, hend⟩
  cases s₁ with
  | absent => exact ⟨_, moves_of_run hrun, by simp⟩
  | aborted => exact ⟨_, moves_of_run hrun, by simp⟩
  | loaded o =>
    rcases o with ⟨c, m, f, pc⟩
    have hpc : pc = .idle := by
      rcases hend with hidle | haborted
      · exact hidle
      · cases haborted
    subst hpc
    have hkept : ∀ s l s', SystemState.Invariant s → SystemStep plat s l s' → True →
        s'.Invariant := fun _ _ _ h hstep _ => h.step hstep
    -- Fledge may shut the plugin down, and that call ends too
    have hcall : SystemStep plat (.loaded ⟨c, m, f, .idle⟩) (.call .shutdown)
        (.loaded ⟨c, m, f, .stopping .shutdown m.keys⟩) := .shutdown
    have hinv : SystemState.Invariant (.loaded ⟨c, m, f, .stopping .shutdown m.keys⟩) :=
      (hrun.invariant hkept h fun _ _ => trivial).step hcall
    rcases hends _ hinv with ⟨ls', s₂, hrun', hls', hend'⟩
    have hdown : s₂.ShutsDown :=
      hrun'.invariant (fun _ _ _ h hstep hl => h.step hstep hl) rfl hls'
    refine ⟨s₂, (moves_of_run hrun).trans (.head (.inr ⟨_, hcall, rfl⟩) (moves_of_run hrun')), ?_⟩
    rintro o rfl
    have hpc : o.pc = .idle := by
      rcases hend' with hidle | haborted
      · exact hidle
      · cases haborted
    have hdown : o.pc.ShutsDown := hdown
    rw [hpc] at hdown
    cases hdown

/-- Each state that can be reached has a fair execution. -/
theorem SystemState.Invariant.exists_fair {s : SystemState} (h : s.Invariant) :
    ∃ e : SystemExecution plat, e.state 0 = s ∧ e.Fair SystemThread.IsLooping := by
  rcases h.exists_quiet with ⟨s', hmoves, hend⟩
  exact Execution.exists_fair hmoves (quiet_of_not_loaded hend)

end Feasible

end Iec61850South
