import Iec61850South.Plugin.SystemFeed
import Iec61850South.Plugin.SystemTurns

/-! # No client waits for ever to hand over a reading

Whoever is inside `ingest` stays there when the thread of Fledge goes on, also when
the client is replaced meanwhile, and unlocks the mutex in the end. So in a fair
execution the mutex is free again and again, and whoever waits for it gets it.
-/

namespace Iec61850South

open Lib Std

/-! ## The thread of Fledge -/

/-- The reading thread has called `ingest`: it waits for the mutex, or is at a statement. -/
def ClientObject.AtIngest (client : ClientObject) (at_ : Option IngestPc) : Prop :=
  client.threads.reading = some .ingest ∧ client.ingest = at_

theorem ClientObject.Controlled.atIngest {client client' : ClientObject} {l : Label}
    {at_ : Option IngestPc} (h : client.Controlled l client') (hat : client.AtIngest at_) :
    client'.AtIngest at_ :=
  ⟨h.reading hat.1, h.ingest.trans hat.2⟩

namespace SystemState

def AtIngest (place : Place) (at_ : Option IngestPc) (s : SystemState) : Prop :=
  ∃ o client, s = .loaded o ∧ o.clientAt place = some client ∧ client.AtIngest at_

/-- It is still there, or another client has been put in its place. -/
def StaysAtIngest (place : Place) (at_ : Option IngestPc) (s : SystemState) : Prop :=
  s.AtIngest place at_ ∨ place ≠ .replaced ∧ s.AtIngest .replaced at_

end SystemState

section Fledge

variable {c c' : IEC61850ClientConfig} {m : ClientObjects} {f f' : Feed} {pc pc' : SystemPc}
  {place : Place} {client : ClientObject} {at_ : Option IngestPc}

/-- The clients stay where they are. -/
theorem staysAtIngest_same (hclient : SystemObject.clientAt ⟨c, m, f, pc⟩ place = some client)
    (hat : client.AtIngest at_)
    (hreplaced : SystemObject.clientAt ⟨c', m, f', pc'⟩ .replaced =
      SystemObject.clientAt ⟨c, m, f, pc⟩ .replaced) :
    SystemState.StaysAtIngest place at_ (.loaded ⟨c', m, f', pc'⟩) := by
  refine .inl ⟨_, client, rfl, ?_, hat⟩
  cases place with
  | stored key => exact hclient
  | replaced => exact hreplaced.trans hclient

/-- A client takes a step of a call. -/
theorem staysAtIngest_insert (hclient : SystemObject.clientAt ⟨c, m, f, pc⟩ place = some client)
    (hat : client.AtIngest at_) {key : String} {client₁ client₁' : ClientObject} {l : Label}
    (hclient₁ : m[key]? = some client₁) (hstep : client₁.Controlled l client₁')
    (hreplaced : SystemObject.clientAt ⟨c', m, f, pc'⟩ .replaced =
      SystemObject.clientAt ⟨c, m, f, pc⟩ .replaced) :
    SystemState.StaysAtIngest place at_ (.loaded ⟨c', m.insert key client₁', f, pc'⟩) := by
  by_cases hplace : place = .stored key
  · subst hplace
    rw [clientAt_stored, hclient₁, Option.some.injEq] at hclient
    subst hclient
    exact .inl ⟨_, client₁', rfl, clientAt_insert_self key client₁', hstep.atIngest hat⟩
  · exact .inl ⟨_, client, rfl, (clientAt_insert hreplaced hplace).trans hclient, hat⟩

/-- The client that is being replaced takes a step of its destructor. -/
theorem staysAtIngest_old (hclient : SystemObject.clientAt ⟨c, m, f, pc⟩ place = some client)
    (hat : client.AtIngest at_) {old old' : ClientObject} {l : Label}
    (hold : SystemObject.clientAt ⟨c, m, f, pc⟩ .replaced = some old)
    (hstep : old.Controlled l old')
    (hold' : SystemObject.clientAt ⟨c', m, f, pc'⟩ .replaced = some old') :
    SystemState.StaysAtIngest place at_ (.loaded ⟨c', m, f, pc'⟩) := by
  cases place with
  | stored key => exact .inl ⟨_, client, rfl, hclient, hat⟩
  | replaced =>
    rw [hold, Option.some.injEq] at hclient
    subst hclient
    exact .inl ⟨_, old', rfl, hold', hstep.atIngest hat⟩

/-- A new client is created. -/
theorem staysAtIngest_create (hclient : SystemObject.clientAt ⟨c, m, f, pc⟩ place = some client)
    (hat : client.AtIngest at_)
    (hnone : SystemObject.clientAt ⟨c, m, f, pc⟩ .replaced = none) {key : String}
    {created : ClientObject}
    (hreplaced : m[key]? = none ∨
      SystemObject.clientAt ⟨c', m.insert key created, f, pc'⟩ .replaced = m[key]?) :
    SystemState.StaysAtIngest place at_ (.loaded ⟨c', m.insert key created, f, pc'⟩) := by
  cases place with
  | replaced =>
    rw [hnone] at hclient
    cases hclient
  | stored other =>
    by_cases hkey : key = other
    · -- the client in its place is the one that is replaced
      subst hkey
      have hclient : m[key]? = some client := hclient
      rcases hreplaced with hnew | hreplaced
      · rw [hnew] at hclient
        cases hclient
      · exact .inr ⟨by simp, _, client, rfl, hreplaced.trans hclient, hat⟩
    · refine .inl ⟨_, client, rfl, ?_, hat⟩
      rw [clientAt_stored, getElem?_insert_eq, if_neg hkey]
      exact hclient

/-- Without clients nobody is there. -/
theorem not_clientAt_empty (hclient : SystemObject.clientAt ⟨c, m, f, pc⟩ place = some client)
    (hempty : m = ∅) (hnone : SystemObject.clientAt ⟨c, m, f, pc⟩ .replaced = none) : False := by
  subst hempty
  rw [clientAt_empty hnone place] at hclient
  cases hclient

end Fledge

/-- **The thread of Fledge** leaves whoever has called `ingest` where it is. -/
theorem SystemInvariant.staysAtIngest {plat : Platform} {o : SystemObject} {s' : SystemState}
    {l : SystemLabel} (h : SystemInvariant o) (hstep : SystemStep plat (.loaded o) l s')
    {place : Place} {client : ClientObject} {at_ : Option IngestPc}
    (hclient : o.clientAt place = some client) (hat : client.AtIngest at_) :
    (l.isCall = false ∧ ∃ place thread, ActsAt place thread (.loaded o) s') ∨
      s'.StaysAtIngest place at_ := by
  cases hstep with
  | background hclient₁ hback =>
    rcases actsAt_of_background hclient₁ hback with ⟨thread, hacts⟩
    exact .inl ⟨by cases hback <;> rfl, _, thread, hacts⟩
  | callStop hclient₁ hcontrolled =>
    exact .inr (staysAtIngest_insert hclient hat hclient₁ hcontrolled rfl)
  | stopClient hclient₁ hcontrolled =>
    exact .inr (staysAtIngest_insert hclient hat hclient₁ hcontrolled rfl)
  | clientStopped hclient₁ hcontrolled =>
    exact .inr (staysAtIngest_insert hclient hat hclient₁ hcontrolled rfl)
  | callDestructor hclient₁ hcontrolled =>
    exact .inr (staysAtIngest_insert hclient hat hclient₁ hcontrolled rfl)
  | destroyClient hclient₁ hcontrolled =>
    exact .inr (staysAtIngest_insert hclient hat hclient₁ hcontrolled rfl)
  | callStart hclient₁ hcontrolled =>
    exact .inr (staysAtIngest_insert hclient hat hclient₁ hcontrolled rfl)
  | startClient hclient₁ hcontrolled _ =>
    exact .inr (staysAtIngest_insert hclient hat hclient₁ hcontrolled rfl)
  | clientStarted hclient₁ hcontrolled _ =>
    exact .inr (staysAtIngest_insert hclient hat hclient₁ hcontrolled rfl)
  | @clientDestroyed c m f caller key client₁ _ hclient₁ _ =>
    refine .inr (.inl ⟨_, client, rfl, ?_, hat⟩)
    cases place with
    | stored other =>
      rw [clientAt_stored, getElem?_erase_eq]
      by_cases hkey : key = other
      · subst hkey
        -- a client is erased only after its reading thread has been joined
        have hnone : client.threads.reading = none := h.cleared_reading hclient
        rw [hat.1] at hnone
        cases hnone
      · rw [if_neg hkey]
        exact hclient
    | replaced => cases hclient
  | stopReturnsToShutdown hempty => exact (not_clientAt_empty hclient hempty rfl).elim
  | initThrows => exact (not_clientAt_empty hclient h.pc rfl).elim
  | assertionFails => exact (not_clientAt_empty hclient h.pc rfl).elim
  | create hnew => exact .inr (staysAtIngest_create hclient hat rfl (.inl hnew))
  | replace hold => exact .inr (staysAtIngest_create hclient hat rfl (.inr hold.symm))
  | callOldDestructor hcontrolled =>
    exact .inr (staysAtIngest_old hclient hat rfl hcontrolled rfl)
  | destroyOld hcontrolled => exact .inr (staysAtIngest_old hclient hat rfl hcontrolled rfl)
  | oldDestroyed hcontrolled =>
    refine .inr (.inl ⟨_, client, rfl, ?_, hat⟩)
    cases place with
    | stored other => exact hclient
    | replaced =>
      cases hclient
      exact absurd hat.1 (h.replaced_reading hcontrolled)
  | _ => exact .inr (staysAtIngest_same hclient hat rfl)

/-! ## The threads of the clients -/

section Mutex

variable {o : SystemObject} {place : Place} {client client' : ClientObject} {f f' : Feed}
  {l : SystemLabel}

/-- A client inside `ingest` unlocks the mutex, or gets closer to it. Only its launch thread
may move otherwise. -/
theorem BackgroundStep.ingest_nears {pc : IngestPc} (h : BackgroundStep f client l f' client')
    (hpc : client.ingest = some pc) (hreading : client.threads.reading = some .ingest) :
    f'.m_ingestMutex = false ∨
      ∃ pc', client'.ingest = some pc' ∧ (pc'.rank < pc.rank ∨ pc'.rank = pc.rank) := by
  cases h with
  | launch _ _ => exact .inr ⟨pc, hpc, .inr rfl⟩
  | reading hat hstep =>
    rw [hreading, Option.some.injEq] at hat
    rw [← hat] at hstep
    cases hstep
  -- it is inside already
  | lock _ hnone _ =>
    rw [hpc] at hnone
    cases hnone
  | registered hat _ =>
    rw [hpc, Option.some.injEq] at hat
    exact .inr ⟨_, rfl, .inl (by rw [hat]; decide)⟩
  | notRegistered hat _ =>
    rw [hpc, Option.some.injEq] at hat
    exact .inr ⟨_, rfl, .inl (by rw [hat]; decide)⟩
  | loadCallback hat =>
    rw [hpc, Option.some.injEq] at hat
    exact .inr ⟨_, rfl, .inl (by rw [hat]; exact (by decide : 4 < 5))⟩
  | loadData hat =>
    rw [hpc, Option.some.injEq] at hat
    exact .inr ⟨_, rfl, .inl (by rw [hat]; exact (by decide : 3 < 4))⟩
  | call hat =>
    rw [hpc, Option.some.injEq] at hat
    exact .inr ⟨_, rfl, .inl (by rw [hat]; exact (by decide : 2 < 3))⟩
  | callReturns hat =>
    rw [hpc, Option.some.injEq] at hat
    exact .inr ⟨_, rfl, .inl (by rw [hat]; decide)⟩
  | unlock _ _ _ => exact .inl rfl

/-- Whoever is inside `ingest` can go on. -/
theorem SystemInvariant.exists_ingestAct (h : SystemInvariant o)
    (hclient : o.clientAt place = some client) (hingest : client.ingest.isSome = true) :
    ∃ s', ActsAt place .reading (.loaded o) s' := by
  rcases Option.isSome_iff_exists.mp hingest with ⟨pc, hpc⟩
  have hreading : client.threads.reading = some .ingest :=
    h.ingest.reading place client hclient hingest
  rcases exists_ingestStep o.feed hpc hreading with ⟨l, f', client', hstep, _, hleft⟩
  refine ⟨_, .reading hclient hstep ?_⟩
  rcases hleft with ⟨_, _, rfl, _⟩ | ⟨_, rfl⟩ <;> rfl

/-- The client at `place` is inside `ingest`. -/
def SystemState.HoldsMutex (place : Place) (s : SystemState) : Prop :=
  ∃ o client, s = .loaded o ∧ o.clientAt place = some client ∧ client.ingest.isSome = true

def SystemState.MutexFree (s : SystemState) : Prop :=
  ∃ o, s = .loaded o ∧ o.feed.m_ingestMutex = false

def SystemState.ingestRank (place : Place) : SystemState → Nat
  | .loaded o => ((o.clientAt place).bind (·.ingest)).elim 0 IngestPc.rank
  | _ => 0

theorem ingestRank_eq {pc : IngestPc} (hclient : o.clientAt place = some client)
    (hpc : client.ingest = some pc) : (SystemState.loaded o).ingestRank place = pc.rank := by
  show ((o.clientAt place).bind _).elim 0 _ = _
  rw [hclient]
  show client.ingest.elim 0 _ = _
  rw [hpc]
  rfl

theorem SystemState.Invariant.holder_isLooping {s : SystemState} (h : s.Invariant)
    (hholds : s.HoldsMutex place) : SystemThread.IsLooping (.client place .reading) s := by
  rcases hholds with ⟨o, client, rfl, hclient, hingest⟩
  refine ⟨o, client, rfl, hclient, ?_⟩
  rw [ClientThreads.isLooping, (h o rfl).ingest.reading place client hclient hingest]
  rfl

/-- While a client is inside `ingest`, the threads of the clients keep it there, or take it
out. -/
theorem SystemInvariant.holder_step (h : SystemInvariant o) {at_ : Place} {thread : ClientThread}
    {s' : SystemState} (hacts : ActsAt at_ thread (.loaded o) s')
    (hholds : (SystemState.loaded o).HoldsMutex place) :
    s'.MutexFree ∨ s'.HoldsMutex place ∧
      (s'.ingestRank place < (SystemState.loaded o).ingestRank place ∨
        s'.ingestRank place = (SystemState.loaded o).ingestRank place) := by
  rcases hholds with ⟨_, client, ⟨⟩, hclient, hingest⟩
  have hstep : ∀ {client₁ client' : ClientObject} {f' : Feed} {l : SystemLabel},
      o.clientAt at_ = some client₁ → BackgroundStep o.feed client₁ l f' client' →
      s' = .loaded { o.setClient client' at_ with feed := f' } →
      s'.MutexFree ∨ s'.HoldsMutex place ∧
        (s'.ingestRank place < (SystemState.loaded o).ingestRank place ∨
          s'.ingestRank place = (SystemState.loaded o).ingestRank place) := by
    rintro client₁ client' f' l hclient₁ hback rfl
    rcases Option.isSome_iff_exists.mp hingest with ⟨pc, hpc⟩
    rw [ingestRank_eq hclient hpc]
    -- another client leaves the holder where it is
    by_cases hplace : place = at_
    · subst hplace
      rw [hclient, Option.some.injEq] at hclient₁
      subst hclient₁
      rcases hback.ingest_nears hpc (h.ingest.reading place client hclient hingest) with
        hunlocked | ⟨pc', hpc', hrank⟩
      · exact .inl ⟨_, rfl, hunlocked⟩
      · have hself : SystemObject.clientAt { o.setClient client' place with feed := f' } place =
            some client' := clientAt_setClient_self hclient client'
        rw [ingestRank_eq hself hpc']
        exact .inr ⟨⟨_, client', rfl, hself, by rw [hpc']; rfl⟩, hrank⟩
    · have hother : SystemObject.clientAt { o.setClient client' at_ with feed := f' } place =
          some client := (clientAt_setClient_other hplace client').trans hclient
      rw [ingestRank_eq hother hpc]
      exact .inr ⟨⟨_, client, rfl, hother, hingest⟩, .inr rfl⟩
  cases hacts with
  | launch hclient₁ hback _ => exact hstep hclient₁ hback rfl
  | reading hclient₁ hback _ => exact hstep hclient₁ hback rfl

/-- While a client waits for the mutex, its reading thread may only lock it, and no other
thread of a client touches it. -/
theorem SystemInvariant.waiting_step (h : SystemInvariant o) {at_ : Place} {thread : ClientThread}
    {s' : SystemState} (hacts : ActsAt at_ thread (.loaded o) s')
    (hwaits : (SystemState.loaded o).AtIngest place none) :
    s'.HoldsMutex place ∨ s'.AtIngest place none ∧ ¬ (at_ = place ∧ thread = .reading) := by
  rcases hwaits with ⟨_, client, ⟨⟩, hclient, hreading, hnone⟩
  have hother : ∀ {client' : ClientObject} {f' : Feed}, at_ ≠ place →
      SystemState.AtIngest place none (.loaded { o.setClient client' at_ with feed := f' }) := by
    intro client' f' hplace
    refine ⟨_, client, rfl, ?_, hreading, hnone⟩
    exact (clientAt_setClient_other hplace.symm client').trans hclient
  have hself : ∀ {client' : ClientObject} {f' : Feed},
      SystemObject.clientAt { o.setClient client' place with feed := f' } place = some client' :=
    fun {client' _} => clientAt_setClient_self hclient client'
  -- the launch thread of the same client leaves its reading thread alone, and that one may only lock
  by_cases hplace : at_ = place
  · subst hplace
    cases hacts with
    | launch hclient₁ hback hmoved =>
      rw [hclient, Option.some.injEq] at hclient₁
      subst hclient₁
      cases hback with
      | launch hpc hstep =>
        rcases (h.threads at_ client hclient).coherent with ⟨started, hcoherent⟩
        have hkept := hcoherent.keepsReading hpc hstep hreading
        exact .inr ⟨⟨_, _, rfl, hself, hkept, hnone⟩, by rintro ⟨_, ⟨⟩⟩⟩
      | _ => exact absurd rfl hmoved
    | reading hclient₁ hback hsame =>
      rw [hclient, Option.some.injEq] at hclient₁
      subst hclient₁
      cases hback with
      | launch hpc hstep =>
        rw [hpc] at hsame
        exact absurd (Option.some.inj hsame) hstep.moves
      | reading hpc hstep =>
        rw [hreading, Option.some.injEq] at hpc
        rw [← hpc] at hstep
        cases hstep
      | lock _ _ _ => exact .inl ⟨_, _, rfl, hself, rfl⟩
      | registered hat _ =>
        rw [hnone] at hat
        cases hat
      | notRegistered hat _ =>
        rw [hnone] at hat
        cases hat
      | loadCallback hat =>
        rw [hnone] at hat
        cases hat
      | loadData hat =>
        rw [hnone] at hat
        cases hat
      | call hat =>
        rw [hnone] at hat
        cases hat
      | callReturns hat =>
        rw [hnone] at hat
        cases hat
      | unlock hat _ _ =>
        rw [hnone] at hat
        cases hat
  · refine .inr ⟨?_, fun hsame => hplace hsame.1⟩
    cases hacts with
    | launch _ _ _ => exact hother hplace
    | reading _ _ _ => exact hother hplace

end Mutex

/-! ## Executions -/

section Executions

variable {plat : Platform} {e : SystemExecution plat}

/-- Who acts: the thread of Fledge, which leaves the client at `place` where it is, or a thread
of a client. -/
theorem atIngest_step (hinv : ∀ n, (e.state n).Invariant) {place : Place} {n : Nat}
    {at_ : Option IngestPc} (hat : (e.state n).AtIngest place at_) :
    (e.state (n + 1)).StaysAtIngest place at_ ∧ e.actor n ≠ some (.client place .reading) ∨
      ∃ place' thread, e.actor n = some (.client place' thread) ∧
        ActsAt place' thread (e.state n) (e.state (n + 1)) := by
  rcases hat with ⟨o, client, ho, hclient, hat⟩
  have hobj : SystemInvariant o := hinv n o ho
  cases hactor : e.actor n with
  | none =>
    refine .inl ⟨?_, by simp⟩
    rcases e.rested n hactor with heq | ⟨l, hstep, hl⟩
    · exact .inl ⟨o, client, heq.trans ho, hclient, hat⟩
    · rw [ho] at hstep
      rcases hobj.staysAtIngest hstep hclient hat with ⟨hl', _⟩ | hstays
      · rw [hl] at hl'
        cases hl'
      · exact hstays
  | some thread =>
    have hacts := e.acted n thread hactor
    cases thread with
    | fledge =>
      refine .inl ⟨?_, by simp⟩
      rw [ho] at hacts
      rcases hacts with ⟨l, hstep, _, hnot⟩
      rcases hobj.staysAtIngest hstep hclient hat with ⟨_, place', thread, hacts⟩ | hstays
      · exact absurd hacts (hnot place' thread)
      · exact hstays
    | client place' thread => exact .inr ⟨place', thread, rfl, hacts⟩

/-- The mutex has been unlocked, or whoever has it is being replaced. -/
def SystemState.Released (place : Place) (s : SystemState) : Prop :=
  s.MutexFree ∨ place ≠ .replaced ∧ s.HoldsMutex .replaced

/-- **The step lemma.** Whoever acts, the client inside `ingest` does not lose the mutex before
it unlocks it. -/
theorem holder_step (hinv : ∀ n, (e.state n).Invariant) {place : Place} {n : Nat}
    (hholds : (e.state n).HoldsMutex place) :
    (e.state (n + 1)).Released place ∨ (e.state (n + 1)).HoldsMutex place ∧
      ((e.state (n + 1)).ingestRank place < (e.state n).ingestRank place ∨
        (e.state (n + 1)).ingestRank place = (e.state n).ingestRank place) := by
  rcases hholds with ⟨o, client, ho, hclient, hingest⟩
  have hobj : SystemInvariant o := hinv n o ho
  rcases Option.isSome_iff_exists.mp hingest with ⟨at_, hat⟩
  have hreading : client.threads.reading = some .ingest :=
    hobj.ingest.reading place client hclient hingest
  have hinside : (e.state n).AtIngest place (some at_) :=
    ⟨o, client, ho, hclient, hreading, hat⟩
  rcases atIngest_step hinv hinside with ⟨hstays, _⟩ | ⟨place', thread, _, hacts⟩
  · rcases hstays with ⟨o', client', ho', hclient', _, hat'⟩ |
      ⟨hplace, o', client', ho', hclient', _, hat'⟩
    · refine .inr ⟨⟨o', client', ho', hclient', by rw [hat']; rfl⟩, .inr ?_⟩
      rw [ho, ho', ingestRank_eq hclient hat, ingestRank_eq hclient' hat']
    · exact .inl (.inr ⟨hplace, o', client', ho', hclient', by rw [hat']; rfl⟩)
  · rw [ho] at hacts ⊢
    rcases hobj.holder_step hacts ⟨o, client, rfl, hclient, hingest⟩ with hfree | hnears
    · exact .inl (.inl hfree)
    · exact .inr hnears

/-- A client that is inside `ingest` unlocks the mutex, or is replaced. -/
theorem exists_released (hfair : e.Fair SystemThread.IsLooping)
    (hinv : ∀ n, (e.state n).Invariant) {place : Place} {n : Nat}
    (hholds : (e.state n).HoldsMutex place) : ∃ m, n ≤ m ∧ (e.state m).Released place := by
  have hstep : ∀ m, n ≤ m → (e.state m).HoldsMutex place → (e.state (m + 1)).Released place ∨
      (e.state (m + 1)).HoldsMutex place ∧
        (SystemState.ingestRank place (e.state (m + 1)) < SystemState.ingestRank place (e.state m) ∨
          Execution.Waits SystemThread.IsLooping (SystemState.ingestRank place)
              (fun _ => .client place .reading) (e.state m) (e.state (m + 1)) ∧
            (e.actor m = some (.client place .reading) →
              SystemThread.IsLooping (.client place .reading) (e.state m))) := by
    intro m _ hm
    rcases holder_step hinv hm with hreleased | ⟨hholds', hlt | heq⟩
    · exact .inl hreleased
    · exact .inr ⟨hholds', .inl hlt⟩
    · exact .inr ⟨hholds', .inr ⟨⟨heq, rfl, fun _ => (hinv (m + 1)).holder_isLooping hholds'⟩,
        fun _ => (hinv m).holder_isLooping hm⟩⟩
  have hable : ∀ m, n ≤ m → (∀ k, m ≤ k → (e.state k).HoldsMutex place ∧
      SystemState.ingestRank place (e.state k) = SystemState.ingestRank place (e.state m) ∧
      SystemThread.client place .reading = .client place .reading) →
      ∃ k, m ≤ k ∧ ∃ s', SystemActs plat (.client place .reading) (e.state k) s' := by
    intro m _ hstays
    rcases (hstays m (Nat.le_refl m)).1 with ⟨o, client, ho, hclient, hingest⟩
    have hobj : SystemInvariant o := hinv m o ho
    rcases hobj.exists_ingestAct hclient hingest with ⟨s', hs'⟩
    rw [← ho] at hs'
    exact ⟨m, Nat.le_refl m, s', hs'⟩
  exact hfair.eventually_of_rank hstep hable (Nat.le_refl n) hholds

/-- Whoever is inside `ingest`, the mutex is unlocked in the end. -/
theorem exists_unlocked (hfair : e.Fair SystemThread.IsLooping)
    (hinv : ∀ n, (e.state n).Invariant) {place : Place} {n : Nat}
    (hholds : (e.state n).HoldsMutex place) : ∃ m, n ≤ m ∧ (e.state m).MutexFree := by
  rcases exists_released hfair hinv hholds with ⟨m, hm, hfree | ⟨_, hreplaced⟩⟩
  · exact ⟨m, hm, hfree⟩
  · rcases exists_released hfair hinv hreplaced with ⟨k, hk, hfree | ⟨hplace, _⟩⟩
    · exact ⟨k, Nat.le_trans hm hk, hfree⟩
    · exact absurd rfl hplace

/-- **The mutex is free again and again**, as long as there is an object. -/
theorem exists_mutexFree (hfair : e.Fair SystemThread.IsLooping)
    (hinv : ∀ n, (e.state n).Invariant) {n : Nat} {o : SystemObject} (ho : e.state n = .loaded o) :
    ∃ m, n ≤ m ∧ (e.state m).MutexFree := by
  cases hlocked : o.feed.m_ingestMutex with
  | false => exact ⟨n, Nat.le_refl n, o, ho, hlocked⟩
  | true =>
    have hobj : SystemInvariant o := hinv n o ho
    rcases hobj.ingest.holder hlocked with ⟨place, client, hclient, hingest⟩
    exact exists_unlocked hfair hinv ⟨o, client, ho, hclient, hingest⟩

/-- A client that waits for the mutex gets it, or is replaced. -/
theorem exists_locked (hfair : e.Fair SystemThread.IsLooping)
    (hinv : ∀ n, (e.state n).Invariant) {place : Place} {n : Nat}
    (hwaits : (e.state n).AtIngest place none) :
    ∃ m, n ≤ m ∧ ((e.state m).AtIngest place none ∧ (e.state (m + 1)).HoldsMutex place ∨
      place ≠ .replaced ∧ (e.state m).AtIngest .replaced none) := by
  -- otherwise the thread waits for ever while the mutex is free again and again
  by_contra hno
  have hnever : ∀ m, n ≤ m → ¬ ((e.state m).AtIngest place none ∧
      (e.state (m + 1)).HoldsMutex place ∨ place ≠ .replaced ∧ (e.state m).AtIngest .replaced none) :=
    fun m hm hgoal => hno ⟨m, hm, hgoal⟩
  have hstep : ∀ m, n ≤ m → (e.state m).AtIngest place none →
      (e.state (m + 1)).AtIngest place none ∧ e.actor m ≠ some (.client place .reading) := by
    intro m hm hat
    rcases atIngest_step hinv hat with ⟨hat' | hreplaced, hactor⟩ | ⟨place', thread, hactor, hacts⟩
    · exact ⟨hat', hactor⟩
    · exact absurd (.inr hreplaced) (hnever (m + 1) (by omega))
    · rcases hat with ⟨o, client, ho, hclient, hat⟩
      have hobj : SystemInvariant o := hinv m o ho
      rw [ho] at hacts
      rcases hobj.waiting_step hacts ⟨o, client, rfl, hclient, hat⟩ with hlocks | ⟨hat', hother⟩
      · exact absurd (.inl ⟨⟨o, client, ho, hclient, hat⟩, hlocks⟩) (hnever m hm)
      · refine ⟨hat', ?_⟩
        rw [hactor]
        rintro ⟨⟩
        exact hother ⟨rfl, rfl⟩
  have halways : ∀ m, n ≤ m → (e.state m).AtIngest place none := by
    intro m hm
    induction m, hm using Nat.le_induction with
    | base => exact hwaits
    | succ m hm ih => exact (hstep m hm ih).1
  have hable : ∀ m, n ≤ m →
      ∃ k, m ≤ k ∧ ∃ s', SystemActs plat (.client place .reading) (e.state k) s' := by
    intro m hm
    rcases halways m hm with ⟨o, _, ho, _⟩
    rcases exists_mutexFree hfair hinv ho with ⟨k, hk, o', ho', hfree⟩
    rcases halways k (Nat.le_trans hm hk) with ⟨o₁, client, ho₁, hclient, hreading, hnone⟩
    rw [ho'] at ho₁
    cases ho₁
    refine ⟨k, hk, ?_⟩
    rw [ho']
    exact ⟨_, .reading hclient (.lock hreading hnone hfree) rfl⟩
  -- a fair execution lets it act, which can only be the lock
  rcases hfair.acts _ n hable with ⟨m, hm, hactor⟩
  exact (hstep m hm (halways m hm)).2 hactor

/-- **No client waits for ever** to hand over a reading, in a fair execution: the mutex of
`ingest` is free again and again as long as there is an object, and whoever waits for it
gets it, at its place or while it is being replaced, and unlocks it again. -/
theorem ingest_not_starved {ls : List SystemLabel}
    (hrun : Run (SystemStep plat) .absent ls (e.state 0)) (hfair : e.Fair SystemThread.IsLooping)
    {place : Place} {n : Nat} (hwaits : (e.state n).AtIngest place none) :
    (∀ i o, e.state i = .loaded o → ∃ k, i ≤ k ∧ (e.state k).MutexFree) ∧
    ∃ m place', n ≤ m ∧ (place' = place ∨ place' = .replaced) ∧
      (e.state m).AtIngest place' none ∧ (e.state (m + 1)).HoldsMutex place' ∧
      ∃ k, m < k ∧ (e.state k).MutexFree := by
  have hinv : ∀ n, (e.state n).Invariant := invariant_always (SystemState.Invariant.of_run hrun)
  have hgets : ∃ m place', n ≤ m ∧ (place' = place ∨ place' = .replaced) ∧
      (e.state m).AtIngest place' none ∧ (e.state (m + 1)).HoldsMutex place' := by
    rcases exists_locked hfair hinv hwaits with ⟨m, hm, ⟨hat, hholds⟩ | ⟨_, hreplaced⟩⟩
    · exact ⟨m, place, hm, .inl rfl, hat, hholds⟩
    · rcases exists_locked hfair hinv hreplaced with ⟨k, hk, ⟨hat, hholds⟩ | ⟨hplace, _⟩⟩
      · exact ⟨k, .replaced, Nat.le_trans hm hk, .inr rfl, hat, hholds⟩
      · exact absurd rfl hplace
  rcases hgets with ⟨m, place', hm, hplace, hat, hholds⟩
  rcases exists_unlocked hfair hinv hholds with ⟨k, hk, hfree⟩
  refine ⟨fun i o ho => exists_mutexFree hfair hinv ho, ?_⟩
  exact ⟨m, place', hm, hplace, hat, hholds, k, by omega, hfree⟩

theorem ingest_not_starved_sample : ∃ (e : SystemExecution samplePlatform) (place : Place),
    (e.state 0).AtIngest place none ∧
      (∀ i o, e.state i = .loaded o → ∃ k, i ≤ k ∧ (e.state k).MutexFree) ∧
      ∃ m place', (place' = place ∨ place' = .replaced) ∧
      (e.state m).AtIngest place' none ∧ (e.state (m + 1)).HoldsMutex place' ∧
      ∃ k, m < k ∧ (e.state k).MutexFree := by
  rcases olderStored_running with ⟨_, m, key, param, entries, hrun⟩
  have hreads := hrun.append reads_run
  rcases (SystemState.Invariant.of_run hreads).exists_fair with ⟨e, hstart, hfair⟩
  have hwaits : (e.state 0).AtIngest (.stored key) none :=
    ⟨_, _, hstart, ExtTreeMap.getElem?_insert_self, rfl, rfl⟩
  rw [← hstart] at hreads
  rcases ingest_not_starved hreads hfair hwaits with
    ⟨hfree, k, place', _, hplace, hat, hholds, hunlocked⟩
  exact ⟨e, .stored key, hwaits, hfree, k, place', hplace, hat, hholds, hunlocked⟩

end Executions

end Iec61850South
