import Iec61850South.Plugin.SystemSafety

/-! # A way to the end of each call of Fledge

`stop` joins the threads of one client after the other, and a reading thread may have
to wait for the mutex of `ingest`, which the reading thread of another client has
locked. The rank of a client that is stopped counts what is left for it, and what is
left for the client that has the mutex.
-/

namespace Iec61850South

open Lib Std

/-- Fledge calls the plugin. -/
def SystemLabel.isCall : SystemLabel → Bool
  | .call _ => true
  | .registerIngest _ _ => true
  | _ => false

/-! ## The mutex is unlocked again -/

/-- Statements left inside `ingest`. -/
def IngestPc.rank : IngestPc → Nat
  | .test => 6
  | .loadCallback => 5
  | .loadData _ => 4
  | .call _ _ => 3
  | .calling => 2
  | .unlock => 1

/-- A client inside `ingest` goes on, or leaves it. -/
theorem exists_ingestStep (f : Feed) {client : ClientObject} {pc : IngestPc}
    (hpc : client.ingest = some pc) (hreading : client.threads.reading = some .ingest) :
    ∃ l f' client', BackgroundStep f client l f' client' ∧ l.isCall = false ∧
      (f' = f ∧ (∃ pc', client' = { client with ingest := some pc' } ∧ pc'.rank < pc.rank) ∨
        f' = { f with m_ingestMutex := false } ∧
          client' = { client with
            threads := { client.threads with reading := some .sleep }, ingest := none }) := by
  cases pc with
  | test =>
    cases hcallback : f.m_ingest_callback.isSome with
    | true => exact ⟨_, _, _, .registered hpc hcallback, rfl, .inl ⟨rfl, _, rfl, by decide⟩⟩
    | false => exact ⟨_, _, _, .notRegistered hpc hcallback, rfl, .inl ⟨rfl, _, rfl, by decide⟩⟩
  | loadCallback => exact ⟨_, _, _, .loadCallback hpc, rfl, .inl ⟨rfl, _, rfl, (by decide : 4 < 5)⟩⟩
  | loadData callback =>
    exact ⟨_, _, _, .loadData hpc, rfl, .inl ⟨rfl, _, rfl, (by decide : 3 < 4)⟩⟩
  | call callback data =>
    exact ⟨_, _, _, .call hpc, rfl, .inl ⟨rfl, _, rfl, (by decide : 2 < 3)⟩⟩
  | calling => exact ⟨_, _, _, .callReturns hpc, rfl, .inl ⟨rfl, _, rfl, by decide⟩⟩
  | unlock => exact ⟨_, _, _, .unlock hpc hreading .sentLast, rfl, .inr ⟨rfl, rfl⟩⟩

/-- What is left until the client at `place` can lock the mutex, or unlocks it. -/
inductive SystemObject.MutexRank (o : SystemObject) (place : Place) : Nat → Prop
  | free : o.feed.m_ingestMutex = false → o.MutexRank place 7
  | own {client : ClientObject} {pc : IngestPc} : o.clientAt place = some client →
      client.ingest = some pc → o.MutexRank place pc.rank
  | other {client : ClientObject} {pc : IngestPc} {at_ : Place} : at_ ≠ place →
      o.clientAt at_ = some client → client.ingest = some pc → o.MutexRank place (7 + pc.rank)

/-- Inside `ingest` there is always one left, the unlock. -/
theorem IngestPc.rank_pos (pc : IngestPc) : 1 ≤ pc.rank := by
  cases pc <;> simp [rank]

/-- Whoever waits for the mutex is a certain number of statements away from it. -/
theorem SystemInvariant.exists_mutexRank {o : SystemObject} (h : SystemInvariant o)
    (place : Place) : ∃ k, o.MutexRank place k := by
  cases hlocked : o.feed.m_ingestMutex with
  | false => exact ⟨7, .free hlocked⟩
  | true =>
    rcases h.ingest.holder hlocked with ⟨at_, client, hclient, hingest⟩
    rcases Option.isSome_iff_exists.mp hingest with ⟨pc, hpc⟩
    by_cases hplace : at_ = place
    · subst hplace
      exact ⟨_, .own hclient hpc⟩
    · exact ⟨_, .other hplace hclient hpc⟩

/-! ## A client that is stopped -/

/-- The thread of Fledge executes `stop`, or the destructor, of the client at a place. -/
inductive SystemPc.Stops : SystemPc → Place → Prop
  | inStop {caller : StopCaller} {key : String} {keys : List String} :
      Stops (.inStop caller key keys) (.stored key)
  | inClear {caller : StopCaller} {key : String} : Stops (.inClear caller key) (.stored key)
  | inReplace {key : String} {old : ClientObject}
      {entries : List (String × ServerConnectionParameters)} :
      Stops (.inReplace key old entries) .replaced

section Stops

variable {o : SystemObject} {place : Place} {client : ClientObject}

/-- The client that is being stopped stands inside its `stop`. -/
theorem SystemInvariant.stops (h : SystemInvariant o) (hstops : o.pc.Stops place)
    (hclient : o.clientAt place = some client) :
    (∃ destructor pc, client.threads.control = .stop destructor pc) ∧
      client.threads.Coherent false ∧ StopOrdered client.threads := by
  have hholds : (o.pc.statusAt place).Holds client.threads := h.threads place client hclient
  generalize o.pc = pc at hstops hholds
  cases hstops with
  | inStop =>
    rw [SystemPc.statusAt, if_pos rfl] at hholds
    exact ⟨⟨_, hholds.1⟩, hholds.2⟩
  | inClear =>
    rw [SystemPc.statusAt, if_pos rfl] at hholds
    exact ⟨⟨_, hholds.1⟩, hholds.2.1.1, hholds.2.2⟩
  | inReplace => exact ⟨⟨_, hholds.1⟩, hholds.2⟩

/-- A statement of `stop`. -/
theorem SystemPc.Stops.control (plat : Platform) (hstops : o.pc.Stops place)
    (hclient : o.clientAt place = some client) {client' : ClientObject}
    (hstep : client.Controlled .internal client') :
    SystemStep plat (.loaded o) .internal (.loaded (o.setClient client' place)) := by
  rcases o with ⟨c, m, f, pc⟩
  cases hstops with
  | inStop => exact .stopClient hclient hstep
  | inClear => exact .destroyClient hclient hstep
  | inReplace =>
    cases hclient
    exact .destroyOld hstep

/-- What is left until `stop` returns. The mutex may be waited for before each of its
statements. -/
def SystemObject.StopRank (o : SystemObject) (place : Place) (n : Nat) : Prop :=
  ∃ client destructor pc k, o.clientAt place = some client ∧
    client.threads.control = .stop destructor pc ∧ o.MutexRank place k ∧
    n = 16 * client.threads.stopRank pc + k

/-- A step of the plugin that changes the client at `at_` only. -/
def SystemObject.Turns (plat : Platform) (o o' : SystemObject) (l : SystemLabel) : Prop :=
  SystemStep plat (.loaded o) l (.loaded o') ∧ l.isCall = false ∧
    ∃ at_ client client' f', o.clientAt at_ = some client ∧
      o' = { o.setClient client' at_ with feed := f' }

/-- A thread of a client may take the next turn. -/
theorem turns_background {plat : Platform} {client' : ClientObject} {f' : Feed} {l : SystemLabel}
    (hclient : o.clientAt place = some client) (hstep : BackgroundStep o.feed client l f' client')
    (hl : l.isCall = false) :
    o.Turns plat { o.setClient client' place with feed := f' } l :=
  ⟨.background hclient hstep, hl, place, client, client', f', hclient, rfl⟩

/-- A client that changes leaves `m_ingest` and its mutex alone. -/
theorem feed_setClient (client' : ClientObject) : (o.setClient client' place).feed = o.feed := by
  cases place with
  | stored key => rfl
  | replaced =>
    rcases o with ⟨c, m, f, pc⟩
    cases pc <;> rfl

/-- The thread of Fledge may take the next turn, inside a client. -/
theorem turns_control (plat : Platform) (hstops : o.pc.Stops place)
    (hclient : o.clientAt place = some client) {client' : ClientObject}
    (hstep : client.Controlled .internal client') :
    o.Turns plat (o.setClient client' place) .internal := by
  refine ⟨hstops.control plat hclient hstep, rfl, place, client, client', o.feed, hclient, ?_⟩
  have hfeed : (o.setClient client' place).feed = o.feed := feed_setClient client'
  rw [← hfeed]

/-- The rank of the client after its place has been written. -/
theorem stopRank_self {client' : ClientObject} {f' : Feed} {destructor : Bool} {pc : StopPc} {k : Nat}
    (hclient : o.clientAt place = some client)
    (hpc : client'.threads.control = .stop destructor pc)
    (hk : SystemObject.MutexRank { o.setClient client' place with feed := f' } place k) :
    SystemObject.StopRank { o.setClient client' place with feed := f' } place
      (16 * client'.threads.stopRank pc + k) :=
  ⟨client', destructor, pc, k, clientAt_setClient_self hclient client', hpc, hk, rfl⟩

/-- A reading that has been sent. -/
theorem stopRank_sent {t : ClientThreads} (hreading : t.reading = some .ingest) (pc : StopPc) :
    ({ t with reading := some .sleep } : ClientThreads).stopRank pc < t.stopRank pc := by
  unfold ClientThreads.stopRank threadsRank
  rw [hreading]
  show pc.rank + (t.launch.elim 0 LaunchPc.rank + 2) < pc.rank + (t.launch.elim 0 LaunchPc.rank + 3)
  omega

/-- While another client has the mutex, that one goes on. -/
theorem SystemInvariant.exists_otherStep (plat : Platform) (h : SystemInvariant o)
    {destructor : Bool} {pc : StopPc} (hclient : o.clientAt place = some client)
    (hpc : client.threads.control = .stop destructor pc) {at_ : Place} (hne : at_ ≠ place)
    {holder : ClientObject} {ingest : IngestPc} (hholder : o.clientAt at_ = some holder)
    (hingest : holder.ingest = some ingest) :
    ∃ l o' n', o.Turns plat o' l ∧
      n' < 16 * client.threads.stopRank pc + (7 + ingest.rank) ∧ o'.StopRank place n' := by
  have hreading : holder.threads.reading = some .ingest :=
    h.ingest.reading at_ holder hholder (by rw [hingest]; rfl)
  rcases exists_ingestStep o.feed hingest hreading with ⟨l, f', holder', hstep, hl, hleft⟩
  have hsame : (o.setClient holder' at_).clientAt place = some client :=
    (clientAt_setClient_other hne.symm holder').trans hclient
  refine ⟨l, { o.setClient holder' at_ with feed := f' }, ?_⟩
  rcases hleft with ⟨_, ingest', hholder', hlt⟩ | ⟨hunlocked, _⟩
  · refine ⟨16 * client.threads.stopRank pc + (7 + ingest'.rank),
      turns_background hholder hstep hl, by omega, client, destructor, pc, _, hsame, hpc, ?_, rfl⟩
    exact .other hne (clientAt_setClient_self hholder holder') (by rw [hholder'])
  · refine ⟨16 * client.threads.stopRank pc + 7, turns_background hholder hstep hl, ?_, client,
      destructor, pc, _, hsame, hpc, .free (by rw [hunlocked]), rfl⟩
    have hpos : 1 ≤ ingest.rank := ingest.rank_pos
    omega

/-- While the client has the mutex itself, its reading thread goes on. -/
theorem SystemInvariant.exists_ownStep (plat : Platform) (h : SystemInvariant o)
    {destructor : Bool} {pc : StopPc} (hclient : o.clientAt place = some client)
    (hpc : client.threads.control = .stop destructor pc) {ingest : IngestPc}
    (hingest : client.ingest = some ingest) :
    ∃ l o' n', o.Turns plat o' l ∧
      n' < 16 * client.threads.stopRank pc + ingest.rank ∧ o'.StopRank place n' := by
  have hreading : client.threads.reading = some .ingest :=
    h.ingest.reading place client hclient (by rw [hingest]; rfl)
  rcases exists_ingestStep o.feed hingest hreading with ⟨l, f', client', hstep, hl, hleft⟩
  refine ⟨l, { o.setClient client' place with feed := f' }, ?_⟩
  rcases hleft with ⟨_, ingest', rfl, hlt⟩ | ⟨hunlocked, rfl⟩
  · refine ⟨_, turns_background hclient hstep hl, ?_,
      stopRank_self hclient hpc (.own (clientAt_setClient_self hclient _) rfl)⟩
    show 16 * client.threads.stopRank pc + ingest'.rank < _
    omega
  · have hlower : ∀ {r r' : Nat}, r' < r → 16 * r' + 7 < 16 * r + ingest.rank := by
      intro r r' hlt
      omega
    exact ⟨_, turns_background hclient hstep hl, hlower (stopRank_sent hreading pc),
      stopRank_self hclient hpc (.free (by rw [hunlocked]))⟩

/-- `stop` of a client returns, or some thread takes it closer to its end. -/
theorem SystemInvariant.exists_stopStep (plat : Platform) (h : SystemInvariant o)
    (hstops : o.pc.Stops place) {n : Nat} (hrank : o.StopRank place n) :
    (∃ client client', o.clientAt place = some client ∧ client.Controlled .stopReturns client') ∨
      ∃ l o' n', o.Turns plat o' l ∧ n' < n ∧ o'.StopRank place n' := by
  rcases hrank with ⟨client, destructor, pc, k, hclient, hpc, hk, rfl⟩
  rcases h.stops hstops hclient with ⟨_, hcoherent, hordered⟩
  -- who holds the mutex decides: another client goes on, this one goes on, or `stop` does
  cases hk with
  | other hne hholder hingest =>
    exact .inr (h.exists_otherStep plat hclient hpc hne hholder hingest)
  | own hclient₁ hingest =>
    rw [hclient, Option.some.injEq] at hclient₁
    subst hclient₁
    exact .inr (h.exists_ownStep plat hclient hpc hingest)
  | free hfree =>
    -- with the mutex free nothing is in the way of the threads of the client
    rcases hcoherent.exists_stopStep hordered hpc with ⟨t', hreturns⟩ |
      ⟨l, t', pc', hstep, hl, hpc', hlt⟩
    · left
      cases hreturns with
      | control hreturns => exact ⟨client, _, hclient, t', hreturns, rfl⟩
      | reading _ hreading => cases hreading
    · right
      cases hstep with
      | control hstep =>
        rcases hl with rfl | rfl
        · refine ⟨.internal, o.setClient { client with threads := t' } place,
            16 * t'.stopRank pc' + 7, turns_control plat hstops hclient ⟨t', hstep, rfl⟩,
            by omega, _, destructor, pc', _, clientAt_setClient_self hclient _, hpc', ?_, rfl⟩
          exact .free (by rw [feed_setClient, hfree])
        · generalize client.threads.control = at_ at hstep
          cases hstep
      | launch hlaunch hstep =>
        refine ⟨.internal, _, _, turns_background hclient (.launch hlaunch hstep) rfl, ?_,
          stopRank_self hclient hpc' (.free hfree)⟩
        exact Nat.add_lt_add_right (Nat.mul_lt_mul_of_pos_left hlt (by decide)) 7
      | reading hreading hstep =>
        rcases hl with rfl | rfl
        · refine ⟨.internal, _, _, turns_background hclient (.reading hreading hstep) rfl, ?_,
            stopRank_self hclient hpc' (.free hfree)⟩
          exact Nat.add_lt_add_right (Nat.mul_lt_mul_of_pos_left hlt (by decide)) 7
        · -- the reading is sent under the mutex
          have hingest : client.threads.reading = some .ingest := by
            rw [hreading]
            cases hstep <;> rfl
          have hnone : client.ingest = none := by
            cases hsome : client.ingest with
            | none => rfl
            | some ingest =>
              have hheld := h.ingest.held place client hclient (by rw [hsome]; rfl)
              rw [hfree] at hheld
              cases hheld
          refine ⟨.internal, _, _, turns_background hclient (.lock hingest hnone hfree) rfl, ?_,
            stopRank_self hclient hpc (.own (clientAt_setClient_self hclient _) rfl)⟩
          exact Nat.add_lt_add_left (show 6 < 7 by decide) _

/-- What the turns of the threads keep holds when the client is about to leave `stop`. -/
theorem SystemInvariant.exists_stopped (plat : Platform) (h : SystemInvariant o)
    {P : SystemObject → Prop} (hP : P o) (hstops : ∀ o, P o → o.pc.Stops place)
    (hkept : ∀ o at_ client client' f', P o → SystemObject.clientAt o at_ = some client →
      P { o.setClient client' at_ with feed := f' })
    (hclient : o.clientAt place = some client) :
    ∃ ls o' client client', Run (SystemStep plat) (.loaded o) ls (.loaded o') ∧
      (∀ l ∈ ls, l.isCall = false) ∧ SystemInvariant o' ∧ P o' ∧
      o'.clientAt place = some client ∧ client.Controlled .stopReturns client' := by
  have hstep : ∀ (s : SystemState) (n : Nat),
      (∃ o, s = .loaded o ∧ SystemInvariant o ∧ P o ∧ o.StopRank place n) →
      (∃ o client client', s = .loaded o ∧ SystemInvariant o ∧ P o ∧
        o.clientAt place = some client ∧ client.Controlled .stopReturns client') ∨
        ∃ l s' n', SystemStep plat s l s' ∧ l.isCall = false ∧ n' < n ∧
          ∃ o, s' = .loaded o ∧ SystemInvariant o ∧ P o ∧ o.StopRank place n' := by
    rintro _ n ⟨o, rfl, h, hP, hrank⟩
    rcases h.exists_stopStep plat (hstops o hP) hrank with ⟨client, client', hclient, hreturns⟩ |
      ⟨l, o', n', ⟨hstep, hl, at_, client, client', f', hclient, rfl⟩, hlt, hrank'⟩
    · exact .inl ⟨o, client, client', rfl, h, hP, hclient, hreturns⟩
    · exact .inr ⟨l, _, n', hstep, hl, hlt, _, rfl, h.step hstep,
        hkept o at_ client client' f' hP hclient, hrank'⟩
  rcases h.stops (hstops o hP) hclient with ⟨⟨destructor, pc, hpc⟩, _, _⟩
  rcases h.exists_mutexRank place with ⟨k, hk⟩
  rcases Run.exists_of_rank hstep _ (.loaded o)
      ⟨o, rfl, h, hP, client, destructor, pc, k, hclient, hpc, hk, rfl⟩ with
    ⟨ls, _, hrun, hls, _, o', client₁, client', rfl, hend⟩
  exact ⟨ls, o', client₁, client', hrun, hls, hend⟩

end Stops

/-! ## A call of Fledge ends -/

/-- No call of Fledge is under way, and the process has not been aborted by one. -/
def SystemState.Idle : SystemState → Prop
  | .absent => True
  | .loaded o => o.pc = .idle
  | .aborted => False

/-- No call of Fledge is under way any more: it has returned, or it has aborted the process. -/
def SystemState.Ended (s : SystemState) : Prop :=
  s.Idle ∨ s = .aborted

/-- The call that is under way can end. -/
def SystemState.CanEnd (plat : Platform) (s : SystemState) : Prop :=
  ∃ ls s', Run (SystemStep plat) s ls s' ∧ (∀ l ∈ ls, l.isCall = false) ∧ s'.Ended

section Returns

variable {plat : Platform} {c : IEC61850ClientConfig} {m : ClientObjects} {f : Feed}

/-- What can end from a state reached without a new call can end from the start. -/
theorem canEnd_of_run {s s' : SystemState} {ls : List SystemLabel}
    (hrun : Run (SystemStep plat) s ls s') (hls : ∀ l ∈ ls, l.isCall = false)
    (h : s'.CanEnd plat) : s.CanEnd plat := by
  rcases h with ⟨ls', s'', hrun', hls', hend⟩
  refine ⟨ls ++ ls', s'', hrun.append hrun', ?_, hend⟩
  intro l hl
  rcases List.mem_append.mp hl with hl | hl
  · exact hls l hl
  · exact hls' l hl

/-- The same for one step. -/
theorem canEnd_of_step {s s' : SystemState} {l : SystemLabel} (hstep : SystemStep plat s l s')
    (hl : l.isCall = false) (h : s'.CanEnd plat) : s.CanEnd plat :=
  canEnd_of_run (.cons hstep (.nil _)) (by simpa using hl) h

/-- No call is under way any more. -/
theorem canEnd_of_idle {s : SystemState} (h : s.Idle) : s.CanEnd plat :=
  ⟨[], s, .nil s, by simp, .inl h⟩

/-- The process has been aborted. -/
theorem canEnd_aborted : SystemState.aborted.CanEnd plat :=
  ⟨[], _, .nil _, by simp, .inr rfl⟩

/-- The client of a key that the plugin has. -/
theorem exists_client {key : String} (h : key ∈ m) : ∃ client, m[key]? = some client :=
  mem_iff_exists.mp h

/-- A map that is not empty has an entry. -/
theorem exists_client_of_ne (h : m ≠ ∅) : ∃ (key : String) (client : ClientObject),
    m[key]? = some client := by
  by_contra hnone
  refine h (ExtTreeMap.eq_empty_iff_forall_not_mem.mpr fun key hkey => ?_)
  rcases exists_client hkey with ⟨client, hclient⟩
  exact hnone ⟨key, client, hclient⟩

/-! ### The statements of a client that the thread of Fledge executes -/

section Controlled

variable {client : ClientObject}

/-- `start` can be called on an idle client. -/
theorem controlled_callStart (h : client.threads.control = .idle) :
    client.Controlled .callStart { client with
      threads := { client.threads with control := .start .spawn } } := by
  refine ⟨_, ?_, rfl⟩
  rw [h]
  exact .callStart

/-- `start` can create the launch thread. -/
theorem controlled_spawn (h : client.threads.control = .start .spawn) :
    client.Controlled .internal { client with
      threads := { client.threads with
        control := .start .assign, launch := some (.initializing (.destroy .test)) } } := by
  refine ⟨_, ?_, rfl⟩
  rw [h]
  exact .spawn

/-- `start` can store its handle and return. -/
theorem controlled_assign (h : client.threads.control = .start .assign) :
    client.Controlled .internal { client with
      threads := { client.threads with
        control := .idle
        memory := { client.threads.memory with m_backgroundLaunchThread := true } } } := by
  refine ⟨_, ?_, rfl⟩
  rw [h]
  exact .assign

/-- `stop` can be called on an idle client. -/
theorem controlled_callStop (h : client.threads.control = .idle) :
    client.Controlled .callStop { client with
      threads := { client.threads with control := .stop false .setStopOrder } } := by
  refine ⟨_, ?_, rfl⟩
  rw [h]
  exact .callStop

/-- An idle client can be destroyed. -/
theorem controlled_callDestructor (h : client.threads.control = .idle) :
    client.Controlled .callDestructor { client with
      threads := { client.threads with control := .stop true .setStopOrder } } := by
  refine ⟨_, ?_, rfl⟩
  rw [h]
  exact .callDestructor

end Controlled

/-! ### `start` -/

/-- All that is left of `start` for one client. -/
def StartingReturns (plat : Platform)
    (entries : List (String × ServerConnectionParameters)) : Prop :=
  ∀ c m f, SystemInvariant ⟨c, m, f, .starting entries⟩ →
    (SystemState.loaded ⟨c, m, f, .starting entries⟩).CanEnd plat

/-- After the two statements of `start`, the next client is created. -/
theorem inStart_canEnd {key : String} {entries : List (String × ServerConnectionParameters)}
    (hentries : StartingReturns plat entries)
    (h : SystemInvariant ⟨c, m, f, .inStart key entries⟩) :
    (SystemState.loaded ⟨c, m, f, .inStart key entries⟩).CanEnd plat := by
  -- the last statement of `start`
  have hassign : ∀ (m : ClientObjects) (client : ClientObject),
      SystemInvariant ⟨c, m, f, .inStart key entries⟩ → m[key]? = some client →
      client.threads.control = .start .assign →
      (SystemState.loaded ⟨c, m, f, .inStart key entries⟩).CanEnd plat := by
    intro m client h hclient hcontrol
    have hgo : SystemStep plat (.loaded ⟨c, m, f, .inStart key entries⟩) .internal _ :=
      .clientStarted hclient (controlled_assign hcontrol) rfl
    exact canEnd_of_step hgo rfl (hentries _ _ _ (h.step hgo))
  rcases exists_client h.pc with ⟨client, hclient⟩
  have hstatus : (SystemPc.statusAt (.inStart key entries) (.stored key)).Holds client.threads :=
    h.threads (.stored key) client hclient
  rw [SystemPc.statusAt, if_pos rfl] at hstatus
  rcases hstatus with ⟨⟨pc, hpc⟩, _⟩
  cases pc with
  | assign => exact hassign m client h hclient hpc
  | spawn =>
    have hgo : SystemStep plat (.loaded ⟨c, m, f, .inStart key entries⟩) .internal _ :=
      .startClient hclient (controlled_spawn hpc) (by simp)
    exact canEnd_of_step hgo rfl
      (hassign _ _ (h.step hgo) ExtTreeMap.getElem?_insert_self rfl)

/-- The created client is started. -/
theorem launching_canEnd {key : String} {entries : List (String × ServerConnectionParameters)}
    (hentries : StartingReturns plat entries)
    (h : SystemInvariant ⟨c, m, f, .launching key entries⟩) :
    (SystemState.loaded ⟨c, m, f, .launching key entries⟩).CanEnd plat := by
  rcases exists_client h.pc with ⟨client, hclient⟩
  have hstatus : (SystemPc.statusAt (.launching key entries) (.stored key)).Holds client.threads :=
    h.threads (.stored key) client hclient
  rw [SystemPc.statusAt, if_pos rfl] at hstatus
  have hgo : SystemStep plat (.loaded ⟨c, m, f, .launching key entries⟩) .internal _ :=
    .callStart hclient (controlled_callStart hstatus.1)
  exact canEnd_of_step hgo rfl (inStart_canEnd hentries (h.step hgo))

/-- The replaced client is destroyed, and then the new one is started. -/
theorem inReplace_canEnd {key : String} {old : ClientObject}
    {entries : List (String × ServerConnectionParameters)}
    (hentries : StartingReturns plat entries)
    (h : SystemInvariant ⟨c, m, f, .inReplace key old entries⟩) :
    (SystemState.loaded ⟨c, m, f, .inReplace key old entries⟩).CanEnd plat := by
  have hstops : ∀ o : SystemObject, (∃ old, o.pc = .inReplace key old entries) →
      o.pc.Stops .replaced := by
    rintro o ⟨old, hpc⟩
    rw [hpc]
    exact .inReplace
  have hkept : ∀ (o : SystemObject) at_ client client' f', (∃ old, o.pc = .inReplace key old entries) →
      o.clientAt at_ = some client →
      ∃ old, SystemObject.pc { o.setClient client' at_ with feed := f' } =
        .inReplace key old entries := by
    rintro ⟨c, m, f, _⟩ at_ client client' f' ⟨old, rfl⟩ _
    cases at_ with
    | stored key => exact ⟨old, rfl⟩
    | replaced => exact ⟨client', rfl⟩
  rcases h.exists_stopped plat ⟨old, rfl⟩ hstops hkept rfl with
    ⟨ls, ⟨c', m', f', _⟩, client, client', hrun, hls, hinv, ⟨old', rfl⟩, hclient, hreturns⟩
  cases hclient
  have hgo : SystemStep plat (.loaded ⟨c', m', f', .inReplace key client entries⟩) .internal _ :=
    .oldDestroyed hreturns
  exact canEnd_of_run hrun hls <|
    canEnd_of_step hgo rfl (launching_canEnd hentries (hinv.step hgo))

/-- The client under the same key is destroyed first, when there is one. -/
theorem replacing_canEnd {key : String} {old : ClientObject}
    {entries : List (String × ServerConnectionParameters)}
    (hentries : StartingReturns plat entries)
    (h : SystemInvariant ⟨c, m, f, .replacing key old entries⟩) :
    (SystemState.loaded ⟨c, m, f, .replacing key old entries⟩).CanEnd plat := by
  have hstatus : Status.serving.Holds old.threads := h.threads .replaced old rfl
  have hgo : SystemStep plat (.loaded ⟨c, m, f, .replacing key old entries⟩) .internal _ :=
    .callOldDestructor (controlled_callDestructor hstatus.1)
  exact canEnd_of_step hgo rfl (inReplace_canEnd hentries (h.step hgo))

/-- By induction on the connections that are left. -/
theorem starting_canEnd (plat : Platform)
    (entries : List (String × ServerConnectionParameters)) : StartingReturns plat entries := by
  induction entries with
  | nil =>
    intro c m f h
    exact canEnd_of_step .startReturns rfl (canEnd_of_idle rfl)
  | cons entry entries ih =>
    rcases entry with ⟨key, param⟩
    intro c m f h
    cases hkey : m[key]? with
    | none =>
      have hgo : SystemStep plat (.loaded ⟨c, m, f, .starting ((key, param) :: entries)⟩)
          .internal _ := .create hkey
      exact canEnd_of_step hgo rfl (launching_canEnd ih (h.step hgo))
    | some old =>
      have hgo : SystemStep plat (.loaded ⟨c, m, f, .starting ((key, param) :: entries)⟩)
          .internal _ := .replace hkey
      exact canEnd_of_step hgo rfl (replacing_canEnd ih (h.step hgo))

/-! ### `importConfig` -/

/-- The import assigns what it has read, up to its exception. -/
theorem importing_canEnd {caller : ImportCaller} {assignments : List Assignment}
    {defect : Option ImportStop} (h : SystemInvariant ⟨c, m, f, .importing caller assignments defect⟩) :
    (SystemState.loaded ⟨c, m, f, .importing caller assignments defect⟩).CanEnd plat := by
  induction assignments generalizing c with
  | cons a assignments ih =>
    have hgo : SystemStep plat (.loaded ⟨c, m, f, .importing caller (a :: assignments) defect⟩)
        .internal _ := .assign
    exact canEnd_of_step hgo rfl (ih (h.step hgo))
  | nil =>
    cases defect with
    | none =>
      cases caller with
      | init => exact canEnd_of_step .initReturns rfl (canEnd_of_idle rfl)
      | reconfigure =>
        have hgo : SystemStep plat (.loaded ⟨c, m, f, .importing .reconfigure [] none⟩)
            .internal _ := .imported
        exact canEnd_of_step hgo rfl (starting_canEnd plat _ _ _ _ (h.step hgo))
    | some stop =>
      cases stop with
      | assertion accessor => exact canEnd_of_step .assertionFails rfl canEnd_aborted
      | configurationException msg =>
        cases caller with
        | init => exact canEnd_of_step .initThrows rfl (canEnd_of_idle trivial)
        | reconfigure => exact canEnd_of_step .reconfigureThrows rfl (canEnd_of_idle rfl)

/-! ### `stop` -/

/-- Under a key that is there, an insertion adds nothing. -/
theorem size_insert_same {key : String} {client : ClientObject} (hclient : m[key]? = some client)
    (client' : ClientObject) : (m.insert key client').size = m.size := by
  have hmem : key ∈ m := mem_iff_exists.mpr ⟨client, hclient⟩
  rw [ExtTreeMap.size_insert, if_pos (ExtTreeMap.contains_iff_mem.mpr hmem)]

/-- A client that changes leaves the number of clients. -/
theorem size_setClient {o : SystemObject} {at_ : Place} {client : ClientObject}
    (hclient : o.clientAt at_ = some client) (client' : ClientObject) :
    (o.setClient client' at_).m_clients.size = o.m_clients.size := by
  rcases o with ⟨c, m, f, pc⟩
  cases at_ with
  | stored key => exact size_insert_same hclient client'
  | replaced => cases pc <;> rfl

/-- A client in the map that changes leaves the thread of Fledge. -/
theorem pc_setClient {o : SystemObject} (hnone : o.clientAt .replaced = none)
    (client' : ClientObject) (at_ : Place) : (o.setClient client' at_).pc = o.pc := by
  rcases o with ⟨c, m, f, pc⟩
  cases at_ with
  | stored key => rfl
  | replaced =>
    cases pc with
    | replacing key old entries => cases hnone
    | inReplace key old entries => cases hnone
    | _ => rfl

/-- All that is left of `m_clients.clear()` for some clients. -/
def ClearingReturns (plat : Platform) (caller : StopCaller) (n : Nat) : Prop :=
  ∀ c m f, ExtTreeMap.size m = n → SystemInvariant ⟨c, m, f, .clearing caller⟩ →
    (SystemState.loaded ⟨c, m, f, .clearing caller⟩).CanEnd plat

/-- After the destructor of one client, the others are cleared. -/
theorem inClear_canEnd {caller : StopCaller} {key : String} {n : Nat}
    (hclearing : ClearingReturns plat caller n) (hsize : m.size = n + 1)
    (h : SystemInvariant ⟨c, m, f, .inClear caller key⟩) :
    (SystemState.loaded ⟨c, m, f, .inClear caller key⟩).CanEnd plat := by
  have hstops : ∀ o : SystemObject, o.pc = .inClear caller key ∧ o.m_clients.size = n + 1 →
      o.pc.Stops (.stored key) := by
    rintro o ⟨hpc, _⟩
    rw [hpc]
    exact .inClear
  have hkept : ∀ (o : SystemObject) at_ client client' f',
      o.pc = .inClear caller key ∧ o.m_clients.size = n + 1 → o.clientAt at_ = some client →
      SystemObject.pc { o.setClient client' at_ with feed := f' } = .inClear caller key ∧
        (SystemObject.m_clients { o.setClient client' at_ with feed := f' }).size = n + 1 := by
    rintro ⟨c, m, f, _⟩ at_ client client' f' ⟨rfl, hsize⟩ hclient
    exact ⟨pc_setClient rfl client' at_, (size_setClient hclient client').trans hsize⟩
  rcases exists_client h.pc with ⟨client, hclient⟩
  rcases h.exists_stopped plat ⟨rfl, hsize⟩ hstops hkept hclient with
    ⟨ls, ⟨c', m', f', _⟩, client, client', hrun, hls, hinv, ⟨rfl, hsize'⟩, hclient, hreturns⟩
  have hgo : SystemStep plat (.loaded ⟨c', m', f', .inClear caller key⟩) .internal _ :=
    .clientDestroyed hclient hreturns
  have herased : (m'.erase key).size = n := by
    have hsize' : m'.size = n + 1 := hsize'
    rw [ExtTreeMap.size_erase, if_pos (ExtTreeMap.contains_iff_mem.mpr hinv.pc), hsize']
    rfl
  exact canEnd_of_run hrun hls <|
    canEnd_of_step hgo rfl (hclearing _ _ _ herased (hinv.step hgo))

/-- By induction on the number of clients that are left. -/
theorem clearing_canEnd (plat : Platform) (caller : StopCaller) (n : Nat) :
    ClearingReturns plat caller n := by
  induction n with
  | zero =>
    intro c m f hsize h
    have hempty : m = ∅ := ExtTreeMap.eq_empty_iff_size_eq_zero.mpr hsize
    cases caller with
    | stop => exact canEnd_of_step (.stopReturns hempty) rfl (canEnd_of_idle rfl)
    | reconfigure newConfig =>
      have hgo : SystemStep plat (.loaded ⟨c, m, f, .clearing (.reconfigure newConfig)⟩)
          .stopReturns _ := .stopReturnsToReconfigure plat.uninit hempty
      exact canEnd_of_step hgo rfl (importing_canEnd (h.step hgo))
    | shutdown =>
      exact canEnd_of_step (.stopReturnsToShutdown hempty) rfl (canEnd_of_idle trivial)
  | succ n ih =>
    intro c m f hsize h
    have hne : m ≠ ∅ := by
      rintro rfl
      cases hsize
    rcases exists_client_of_ne hne with ⟨key, client, hclient⟩
    have hkey : key ∈ m := mem_iff_exists.mpr ⟨client, hclient⟩
    have hstatus : Status.halted.Holds client.threads := h.threads (.stored key) client hclient
    have hgo : SystemStep plat (.loaded ⟨c, m, f, .clearing caller⟩) .internal _ :=
      .callDestructor hclient (controlled_callDestructor hstatus.1)
    have hsize' : (m.insert key { client with
        threads := { client.threads with control := .stop true .setStopOrder } }).size = n + 1 := by
      rw [ExtTreeMap.size_insert, if_pos (ExtTreeMap.contains_iff_mem.mpr hkey), hsize]
    exact canEnd_of_step hgo rfl (inClear_canEnd ih hsize' (h.step hgo))

/-- All that is left of the loop of `stop`. -/
def StoppingReturns (plat : Platform) (caller : StopCaller) (keys : List String) : Prop :=
  ∀ c m f, SystemInvariant ⟨c, m, f, .stopping caller keys⟩ →
    (SystemState.loaded ⟨c, m, f, .stopping caller keys⟩).CanEnd plat

/-- After `stop` of one client, the others are stopped. -/
theorem inStop_canEnd {caller : StopCaller} {key : String} {keys : List String}
    (hkeys : StoppingReturns plat caller keys)
    (h : SystemInvariant ⟨c, m, f, .inStop caller key keys⟩) :
    (SystemState.loaded ⟨c, m, f, .inStop caller key keys⟩).CanEnd plat := by
  have hstops : ∀ o : SystemObject, o.pc = .inStop caller key keys →
      o.pc.Stops (.stored key) := by
    intro o hpc
    rw [hpc]
    exact .inStop
  have hkept : ∀ (o : SystemObject) at_ client client' f', o.pc = .inStop caller key keys →
      o.clientAt at_ = some client →
      SystemObject.pc { o.setClient client' at_ with feed := f' } = .inStop caller key keys := by
    rintro ⟨c, m, f, _⟩ at_ client client' f' rfl _
    exact pc_setClient rfl client' at_
  rcases exists_client (h.pc.2 key (List.mem_cons_self ..)) with ⟨client, hclient⟩
  have hpc : SystemObject.pc ⟨c, m, f, .inStop caller key keys⟩ = .inStop caller key keys := rfl
  rcases h.exists_stopped plat hpc hstops hkept hclient with
    ⟨ls, ⟨c', m', f', _⟩, client, client', hrun, hls, hinv, rfl, hclient, hreturns⟩
  have hgo : SystemStep plat (.loaded ⟨c', m', f', .inStop caller key keys⟩) .internal _ :=
    .clientStopped hclient hreturns
  exact canEnd_of_run hrun hls <| canEnd_of_step hgo rfl (hkeys _ _ _ (hinv.step hgo))

/-- By induction on the keys that are left. -/
theorem stopping_canEnd (plat : Platform) (caller : StopCaller) (keys : List String) :
    StoppingReturns plat caller keys := by
  induction keys with
  | nil =>
    intro c m f h
    have hgo : SystemStep plat (.loaded ⟨c, m, f, .stopping caller []⟩) .internal _ := .clear
    exact canEnd_of_step hgo rfl (clearing_canEnd plat caller m.size _ _ _ rfl (h.step hgo))
  | cons key keys ih =>
    intro c m f h
    rcases exists_client (h.pc.2 key (List.mem_cons_self ..)) with ⟨client, hclient⟩
    have hstatus : (SystemPc.statusAt (.stopping caller (key :: keys)) (.stored key)).Holds
        client.threads := h.threads (.stored key) client hclient
    rw [SystemPc.statusAt, if_pos (List.mem_cons_self ..)] at hstatus
    have hgo : SystemStep plat (.loaded ⟨c, m, f, .stopping caller (key :: keys)⟩) .internal _ :=
      .callStop hclient (controlled_callStop hstatus.1)
    exact canEnd_of_step hgo rfl (inStop_canEnd ih (h.step hgo))

end Returns

/-- Wherever the thread of Fledge stands, the call can end. -/
theorem SystemInvariant.canEnd {o : SystemObject} (h : SystemInvariant o) (plat : Platform) :
    (SystemState.loaded o).CanEnd plat := by
  rcases o with ⟨c, m, f, pc⟩
  cases pc with
  | idle => exact canEnd_of_idle rfl
  | registerCallback ingest_cb data =>
    exact canEnd_of_step .registerCallback rfl <|
      canEnd_of_step .registerData rfl (canEnd_of_idle rfl)
  | registerData data => exact canEnd_of_step .registerData rfl (canEnd_of_idle rfl)
  | stopping caller keys => exact stopping_canEnd plat caller keys c m f h
  | inStop caller key keys => exact inStop_canEnd (stopping_canEnd plat caller keys) h
  | clearing caller => exact clearing_canEnd plat caller m.size c m f rfl h
  | inClear caller key =>
    have hpos : m.size ≠ 0 := by
      intro hzero
      rw [← ExtTreeMap.eq_empty_iff_size_eq_zero] at hzero
      have hkey : key ∈ m := h.pc
      rw [hzero] at hkey
      exact absurd hkey ExtTreeMap.not_mem_empty
    exact inClear_canEnd (clearing_canEnd plat caller (m.size - 1)) (by omega) h
  | importing caller assignments defect => exact importing_canEnd h
  | starting entries => exact starting_canEnd plat entries c m f h
  | replacing key old entries => exact replacing_canEnd (starting_canEnd plat entries) h
  | inReplace key old entries => exact inReplace_canEnd (starting_canEnd plat entries) h
  | launching key entries => exact launching_canEnd (starting_canEnd plat entries) h
  | inStart key entries => exact inStart_canEnd (starting_canEnd plat entries) h

end Iec61850South
