import Iec61850South.Plugin.SystemTurns
import Mathlib.Data.Prod.Lex

/-! # What is left of a call

The rank of a call counts the statements of Fledge that are left, and what is left for
the thread that they wait for. No step raises it, and the thread that is to go on lowers
it, unless it is in a loop over the items of a list.
-/

namespace Iec61850South

open Lib Std

/-! ## What the threads of the clients leave as it is -/

section Background

variable {client client' : ClientObject} {f f' : Feed} {l : SystemLabel}

/-- In every status `stop` has given its order before it waits. -/
theorem Status.Holds.ordered {t : ClientThreads} {status : Status} (h : status.Holds t) :
    t.Ordered := by
  have hidle : t.control = .idle → t.Ordered := by
    intro hcontrol
    constructor <;> rw [hcontrol] <;> rintro _ ⟨⟩
  cases status with
  | serving => exact hidle h.1
  | halted => exact hidle h.1
  | starting =>
    rcases h with ⟨⟨pc, hcontrol⟩, _⟩
    constructor <;> rw [hcontrol] <;> rintro _ ⟨⟩
  | stopping destructor => exact h.2.1.ordered h.2.2
  | destroying => exact h.2.1.1.ordered h.2.2

/-- A thread of a client leaves the call that is under way. -/
theorem BackgroundStep.control (h : BackgroundStep f client l f' client') :
    client'.threads.control = client.threads.control := by
  rcases h.threads with heq | ⟨_, _, _, hcontrol⟩
  · rw [heq]
  · exact hcontrol

/-- A thread of a client brings its call closer to the return. -/
theorem BackgroundStep.approaches (h : BackgroundStep f client l f' client')
    (hordered : client.threads.Ordered)
    (hingest : client.ingest.isSome = true → client.threads.reading = some .ingest) :
    if client'.threads.launch = client.threads.launch then
      client.threads.Approaches client'.threads .reading
    else client.threads.Approaches client'.threads .launch := by
  -- inside `ingest` the reading thread stays in its loop over the items
  have hinside : client.threads.reading = some .ingest →
      client.threads.Approaches client.threads .reading := by
    intro hreading
    refine .inr ⟨rfl, rfl, fun _ => ?_, fun _ _ => id⟩
    rw [ClientThreads.isLooping, hreading]
    rfl
  cases h with
  | @launch pc pc' m' reading' hpc hstep =>
    rw [if_neg]
    · exact hordered.launchStep hpc hstep
    · show some pc' ≠ client.threads.launch
      rw [hpc]
      exact fun heq => hstep.moves (Option.some.inj heq)
  | reading hpc hstep =>
    rw [if_pos rfl]
    exact hordered.readingStep hpc hstep
  | unlock _ hpc hstep =>
    rw [if_pos rfl]
    exact hordered.readingStep hpc hstep
  | lock hreading _ _ =>
    rw [if_pos rfl]
    exact hinside hreading
  | registered hat _ => exact (if_pos rfl).mpr (hinside (hingest (by rw [hat]; rfl)))
  | notRegistered hat _ => exact (if_pos rfl).mpr (hinside (hingest (by rw [hat]; rfl)))
  | loadCallback hat => exact (if_pos rfl).mpr (hinside (hingest (by rw [hat]; rfl)))
  | loadData hat => exact (if_pos rfl).mpr (hinside (hingest (by rw [hat]; rfl)))
  | call hat => exact (if_pos rfl).mpr (hinside (hingest (by rw [hat]; rfl)))
  | callReturns hat => exact (if_pos rfl).mpr (hinside (hingest (by rw [hat]; rfl)))

end Background

/-! ## What is left of a call -/

/-- The client whose `start`, `stop` or destructor is under way. -/
def SystemPc.current : SystemPc → Option Place
  | .inStop _ key _ => some (.stored key)
  | .inClear _ key => some (.stored key)
  | .inReplace _ _ _ => some .replaced
  | .inStart key _ => some (.stored key)
  | _ => none

/-- The parts of the call that are left, with the statements of the loop in each part. There
are `size` clients. -/
def SystemPc.stage (size : Nat) : SystemPc → Nat ×ₗ Nat
  | .stopping _ keys => toLex (5, 2 * keys.length)
  | .inStop _ _ keys => toLex (5, 2 * keys.length + 1)
  | .clearing _ => toLex (4, 2 * size)
  | .inClear _ _ => toLex (4, 2 * size - 1)
  | .importing _ assignments _ => toLex (3, assignments.length)
  | .starting entries => toLex (2, 5 * entries.length)
  | .replacing _ _ entries => toLex (2, 5 * entries.length + 4)
  | .inReplace _ _ entries => toLex (2, 5 * entries.length + 3)
  | .launching _ entries => toLex (2, 5 * entries.length + 2)
  | .inStart _ entries => toLex (2, 5 * entries.length + 1)
  | .registerCallback _ _ => toLex (1, 2)
  | .registerData _ => toLex (1, 1)
  | .idle => toLex (0, 0)

namespace SystemObject

/-- How many clients are left to the call. -/
def stage (o : SystemObject) : Nat ×ₗ Nat := o.pc.stage o.m_clients.size

/-- The client that the thread of Fledge is inside. -/
def currentClient (o : SystemObject) : Option ClientObject := o.pc.current.bind o.clientAt

/-- What is left of the call of that client. -/
def callRank (o : SystemObject) : Nat := o.currentClient.elim 0 (·.threads.callRank)

/-- What is left of the call of Fledge: its clients first, then its statements. -/
def rank (o : SystemObject) : (Nat ×ₗ Nat) ×ₗ Nat := toLex (o.stage, o.callRank)

/-- The thread that goes on, or the one that the thread of Fledge waits for. -/
def helper (o : SystemObject) : SystemThread :=
  match o.pc.current, o.currentClient.bind (·.threads.waitsFor) with
  | some place, some thread => .client place thread
  | _, _ => .fledge

/-- A client less is closer, whatever comes inside the next one. -/
theorem rank_lt_of_stage {o o' : SystemObject} (h : o'.stage < o.stage) : o'.rank < o.rank :=
  Prod.Lex.toLex_lt_toLex.mpr (.inl h)

/-- A statement less inside the same client is closer. -/
theorem rank_lt_of_call {o o' : SystemObject} (h : o'.stage = o.stage)
    (hlt : o'.callRank < o.callRank) : o'.rank < o.rank :=
  Prod.Lex.toLex_lt_toLex.mpr (.inr ⟨h, hlt⟩)

end SystemObject

/-- What is left of the call of Fledge. -/
def SystemState.rank : SystemState → (Nat ×ₗ Nat) ×ₗ Nat
  | .loaded o => o.rank
  | _ => toLex (toLex (0, 0), 0)

/-- The thread on which the call of Fledge depends now. -/
def SystemState.helper : SystemState → SystemThread
  | .loaded o => o.helper
  | _ => .fledge

/-! ## A thread of a client has acted -/

section Clients

variable {o : SystemObject} {place : Place} {client client' : ClientObject} {f' : Feed}

/-- A client that changes leaves the place of the thread of Fledge. -/
theorem current_setClient (client' : ClientObject) (place : Place) :
    (o.setClient client' place).pc.current = o.pc.current := by
  rcases o with ⟨c, m, f, pc⟩
  cases place with
  | stored key => rfl
  | replaced => cases pc <;> rfl

/-- A client that changes leaves the number of clients that are left. -/
theorem stage_setClient (hclient : o.clientAt place = some client) (client' : ClientObject) :
    (o.setClient client' place).stage = o.stage := by
  have hsize : (o.setClient client' place).m_clients.size = o.m_clients.size :=
    size_setClient hclient client'
  unfold SystemObject.stage
  rw [hsize]
  rcases o with ⟨c, m, f, pc⟩
  cases place with
  | stored key => rfl
  | replaced => cases pc <;> rfl

/-- The client that has changed is the current one. -/
theorem currentClient_self (hclient : o.clientAt place = some client)
    (hcurrent : o.pc.current = some place) (client' : ClientObject) :
    SystemObject.currentClient { o.setClient client' place with feed := f' } = some client' := by
  show (o.setClient client' place).pc.current.bind _ = some client'
  rw [current_setClient, hcurrent]
  exact clientAt_setClient_self hclient client'

/-- Another client than the current one has changed. -/
theorem currentClient_other (hcurrent : o.pc.current ≠ some place) (client' : ClientObject) :
    SystemObject.currentClient { o.setClient client' place with feed := f' } = o.currentClient := by
  show (o.setClient client' place).pc.current.bind _ = o.pc.current.bind o.clientAt
  rw [current_setClient]
  cases hat : o.pc.current with
  | none => rfl
  | some other =>
    have hother : other ≠ place := by
      rintro rfl
      exact hcurrent hat
    exact clientAt_setClient_other hother client'

/-- Whoever helps is a thread of the current client. -/
theorem helper_client {at_ : Place} {thread : ClientThread}
    (h : o.helper = .client at_ thread) : o.pc.current = some at_ ∧
      ∃ client, o.clientAt at_ = some client ∧ client.threads.waitsFor = some thread := by
  unfold SystemObject.helper at h
  split at h
  · rename_i place thread hcurrent hwaits
    cases h
    rw [SystemObject.currentClient, hcurrent] at hwaits
    rcases Option.bind_eq_some_iff.mp hwaits with ⟨client, hclient, hwaits⟩
    exact ⟨hcurrent, client, hclient, hwaits⟩
  · cases h

/-- Inside a client, the call depends on whom that client waits for. -/
theorem helper_of_current (hcurrent : o.pc.current = some place)
    (hclient : o.clientAt place = some client) :
    o.helper = client.threads.waitsFor.elim .fledge (.client place) := by
  have hclient : o.currentClient = some client := by
    rw [SystemObject.currentClient, hcurrent]
    exact hclient
  unfold SystemObject.helper
  rw [hcurrent, hclient]
  show (match some place, client.threads.waitsFor with
    | some place, some thread => SystemThread.client place thread
    | _, _ => .fledge) = _
  cases client.threads.waitsFor <;> rfl

/-- The call is closer to its return, or waits for what it has waited for. -/
def SystemObject.GoesOn (o o' : SystemObject) (thread : SystemThread) : Prop :=
  o'.rank < o.rank ∨
    Execution.Waits SystemThread.IsLooping SystemState.rank SystemState.helper (.loaded o)
      (.loaded o') ∧ (thread = o.helper → o.helper.IsLooping (.loaded o))

/-- A thread of the client whose call is under way. -/
theorem goesOn_current (hclient : o.clientAt place = some client)
    (hcurrent : o.pc.current = some place) {thread : ClientThread}
    (happroaches : client.threads.Approaches client'.threads thread) :
    o.GoesOn { o.setClient client' place with feed := f' } (.client place thread) := by
  have hcall : o.callRank = client.threads.callRank := by
    rw [SystemObject.callRank, SystemObject.currentClient, hcurrent]
    show (o.clientAt place).elim 0 _ = _
    rw [hclient]
    rfl
  have hcall' : SystemObject.callRank { o.setClient client' place with feed := f' } =
      client'.threads.callRank := by
    rw [SystemObject.callRank, currentClient_self hclient hcurrent]
    rfl
  have hself : SystemObject.clientAt { o.setClient client' place with feed := f' } place =
      some client' := clientAt_setClient_self hclient client'
  have hstage : SystemObject.stage { o.setClient client' place with feed := f' } = o.stage :=
    stage_setClient hclient client'
  have hhelper : o.helper = client.threads.waitsFor.elim .fledge (.client place) :=
    helper_of_current hcurrent hclient
  have hhelper' : SystemObject.helper { o.setClient client' place with feed := f' } =
      client'.threads.waitsFor.elim .fledge (.client place) :=
    helper_of_current ((current_setClient client' place).trans hcurrent) hself
  -- the client is closer to the end of its call, or waits for the same thread in a loop
  rcases happroaches with hlt | ⟨hrank, hwaits, hown, hkept⟩
  · left
    refine SystemObject.rank_lt_of_call hstage ?_
    rw [hcall, hcall']
    exact hlt
  · right
    refine ⟨⟨?_, ?_, ?_⟩, ?_⟩
    · show toLex (_, _) = toLex (_, _)
      rw [hstage, hcall, hcall', hrank]
    · show SystemObject.helper _ = o.helper
      rw [hhelper, hhelper', hwaits]
    · show o.helper.IsLooping _ → o.helper.IsLooping _
      rw [hhelper]
      cases hat : client.threads.waitsFor with
      | none => exact id
      | some awaited =>
        rintro ⟨_, client₁, ⟨⟩, hclient₁, hlooping⟩
        rw [hclient, Option.some.injEq] at hclient₁
        subst hclient₁
        exact ⟨_, client', rfl, hself, hkept awaited hat hlooping⟩
    · rw [hhelper]
      intro hthread
      cases hat : client.threads.waitsFor with
      | none =>
        rw [hat] at hthread
        cases hthread
      | some awaited =>
        rw [hat] at hthread
        cases hthread
        exact ⟨o, client, rfl, hclient, hown hat⟩

/-- A thread of another client. -/
theorem goesOn_other (hclient : o.clientAt place = some client)
    (hcurrent : o.pc.current ≠ some place) (thread : ClientThread) :
    o.GoesOn { o.setClient client' place with feed := f' } (.client place thread) := by
  have hsame : SystemObject.currentClient { o.setClient client' place with feed := f' } =
      o.currentClient := currentClient_other hcurrent client'
  have hstage : SystemObject.stage { o.setClient client' place with feed := f' } = o.stage :=
    stage_setClient hclient client'
  have hpc : SystemPc.current (SystemObject.pc { o.setClient client' place with feed := f' }) =
      o.pc.current := current_setClient client' place
  refine .inr ⟨⟨?_, ?_, ?_⟩, ?_⟩
  · show toLex (_, _) = toLex (_, _)
    rw [hstage, SystemObject.callRank, hsame]
    rfl
  · show SystemObject.helper _ = o.helper
    unfold SystemObject.helper
    rw [hpc, hsame]
  · show o.helper.IsLooping _ → o.helper.IsLooping _
    cases hhelper : o.helper with
    | fledge => exact id
    | client at_ awaited =>
      rintro ⟨_, client₁, ⟨⟩, hclient₁, hlooping⟩
      have hat : at_ ≠ place := by
        rintro rfl
        exact hcurrent (helper_client hhelper).1
      exact ⟨_, client₁, rfl, (clientAt_setClient_other hat client').trans hclient₁, hlooping⟩
  · intro hhelper
    exact absurd (helper_client hhelper.symm).1 hcurrent

/-- **A thread of a client** does not take the call further from its return. -/
theorem SystemInvariant.goesOn (h : SystemInvariant o) {thread : ClientThread} {s' : SystemState}
    (hacts : ActsAt place thread (.loaded o) s') :
    ∃ o', s' = .loaded o' ∧ o.GoesOn o' (.client place thread) := by
  have happroaches : ∀ {client client' : ClientObject} {f' : Feed} {l : SystemLabel},
      o.clientAt place = some client → BackgroundStep o.feed client l f' client' →
      if client'.threads.launch = client.threads.launch then
        client.threads.Approaches client'.threads .reading
      else client.threads.Approaches client'.threads .launch := by
    intro client client' f' l hclient hstep
    exact hstep.approaches (h.threads place client hclient).ordered
      (h.ingest.reading place client hclient)
  cases hacts with
  | launch hclient hstep hmoved =>
    have hnear := happroaches hclient hstep
    rw [if_neg hmoved] at hnear
    refine ⟨_, rfl, ?_⟩
    by_cases hcurrent : o.pc.current = some place
    · exact goesOn_current hclient hcurrent hnear
    · exact goesOn_other hclient hcurrent .launch
  | reading hclient hstep hsame =>
    have hnear := happroaches hclient hstep
    rw [if_pos hsame] at hnear
    refine ⟨_, rfl, ?_⟩
    by_cases hcurrent : o.pc.current = some place
    · exact goesOn_current hclient hcurrent hnear
    · exact goesOn_other hclient hcurrent .reading

/-- The thread of Fledge stays where it is. -/
theorem ActsAt.kept {s' : SystemState} {thread : ClientThread}
    (hacts : ActsAt place thread (.loaded o) s') :
    ∃ o', s' = .loaded o' ∧ o'.stage = o.stage ∧ o'.pc.current = o.pc.current ∧
      o'.currentClient.map (·.threads.control) = o.currentClient.map (·.threads.control) := by
  have hcontrol : ∀ {client client' : ClientObject} {f' : Feed} {l : SystemLabel},
      o.clientAt place = some client → BackgroundStep o.feed client l f' client' →
      (SystemObject.currentClient { o.setClient client' place with feed := f' }).map
        (·.threads.control) = o.currentClient.map (·.threads.control) := by
    intro client client' f' l hclient hstep
    by_cases hcurrent : o.pc.current = some place
    · rw [currentClient_self hclient hcurrent, SystemObject.currentClient, hcurrent]
      show some _ = (o.clientAt place).map _
      rw [hclient]
      exact congrArg some hstep.control
    · rw [currentClient_other hcurrent]
  cases hacts with
  | launch hclient hstep _ =>
    exact ⟨_, rfl, stage_setClient hclient _, current_setClient _ _, hcontrol hclient hstep⟩
  | reading hclient hstep _ =>
    exact ⟨_, rfl, stage_setClient hclient _, current_setClient _ _, hcontrol hclient hstep⟩

end Clients

/-! ## The thread of Fledge has acted -/

section Fledge

variable {plat : Platform} {c c' : IEC61850ClientConfig} {m m' : ClientObjects} {f f' : Feed}
  {pc pc' : SystemPc}

/-- The next statement of the same part of the call. -/
theorem rank_lt_of_length {phase n n' : Nat} (h : pc.stage m.size = toLex (phase, n))
    (h' : pc'.stage m'.size = toLex (phase, n')) (hlt : n' < n) :
    SystemObject.rank ⟨c', m', f', pc'⟩ < SystemObject.rank ⟨c, m, f, pc⟩ := by
  refine SystemObject.rank_lt_of_stage ?_
  show pc'.stage m'.size < pc.stage m.size
  rw [h, h']
  exact Prod.Lex.toLex_lt_toLex.mpr (.inr ⟨rfl, hlt⟩)

/-- The next part of the call. -/
theorem rank_lt_of_phase {phase phase' n n' : Nat} (h : pc.stage m.size = toLex (phase, n))
    (h' : pc'.stage m'.size = toLex (phase', n')) (hlt : phase' < phase) :
    SystemObject.rank ⟨c', m', f', pc'⟩ < SystemObject.rank ⟨c, m, f, pc⟩ := by
  refine SystemObject.rank_lt_of_stage ?_
  show pc'.stage m'.size < pc.stage m.size
  rw [h, h']
  exact Prod.Lex.toLex_lt_toLex.mpr (.inl hlt)

theorem size_pos {key : String} {client : ClientObject} (hclient : m[key]? = some client) :
    0 < m.size := by
  refine Nat.pos_of_ne_zero fun hzero => ?_
  rw [← ExtTreeMap.eq_empty_iff_size_eq_zero] at hzero
  rw [hzero] at hclient
  exact absurd hclient (by simp)

/-- The next statement of the client whose call is under way. -/
theorem rank_lt_of_control {key : String} {client client' : ClientObject}
    (hcurrent : pc.current = some (.stored key)) (hclient : m[key]? = some client)
    (hstep : client.Controlled .internal client') (hidle : client.threads.control ≠ .idle) :
    SystemObject.rank ⟨c, m.insert key client', f, pc⟩ < SystemObject.rank ⟨c, m, f, pc⟩ := by
  refine SystemObject.rank_lt_of_call ?_ ?_
  · show pc.stage _ = pc.stage _
    rw [size_insert_same hclient]
  · rcases hstep with ⟨threads, hcontrol, rfl⟩
    have hcall : ∀ (m : ClientObjects) (client : ClientObject), m[key]? = some client →
        SystemObject.callRank ⟨c, m, f, pc⟩ = client.threads.callRank := by
      intro m client hclient
      show (pc.current.bind _).elim 0 _ = _
      rw [hcurrent]
      show (m[key]?).elim 0 _ = _
      rw [hclient]
      rfl
    rw [hcall _ _ hclient, hcall _ _ ExtTreeMap.getElem?_insert_self]
    exact ClientThreads.callRank_control hidle hcontrol

/-- A client that is neither serving nor halted is inside a call. -/
theorem Status.Holds.in_call {t : ClientThreads} {status : Status} (h : status.Holds t)
    (hcall : status ≠ .serving) (hcall' : status ≠ .halted) : t.control ≠ .idle := by
  cases status with
  | serving => exact absurd rfl hcall
  | halted => exact absurd rfl hcall'
  | starting =>
    rcases h with ⟨⟨pc, hpc⟩, _⟩
    rw [hpc]
    simp
  | stopping destructor =>
    rcases h with ⟨⟨pc, hpc⟩, _⟩
    rw [hpc]
    simp
  | destroying =>
    rcases h with ⟨⟨pc, hpc⟩, _⟩
    rw [hpc]
    simp

/-- In the middle of its call, the control thread of the current client is not idle. -/
theorem SystemInvariant.current_in_call {o : SystemObject} (h : SystemInvariant o) {place : Place}
    {client : ClientObject} (hcurrent : o.pc.current = some place)
    (hclient : o.clientAt place = some client) : client.threads.control ≠ .idle := by
  have hholds : (o.pc.statusAt place).Holds client.threads := h.threads place client hclient
  generalize o.pc = pc at hcurrent hholds
  cases pc with
  | inStop caller key keys =>
    cases hcurrent
    rw [SystemPc.statusAt, if_pos rfl] at hholds
    exact hholds.in_call (by simp) (by simp)
  | inClear caller key =>
    cases hcurrent
    rw [SystemPc.statusAt, if_pos rfl] at hholds
    exact hholds.in_call (by simp) (by simp)
  | inReplace key old entries =>
    cases hcurrent
    exact hholds.in_call (by simp [SystemPc.statusAt]) (by simp [SystemPc.statusAt])
  | inStart key entries =>
    cases hcurrent
    rw [SystemPc.statusAt, if_pos rfl] at hholds
    exact hholds.in_call (by simp) (by simp)
  | _ => cases hcurrent

/-- **The thread of Fledge** takes its call closer to the return. -/
theorem SystemInvariant.fledge_rank {o : SystemObject} {s' : SystemState} (h : SystemInvariant o)
    (hidle : o.pc ≠ .idle) (hacts : SystemActs plat .fledge (.loaded o) s') :
    s'.Ended ∨ ∃ o', s' = .loaded o' ∧ o'.rank < o.rank := by
  rcases hacts with ⟨l, hstep, _, hnot⟩
  cases hstep with
  | background hclient hstep =>
    rcases actsAt_of_background hclient hstep with ⟨thread, hacts⟩
    exact absurd hacts (hnot _ _)
  | registerIngest _ _ => exact absurd rfl hidle
  | start => exact absurd rfl hidle
  | stop => exact absurd rfl hidle
  | reconfigure _ => exact absurd rfl hidle
  | malformed => exact absurd rfl hidle
  | shutdown => exact absurd rfl hidle
  | registerCallback => exact .inr ⟨_, rfl, rank_lt_of_length rfl rfl (by decide)⟩
  | registerData => exact .inl (.inl rfl)
  -- `IEC61850::stop`
  | callStop _ _ =>
    refine .inr ⟨_, rfl, rank_lt_of_length rfl rfl ?_⟩
    rw [List.length_cons]
    omega
  | stopClient hclient hstep =>
    exact .inr ⟨_, rfl, rank_lt_of_control rfl hclient hstep (h.current_in_call rfl hclient)⟩
  | clientStopped _ _ => exact .inr ⟨_, rfl, rank_lt_of_length rfl rfl (Nat.lt_succ_self _)⟩
  | clear => exact .inr ⟨_, rfl, rank_lt_of_phase rfl rfl (by decide)⟩
  | @callDestructor _ m _ _ _ _ client' hclient _ =>
    have hsize : (m.insert _ client').size = m.size := size_insert_same hclient client'
    have hpos : 0 < m.size := size_pos hclient
    refine .inr ⟨_, rfl, rank_lt_of_length rfl rfl ?_⟩
    rw [hsize]
    omega
  | destroyClient hclient hstep =>
    exact .inr ⟨_, rfl, rank_lt_of_control rfl hclient hstep (h.current_in_call rfl hclient)⟩
  | @clientDestroyed _ m _ _ key client _ hclient _ =>
    have hmem : key ∈ m := mem_iff_exists.mpr ⟨client, hclient⟩
    have hpos : 0 < m.size := size_pos hclient
    refine .inr ⟨_, rfl, rank_lt_of_length rfl rfl ?_⟩
    rw [ExtTreeMap.size_erase, if_pos (ExtTreeMap.contains_iff_mem.mpr hmem)]
    omega
  | stopReturns _ => exact .inl (.inl rfl)
  | stopReturnsToReconfigure _ _ => exact .inr ⟨_, rfl, rank_lt_of_phase rfl rfl (by decide)⟩
  | stopReturnsToShutdown _ => exact .inl (.inl trivial)
  -- `importConfig`
  | assign => exact .inr ⟨_, rfl, rank_lt_of_length rfl rfl (Nat.lt_succ_self _)⟩
  | initReturns => exact .inl (.inl rfl)
  | initThrows => exact .inl (.inl trivial)
  | imported => exact .inr ⟨_, rfl, rank_lt_of_phase rfl rfl (by decide)⟩
  | reconfigureThrows => exact .inl (.inl rfl)
  | assertionFails => exact .inl (.inr rfl)
  -- `IEC61850::start`
  | create _ =>
    refine .inr ⟨_, rfl, rank_lt_of_length rfl rfl ?_⟩
    rw [List.length_cons]
    omega
  | replace _ =>
    refine .inr ⟨_, rfl, rank_lt_of_length rfl rfl ?_⟩
    rw [List.length_cons]
    omega
  | callOldDestructor _ => exact .inr ⟨_, rfl, rank_lt_of_length rfl rfl (by omega)⟩
  | @destroyOld c m f key old _ entries hstep =>
    refine .inr ⟨_, rfl, SystemObject.rank_lt_of_call rfl ?_⟩
    have hcurrent : SystemPc.current (.inReplace key old entries) = some .replaced := rfl
    have hbusy : old.threads.control ≠ .idle := h.current_in_call hcurrent rfl
    rcases hstep with ⟨threads, hcontrol, rfl⟩
    exact ClientThreads.callRank_control hbusy hcontrol
  | oldDestroyed _ => exact .inr ⟨_, rfl, rank_lt_of_length rfl rfl (by omega)⟩
  | callStart _ _ => exact .inr ⟨_, rfl, rank_lt_of_length rfl rfl (by omega)⟩
  | startClient hclient hstep _ =>
    exact .inr ⟨_, rfl, rank_lt_of_control rfl hclient hstep (h.current_in_call rfl hclient)⟩
  | clientStarted _ _ _ => exact .inr ⟨_, rfl, rank_lt_of_length rfl rfl (by omega)⟩
  | startReturns => exact .inl (.inl rfl)

end Fledge

/-! ## Whoever is to go on can -/

section Enabled

variable {plat : Platform} {o o' : SystemObject} {l : SystemLabel}

/-- A step of the thread of Fledge, for it has moved on. -/
theorem acts_of_stage {c c' : IEC61850ClientConfig} {m m' : ClientObjects} {f f' : Feed}
    {pc pc' : SystemPc} {phase phase' n n' : Nat}
    (hstep : SystemStep plat (.loaded ⟨c, m, f, pc⟩) l (.loaded ⟨c', m', f', pc'⟩))
    (hl : l.isCall = false) (h : pc.stage m.size = toLex (phase, n))
    (h' : pc'.stage m'.size = toLex (phase', n')) (hne : phase' ≠ phase ∨ n' ≠ n) :
    SystemActs plat .fledge (.loaded ⟨c, m, f, pc⟩) (.loaded ⟨c', m', f', pc'⟩) := by
  refine ⟨l, hstep, hl, fun place thread hacts => ?_⟩
  rcases hacts.kept with ⟨_, ⟨⟩, hstage, _, _⟩
  have hstage : pc'.stage m'.size = pc.stage m.size := hstage
  rw [h, h', toLex_inj, Prod.mk.injEq] at hstage
  rcases hne with hne | hne
  · exact hne hstage.1
  · exact hne hstage.2

/-- A step that changes the place inside the current client is one of Fledge. -/
theorem acts_of_control (hstep : SystemStep plat (.loaded o) l (.loaded o')) (hl : l.isCall = false)
    (hne : o'.currentClient.map (·.threads.control) ≠ o.currentClient.map (·.threads.control)) :
    SystemActs plat .fledge (.loaded o) (.loaded o') := by
  refine ⟨l, hstep, hl, fun place thread hacts => ?_⟩
  rcases hacts.kept with ⟨_, ⟨⟩, _, _, hcontrol⟩
  exact hne hcontrol

/-- A step that ends the object is one of Fledge. -/
theorem acts_of_end {s' : SystemState} (hstep : SystemStep plat (.loaded o) l s')
    (hl : l.isCall = false) (hend : ∀ o', s' ≠ .loaded o') :
    SystemActs plat .fledge (.loaded o) s' := by
  refine ⟨l, hstep, hl, fun place thread hacts => ?_⟩
  rcases hacts.kept with ⟨o', hs', _⟩
  exact hend o' hs'

theorem SystemPc.Stops.current {pc : SystemPc} {place : Place} (h : pc.Stops place) :
    pc.current = some place := by
  cases h <;> rfl

/-- In the middle of `stop`, if no thread is waited for. -/
theorem SystemInvariant.exists_stopAct (h : SystemInvariant o) {place : Place}
    {client : ClientObject} (hstops : o.pc.Stops place) (hclient : o.clientAt place = some client)
    (hwaits : client.threads.waitsFor = none) :
    ∃ s', SystemActs plat .fledge (.loaded o) s' := by
  rcases h.stops hstops hclient with ⟨⟨destructor, pc, hpc⟩, _, _⟩
  rcases ClientThreads.exists_controlStep hpc hwaits with ⟨l, t', hstep, rfl | rfl⟩
  · have hcontrolled : client.Controlled .internal { client with threads := t' } := ⟨t', hstep, rfl⟩
    refine ⟨_, acts_of_control (hstops.control plat hclient hcontrolled) rfl ?_⟩
    have hself : (o.setClient { client with threads := t' } place).currentClient =
        some { client with threads := t' } := currentClient_self hclient hstops.current _
    have hcurrent : o.currentClient = some client := by
      rw [SystemObject.currentClient, hstops.current]
      exact hclient
    rw [hself, hcurrent]
    exact fun heq => ClientThreads.control_ne hstep (Option.some.inj heq)
  · have hreturns : client.Controlled .stopReturns { client with threads := t' } := ⟨t', hstep, rfl⟩
    rcases o with ⟨c, m, f, pc⟩
    cases hstops with
    | inStop =>
      exact ⟨_, acts_of_stage (.clientStopped hclient hreturns) rfl rfl rfl (.inr (by omega))⟩
    | inClear =>
      have hmem : _ ∈ m := mem_iff_exists.mpr ⟨client, hclient⟩
      have hpos : 0 < m.size := size_pos hclient
      refine ⟨_, acts_of_stage (.clientDestroyed hclient hreturns) rfl rfl rfl (.inr ?_)⟩
      rw [ExtTreeMap.size_erase, if_pos (ExtTreeMap.contains_iff_mem.mpr hmem)]
      omega
    | inReplace =>
      cases hclient
      exact ⟨_, acts_of_stage (.oldDestroyed hreturns) rfl rfl rfl (.inr (by omega))⟩

/-- In the middle of a call, the thread of Fledge can go on if it waits for no other. -/
theorem SystemInvariant.exists_fledgeAct (plat : Platform) (h : SystemInvariant o)
    (hidle : o.pc ≠ .idle) (hhelper : o.helper = .fledge) :
    ∃ s', SystemActs plat .fledge (.loaded o) s' := by
  -- inside `stop` or a destructor, whoever is waited for would be the helper
  have hstop : ∀ {place client}, o.pc.Stops place → o.clientAt place = some client →
      ∃ s', SystemActs plat .fledge (.loaded o) s' := by
    intro place client hstops hclient
    refine h.exists_stopAct hstops hclient ?_
    rw [helper_of_current hstops.current hclient] at hhelper
    cases hwaits : client.threads.waitsFor with
    | none => rfl
    | some thread =>
      rw [hwaits] at hhelper
      cases hhelper
  rcases o with ⟨c, m, f, pc⟩
  have hpc := h.pc
  cases pc with
  | idle => exact absurd rfl hidle
  | registerCallback ingest_cb data =>
    exact ⟨_, acts_of_stage .registerCallback rfl rfl rfl (.inr (by decide))⟩
  | registerData data => exact ⟨_, acts_of_stage .registerData rfl rfl rfl (.inl (by decide))⟩
  | stopping caller keys =>
    cases keys with
    | nil => exact ⟨_, acts_of_stage .clear rfl rfl rfl (.inl (by decide))⟩
    | cons key keys =>
      rcases exists_client (hpc.2 key (List.mem_cons_self ..)) with ⟨client, hclient⟩
      have hstatus : (SystemPc.statusAt (.stopping caller (key :: keys)) (.stored key)).Holds
          client.threads := h.threads (.stored key) client hclient
      rw [SystemPc.statusAt, if_pos (List.mem_cons_self ..)] at hstatus
      refine ⟨_, acts_of_stage (.callStop hclient (controlled_callStop hstatus.1)) rfl rfl rfl
        (.inr ?_)⟩
      rw [List.length_cons]
      omega
  | inStop caller key keys =>
    rcases exists_client (hpc.2 key (List.mem_cons_self ..)) with ⟨client, hclient⟩
    exact hstop .inStop hclient
  | clearing caller =>
    by_cases hempty : m = ∅
    · cases caller with
      | stop => exact ⟨_, acts_of_stage (.stopReturns hempty) rfl rfl rfl (.inl (by decide))⟩
      | reconfigure newConfig =>
        exact ⟨_, acts_of_stage (.stopReturnsToReconfigure plat.uninit hempty) rfl rfl rfl
          (.inl (by decide))⟩
      | shutdown => exact ⟨_, acts_of_end (.stopReturnsToShutdown hempty) rfl (by simp)⟩
    · rcases exists_client_of_ne hempty with ⟨key, client, hclient⟩
      have hstatus : Status.halted.Holds client.threads := h.threads (.stored key) client hclient
      have hpos : 0 < m.size := size_pos hclient
      refine ⟨_, acts_of_stage (.callDestructor hclient (controlled_callDestructor hstatus.1)) rfl
        rfl rfl (.inr ?_)⟩
      rw [size_insert_same hclient]
      omega
  | inClear caller key =>
    rcases exists_client hpc with ⟨client, hclient⟩
    exact hstop .inClear hclient
  | importing caller assignments defect =>
    cases assignments with
    | cons a assignments =>
      exact ⟨_, acts_of_stage .assign rfl rfl rfl (.inr (Nat.lt_succ_self _).ne)⟩
    | nil =>
      cases defect with
      | none =>
        cases caller with
        | init => exact ⟨_, acts_of_stage .initReturns rfl rfl rfl (.inl (by decide))⟩
        | reconfigure => exact ⟨_, acts_of_stage .imported rfl rfl rfl (.inl (by decide))⟩
      | some stop =>
        cases stop with
        | assertion accessor => exact ⟨_, acts_of_end .assertionFails rfl (by simp)⟩
        | configurationException msg =>
          cases caller with
          | init => exact ⟨_, acts_of_end .initThrows rfl (by simp)⟩
          | reconfigure =>
            exact ⟨_, acts_of_stage .reconfigureThrows rfl rfl rfl (.inl (by decide))⟩
  | starting entries =>
    cases entries with
    | nil => exact ⟨_, acts_of_stage .startReturns rfl rfl rfl (.inl (by decide))⟩
    | cons entry entries =>
      rcases entry with ⟨key, param⟩
      cases hkey : m[key]? with
      | none =>
        refine ⟨_, acts_of_stage (.create hkey) rfl rfl rfl (.inr ?_)⟩
        rw [List.length_cons]
        omega
      | some old =>
        refine ⟨_, acts_of_stage (.replace hkey) rfl rfl rfl (.inr ?_)⟩
        rw [List.length_cons]
        omega
  | replacing key old entries =>
    have hstatus : Status.serving.Holds old.threads := h.threads .replaced old rfl
    exact ⟨_, acts_of_stage (.callOldDestructor (controlled_callDestructor hstatus.1)) rfl rfl rfl
      (.inr (by omega))⟩
  | inReplace key old entries => exact hstop .inReplace rfl
  | launching key entries =>
    rcases exists_client hpc with ⟨client, hclient⟩
    have hstatus : (SystemPc.statusAt (.launching key entries) (.stored key)).Holds
        client.threads := h.threads (.stored key) client hclient
    rw [SystemPc.statusAt, if_pos rfl] at hstatus
    exact ⟨_, acts_of_stage (.callStart hclient (controlled_callStart hstatus.1)) rfl rfl rfl
      (.inr (by omega))⟩
  | inStart key entries =>
    rcases exists_client hpc with ⟨client, hclient⟩
    have hstatus : (SystemPc.statusAt (.inStart key entries) (.stored key)).Holds
        client.threads := h.threads (.stored key) client hclient
    rw [SystemPc.statusAt, if_pos rfl] at hstatus
    rcases hstatus with ⟨⟨startPc, hstart⟩, _⟩
    cases startPc with
    | assign =>
      exact ⟨_, acts_of_stage (.clientStarted hclient (controlled_assign hstart) rfl) rfl rfl rfl
        (.inr (by omega))⟩
    | spawn =>
      -- the place in the loop stays, but the client has gone on
      refine ⟨_, acts_of_control (.startClient hclient (controlled_spawn hstart) (by simp)) rfl ?_⟩
      show Option.map _ ((m.insert key _)[key]?) ≠ Option.map _ (m[key]?)
      rw [ExtTreeMap.getElem?_insert_self, hclient, Option.map_some, Option.map_some, hstart]
      simp

end Enabled

end Iec61850South
