import Iec61850South.Client.Progress

/-! # `stop` gets closer to its end

Whatever the threads of a client do, and however long they take, the thread that
`stop` waits for gets closer to its end with each of its statements, unless it is in
the middle of a loop over the items of a list. The other threads change nothing
about this.
-/

namespace Iec61850South

open Lib

/-! ## The way out -/

/-- In the loop over the items whose names are asked for. -/
def InitializePc.isLooping : InitializePc → Bool
  | .buildTrees _ => true
  | _ => false

/-- In the loop over the items that are built. -/
def LaunchPc.isLooping : LaunchPc → Bool
  | .initializing pc => pc.isLooping
  | _ => false

/-- Also in the loop over the items that are read and sent. -/
def ReadingPc.isLooping : ReadingPc → Bool
  | .initializing pc => pc.isLooping
  | .read _ => true
  | .ingest => true
  | _ => false

/-- What is left of `initializeConnection` at most, once `stop` has been ordered. -/
def InitializePc.exitRank : InitializePc → Nat
  | .isStillConnected .enter => 13
  | .isStillConnected .inside => 12
  | .destroy pc => 9 + pc.rank
  | .create pc => 6 + pc.rank
  | .isConnected .enter => 5
  | .isConnected .inside => 4
  | .buildTrees _ => 3
  | .sleep => 2
  | .testStopOrder => 1

/-- What is left of the launch thread at most, once `stop` has been ordered. -/
def LaunchPc.exitRank : LaunchPc → Nat
  | .initializing pc => 3 + pc.exitRank
  | .activate => 3
  | .spawn => 2
  | .assign => 1
  | .done => 0

/-- What is left of `readMmsLoop` at most, once the reading has been deactivated. -/
def ReadingPc.exitRank : ReadingPc → Nat
  | .isConnected .enter => 17
  | .isConnected .inside => 16
  | .initializing pc => 2 + pc.exitRank
  | .isNoError .enter => 6
  | .isNoError .inside => 5
  | .logError .enter => 4
  | .logError .inside => 3
  | .read _ => 3
  | .ingest => 3
  | .testNull => 2
  | .sleep => 2
  | .testActivated => 1
  | .done => 0

/-- `initializeConnection` has a statement left. -/
theorem initializeExitRank_pos (pc : InitializePc) : 0 < pc.exitRank := by
  cases pc with
  | isConnected pc => cases pc <;> decide
  | isStillConnected pc => cases pc <;> decide
  | destroy pc => exact Nat.lt_of_lt_of_le (by decide) (Nat.le_add_right 9 pc.rank)
  | create pc => exact Nat.lt_of_lt_of_le (by decide) (Nat.le_add_right 6 pc.rank)
  | buildTrees pc => exact Nat.succ_pos 2
  | _ => decide

/-- It has no more than 13 left. -/
theorem initializeExitRank_le (pc : InitializePc) : pc.exitRank ≤ 13 := by
  cases pc with
  | destroy pc => cases pc <;> decide
  | create pc => cases pc <;> decide
  | isConnected pc => cases pc <;> decide
  | buildTrees pc => cases pc <;> decide
  | isStillConnected pc => cases pc <;> decide
  | _ => decide

/-- The launch thread has no more than 17 left. -/
theorem launchExitRank_le (pc : LaunchPc) : pc.exitRank ≤ 17 := by
  cases pc with
  | initializing pc =>
    have hpc : pc.exitRank ≤ 13 := initializeExitRank_le pc
    show 3 + pc.exitRank ≤ 17
    omega
  | _ => decide

/-- Neither has the reading thread. -/
theorem readingExitRank_le (pc : ReadingPc) : pc.exitRank ≤ 17 := by
  cases pc with
  | initializing pc =>
    have hpc : pc.exitRank ≤ 13 := initializeExitRank_le pc
    show 2 + pc.exitRank ≤ 17
    omega
  | isConnected pc => cases pc <;> decide
  | isNoError pc => cases pc <;> decide
  | logError pc => cases pc <;> decide
  | read pc => cases pc <;> decide
  | _ => decide

/-- From rank `r` to rank `r'`: closer to the exit, or still in a loop. -/
def Nears (r r' : Nat) (looping looping' : Bool) : Prop :=
  r' < r ∨ r' = r ∧ looping = true ∧ looping' = true

section Steps

variable {m m' : Memory}

/-- The destruction of the connection comes closer to its end. -/
theorem DestroyStep.rank_lt {pc pc' : DestroyPc} (h : DestroyStep m pc m' (some pc')) :
    pc'.rank < pc.rank := by
  cases h <;> decide

/-- So does the creation. -/
theorem CreateStep.rank_lt {pc pc' : CreatePc} (h : CreateStep m pc m' (some pc')) :
    pc'.rank < pc.rank := by
  cases h <;> decide

/-- A statement outside the loop over the items comes closer, one inside it may stay there.
-/
theorem InitializeStep.nears {pc pc' : InitializePc} (h : InitializeStep m pc m' (some pc'))
    (hstop : m.m_stopOrder = true) :
    Nears pc.exitRank pc'.exitRank pc.isLooping pc'.isLooping := by
  cases h with
  | destroy hstep => exact .inl (Nat.add_lt_add_left hstep.rank_lt 9)
  | @destroyed pc _ hstep => exact .inl (Nat.lt_of_lt_of_le (by decide) (Nat.le_add_right 9 pc.rank))
  | create hstep => exact .inl (Nat.add_lt_add_left hstep.rank_lt 6)
  | @created pc _ hstep => exact .inl (Nat.lt_of_lt_of_le (by decide) (Nat.le_add_right 6 pc.rank))
  | request => exact .inr ⟨rfl, rfl, rfl⟩
  | nextRequest => exact .inr ⟨rfl, rfl, rfl⟩
  | notOrdered hnot =>
    rw [hstop] at hnot
    cases hnot
  | _ => exact .inl (by decide)

/-- The same for the reading thread. -/
theorem ReadingStep.nears {pc pc' : ReadingPc} {l : Label} (h : ReadingStep m pc l m' pc')
    (hstop : m.m_stopOrder = true) (hactivated : m.m_isMmsReadingActivated = false) :
    Nears pc.exitRank pc'.exitRank pc.isLooping pc'.isLooping := by
  cases h with
  | activated htrue =>
    rw [hactivated] at htrue
    cases htrue
  | initializing hstep =>
    rcases hstep.nears hstop with hlt | ⟨heq, hlooping⟩
    · exact .inl (Nat.add_lt_add_left hlt 2)
    · exact .inr ⟨congrArg (2 + ·) heq, hlooping⟩
  | @initialized pc _ _ =>
    have hpos : 0 < pc.exitRank := initializeExitRank_pos pc
    refine .inl ?_
    show 2 < 2 + pc.exitRank
    omega
  | read => exact .inr ⟨rfl, rfl, rfl⟩
  | converted => exact .inr ⟨rfl, rfl, rfl⟩
  | nothingToSend => exact .inr ⟨rfl, rfl, rfl⟩
  | sentMember => exact .inr ⟨rfl, rfl, rfl⟩
  | sentItem => exact .inr ⟨rfl, rfl, rfl⟩
  | _ => exact .inl (by decide)

/-- The same for the launch thread. -/
theorem LaunchStep.nears {reading reading' : Option ReadingPc} {pc pc' : LaunchPc}
    (h : LaunchStep m reading pc m' reading' pc') (hstop : m.m_stopOrder = true) :
    Nears pc.exitRank pc'.exitRank pc.isLooping pc'.isLooping := by
  cases h with
  | initializing hstep =>
    rcases hstep.nears hstop with hlt | ⟨heq, hlooping⟩
    · exact .inl (Nat.add_lt_add_left hlt 3)
    · exact .inr ⟨congrArg (3 + ·) heq, hlooping⟩
  | @initialized pc _ _ =>
    have hpos : 0 < pc.exitRank := initializeExitRank_pos pc
    refine .inl ?_
    show 3 < 3 + pc.exitRank
    omega
  | _ => exact .inl (by decide)

/-- No statement leads back to itself. -/
theorem InitializeStep.moves {pc pc' : InitializePc} (h : InitializeStep m pc m' (some pc')) :
    pc' ≠ pc := by
  rintro rfl
  cases h with
  | destroy hstep => exact Nat.lt_irrefl _ hstep.rank_lt
  | create hstep => exact Nat.lt_irrefl _ hstep.rank_lt

/-- Neither does one of the launch thread. -/
theorem LaunchStep.moves {reading reading' : Option ReadingPc} {pc pc' : LaunchPc}
    (h : LaunchStep m reading pc m' reading' pc') : pc' ≠ pc := by
  rintro rfl
  cases h with
  | initializing hstep => exact hstep.moves rfl

end Steps

/-! ## The calls of the control thread -/

/-- The threads that a client has of its own. -/
inductive ClientThread where
  | launch
  | reading
deriving DecidableEq

namespace ClientThreads

/-- The thread is in a loop over items. -/
def isLooping (t : ClientThreads) : ClientThread → Bool
  | .launch => t.launch.elim false LaunchPc.isLooping
  | .reading => t.reading.elim false ReadingPc.isLooping

/-- Whom the control thread waits for. -/
def waitsFor (t : ClientThreads) : Option ClientThread :=
  match t.control with
  | .stop _ .joinLaunch => if t.launch = some .done then none else some .launch
  | .stop _ .joinReading => if t.reading = some .done then none else some .reading
  | _ => none

/-- What is left at most until the control thread can go on. -/
def waitRank (t : ClientThreads) : Nat :=
  match t.control with
  | .stop _ .joinLaunch => t.launch.elim 0 LaunchPc.exitRank
  | .stop _ .joinReading => t.reading.elim 0 ReadingPc.exitRank
  | _ => 0

/-- What is left at most of a call of `start` or `stop`. -/
def callRank (t : ClientThreads) : Nat :=
  match t.control with
  | .start .spawn => 2
  | .start .assign => 1
  | .stop _ pc => 18 * pc.rank + t.waitRank
  | _ => 0

/-- The orders have been given to the thread that is waited for. -/
structure Ordered (t : ClientThreads) : Prop where
  launch : ∀ destructor, t.control = .stop destructor .joinLaunch → t.memory.m_stopOrder = true
  reading : ∀ destructor, t.control = .stop destructor .joinReading →
    t.memory.m_stopOrder = true ∧ t.memory.m_isMmsReadingActivated = false ∧ t.launch = none

/-- Whoever is waited for has no more than 17 statements left. -/
theorem waitRank_le (t : ClientThreads) : t.waitRank ≤ 17 := by
  unfold waitRank
  split
  · cases t.launch with
    | none => exact Nat.zero_le 17
    | some pc => exact launchExitRank_le pc
  · cases t.reading with
    | none => exact Nat.zero_le 17
    | some pc => exact readingExitRank_le pc
  · exact Nat.zero_le 17

/-- What `stop` relies on while it waits. -/
theorem Coherent.ordered {t : ClientThreads} {started : Bool} (h : t.Coherent started)
    (hordered : StopOrdered t) : t.Ordered := by
  constructor
  case launch =>
    intro destructor hcontrol
    exact hordered destructor _ hcontrol (by simp)
  case reading =>
    intro destructor hcontrol
    have hsafe : t.ControlSafe started (.stop destructor .joinReading) := by
      rw [← hcontrol]
      exact h
    rcases hsafe with ⟨_, hlaunch, _, _, hactivated, _⟩
    exact ⟨hordered destructor _ hcontrol (by simp), hactivated, hlaunch⟩

/-! ### The other threads -/

/-- Nearer to the return of the call, or as near as before: then the thread that has moved
is in a loop, or is not waited for. -/
def Approaches (t t' : ClientThreads) (thread : ClientThread) : Prop :=
  t'.callRank < t.callRank ∨ t'.callRank = t.callRank ∧ t'.waitsFor = t.waitsFor ∧
    (t.waitsFor = some thread → t.isLooping thread = true) ∧
    ∀ awaited, t.waitsFor = some awaited → t.isLooping awaited = true →
      t'.isLooping awaited = true

/-- Nothing has changed for a call that does not wait. -/
theorem approaches_of_none {t t' : ClientThreads} {thread : ClientThread}
    (hrank : t'.callRank = t.callRank) (hwaits : t.waitsFor = none) (hwaits' : t'.waitsFor = none) :
    t.Approaches t' thread := by
  refine .inr ⟨hrank, hwaits'.trans hwaits.symm, ?_, ?_⟩
  · rw [hwaits]
    rintro ⟨⟩
  · rw [hwaits]
    rintro _ ⟨⟩

variable {t : ClientThreads}

/-- The launch thread comes closer to its end, for whoever joins it. -/
theorem Ordered.launchStep (h : t.Ordered) {pc pc' : LaunchPc} {m' : Memory}
    {reading' : Option ReadingPc} (hpc : t.launch = some pc)
    (hstep : LaunchStep t.memory t.reading pc m' reading' pc') :
    t.Approaches { t with launch := some pc', memory := m', reading := reading' } .launch := by
  rcases t with ⟨m, control, launch, reading⟩
  subst hpc
  cases control with
  | stop destructor stopPc =>
    cases stopPc with
    | joinLaunch =>
      -- the order is given, so the launch thread only gets closer, or goes round its loop once more
      have hstop : m.m_stopOrder = true := h.launch destructor rfl
      rcases hstep.nears hstop with hlt | ⟨heq, hlooping, hlooping'⟩
      · exact .inl (Nat.add_lt_add_left hlt _)
      · have hdone : pc ≠ .done := by
          rintro rfl
          cases hlooping
        have hdone' : pc' ≠ .done := by
          rintro rfl
          cases hlooping'
        refine .inr ⟨congrArg (18 * StopPc.joinLaunch.rank + ·) heq, ?_, fun _ => hlooping, ?_⟩
        · simp [waitsFor, hdone, hdone']
        · intro awaited hwaits _
          have hwaits : some ClientThread.launch = some awaited := by
            simpa [waitsFor, hdone] using hwaits
          cases hwaits
          exact hlooping'
    | joinReading =>
      -- it has been joined before
      have hnone : some pc = none := (h.reading destructor rfl).2.2
      cases hnone
    | _ => exact approaches_of_none rfl rfl rfl
  | start startPc => cases startPc <;> exact approaches_of_none rfl rfl rfl
  | _ => exact approaches_of_none rfl rfl rfl

/-- So does the reading thread. -/
theorem Ordered.readingStep (h : t.Ordered) {pc pc' : ReadingPc} {l : Label} {m' : Memory}
    (hpc : t.reading = some pc) (hstep : ReadingStep t.memory pc l m' pc') :
    t.Approaches { t with reading := some pc', memory := m' } .reading := by
  rcases t with ⟨m, control, launch, reading⟩
  subst hpc
  cases control with
  | stop destructor stopPc =>
    cases stopPc with
    | joinLaunch =>
      -- the launch thread is waited for, and has not moved
      have hlaunch : ∀ awaited, waitsFor ⟨m, .stop destructor .joinLaunch, launch, some pc⟩ =
          some awaited → awaited = .launch := by
        intro awaited hwaits
        unfold waitsFor at hwaits
        by_cases hdone : launch = some .done
        · simp [hdone] at hwaits
        · simpa [hdone] using hwaits.symm
      refine .inr ⟨rfl, rfl, fun hwaits => ?_, fun awaited hwaits hlooping => ?_⟩
      · cases hlaunch _ hwaits
      · cases hlaunch _ hwaits
        exact hlooping
    | joinReading =>
      rcases h.reading destructor rfl with ⟨hstop, hactivated, _⟩
      rcases hstep.nears hstop hactivated with hlt | ⟨heq, hlooping, hlooping'⟩
      · exact .inl (Nat.add_lt_add_left hlt _)
      · have hdone : pc ≠ .done := by
          rintro rfl
          cases hlooping
        have hdone' : pc' ≠ .done := by
          rintro rfl
          cases hlooping'
        refine .inr ⟨congrArg (18 * StopPc.joinReading.rank + ·) heq, ?_, fun _ => hlooping, ?_⟩
        · simp [waitsFor, hdone, hdone']
        · intro awaited hwaits _
          have hwaits : some ClientThread.reading = some awaited := by
            simpa [waitsFor, hdone] using hwaits
          cases hwaits
          exact hlooping'
    | _ => exact approaches_of_none rfl rfl rfl
  | start startPc => cases startPc <;> exact approaches_of_none rfl rfl rfl
  | _ => exact approaches_of_none rfl rfl rfl

/-! ### Whoever is waited for can go on -/

/-- A launch thread that is joined can act. -/
theorem Coherent.waits_launch {started : Bool} (h : t.Coherent started) (hordered : t.Ordered)
    (hwaits : t.waitsFor = some .launch) :
    ∃ pc, t.launch = some pc ∧ ∃ m' reading' pc', LaunchStep t.memory t.reading pc m' reading' pc' := by
  rcases t with ⟨m, control, launch, reading⟩
  cases control with
  | stop destructor stopPc =>
    cases stopPc with
    | joinLaunch =>
      rcases h with ⟨_, _, pc, hpc, hsafe⟩
      have hpc : launch = some pc := hpc
      subst hpc
      have hdone : pc ≠ .done := by
        rintro rfl
        simp [waitsFor] at hwaits
      rcases exists_launchStep (hordered.launch destructor rfl) hsafe hdone with
        ⟨m', reading', pc', hstep, _⟩
      exact ⟨pc, rfl, m', reading', pc', hstep⟩
    | joinReading =>
      by_cases hdone : reading = some .done <;> simp [waitsFor, hdone] at hwaits
    | _ => cases hwaits
  | _ => cases hwaits

/-- So can a reading thread that is joined, but for the mutex that `ingest` needs. -/
theorem Coherent.waits_reading {started : Bool} (h : t.Coherent started) (hordered : t.Ordered)
    (hwaits : t.waitsFor = some .reading) :
    ∃ pc, t.reading = some pc ∧
      ∃ l m' pc', ReadingStep t.memory pc l m' pc' ∧ (l = .internal ∨ pc = .ingest) := by
  rcases t with ⟨m, control, launch, reading⟩
  cases control with
  | stop destructor stopPc =>
    cases stopPc with
    | joinLaunch =>
      by_cases hdone : launch = some .done <;> simp [waitsFor, hdone] at hwaits
    | joinReading =>
      rcases hordered.reading destructor rfl with ⟨hstop, hactivated, _⟩
      rcases h with ⟨_, _, _, _, _, pc, hpc, hsafe⟩
      have hpc : reading = some pc := hpc
      subst hpc
      have hdone : pc ≠ .done := by
        rintro rfl
        simp [waitsFor] at hwaits
      rcases exists_readingStep hstop hactivated hsafe hdone with ⟨l, m', pc', hstep, hl, _⟩
      refine ⟨pc, rfl, l, m', pc', hstep, ?_⟩
      rcases hl with hl | rfl
      · exact .inl hl
      · cases hstep <;> exact .inr rfl
    | _ => cases hwaits
  | _ => cases hwaits

/-! ### The control thread -/

/-- The statement of `stop` that comes next has a lower rank. -/
theorem callRank_lt {t t' : ClientThreads} {destructor destructor' : Bool} {pc pc' : StopPc}
    (hpc : t.control = .stop destructor pc) (hpc' : t'.control = .stop destructor' pc')
    (hlt : pc'.rank < pc.rank) : t'.callRank < t.callRank := by
  have hwait : t'.waitRank ≤ 17 := t'.waitRank_le
  unfold callRank
  rw [hpc, hpc']
  show 18 * pc'.rank + t'.waitRank < 18 * pc.rank + t.waitRank
  omega

/-- A statement of `start` or `stop` itself comes closer to its end. -/
theorem callRank_control {t t' : ClientThreads} (hidle : t.control ≠ .idle)
    (hstep : ControlStep t t.control .internal t') : t'.callRank < t.callRank := by
  rcases t with ⟨m, control, launch, reading⟩
  cases hstep with
  | spawn => exact (by decide : 1 < 2)
  | assign => exact (by decide : 0 < 1)
  | setStopOrder => exact callRank_lt rfl rfl (by decide)
  | joinable _ => exact callRank_lt rfl rfl (by decide)
  | notJoinable _ => exact callRank_lt rfl rfl (by decide)
  | joinLaunch _ => exact callRank_lt rfl rfl (by decide)
  | notActivated _ => exact callRank_lt rfl rfl (by decide)
  | activated _ => exact callRank_lt rfl rfl (by decide)
  | clearActivated => exact callRank_lt rfl rfl (by decide)
  | joinReading _ => exact callRank_lt rfl rfl (by decide)
  | destroy hdestroy => exact callRank_lt rfl rfl hdestroy.rank_lt

/-- The control thread moves on with each of its steps. -/
theorem control_ne {t t' : ClientThreads} {l : Label} (hstep : ControlStep t t.control l t') :
    t'.control ≠ t.control := by
  rcases t with ⟨m, control, launch, reading⟩
  cases hstep with
  | destroy hdestroy => cases hdestroy <;> simp
  | @returns destructor _ _ _ => cases destructor <;> simp
  | _ => simp

/-- In the middle of `stop`, the control thread waits for another one or can go on. -/
theorem exists_controlStep {t : ClientThreads} {destructor : Bool} {pc : StopPc}
    (hpc : t.control = .stop destructor pc)
    (hwaits : t.waitsFor = none) :
    ∃ l t', ControlStep t t.control l t' ∧ (l = .internal ∨ l = .stopReturns) := by
  rcases t with ⟨m, control, launch, reading⟩
  subst hpc
  cases pc with
  | setStopOrder => exact ⟨_, _, .setStopOrder, .inl rfl⟩
  | testJoinable =>
    cases hjoinable : m.m_backgroundLaunchThread with
    | true => exact ⟨_, _, .joinable hjoinable, .inl rfl⟩
    | false => exact ⟨_, _, .notJoinable hjoinable, .inl rfl⟩
  | joinLaunch =>
    -- otherwise it would wait for the launch thread
    by_cases hdone : launch = some .done
    · exact ⟨_, _, .joinLaunch hdone, .inl rfl⟩
    · simp [waitsFor, hdone] at hwaits
  | testActivated =>
    cases hactivated : m.m_isMmsReadingActivated with
    | true => exact ⟨_, _, .activated hactivated, .inl rfl⟩
    | false => exact ⟨_, _, .notActivated hactivated, .inl rfl⟩
  | clearActivated => exact ⟨_, _, .clearActivated, .inl rfl⟩
  | joinReading =>
    -- and here for the reading thread
    by_cases hdone : reading = some .done
    · exact ⟨_, _, .joinReading hdone, .inl rfl⟩
    · simp [waitsFor, hdone] at hwaits
  | destroy pc =>
    cases pc with
    | test =>
      cases hconnection : m.m_connection with
      | true => exact ⟨_, _, .destroy (.present hconnection), .inl rfl⟩
      | false => exact ⟨_, _, .returns (.absent hconnection), .inr rfl⟩
    | reset => exact ⟨_, _, .destroy .reset, .inl rfl⟩
    | closing => exact ⟨_, _, .returns .closed, .inr rfl⟩

end ClientThreads

/-! ## A bound on the work that is left of `stop` -/

/-- A statement of one of the threads of a client; `none` is the thread that calls `start`
and `stop`. -/
inductive ActorStep (t : ClientThreads) : Option ClientThread → Label → ClientThreads → Prop
  | control {l : Label} {t' : ClientThreads} : ControlStep t t.control l t' → ActorStep t none l t'
  | launch {pc pc' : LaunchPc} {m' : Memory} {reading' : Option ReadingPc} :
      t.launch = some pc → LaunchStep t.memory t.reading pc m' reading' pc' →
      ActorStep t (some .launch) .internal
        { t with launch := some pc', memory := m', reading := reading' }
  | reading {pc pc' : ReadingPc} {l : Label} {m' : Memory} :
      t.reading = some pc → ReadingStep t.memory pc l m' pc' →
      ActorStep t (some .reading) l { t with reading := some pc', memory := m' }

/-- Each statement is one of some thread. -/
theorem threadStep_iff {t t' : ClientThreads} {l : Label} :
    ThreadStep t l t' ↔ ∃ actor, ActorStep t actor l t' := by
  constructor
  · intro hstep
    cases hstep with
    | control hstep => exact ⟨_, .control hstep⟩
    | launch hpc hstep => exact ⟨_, .launch hpc hstep⟩
    | reading hpc hstep => exact ⟨_, .reading hpc hstep⟩
  · rintro ⟨actor, hstep⟩
    cases hstep with
    | control hstep => exact .control hstep
    | launch hpc hstep => exact .launch hpc hstep
    | reading hpc hstep => exact .reading hpc hstep

/-- The thread that has to go on before `stop` can return acts outside the loops over the
items: the one that is joined, or else the one that executes `stop`. -/
def ClientThreads.Helps (t : ClientThreads) (actor : Option ClientThread) : Prop :=
  actor = t.waitsFor ∧ ∀ thread, actor = some thread → t.isLooping thread = false

/-- A statement, with whether it counts. -/
def StopStep (t : ClientThreads) (l : Bool × Label) (t' : ClientThreads) : Prop :=
  ∃ actor, ActorStep t actor l.2 t' ∧ (l.1 = true ↔ t.Helps actor)

/-- In the middle of `stop`. -/
structure ClientThreads.InStop (destructor : Bool) (t : ClientThreads) : Prop where
  control : ∃ pc, t.control = .stop destructor pc
  coherent : t.Coherent false
  stopOrdered : StopOrdered t

section StopWork

variable {t t' : ClientThreads} {destructor : Bool}

/-- The thread that executes `stop` leaves it by returning only. -/
theorem ControlStep.inStop {l : Label} {pc : StopPc} (hpc : t.control = .stop destructor pc)
    (hstep : ControlStep t t.control l t') (hl : l ≠ .stopReturns) :
    l = .internal ∧ ∃ pc', t'.control = .stop destructor pc' := by
  rw [hpc] at hstep
  cases hstep with
  | returns _ => exact absurd rfl hl
  | _ => exact ⟨rfl, _, rfl⟩

/-- A thread of the client leaves the call that is under way. -/
theorem ActorStep.control_eq {thread : ClientThread} {l : Label}
    (hstep : ActorStep t (some thread) l t') : t'.control = t.control := by
  cases hstep <;> rfl

/-- Only the thread that executes `stop` shows its calls and its return. -/
theorem ActorStep.monitored {thread : ClientThread} {l : Label}
    (hstep : ActorStep t (some thread) l t') (started : Bool) :
    startMonitor started l = some started := by
  cases hstep with
  | launch _ _ => exact startMonitor_internal started
  | reading _ hstep => cases hstep <;> cases started <;> rfl

/-- **The step lemma.** Whoever acts, `stop` gets no further from its return, and a statement
that counts brings it closer. -/
theorem ClientThreads.InStop.step (h : t.InStop destructor) {l : Bool × Label}
    (hstep : StopStep t l t') (hl : l.2 ≠ .stopReturns) :
    t'.InStop destructor ∧ t'.callRank ≤ t.callRank ∧ (l.1 = true → t'.callRank < t.callRank) := by
  rcases l with ⟨counted, l⟩
  rcases h.control with ⟨pc, hpc⟩
  rcases hstep with ⟨actor, hacts, hcounts⟩
  have hthread : ThreadStep t l t' := threadStep_iff.mpr ⟨actor, hacts⟩
  have hordered : StopOrdered t' := h.stopOrdered.step hthread
  cases actor with
  | none =>
    cases hacts with
    | control hcontrol =>
      rcases hcontrol.inStop hpc hl with ⟨rfl, pc', hpc'⟩
      have hcoherent : t'.Coherent false := h.coherent.step hthread (startMonitor_internal false)
      have hlt : t'.callRank < t.callRank := ClientThreads.callRank_control (by simp [hpc]) hcontrol
      exact ⟨⟨⟨pc', hpc'⟩, hcoherent, hordered⟩, Nat.le_of_lt hlt, fun _ => hlt⟩
  | some thread =>
    have hcoherent : t'.Coherent false := h.coherent.step hthread (hacts.monitored false)
    refine ⟨⟨⟨pc, hacts.control_eq.trans hpc⟩, hcoherent, hordered⟩, ?_⟩
    have happroaches : t.Approaches t' thread := by
      have horders : t.Ordered := h.coherent.ordered h.stopOrdered
      cases hacts with
      | launch hpc hstep => exact horders.launchStep hpc hstep
      | reading hpc hstep => exact horders.readingStep hpc hstep
    rcases happroaches with hlt | ⟨heq, _, hlooping, _⟩
    · exact ⟨Nat.le_of_lt hlt, fun _ => hlt⟩
    · refine ⟨Nat.le_of_eq heq, fun hcounted => ?_⟩
      -- the thread that is waited for is in a loop
      rcases hcounts.mp hcounted with ⟨hwaits, hnot⟩
      have hfalse : t.isLooping thread = false := hnot thread rfl
      rw [hlooping hwaits.symm] at hfalse
      cases hfalse

/-- Whoever has to go on can. -/
theorem ClientThreads.InStop.exists_step (h : t.InStop destructor) :
    ∃ l t', ActorStep t t.waitsFor l t' := by
  have horders : t.Ordered := h.coherent.ordered h.stopOrdered
  cases hwaits : t.waitsFor with
  | none =>
    rcases h.control with ⟨pc, hpc⟩
    rcases ClientThreads.exists_controlStep hpc hwaits with ⟨l, t', hstep, _⟩
    exact ⟨l, t', .control hstep⟩
  | some thread =>
    cases thread with
    | launch =>
      rcases h.coherent.waits_launch horders hwaits with ⟨pc, hpc, m', reading', pc', hstep⟩
      exact ⟨_, _, .launch hpc hstep⟩
    | reading =>
      rcases h.coherent.waits_reading horders hwaits with ⟨pc, hpc, l, m', pc', hstep, _⟩
      exact ⟨_, _, .reading hpc hstep⟩

end StopWork

end Iec61850South
