import Iec61850South.Client.Progress
import Iec61850South.Plugin.System

/-! # How far the clients of the plugin are

Where the thread of Fledge stands determines how far each client is (`statusAt`).
A call takes a client from one status to the next one, and the threads of the
client itself never change its status.
-/

namespace Iec61850South

open Lib Std

/-- How far a client is in its life. -/
inductive Status where
  /-- It has been started. -/
  | serving
  /-- It has not been started, or `stop` has returned. -/
  | halted
  | starting
  /-- in `stop`, or in the destructor of a client that has been started -/
  | stopping (destructor : Bool)
  /-- in the destructor of a halted client -/
  | destroying

/-- The threads of a client with this status. -/
def Status.Holds (t : ClientThreads) : Status → Prop
  | .serving => t.control = .idle ∧ t.Coherent true
  | .halted => t.control = .idle ∧ t.Quiet
  | .starting => (∃ pc, t.control = .start pc) ∧ t.Coherent true
  | .stopping destructor => (∃ pc, t.control = .stop destructor pc) ∧ t.Coherent false ∧ StopOrdered t
  | .destroying => (∃ pc, t.control = .stop true pc) ∧ t.Quiet ∧ StopOrdered t

/-- How far the client at a place is. -/
def SystemPc.statusAt : SystemPc → Place → Status
  | .stopping _ keys, .stored key => if key ∈ keys then .serving else .halted
  | .inStop _ stopped keys, .stored key =>
    if key = stopped then .stopping false else if key ∈ keys then .serving else .halted
  | .clearing _, .stored _ => .halted
  | .inClear _ cleared, .stored key => if key = cleared then .destroying else .halted
  | .replacing created _ _, .stored key => if key = created then .halted else .serving
  | .inReplace created _ _, .stored key => if key = created then .halted else .serving
  | .inReplace _ _ _, .replaced => .stopping true
  | .launching created _, .stored key => if key = created then .halted else .serving
  | .inStart started _, .stored key => if key = started then .starting else .serving
  | _, _ => .serving

section Status

variable {t t' : ClientThreads} {l : Label}

/-- A client that has just been constructed has no threads. -/
theorem quiet_initial : ClientThreads.Quiet {} :=
  ⟨ClientThreads.coherent_initial, ⟨rfl, rfl, rfl, rfl, rfl⟩, rfl⟩

/-- In every status the threads are coherent, started or not. -/
theorem Status.Holds.coherent {status : Status} (h : status.Holds t) :
    ∃ started, t.Coherent started := by
  cases status with
  | serving => exact ⟨true, h.2⟩
  | halted => exact ⟨false, h.2.1⟩
  | starting => exact ⟨true, h.2⟩
  | stopping destructor => exact ⟨false, h.2.1⟩
  | destroying => exact ⟨false, h.2.1.1⟩

/-- The threads of a client leave its status as it is. -/
theorem Status.Holds.background {status : Status} (h : status.Holds t) (hstep : ThreadStep t l t')
    (hl : ∀ started, startMonitor started l = some started) (hcontrol : t'.control = t.control)
    (hstart : l ≠ .callStart) : status.Holds t' := by
  cases status with
  | serving => exact ⟨hcontrol.trans h.1, h.2.step hstep (hl true)⟩
  | halted => exact ⟨hcontrol.trans h.1, h.2.step hstep hstart⟩
  | starting =>
    rcases h with ⟨⟨pc, hpc⟩, hcoherent⟩
    exact ⟨⟨pc, hcontrol.trans hpc⟩, hcoherent.step hstep (hl true)⟩
  | stopping destructor =>
    rcases h with ⟨⟨pc, hpc⟩, hcoherent, hordered⟩
    exact ⟨⟨pc, hcontrol.trans hpc⟩, hcoherent.step hstep (hl false), hordered.step hstep⟩
  | destroying =>
    rcases h with ⟨⟨pc, hpc⟩, hquiet, hordered⟩
    exact ⟨⟨pc, hcontrol.trans hpc⟩, hquiet.step hstep hstart, hordered.step hstep⟩

/-! ## Calls -/

/-- `start` is called on a halted client. -/
theorem Status.Holds.callStart (h : Status.halted.Holds t)
    (hstep : ControlStep t t.control .callStart t') : Status.starting.Holds t' := by
  refine ⟨?_, h.2.1.step (.control hstep) rfl⟩
  rw [h.1] at hstep
  cases hstep
  exact ⟨_, rfl⟩

/-- `stop` is called on a serving client. -/
theorem Status.Holds.callStop (h : Status.serving.Holds t)
    (hstep : ControlStep t t.control .callStop t') : (Status.stopping false).Holds t' := by
  have hordered : StopOrdered t' := (StopOrdered.of_idle h.1).step (.control hstep)
  refine ⟨?_, h.2.step (.control hstep) rfl, hordered⟩
  rw [h.1] at hstep
  cases hstep
  exact ⟨_, rfl⟩

/-- A serving client is destroyed: its destructor calls `stop`. -/
theorem Status.Holds.callDestructor (h : Status.serving.Holds t)
    (hstep : ControlStep t t.control .callDestructor t') : (Status.stopping true).Holds t' := by
  have hordered : StopOrdered t' := (StopOrdered.of_idle h.1).step (.control hstep)
  refine ⟨?_, h.2.step (.control hstep) rfl, hordered⟩
  rw [h.1] at hstep
  cases hstep
  exact ⟨_, rfl⟩

/-- A halted client is destroyed: `stop` finds nothing to join. -/
theorem Status.Holds.callLateDestructor (h : Status.halted.Holds t)
    (hstep : ControlStep t t.control .callDestructor t') : Status.destroying.Holds t' := by
  have hordered : StopOrdered t' := (StopOrdered.of_idle h.1).step (.control hstep)
  refine ⟨?_, h.2.step (.control hstep) (by simp), hordered⟩
  rw [h.1] at hstep
  cases hstep
  exact ⟨_, rfl⟩

/-! ## Statements inside a call -/

/-- Inside `stop`, no statement leaves it. -/
theorem control_stop_internal {destructor : Bool} {pc : StopPc}
    (hpc : t.control = .stop destructor pc) (hstep : ControlStep t t.control .internal t') :
    ∃ pc', t'.control = .stop destructor pc' := by
  rw [hpc] at hstep
  cases hstep with
  | setStopOrder => exact ⟨_, rfl⟩
  | joinable _ => exact ⟨_, rfl⟩
  | notJoinable _ => exact ⟨_, rfl⟩
  | joinLaunch _ => exact ⟨_, rfl⟩
  | notActivated _ => exact ⟨_, rfl⟩
  | activated _ => exact ⟨_, rfl⟩
  | clearActivated => exact ⟨_, rfl⟩
  | joinReading _ => exact ⟨_, rfl⟩
  | destroy _ => exact ⟨_, rfl⟩

/-- The statements of `stop` keep it under way. -/
theorem Status.Holds.stop {destructor : Bool} (h : (Status.stopping destructor).Holds t)
    (hstep : ControlStep t t.control .internal t') : (Status.stopping destructor).Holds t' := by
  rcases h with ⟨⟨pc, hpc⟩, hcoherent, hordered⟩
  exact ⟨control_stop_internal hpc hstep, hcoherent.step (.control hstep) rfl,
    hordered.step (.control hstep)⟩

/-- So do those of `stop` on a halted client. -/
theorem Status.Holds.destroy (h : Status.destroying.Holds t)
    (hstep : ControlStep t t.control .internal t') : Status.destroying.Holds t' := by
  rcases h with ⟨⟨pc, hpc⟩, hquiet, hordered⟩
  exact ⟨control_stop_internal hpc hstep, hquiet.step (.control hstep) (by simp),
    hordered.step (.control hstep)⟩

/-- After its last statement, `start` returns. -/
theorem Status.Holds.start (h : Status.starting.Holds t)
    (hstep : ControlStep t t.control .internal t') :
    if t'.control = .idle then Status.serving.Holds t' else Status.starting.Holds t' := by
  rcases h with ⟨⟨pc, hpc⟩, hcoherent⟩
  have hcoherent' : t'.Coherent true := hcoherent.step (.control hstep) rfl
  rw [hpc] at hstep
  cases hstep with
  | spawn =>
    rw [if_neg (by simp)]
    exact ⟨⟨_, rfl⟩, hcoherent'⟩
  | assign =>
    rw [if_pos rfl]
    exact ⟨rfl, hcoherent'⟩

/-! ## The end of a call -/

/-- When `stop` returns, the client is halted. -/
theorem Status.Holds.stopped (h : (Status.stopping false).Holds t)
    (hstep : ControlStep t t.control .stopReturns t') : Status.halted.Holds t' := by
  refine ⟨?_, h.2.1.stopReturns (.control hstep)⟩
  rcases h with ⟨⟨pc, hpc⟩, _, _⟩
  rw [hpc] at hstep
  cases hstep
  rfl

end Status

end Iec61850South
