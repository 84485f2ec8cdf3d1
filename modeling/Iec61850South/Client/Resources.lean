import Iec61850South.Client.CallsRefinement
import Iec61850South.Lib.Hoare

/-! # What a client allocates, locks and waits for

`Owns h` says what a client holds in the middle of a call: its connection, the lists
of the dataset directories, which are never destroyed, and the local variables `h.held`
of the functions that are under way. The mutex of the connection is one of them.
-/

namespace Iec61850South

open Lib Std

def Resource.address : Resource → Address
  | .iedConnection a => a
  | .mutex a => a
  | .mmsValue a => a
  | .clientDataSet a => a
  | .dataDirectory a => a
  | .dataSetDirectory a => a

/-- What is not a local variable of any function. -/
def Resource.isKept : Resource → Bool
  | .iedConnection _ => true
  | .dataSetDirectory _ => true
  | _ => false

/-- What has to be locked before a resource is used. -/
def Resource.lock : Resource → Option Resource
  | .iedConnection a => some (.mutex a)
  | _ => none

/-- What a client holds, and how long it has to sleep before it may connect again. -/
structure Holding where
  held : List Resource := []
  connection : Option Address
  due : Nat := 0

/-- One more local variable. -/
def Holding.push (h : Holding) (r : Resource) : Holding := { h with held := r :: h.held }

namespace Library

/-- What is live while `h` is held: the lists of the dataset directories stay so. -/
def Live (h : Holding) (actions : List (Action Resource)) (r : Resource) : Prop :=
  r ∈ h.held ∨ (∃ a, h.connection = some a ∧ r = .iedConnection a) ∨
    ∃ a, r = .dataSetDirectory a ∧ .acquire r ∈ actions

/-- The history of actions accounts for what is held, and for nothing else. -/
structure Owns (h : Holding) (s : LibraryState) : Prop where
  live : ∃ live, replay s.actions = some live ∧ ∀ r, r ∈ live ↔ Live h s.actions r
  fresh : ∀ r, .acquire r ∈ s.actions → r.address ≤ s.allocated
  connection : s.client.m_connection.isSome = h.connection.isSome ∧
    ∀ a, h.connection = some a → s.m_iedConnection = a
  spaced : s.connects.Pairwise fun t t' => t + SECOND_IN_MILLISEC ≤ t'
  rested : ∀ t ∈ s.connects, t + SECOND_IN_MILLISEC ≤ s.slept + h.due
  locked : UsedUnder Resource.lock s.actions

/-- No exception is thrown that the code goes on from. -/
def Uncaught (e : Abort) (_ : LibraryState) : Prop :=
  e.isCaught = false

/-- Whoever catches an exception holds what was held before. -/
def Unwound (h : Holding) (e : Abort) (s : LibraryState) : Prop :=
  e.isCaught = true → Owns h s

/-- The computation holds the same before and after, and throws no exception. -/
def Calm {α : Type} (h : Holding) (x : LibraryM α) : Prop :=
  Hoare (Owns h) x (fun _ => Owns h) Uncaught

/-- On every exit that the code goes on from, the same is held as before. -/
def Balanced {α : Type} (h : Holding) (x : LibraryM α) : Prop :=
  Hoare (Owns h) x (fun _ => Owns h) (Unwound h)

/-! ## Single actions -/

section Actions

variable {h : Holding} {s : LibraryState} {r : Resource}

/-- Only what has been acquired is live. -/
theorem Owns.acquired (hs : Owns h s) (hr : Live h s.actions r) : .acquire r ∈ s.actions := by
  rcases hs.live with ⟨live, hreplay, hlive⟩
  have hcount := count_acquire hreplay r
  rw [if_pos ((hlive r).mpr hr)] at hcount
  exact List.count_pos_iff.mp (by omega)

/-- A live resource is used, with its lock held. -/
theorem Owns.use (hs : Owns h s) (hr : Live h s.actions r)
    (hlock : ∀ lock, r.lock = some lock → lock ∈ h.held) :
    Owns h { s with actions := s.actions ++ [.use r] } := by
  have hsame : ∀ r', .acquire r' ∈ s.actions ++ [.use r] ↔ .acquire r' ∈ s.actions := by simp
  rcases hs.live with ⟨live, hreplay, hlive⟩
  constructor
  case live =>
    refine ⟨live, replay_use hreplay ((hlive r).mpr hr), ?_⟩
    intro r'
    rw [hlive r', Live, Live, hsame]
  case fresh =>
    intro r' hr'
    exact hs.fresh r' ((hsame r').mp hr')
  case connection => exact hs.connection
  case spaced => exact hs.spaced
  case rested => exact hs.rested
  case locked =>
    refine hs.locked.concat fun r' lock heq hr' => ?_
    cases heq
    exact ⟨live, hreplay, (hlive lock).mpr (.inl (hlock lock hr'))⟩

/-- A new resource is held from now on. -/
theorem Owns.acquire (hs : Owns h s) {allocated : Nat} (hallocated : s.allocated ≤ allocated)
    (haddress : r.address ≤ allocated) (hr : ¬ Live h s.actions r) :
    Owns (h.push r)
      { s with allocated := allocated, actions := s.actions ++ [.acquire r] } := by
  rcases hs.live with ⟨live, hreplay, hlive⟩
  have hnew : ∀ r', .acquire r' ∈ s.actions ++ [.acquire r] ↔ .acquire r' ∈ s.actions ∨ r' = r := by
    simp
  constructor
  case live =>
    refine ⟨insert r live, replay_acquire hreplay (mt (hlive r).mp hr), ?_⟩
    intro r'
    -- what is live afterwards: the new resource, or what has been live for one of three reasons
    rw [Finset.mem_insert, hlive r', Live, Live, Holding.push, List.mem_cons, or_assoc]
    constructor
    · rintro (rfl | hheld | hconn | ⟨a, heq, hmem⟩)
      · exact .inl rfl
      · exact .inr (.inl hheld)
      · exact .inr (.inr (.inl hconn))
      · exact .inr (.inr (.inr ⟨a, heq, (hnew r').mpr (.inl hmem)⟩))
    · rintro (rfl | hheld | hconn | ⟨a, heq, hmem⟩)
      · exact .inl rfl
      · exact .inr (.inl hheld)
      · exact .inr (.inr (.inl hconn))
      · rcases (hnew r').mp hmem with hmem | hsame
        · exact .inr (.inr (.inr ⟨a, heq, hmem⟩))
        · exact .inl hsame
  case fresh =>
    intro r' hr'
    rcases (hnew r').mp hr' with hmem | rfl
    · exact (hs.fresh r' hmem).trans hallocated
    · exact haddress
  case connection => exact hs.connection
  case spaced => exact hs.spaced
  case rested => exact hs.rested
  case locked => exact hs.locked.concat (by rintro _ _ ⟨⟩)

/-- What is released is not live any more. -/
theorem Owns.release (hs : Owns (h.push r) s) (hr : ¬ Live h s.actions r) :
    Owns h { s with actions := s.actions ++ [.release r] } := by
  rcases hs.live with ⟨live, hreplay, hlive⟩
  have hmem : r ∈ live := (hlive r).mpr (.inl List.mem_cons_self)
  have hsame : ∀ r', .acquire r' ∈ s.actions ++ [.release r] ↔ .acquire r' ∈ s.actions := by simp
  have hlive' : ∀ r', Live h (s.actions ++ [.release r]) r' ↔ Live h s.actions r' := by
    intro r'
    rw [Live, Live, hsame]
  constructor
  case live =>
    refine ⟨live.erase r, replay_release hreplay hmem, ?_⟩
    intro r'
    rw [Finset.mem_erase, hlive r', hlive' r']
    constructor
    · rintro ⟨hne, hheld | hkept⟩
      · exact .inl ((List.mem_cons.mp hheld).resolve_left hne)
      · exact .inr hkept
    · intro hbelow
      refine ⟨?_, ?_⟩
      · rintro rfl
        exact hr hbelow
      · rcases hbelow with hheld | hkept
        · exact .inl (List.mem_cons_of_mem r hheld)
        · exact .inr hkept
  case fresh =>
    intro r' hr'
    exact hs.fresh r' ((hsame r').mp hr')
  case connection => exact hs.connection
  case spaced => exact hs.spaced
  case rested => exact hs.rested
  case locked => exact hs.locked.concat (by rintro _ _ ⟨⟩)

/-- A local variable of another kind is live only while it is held. -/
theorem not_live {actions : List (Action Resource)} (hr : r ∉ h.held) (hkind : r.isKept = false) :
    ¬ Live h actions r := by
  rintro (hheld | ⟨a, _, heq⟩ | ⟨a, heq, _⟩)
  · exact hr hheld
  · rw [heq] at hkind
    cases hkind
  · rw [heq] at hkind
    cases hkind

/-- The list of a dataset directory stays live when its variable goes out of scope. -/
theorem Owns.leak {a : Address} (hs : Owns (h.push (.dataSetDirectory a)) s) : Owns h s := by
  have hacquired := hs.acquired (r := .dataSetDirectory a) (.inl List.mem_cons_self)
  rcases hs.live with ⟨live, hreplay, hlive⟩
  refine ⟨⟨live, hreplay, ?_⟩, hs.fresh, hs.connection, hs.spaced, hs.rested, hs.locked⟩
  intro r
  rw [hlive r]
  constructor
  · rintro (hheld | hkept)
    · rcases List.mem_cons.mp hheld with rfl | hheld
      · exact .inr (.inr ⟨a, rfl, hacquired⟩)
      · exact .inl hheld
    · exact .inr hkept
  · rintro (hheld | hkept)
    · exact .inl (List.mem_cons_of_mem _ hheld)
    · exact .inr hkept

/-- The client itself may change, as long as it keeps its connection or has none. -/
theorem Owns.client (hs : Owns h s) {c : ClientState}
    (hsame : c.m_connection.isSome = s.client.m_connection.isSome) :
    Owns h { s with client := c } :=
  ⟨hs.live, hs.fresh, ⟨hsame.trans hs.connection.1, hs.connection.2⟩, hs.spaced, hs.rested, hs.locked⟩

/-- The order of the local variables does not matter. -/
theorem Owns.swap {r' : Resource} (hs : Owns ((h.push r).push r') s) :
    Owns ((h.push r').push r) s := by
  rcases hs.live with ⟨live, hreplay, hlive⟩
  refine ⟨⟨live, hreplay, ?_⟩, hs.fresh, hs.connection, hs.spaced, hs.rested, hs.locked⟩
  intro q
  rw [hlive q]
  refine or_congr_left ?_
  show q ∈ r' :: r :: h.held ↔ q ∈ r :: r' :: h.held
  rw [List.mem_cons, List.mem_cons, List.mem_cons, List.mem_cons, or_left_comm]

end Actions

/-! ## Statements -/

section Statements

variable {α β : Type} {h : Holding} {E : Abort → LibraryState → Prop}

/-- A use changes nothing of what is held. -/
theorem act_use_hoare {r : Resource} (hr : ∀ actions, Live h actions r)
    (hlock : ∀ lock, r.lock = some lock → lock ∈ h.held) :
    Hoare (Owns h) (act (.use r)) (fun _ => Owns h) E :=
  .modify fun _ hs => hs.use (hr _) hlock

/-- What is released was the newest of what is held. -/
theorem act_release_hoare {r : Resource} (hr : ∀ actions, ¬ Live h actions r) :
    Hoare (Owns (h.push r)) (act (.release r)) (fun _ => Owns h) E :=
  .modify fun _ hs => hs.release (hr _)

/-- An object that the first free address is given to. -/
theorem allocate_hoare {kind : Address → Resource} (haddress : ∀ a, (kind a).address = a) :
    Hoare (Owns h) (allocate kind)
      (fun a s => (a ≠ 0 ∧ kind a ∉ h.held) ∧ Owns (h.push (kind a)) s) E := by
  refine .of_ok fun s hs => ⟨s.allocated + 1, _, rfl, ?_⟩
  have hnew : ¬ Live h s.actions (kind (s.allocated + 1)) := by
    intro hlive
    have hle := hs.fresh _ (hs.acquired hlive)
    rw [haddress] at hle
    exact absurd hle (Nat.not_succ_le_self _)
  refine ⟨⟨Nat.succ_ne_zero _, fun hheld => hnew (.inl hheld)⟩, ?_⟩
  exact hs.acquire (Nat.le_succ _) (by rw [haddress]) hnew

/-- A statement of the first embedding that neither creates nor destroys the connection. -/
theorem lift_hoare {x : ClientM α} {G : Abort → Prop}
    (hx : ∀ b, Keeps (fun c : ClientState => c.m_connection.isSome = b) G x) :
    Hoare (Owns h) (lift x) (fun _ => Owns h) fun e s => G e ∧ Owns h s := by
  intro s hs
  rcases hx s.client.m_connection.isSome s.client rfl with ⟨hkeeps, herror⟩
  unfold lift zoom
  cases hrun : x s.client with
  | ok a c =>
    rw [hrun] at hkeeps
    refine ⟨?_, fun e s' heq => (by cases heq)⟩
    intro a' s' heq
    cases heq
    exact hs.client hkeeps
  | error e c =>
    rw [hrun] at hkeeps
    refine ⟨fun a s' heq => (by cases heq), ?_⟩
    intro e' s' heq
    cases heq
    exact ⟨herror e c hrun, hs.client hkeeps⟩

/-- A statement of the first embedding that keeps the connection and throws nothing that is
caught. -/
theorem lift_calm {x : ClientM α}
    (hx : ∀ b, Keeps (fun c : ClientState => c.m_connection.isSome = b)
      (fun e => e.isCaught = false) x) : Calm h (lift x) :=
  (lift_hoare hx).error fun _ _ h => h.1

/-- A statement of the first embedding that keeps the connection. -/
theorem lift_balanced {x : ClientM α}
    (hx : ∀ b, Keeps (fun c : ClientState => c.m_connection.isSome = b) (fun _ => True) x) :
    Balanced h (lift x) :=
  (lift_hoare hx).error fun _ _ h _ => h.2

/-- What is not caught ends the process, with whatever is held. -/
theorem Uncaught.unwound {e : Abort} {s : LibraryState} (huncaught : Uncaught e s) :
    Unwound h e s := by
  intro hcaught
  rw [Uncaught, hcaught] at huncaught
  cases huncaught

theorem Calm.pure (a : α) : Calm h (pure a) := Hoare.pure fun _ hs => hs

/-- A sequence of calm parts. -/
theorem Calm.bind {x : LibraryM α} {f : α → LibraryM β} (hx : Calm h x)
    (hf : ∀ a, Calm h (f a)) : Calm h (x >>= f) :=
  Hoare.bind hx hf

/-! ### Statements of the first embedding -/

variable {G : Abort → Prop}

/-- A use of the library leaves the connection. -/
theorem keeps_emitEvent (event : Event) (b : Bool) :
    Keeps (fun c : ClientState => c.m_connection.isSome = b) G (emitEvent event) :=
  .modify fun _ hc => hc

/-- A question leaves the connection. -/
theorem keeps_ask (answer : Nat → α) (b : Bool) :
    Keeps (fun c : ClientState => c.m_connection.isSome = b) G (ask answer) :=
  .of_eq_ok fun _ hc => ⟨_, _, rfl, hc⟩

/-- A request leaves the connection. -/
theorem keeps_request (event : Event) (answer : Nat → α × IedClientError) (b : Bool) :
    Keeps (fun c : ClientState => c.m_connection.isSome = b) G (request event answer) :=
  .of_eq_ok fun c hc =>
    ⟨_, _, request_run event answer c, (isSome_afterRequest event _ c).trans hc⟩

/-- Sending leaves the connection. -/
theorem keeps_sendData (setup : ClientSetup) (datapoint : Option Datapoint) (b : Bool) :
    Keeps (fun c : ClientState => c.m_connection.isSome = b) G (sendData setup datapoint) := by
  unfold sendData
  cases datapoint with
  | none => exact .pure _
  | some d => exact .ite (keeps_emitEvent _ b) (.pure _)

/-! ### Scopes -/

/-- What the destructor does on each exit. -/
theorem inScope_hoare {destructor : List (Action Resource)} {x : LibraryM α}
    {P : LibraryState → Prop} {Q Q' : α → LibraryState → Prop}
    {E' : Abort → LibraryState → Prop} (hx : Hoare P x Q E)
    (hQ : ∀ a s, Q a s → Q' a { s with actions := s.actions ++ destructor })
    (hcaught : ∀ e s, E e s → e.isCaught = true →
      E' e { s with actions := s.actions ++ destructor })
    (huncaught : ∀ e s, E e s → e.isCaught = false → E' e s) :
    Hoare P (inScope destructor x) Q' E' := by
  intro s hs
  rcases hx s hs with ⟨hok, herror⟩
  unfold inScope
  cases hrun : x s with
  | ok a s' =>
    refine ⟨?_, fun e s'' heq => (by cases heq)⟩
    intro a' s'' heq
    cases heq
    exact hQ a s' (hok a s' hrun)
  | error e s' =>
    have hE : E e s' := herror e s' hrun
    -- only an exception that is caught runs the destructor
    cases hc : e.isCaught with
    | true =>
      refine ⟨?_, ?_⟩
      · intro a s'' heq
        simp only [hc, if_true] at heq
        cases heq
      · intro e' s'' heq
        simp only [hc, if_true] at heq
        cases heq
        exact hcaught e s' hE hc
    | false =>
      refine ⟨?_, ?_⟩
      · intro a s'' heq
        simp only [hc] at heq
        cases heq
      · intro e' s'' heq
        simp only [hc] at heq
        cases heq
        exact huncaught e s' hE hc

/-- A method of the connection can be called: the mutex is free. -/
def Ready (connection : Address) (h : Holding) : Prop :=
  h.connection = some connection ∧ .mutex connection ∉ h.held

/-- Another resource than its mutex leaves the connection ready. -/
theorem Ready.push {connection : Address} {r : Resource} (hr : Ready connection h)
    (hne : r ≠ .mutex connection) : Ready connection (h.push r) := by
  refine ⟨hr.1, ?_⟩
  intro hmem
  rcases List.mem_cons.mp hmem with heq | hmem
  · exact hne heq.symm
  · exact hr.2 hmem

/-- A method that holds the mutex. What it returns stays held, as `g` says. -/
theorem connectionGuard_hoare {connection : Address} {x : LibraryM α} {p : α → Prop}
    {g : α → Holding} (hr : Ready connection h)
    (hx : Hoare (Owns (h.push (.mutex connection))) x
      (fun a s => (p a ∧ .mutex connection ∉ (g a).held) ∧
        Owns ((g a).push (.mutex connection)) s) Uncaught) :
    Hoare (Owns h) (connectionGuard connection x) (fun a s => p a ∧ Owns (g a) s) Uncaught := by
  refine .bind (R := fun _ => Owns (h.push (.mutex connection))) ?_ fun _ => ?_
  · refine .modify fun s hs => ?_
    -- the mutex of a connection that is there has its address
    have hconnection : connection ≤ s.allocated :=
      hs.fresh (.iedConnection connection) (hs.acquired (.inr (.inl ⟨connection, hr.1, rfl⟩)))
    exact hs.acquire (Nat.le_refl _) hconnection (not_live hr.2 rfl)
  · refine inScope_hoare hx ?_ (fun e s h hcaught => h) (fun e s h _ => h)
    rintro a s ⟨⟨hp, hnot⟩, hs⟩
    exact ⟨hp, hs.release (not_live hnot rfl)⟩

/-- What runs under the mutex gives it back. -/
theorem connectionGuard_calm {connection : Address} {x : LibraryM α}
    (hr : Ready connection h) (hx : Calm (h.push (.mutex connection)) x) :
    Calm h (connectionGuard connection x) := by
  have hguard := connectionGuard_hoare (p := fun _ => True) (g := fun _ => h) hr
    (hx.post fun _ _ hs => ⟨⟨trivial, hr.2⟩, hs⟩)
  exact hguard.post fun _ _ hs => hs.2

/-- The connection is used under the mutex. -/
theorem useConnection_calm {connection : Address} (hr : Ready connection h) :
    Calm (h.push (.mutex connection)) (useConnection connection) :=
  .bind (act_use_hoare (fun _ => .inl List.mem_cons_self) (by rintro _ ⟨⟩)) fun _ =>
    act_use_hoare (fun _ => .inr (.inl ⟨connection, hr.1, rfl⟩)) <| by
      rintro _ ⟨⟩
      exact List.mem_cons_self

end Statements

end Library

/-! ## What a call returns -/

/-- One more local variable, if the call has returned an object. -/
def Holding.pushResult {α : Type} (h : Holding) (result : Option α) (r : Resource) : Holding :=
  match result with
  | none => h
  | some _ => h.push r

namespace Library

/-- The address of the object that the call has returned, if any. -/
def Given {α : Type} (h : Holding) (kind : Address → Resource) (result : Option α) (a : Address) :
    Prop :=
  (result = none → a = 0) ∧ (result.isSome = true → a ≠ 0 ∧ kind a ∉ h.held)

section Results

variable {α : Type} {h : Holding} {kind : Address → Resource} {E : Abort → LibraryState → Prop}

/-- An answer that is not null is held from now on. -/
theorem allocateResult_hoare (haddress : ∀ a, (kind a).address = a) (result : Option α) :
    Hoare (Owns h) (allocateResult kind result)
      (fun a s => Given h kind result a ∧ Owns (h.pushResult result (kind a)) s) E := by
  cases result with
  | none =>
    refine .pure fun s hs => ⟨⟨fun _ => rfl, ?_⟩, hs⟩
    intro hsome
    cases hsome
  | some value =>
    refine (allocate_hoare haddress).post fun a s hs => ⟨⟨?_, fun _ => hs.1⟩, hs.2⟩
    intro hnone
    cases hnone

theorem Owns.swapResult {s : LibraryState} {result : Option α} {r r' : Resource}
    (hs : Owns ((h.push r).pushResult result r') s) : Owns ((h.pushResult result r').push r) s := by
  cases result with
  | none => exact hs
  | some _ => exact hs.swap

theorem not_mem_pushResult {result : Option α} {r r' : Resource} (hr : r ∉ h.held) (hne : r ≠ r') :
    r ∉ (h.pushResult result r').held := by
  cases result with
  | none => exact hr
  | some _ =>
    intro hmem
    rcases List.mem_cons.mp hmem with heq | hmem
    · exact hne heq
    · exact hr hmem

/-- The object is returned from the scope of the mutex. -/
theorem Given.leave {connection : Address} {result : Option α} {a : Address}
    (hgiven : Given (h.push (.mutex connection)) kind result a) : Given h kind result a :=
  ⟨hgiven.1, fun hsome => ⟨(hgiven.2 hsome).1, fun hmem =>
    (hgiven.2 hsome).2 (List.mem_cons_of_mem _ hmem)⟩⟩

end Results

/-! ## The methods of the connection -/

section Connection

variable {env : Environment} {connection : Address} {h : Holding}

/-- The test of the connection gives the mutex back. -/
theorem isConnected_calm (hr : Ready connection h) : Calm h (isConnected env connection) :=
  connectionGuard_calm hr <| .bind (useConnection_calm hr) fun _ =>
    lift_calm fun b => .bind (keeps_ask _ b) fun _ => .bind (keeps_emitEvent _ b) fun _ =>
      .pure _

/-- So does the closing. -/
theorem close_calm (hr : Ready connection h) : Calm h (close connection) :=
  connectionGuard_calm hr <| .bind (useConnection_calm hr) fun _ =>
    lift_calm (keeps_emitEvent _)

/-- The value that a client holds after a request. -/
def Holding.wrapped (h : Holding) : Option WrappedMms → Holding
  | none => h
  | some w => h.pushResult w.value.m_mmsValue (.mmsValue w.m_mmsValue)

/-- A DO that has been read is held in its wrapper, and nothing else is. -/
theorem readDO_hoare (hr : Ready connection h) (doPath : String)
    (functionalConstraint : FunctionalConstraint) :
    Hoare (Owns h) (readDO env connection doPath functionalConstraint)
      (fun wrapped_mms s => (∀ w, wrapped_mms = some w →
          Given h .mmsValue w.value.m_mmsValue w.m_mmsValue) ∧
        Owns (Holding.wrapped h wrapped_mms) s) Uncaught := by
  refine .bind (isConnected_calm hr) fun connected => ?_
  cases connected with
  | false =>
    refine .pure fun s hs => ⟨?_, hs⟩
    rintro w ⟨⟩
  | true =>
    refine connectionGuard_hoare hr ?_
    refine .bind (useConnection_calm hr) fun _ => ?_
    refine .bind (lift_calm (keeps_request _ _)) fun mmsValue => ?_
    refine .bind (allocateResult_hoare (fun _ => rfl) mmsValue) fun a => ?_
    refine .pure fun s hs => ⟨⟨?_, not_mem_pushResult hr.2 (by simp)⟩, hs.2.swapResult⟩
    rintro w ⟨⟩
    exact hs.1.leave

/-- So is the array of a dataset, and the client dataset has been destroyed. -/
theorem readDataset_hoare (hr : Ready connection h) (datasetRef : String) :
    Hoare (Owns h) (readDataset env connection datasetRef)
      (fun wrapped_mms s => (∀ w, wrapped_mms = some w →
          Given h .mmsValue w.value.m_mmsValue w.m_mmsValue) ∧
        Owns (Holding.wrapped h wrapped_mms) s) Uncaught := by
  refine .bind (isConnected_calm hr) fun connected => ?_
  cases connected with
  | false =>
    refine .pure fun s hs => ⟨?_, hs⟩
    rintro w ⟨⟩
  | true =>
    refine connectionGuard_hoare hr ?_
    refine .bind (useConnection_calm hr) fun _ => ?_
    refine .bind (lift_calm (keeps_request _ _)) fun readDataset => ?_
    refine .bind (allocateResult_hoare (fun _ => rfl) readDataset) fun dataSet => .fact ?_
    intro hgiven
    cases readDataset with
    | none =>
      -- the null pointer is dereferenced
      intro s hs
      refine ⟨fun a s' heq => (by cases heq), ?_⟩
      intro e s' heq
      cases heq
      rfl
    | some readDataset =>
      have hdataSet : .clientDataSet dataSet ∉ (h.push (.mutex connection)).held :=
        (hgiven.2 rfl).2
      refine .bind (lift_calm fun b => .liftExcept fun e heq => (by cases heq)) fun values => ?_
      refine .bind (act_use_hoare (fun _ => .inl List.mem_cons_self) (by rintro _ ⟨⟩)) fun _ => ?_
      refine .bind (allocate_hoare fun _ => rfl) fun mmsValue => .fact ?_
      rintro ⟨hne, hfresh⟩
      refine .bind (R := fun _ =>
        Owns ((h.push (.mutex connection)).push (.mmsValue mmsValue))) ?_ fun _ => ?_
      · refine (act_release_hoare fun _ => not_live ?_ rfl).weaken fun s hs => hs.swap
        intro hmem
        rcases List.mem_cons.mp hmem with heq | hmem
        · cases heq
        · exact hdataSet hmem
      · refine .pure fun s hs => ⟨⟨?_, not_mem_pushResult hr.2 (by simp)⟩, hs.swap⟩
        rintro w ⟨⟩
        refine ⟨fun hnone => (by cases hnone), fun _ => ⟨hne, ?_⟩⟩
        intro hmem
        exact hfresh (List.mem_cons_of_mem _ (List.mem_cons_of_mem _ hmem))

/-- A request for a list. -/
theorem requestList_hoare (hr : Ready connection h) (kind : Address → Resource)
    (haddress : ∀ a, (kind a).address = a) (hkind : ∀ a, .mutex connection ≠ kind a)
    {x : ClientM (Option (List String))}
    (hx : ∀ b, Keeps (fun c : ClientState => c.m_connection.isSome = b)
      (fun e => e.isCaught = false) x) :
    Hoare (Owns h)
      (connectionGuard connection do
        useConnection connection
        let names ← lift x
        return (⟨names, ← allocateResult kind names⟩ : LinkedList))
      (fun list s => Given h kind list.names list.address ∧
        Owns (h.pushResult list.names (kind list.address)) s) Uncaught := by
  refine connectionGuard_hoare hr ?_
  refine .bind (useConnection_calm hr) fun _ => .bind (lift_calm hx) fun names => ?_
  refine .bind (allocateResult_hoare haddress names) fun a => ?_
  exact .pure fun s hs =>
    ⟨⟨hs.1.leave, not_mem_pushResult hr.2 (hkind a)⟩, hs.2.swapResult⟩

/-- By induction on the depth: the list of each level has been freed at its end. -/
theorem buildNameTree_calm (hr : Ready connection h) (fuel : Nat) (pathInDatamodel : String)
    (functionalConstraint : FunctionalConstraint) (nameTree : MmsNameNode) :
    Calm h (buildNameTree env connection fuel pathInDatamodel functionalConstraint nameTree) := by
  induction fuel generalizing h pathInDatamodel nameTree with
  | zero => exact .throw fun _ _ => rfl
  | succ fuel ih =>
    refine .bind (isConnected_calm hr) fun connected => ?_
    cases connected with
    | false => exact .pure nameTree
    | true =>
      refine Hoare.bind (requestList_hoare hr .dataDirectory (fun _ => rfl) (by simp)
        (keeps_request _ _)) fun list => .fact ?_
      rcases list with ⟨names, a⟩
      intro hgiven
      cases names with
      | none => exact .pure fun _ hs => hs
      | some dataAttributes =>
        -- the list is one of the local variables while its names are followed
        have hlist : .dataDirectory a ∉ h.held := (hgiven.2 rfl).2
        refine .bind (R := fun _ => Owns (h.push (.dataDirectory a))) (.foldlM _ ?_) fun _ => ?_
        · intro nameTree daName
          refine .bind (act_use_hoare (fun _ => .inl List.mem_cons_self) (by rintro _ ⟨⟩)) fun _ => ?_
          exact .bind (ih (hr.push (by simp)) _ _) fun _ => .pure fun _ hs => hs
        · exact .bind (act_release_hoare fun _ => not_live hlist rfl) fun _ => .pure fun _ hs => hs

/-- The list that is not destroyed is left behind. -/
theorem getDoPathListWithFCFromDataset_calm (hr : Ready connection h) (datasetRef : String) :
    Calm h (getDoPathListWithFCFromDataset env connection datasetRef) := by
  refine .bind (isConnected_calm hr) fun connected => ?_
  cases connected with
  | false => exact .pure []
  | true =>
    refine Hoare.bind (requestList_hoare hr .dataSetDirectory (fun _ => rfl) (by simp)
      (keeps_request _ _)) fun list => .fact ?_
    rcases list with ⟨names, a⟩
    intro _
    cases names with
    | none => exact .pure fun _ hs => hs
    | some dataSetMembers =>
      refine .bind (act_use_hoare (fun _ => .inl List.mem_cons_self) (by rintro _ ⟨⟩)) fun _ => ?_
      exact .pure fun _ hs => hs.leak

end Connection

end Library

end Iec61850South
