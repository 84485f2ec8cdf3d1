import Iec61850South.Plugin.SystemSafety

/-! # How readings reach Fledge

`registerIngest` does not lock the mutex that `ingest` holds. Fledge registers its
callback before it starts the plugin (`RegistersFirst`). Then the readings of all
clients are delivered one after the other, each by one call of the callback that
was registered last, with the argument that was registered with it.
-/

namespace Iec61850South

open Lib Std

/-- Whether clients may have been started since the last stop. No callback must be
registered then. -/
def registersFirst : Bool → SystemLabel → Option Bool
  | true, .registerIngest _ _ => none
  | _, .call .start => some true
  | _, .call (.reconfigure (some _)) => some true
  | _, .call .stop => some false
  | _, .call .shutdown => some false
  | _, .call (.init _) => some false
  | started, _ => some started

/-- Fledge does not register a callback between a start and the next stop. -/
def RegistersFirst (ls : List SystemLabel) : Prop :=
  (ls.foldlM registersFirst false).isSome

instance {ls : List SystemLabel} : Decidable (RegistersFirst ls) :=
  inferInstanceAs (Decidable (_ = true))

/-- A callback with its argument. -/
abbrev Registration := Option IngestCallback × IngestData

inductive DeliveryPhase where
  | idle
  /-- The callback is running. -/
  | calling
  | returned
deriving DecidableEq

/-- The deliveries, given what has been registered last: the callback is called with
its argument and returns, and then the client goes on, before the next reading has
its turn. If there is no callback, a client goes on without a call. -/
def deliver : Registration × DeliveryPhase → SystemLabel → Option (Registration × DeliveryPhase)
  | (r, .idle), .callback function data =>
    if function.isSome ∧ r = (function, data) then some (r, .calling) else none
  | (r, .calling), .callbackReturns => some (r, .returned)
  | (r, .returned), .ingestReturns => some (r, .idle)
  | (r, .idle), .ingestReturns => if r.1.isNone then some (r, .idle) else none
  | (_, .idle), .registerIngest ingest_cb data => some ((ingest_cb, data), .idle)
  | (_, .idle), .call (.init _) => some ((none, 0), .idle)
  | _, .callback _ _ => none
  | _, .callbackReturns => none
  | _, .ingestReturns => none
  | _, .registerIngest _ _ => none
  | _, .call (.init _) => none
  | state, _ => some state

/-- All readings are delivered one after the other. -/
def Delivered (ls : List SystemLabel) : Prop :=
  (ls.foldlM deliver ((none, 0), .idle)).isSome

/-! ## Registering -/

/-- The thread of Fledge has no client to work on. -/
def SystemPc.isStill : SystemPc → Bool
  | .idle => true
  | .registerCallback _ _ => true
  | .registerData _ => true
  | .importing _ _ _ => true
  | _ => false

def SystemPc.isRegistering : SystemPc → Bool
  | .registerCallback _ _ => true
  | .registerData _ => true
  | _ => false

/-- What `RegistersFirst` says about the object. -/
structure RegistersSafely (started : Bool) (o : SystemObject) : Prop where
  starts : started = false → o.pc.starts = false
  still : started = false → o.pc.isStill = true → o.NoClient
  registering : o.pc.isRegistering = true → started = false

section Registers

variable {c c' : IEC61850ClientConfig} {m m' : ClientObjects} {f f' : Feed} {pc pc' : SystemPc}
  {started : Bool}

/-- The thread of Fledge goes on. -/
theorem RegistersSafely.goOn (h : RegistersSafely started ⟨c, m, f, pc⟩)
    (hstarts : pc.starts = false → pc'.starts = false)
    (hstill : pc.starts = false → pc'.isStill = true → SystemObject.NoClient ⟨c', m', f', pc'⟩)
    (hregistering : pc'.isRegistering = true → pc.isRegistering = true) :
    RegistersSafely started ⟨c', m', f', pc'⟩ where
  starts hfalse := hstarts (h.starts hfalse)
  still hfalse hpc := hstill (h.starts hfalse) hpc
  registering hpc := h.registering (hregistering hpc)

/-- The same, when it goes on to work on the clients. -/
theorem RegistersSafely.work (h : RegistersSafely started ⟨c, m, f, pc⟩)
    (hstarts : pc'.starts = pc.starts) (hstill : pc'.isStill = false)
    (hregistering : pc'.isRegistering = false) : RegistersSafely started ⟨c', m', f', pc'⟩ := by
  refine h.goOn (fun hpc => hstarts.trans hpc) ?_ ?_
  · intro _ hpc
    rw [hstill] at hpc
    cases hpc
  · intro hpc
    rw [hregistering] at hpc
    cases hpc

/-- A call that creates clients. -/
theorem RegistersSafely.creates (hregistering : pc.isRegistering = false) :
    RegistersSafely true ⟨c, m, f, pc⟩ where
  starts hfalse := by cases hfalse
  still hfalse := by cases hfalse
  registering hpc := by
    have hpc : pc.isRegistering = true := hpc
    rw [hregistering] at hpc
    cases hpc

/-- A call that stops the clients. -/
theorem RegistersSafely.stopped (hstarts : pc.starts = false) (hstill : pc.isStill = false) :
    RegistersSafely false ⟨c, m, f, pc⟩ where
  starts _ := hstarts
  still _ hpc := by
    have hpc : pc.isStill = true := hpc
    rw [hstill] at hpc
    cases hpc
  registering _ := rfl

theorem noClient_of_still (h : SystemObject.NoClient ⟨c, m, f, pc⟩)
    (hreplaced : SystemObject.clientAt ⟨c', m, f', pc'⟩ .replaced = none) :
    SystemObject.NoClient ⟨c', m, f', pc'⟩ := by
  intro place
  cases place with
  | stored key => exact h (.stored key)
  | replaced => exact hreplaced

@[simp] theorem registersFirst_internal (started : Bool) :
    registersFirst started .internal = some started := by
  cases started <;> rfl

/-- The clients do not register callbacks. -/
theorem registersFirst_background {client client' : ClientObject} {l : SystemLabel}
    (h : BackgroundStep f client l f' client') (started : Bool) :
    registersFirst started l = some started := by
  cases h <;> cases started <;> rfl

theorem setClient_flags (o : SystemObject) (client : ClientObject) (place : Place) :
    (o.setClient client place).pc.starts = o.pc.starts ∧
      (o.setClient client place).pc.isStill = o.pc.isStill ∧
      (o.setClient client place).pc.isRegistering = o.pc.isRegistering := by
  cases place with
  | stored key => exact ⟨rfl, rfl, rfl⟩
  | replaced =>
    rcases o with ⟨c, m, f, pc⟩
    cases pc <;> exact ⟨rfl, rfl, rfl⟩

theorem RegistersSafely.step {plat : Platform} {o o' : SystemObject} {l : SystemLabel}
    {started' : Bool} (h : RegistersSafely started o) (hinv : SystemInvariant o)
    (hstep : SystemStep plat (.loaded o) l (.loaded o'))
    (hnext : registersFirst started l = some started') : RegistersSafely started' o' := by
  cases hstep with
  | @background o place client client' f' l hclient hback =>
    rw [registersFirst_background hback, Option.some.injEq] at hnext
    rw [← hnext]
    rcases setClient_flags o client' place with ⟨hstarts, hstill, hregistering⟩
    constructor
    case starts =>
      intro hfalse
      exact hstarts.trans (h.starts hfalse)
    case still =>
      -- a thread that runs belongs to a client
      intro hfalse hpc
      have hnone : o.NoClient := h.still hfalse (hstill.symm.trans hpc)
      rw [hnone] at hclient
      cases hclient
    case registering =>
      intro hpc
      exact h.registering (hregistering.symm.trans hpc)
  | registerIngest ingest_cb data =>
    cases started with
    | true => cases hnext
    | false =>
      cases hnext
      exact ⟨fun _ => rfl, fun hfalse _ => noClient_of_still (h.still hfalse rfl) rfl, fun _ => rfl⟩
  | start =>
    have hnext : some true = some started' := by cases started <;> exact hnext
    cases hnext
    exact .creates rfl
  | reconfigure newConfig =>
    have hnext : some true = some started' := by cases started <;> exact hnext
    cases hnext
    exact .creates rfl
  | stop =>
    have hnext : some false = some started' := by cases started <;> exact hnext
    cases hnext
    exact .stopped rfl rfl
  | shutdown =>
    have hnext : some false = some started' := by cases started <;> exact hnext
    cases hnext
    exact .stopped rfl rfl
  | malformed =>
    have hnext : some started = some started' := by cases started <;> exact hnext
    cases hnext
    exact h
  | stopReturns hempty =>
    have hnext : some started = some started' := by cases started <;> exact hnext
    cases hnext
    exact h.goOn (fun _ => rfl) (fun _ _ => noClient_of_empty hempty rfl) id
  | stopReturnsToReconfigure _ hempty =>
    have hnext : some started = some started' := by cases started <;> exact hnext
    cases hnext
    exact h.goOn id (fun _ _ => noClient_of_empty hempty rfl) id
  | startReturns =>
    have hnext : some started = some started' := by cases started <;> exact hnext
    cases hnext
    exact h.goOn (fun _ => rfl) (fun hfalse => by cases hfalse) id
  | registerCallback =>
    rw [registersFirst_internal] at hnext
    cases hnext
    exact ⟨fun _ => rfl, fun hfalse _ => noClient_of_still (h.still hfalse rfl) rfl,
      fun _ => h.registering rfl⟩
  | registerData =>
    rw [registersFirst_internal] at hnext
    cases hnext
    exact ⟨fun _ => rfl, fun hfalse _ => noClient_of_still (h.still hfalse rfl) rfl,
      fun _ => h.registering rfl⟩
  | assign =>
    rw [registersFirst_internal] at hnext
    cases hnext
    exact h.goOn id (fun _ _ => noClient_of_empty hinv.pc rfl) id
  | initReturns =>
    rw [registersFirst_internal] at hnext
    cases hnext
    exact h.goOn (fun _ => rfl) (fun _ _ => noClient_of_empty hinv.pc rfl) id
  | reconfigureThrows =>
    rw [registersFirst_internal] at hnext
    cases hnext
    exact h.goOn (fun _ => rfl) (fun _ _ => noClient_of_empty hinv.pc rfl) id
  | _ =>
    rw [registersFirst_internal] at hnext
    cases hnext
    exact h.work rfl rfl rfl

end Registers

/-! ## Delivering -/

/-- Where a client inside `ingest` is in the delivery of its reading. -/
def IngestPc.Agrees (r : Registration) (phase : DeliveryPhase) : IngestPc → Prop
  | .test => phase = .idle
  | .loadCallback => phase = .idle ∧ r.1.isSome = true
  | .loadData callback => phase = .idle ∧ r.1.isSome = true ∧ callback = r.1
  | .call callback data => phase = .idle ∧ r.1.isSome = true ∧ (callback, data) = r
  | .calling => phase = .calling
  | .unlock => phase = .returned ∨ (phase = .idle ∧ r.1.isNone = true)

/-- What has been registered is in the object, or will be. -/
def SystemPc.Registers (f : Feed) (r : Registration) : SystemPc → Prop
  | .registerCallback ingest_cb data => r = (ingest_cb, data)
  | .registerData data => r = (f.m_ingest_callback, data)
  | _ => r = (f.m_ingest_callback, f.m_data)

/-- Some client is at the given statement of `ingest`. -/
def SystemObject.Inside (o : SystemObject) (pc : IngestPc) : Prop :=
  ∃ place client, o.clientAt place = some client ∧ client.ingest = some pc

structure Delivering (r : Registration) (phase : DeliveryPhase) (o : SystemObject) : Prop where
  registered : o.pc.Registers o.feed r
  inside : ∀ pc, o.Inside pc → pc.Agrees r phase
  free : o.feed.m_ingestMutex = false → phase = .idle

section Delivering

variable {c c' : IEC61850ClientConfig} {m m' : ClientObjects} {f : Feed} {pc pc' : SystemPc}
  {r : Registration} {phase : DeliveryPhase}

/-- The thread of Fledge goes on, and touches neither the registration nor a client
that is inside `ingest`. -/
theorem Delivering.goOn (h : Delivering r phase ⟨c, m, f, pc⟩)
    (hregisters : pc'.Registers f r = pc.Registers f r)
    (hinside : ∀ at_, SystemObject.Inside ⟨c', m', f, pc'⟩ at_ →
      SystemObject.Inside ⟨c, m, f, pc⟩ at_) : Delivering r phase ⟨c', m', f, pc'⟩ where
  registered := hregisters.mpr h.registered
  inside at_ hat := h.inside at_ (hinside at_ hat)
  free := h.free

/-- The same clients are at the same places. -/
theorem inside_of_same (hreplaced : SystemObject.clientAt ⟨c', m, f, pc'⟩ .replaced =
      SystemObject.clientAt ⟨c, m, f, pc⟩ .replaced) (at_ : IngestPc)
    (h : SystemObject.Inside ⟨c', m, f, pc'⟩ at_) : SystemObject.Inside ⟨c, m, f, pc⟩ at_ := by
  rcases h with ⟨place, client, hclient, hingest⟩
  refine ⟨place, client, ?_, hingest⟩
  cases place with
  | stored key => exact hclient
  | replaced => exact hreplaced.symm.trans hclient

/-- A client is written, and stays where it is in `ingest`. -/
theorem inside_of_insert {key : String} {client client' : ClientObject} {l : Label}
    (hclient : m[key]? = some client) (hstep : client.Controlled l client')
    (hreplaced : SystemObject.clientAt ⟨c', m, f, pc'⟩ .replaced =
      SystemObject.clientAt ⟨c, m, f, pc⟩ .replaced) (at_ : IngestPc)
    (h : SystemObject.Inside ⟨c', m.insert key client', f, pc'⟩ at_) :
    SystemObject.Inside ⟨c, m, f, pc⟩ at_ := by
  rcases h with ⟨place, client₁, hclient₁, hingest⟩
  by_cases hplace : place = .stored key
  · rw [hplace, clientAt_insert_self, Option.some.injEq] at hclient₁
    rw [← hclient₁, hstep.ingest] at hingest
    exact ⟨.stored key, client, hclient, hingest⟩
  · rw [clientAt_insert hreplaced hplace] at hclient₁
    exact ⟨place, client₁, hclient₁, hingest⟩

/-- A new client is not inside `ingest`. The client it takes the place of may be. -/
theorem inside_of_create {key : String} {created : RunningClient} (at_ : IngestPc)
    (hreplaced : ∀ old, SystemObject.clientAt ⟨c', m, f, pc'⟩ .replaced = some old →
      m[key]? = some old)
    (h : SystemObject.Inside ⟨c', m.insert key { created := created }, f, pc'⟩ at_) :
    SystemObject.Inside ⟨c, m, f, pc⟩ at_ := by
  rcases h with ⟨place, client, hclient, hingest⟩
  cases place with
  | stored other =>
    rw [clientAt_stored, getElem?_insert_eq] at hclient
    by_cases hkey : key = other
    · rw [if_pos hkey, Option.some.injEq] at hclient
      rw [← hclient] at hingest
      cases hingest
    · rw [if_neg hkey] at hclient
      exact ⟨.stored other, client, hclient, hingest⟩
  | replaced => exact ⟨.stored key, client, hreplaced client hclient, hingest⟩

theorem inside_of_erase {key : String} (at_ : IngestPc)
    (hreplaced : SystemObject.clientAt ⟨c', m, f, pc'⟩ .replaced =
      SystemObject.clientAt ⟨c, m, f, pc⟩ .replaced)
    (h : SystemObject.Inside ⟨c', m.erase key, f, pc'⟩ at_) :
    SystemObject.Inside ⟨c, m, f, pc⟩ at_ := by
  rcases h with ⟨place, client, hclient, hingest⟩
  refine ⟨place, client, ?_, hingest⟩
  cases place with
  | stored other =>
    rw [clientAt_stored, getElem?_erase_eq] at hclient
    by_cases hkey : key = other
    · rw [if_pos hkey] at hclient
      cases hclient
    · rw [if_neg hkey] at hclient
      exact hclient
  | replaced => exact hreplaced.symm.trans hclient

/-- The client that is being replaced goes on, or disappears. -/
theorem inside_of_old {old old' : ClientObject} {l : Label}
    (hold : SystemObject.clientAt ⟨c, m, f, pc⟩ .replaced = some old)
    (hstep : old.Controlled l old') (at_ : IngestPc)
    (hreplaced : ∀ client, SystemObject.clientAt ⟨c, m, f, pc'⟩ .replaced = some client →
      client = old')
    (h : SystemObject.Inside ⟨c, m, f, pc'⟩ at_) : SystemObject.Inside ⟨c, m, f, pc⟩ at_ := by
  rcases h with ⟨place, client, hclient, hingest⟩
  cases place with
  | stored key => exact ⟨.stored key, client, hclient, hingest⟩
  | replaced =>
    rw [hreplaced client hclient, hstep.ingest] at hingest
    exact ⟨.replaced, old, hold, hingest⟩

@[simp] theorem deliver_internal (state : Registration × DeliveryPhase) :
    deliver state .internal = some state := by
  rcases state with ⟨r, phase⟩
  cases phase <;> rfl

/-- Whoever is inside `ingest` after a step of one client: that client, or another one. -/
theorem inside_of_setClient {o : SystemObject} {place : Place} {client client' : ClientObject}
    {f' : Feed} (hclient : o.clientAt place = some client) {at_ : IngestPc}
    (h : SystemObject.Inside { o.setClient client' place with feed := f' } at_) :
    client'.ingest = some at_ ∨
      ∃ other client₁, other ≠ place ∧ o.clientAt other = some client₁ ∧
        client₁.ingest = some at_ := by
  rcases h with ⟨other, client₁, hclient₁, hingest⟩
  have hclient₁ : (o.setClient client' place).clientAt other = some client₁ := hclient₁
  by_cases hother : other = place
  · rw [hother, clientAt_setClient_self hclient, Option.some.injEq] at hclient₁
    rw [hclient₁]
    exact .inl hingest
  · rw [clientAt_setClient_other hother] at hclient₁
    exact .inr ⟨other, client₁, hother, hclient₁, hingest⟩

/-- While a client works inside `ingest`, nobody else is there. -/
theorem inside_alone {o : SystemObject} (hinv : SystemInvariant o) {place : Place}
    {client client' : ClientObject} {f' : Feed} (hclient : o.clientAt place = some client)
    (hingest : client.ingest.isSome = true) {at_ : IngestPc}
    (h : SystemObject.Inside { o.setClient client' place with feed := f' } at_) :
    client'.ingest = some at_ := by
  rcases inside_of_setClient hclient h with hat | ⟨other, client₁, hother, hclient₁, hingest₁⟩
  · exact hat
  · have hsome : client₁.ingest.isSome = true := by rw [hingest₁]; rfl
    exact absurd (hinv.ingest.alone other place client₁ client hclient₁ hclient hsome hingest) hother

theorem registers_setClient (o : SystemObject) (client : ClientObject) (place : Place) (f' : Feed) :
    (o.setClient client place).pc.Registers f' r = o.pc.Registers f' r := by
  cases place with
  | stored key => rfl
  | replaced =>
    rcases o with ⟨c, m, f, pc⟩
    cases pc <;> rfl

/-- No statement of a client touches the registration. -/
theorem BackgroundStep.registration {f f' : Feed} {client client' : ClientObject} {l : SystemLabel}
    (h : BackgroundStep f client l f' client') :
    f'.m_ingest_callback = f.m_ingest_callback ∧ f'.m_data = f.m_data := by
  cases h <;> exact ⟨rfl, rfl⟩

theorem SystemPc.Registers.congr {f f' : Feed} (h : pc.Registers f r)
    (hcallback : f'.m_ingest_callback = f.m_ingest_callback) (hdata : f'.m_data = f.m_data) :
    pc.Registers f' r := by
  unfold SystemPc.Registers
  rw [hcallback, hdata]
  exact h

/-- While no registration is under way, the object holds both of its parts. -/
theorem SystemPc.Registers.settled {f : Feed} (h : pc.Registers f r)
    (hidle : pc.isRegistering = false) : r = (f.m_ingest_callback, f.m_data) := by
  cases pc with
  | registerCallback ingest_cb data => cases hidle
  | registerData data => cases hidle
  | _ => exact h

theorem Delivering.background {o : SystemObject} (h : Delivering r phase o)
    (hinv : SystemInvariant o) (hidle : o.pc.isRegistering = false) {place : Place}
    {client client' : ClientObject} {f' : Feed} {l : SystemLabel}
    (hclient : o.clientAt place = some client)
    (hstep : BackgroundStep o.feed client l f' client') :
    ∃ state, deliver (r, phase) l = some state ∧
      Delivering state.1 state.2 { o.setClient client' place with feed := f' } := by
  have hregistered : r = (o.feed.m_ingest_callback, o.feed.m_data) := h.registered.settled hidle
  have hkept : (o.setClient client' place).pc.Registers f' r := by
    rw [registers_setClient]
    rcases hstep.registration with ⟨hcallback, hdata⟩
    exact h.registered.congr hcallback hdata
  have hagrees : ∀ at_, client.ingest = some at_ → at_.Agrees r phase :=
    fun at_ hat => h.inside at_ ⟨place, client, hclient, hat⟩
  -- a client that stays outside of `ingest`, or goes on inside
  have hsame : f'.m_ingestMutex = o.feed.m_ingestMutex → client'.ingest = client.ingest →
      Delivering r phase { o.setClient client' place with feed := f' } := by
    intro hlocked hingest
    refine ⟨hkept, ?_, fun hfree => h.free (hlocked.symm.trans hfree)⟩
    intro at_ hat
    rcases inside_of_setClient hclient hat with hat | ⟨other, client₁, _, hclient₁, hat⟩
    · exact hagrees at_ (hingest.symm.trans hat)
    · exact h.inside at_ ⟨other, client₁, hclient₁, hat⟩
  have hinside : ∀ {at_ : IngestPc} {phase' : DeliveryPhase} (next : IngestPc),
      client.ingest = some at_ → client'.ingest = some next → f'.m_ingestMutex = o.feed.m_ingestMutex →
      next.Agrees r phase' → Delivering r phase' { o.setClient client' place with feed := f' } := by
    intro at_ phase' next hat hnext hlocked hagree
    have hsome : client.ingest.isSome = true := by rw [hat]; rfl
    refine ⟨hkept, ?_, ?_⟩
    · intro at' hat'
      have heq : some next = some at' := hnext.symm.trans (inside_alone hinv hclient hsome hat')
      cases heq
      exact hagree
    · intro hfree
      have hheld : o.feed.m_ingestMutex = true := hinv.ingest.held place client hclient hsome
      rw [← hlocked, show f'.m_ingestMutex = false from hfree] at hheld
      cases hheld
  cases hstep with
  | launch _ _ => exact ⟨(r, phase), deliver_internal _, hsame rfl rfl⟩
  | reading _ _ => exact ⟨(r, phase), deliver_internal _, hsame rfl rfl⟩
  | lock _ _ hfree =>
    refine ⟨(r, phase), deliver_internal _, hkept, ?_, fun hheld => by cases hheld⟩
    intro at_ hat
    rcases inside_of_setClient hclient hat with hat | ⟨other, client₁, _, hclient₁, hat⟩
    · cases hat
      exact h.free hfree
    · exact h.inside at_ ⟨other, client₁, hclient₁, hat⟩
  | registered hat hsome =>
    have hphase : phase = .idle := hagrees _ hat
    refine ⟨(r, phase), deliver_internal _, hinside .loadCallback hat rfl rfl ⟨hphase, ?_⟩⟩
    rw [hregistered]
    exact hsome
  | notRegistered hat hnone =>
    have hphase : phase = .idle := hagrees _ hat
    refine ⟨(r, phase), deliver_internal _, hinside .unlock hat rfl rfl (.inr ⟨hphase, ?_⟩)⟩
    rw [hregistered]
    simpa using hnone
  | loadCallback hat =>
    rcases hagrees _ hat with ⟨hphase, hsome⟩
    refine ⟨(r, phase), deliver_internal _, hinside _ hat rfl rfl ⟨hphase, hsome, ?_⟩⟩
    rw [hregistered]
  | loadData hat =>
    rcases hagrees _ hat with ⟨hphase, hsome, hcallback⟩
    refine ⟨(r, phase), deliver_internal _, hinside _ hat rfl rfl ⟨hphase, hsome, ?_⟩⟩
    rw [hcallback, hregistered]
  | @call callback data hat =>
    rcases hagrees _ hat with ⟨rfl, hsome, heq⟩
    have hcallback : callback.isSome = true := by rw [← heq] at hsome; exact hsome
    refine ⟨(r, .calling), ?_, hinside .calling hat rfl rfl rfl⟩
    exact if_pos ⟨hcallback, heq.symm⟩
  | callReturns hat =>
    have hphase : phase = .calling := hagrees _ hat
    subst hphase
    exact ⟨(r, .returned), rfl, hinside .unlock hat rfl rfl (.inl rfl)⟩
  | unlock hat _ _ =>
    have hsome : client.ingest.isSome = true := by rw [hat]; rfl
    have hnext : deliver (r, phase) .ingestReturns = some (r, .idle) := by
      rcases hagrees _ hat with rfl | ⟨rfl, hnone⟩
      · rfl
      · exact if_pos hnone
    refine ⟨(r, .idle), hnext, hkept, ?_, fun _ => rfl⟩
    intro at_ hat'
    cases inside_alone hinv hclient hsome hat'

/-- A call that is no registration keeps what has been registered. -/
theorem deliver_call {operation : Operation} (hinit : ∀ config, operation ≠ .init config)
    (state : Registration × DeliveryPhase) : deliver state (.call operation) = some state := by
  rcases state with ⟨r, phase⟩
  cases operation with
  | init config => exact absurd rfl (hinit config)
  | _ => cases phase <;> rfl

theorem deliver_startReturns (state : Registration × DeliveryPhase) :
    deliver state .startReturns = some state := by
  rcases state with ⟨r, phase⟩
  cases phase <;> rfl

theorem deliver_stopReturns (state : Registration × DeliveryPhase) :
    deliver state .stopReturns = some state := by
  rcases state with ⟨r, phase⟩
  cases phase <;> rfl

/-- **The step lemma.** -/
theorem Delivering.step {plat : Platform} {o o' : SystemObject} {l : SystemLabel} {started : Bool}
    (h : Delivering r phase o) (hinv : SystemInvariant o) (hsafe : RegistersSafely started o)
    (hstep : SystemStep plat (.loaded o) l (.loaded o')) (hl : (registersFirst started l).isSome) :
    ∃ state, deliver (r, phase) l = some state ∧ Delivering state.1 state.2 o' := by
  cases hstep with
  | @background o place client client' f' l hclient hback =>
    refine h.background hinv ?_ hclient hback
    -- there is no client during a registration
    cases hregistering : o.pc.isRegistering with
    | false => rfl
    | true =>
      have hstill : o.pc.isStill = true := by
        rcases o with ⟨c, m, f, pc⟩
        cases pc with
        | registerCallback ingest_cb data => rfl
        | registerData data => rfl
        | _ => cases hregistering
      rw [hsafe.still (hsafe.registering hregistering) hstill] at hclient
      cases hclient
  | @registerIngest c m f ingest_cb data =>
    have hnone : SystemObject.NoClient ⟨c, m, f, .idle⟩ := by
      cases started with
      | true => cases hl
      | false => exact hsafe.still rfl rfl
    have hphase : phase = .idle := h.free (hinv.free hnone)
    subst hphase
    refine ⟨((ingest_cb, data), .idle), rfl, rfl, ?_, fun _ => rfl⟩
    rintro at_ ⟨place, client, hclient, _⟩
    have hclient : SystemObject.clientAt ⟨c, m, f, .idle⟩ place = some client := by
      cases place with
      | stored key => exact hclient
      | replaced => cases hclient
    rw [hnone] at hclient
    cases hclient
  | registerCallback =>
    have heq := h.registered
    exact ⟨(r, phase), deliver_internal _, heq, fun at_ hat => h.inside at_ (inside_of_same rfl at_ hat),
      h.free⟩
  | registerData =>
    have heq := h.registered
    exact ⟨(r, phase), deliver_internal _, heq, fun at_ hat => h.inside at_ (inside_of_same rfl at_ hat),
      h.free⟩
  | start => exact ⟨(r, phase), deliver_call (by simp) _, h.goOn rfl (inside_of_same rfl)⟩
  | stop => exact ⟨(r, phase), deliver_call (by simp) _, h.goOn rfl (inside_of_same rfl)⟩
  | reconfigure newConfig =>
    exact ⟨(r, phase), deliver_call (by simp) _, h.goOn rfl (inside_of_same rfl)⟩
  | malformed => exact ⟨(r, phase), deliver_call (by simp) _, h⟩
  | shutdown => exact ⟨(r, phase), deliver_call (by simp) _, h.goOn rfl (inside_of_same rfl)⟩
  | callStop hclient hstep =>
    exact ⟨(r, phase), deliver_internal _, h.goOn rfl (inside_of_insert hclient hstep rfl)⟩
  | stopClient hclient hstep =>
    exact ⟨(r, phase), deliver_internal _, h.goOn rfl (inside_of_insert hclient hstep rfl)⟩
  | clientStopped hclient hstep =>
    exact ⟨(r, phase), deliver_internal _, h.goOn rfl (inside_of_insert hclient hstep rfl)⟩
  | callDestructor hclient hstep =>
    exact ⟨(r, phase), deliver_internal _, h.goOn rfl (inside_of_insert hclient hstep rfl)⟩
  | destroyClient hclient hstep =>
    exact ⟨(r, phase), deliver_internal _, h.goOn rfl (inside_of_insert hclient hstep rfl)⟩
  | clientDestroyed _ _ =>
    exact ⟨(r, phase), deliver_internal _, h.goOn rfl fun at_ => inside_of_erase at_ rfl⟩
  | stopReturns _ => exact ⟨(r, phase), deliver_stopReturns _, h.goOn rfl (inside_of_same rfl)⟩
  | stopReturnsToReconfigure _ _ =>
    exact ⟨(r, phase), deliver_stopReturns _, h.goOn rfl (inside_of_same rfl)⟩
  | create _ =>
    refine ⟨(r, phase), deliver_internal _, h.goOn rfl fun at_ => inside_of_create at_ ?_⟩
    intro old hold
    cases hold
  | replace hold =>
    refine ⟨(r, phase), deliver_internal _, h.goOn rfl fun at_ => inside_of_create at_ ?_⟩
    intro old hold'
    cases hold'
    exact hold
  | callOldDestructor hstep =>
    refine ⟨(r, phase), deliver_internal _, h.goOn rfl fun at_ => inside_of_old rfl hstep at_ ?_⟩
    intro client hclient
    cases hclient
    rfl
  | destroyOld hstep =>
    refine ⟨(r, phase), deliver_internal _, h.goOn rfl fun at_ => inside_of_old rfl hstep at_ ?_⟩
    intro client hclient
    cases hclient
    rfl
  | oldDestroyed hstep =>
    refine ⟨(r, phase), deliver_internal _, h.goOn rfl fun at_ => inside_of_old rfl hstep at_ ?_⟩
    intro client hclient
    cases hclient
  | callStart hclient hstep =>
    exact ⟨(r, phase), deliver_internal _, h.goOn rfl (inside_of_insert hclient hstep rfl)⟩
  | startClient hclient hstep _ =>
    exact ⟨(r, phase), deliver_internal _, h.goOn rfl (inside_of_insert hclient hstep rfl)⟩
  | clientStarted hclient hstep _ =>
    exact ⟨(r, phase), deliver_internal _, h.goOn rfl (inside_of_insert hclient hstep rfl)⟩
  | startReturns => exact ⟨(r, phase), deliver_startReturns _, h.goOn rfl (inside_of_same rfl)⟩
  | _ => exact ⟨(r, phase), deliver_internal _, h.goOn rfl (inside_of_same rfl)⟩

end Delivering

/-! ## Runs -/

/-- The invariant that follows both monitors. -/
structure Feeding (started : Bool) (state : Registration × DeliveryPhase) (s : SystemState) :
    Prop where
  idle : s = .absent → state.2 = .idle
  loaded : ∀ o, s = .loaded o → SystemInvariant o ∧ RegistersSafely started o ∧
    Delivering state.1 state.2 o

theorem Feeding.step {plat : Platform} {started started' : Bool}
    {state : Registration × DeliveryPhase} {s s' : SystemState} {l : SystemLabel}
    (h : Feeding started state s) (hstep : SystemStep plat s l s')
    (hnext : registersFirst started l = some started') :
    ∃ state', deliver state l = some state' ∧ Feeding started' state' s' := by
  cases s with
  | aborted => cases hstep
  | absent =>
    rcases state with ⟨r, phase⟩
    have hphase : phase = .idle := h.idle rfl
    subst hphase
    cases hstep with
    | init config uninit =>
      have hnext : some false = some started' := by cases started <;> exact hnext
      cases hnext
      refine ⟨((none, 0), .idle), rfl, fun heq => (by cases heq), ?_⟩
      rintro o heq
      cases heq
      refine ⟨.empty rfl rfl rfl, ⟨fun _ => rfl, fun _ _ => noClient_of_empty rfl rfl, ?_⟩, rfl, ?_, ?_⟩
      · intro hregistering
        cases hregistering
      · rintro at_ ⟨place, client, hclient, _⟩
        rw [noClient_of_empty (m := ∅) rfl rfl place] at hclient
        cases hclient
      · intro _
        rfl
  | loaded o =>
    rcases h.loaded o rfl with ⟨hinv, hsafe, hdelivering⟩
    cases s' with
    | loaded o' =>
      have hl : (registersFirst started l).isSome := by rw [hnext]; rfl
      rcases hdelivering.step hinv hsafe hstep hl with ⟨state', hstate', hdelivering'⟩
      refine ⟨state', hstate', fun heq => (by cases heq), ?_⟩
      rintro o'' heq
      cases heq
      exact ⟨hinv.step hstep, hsafe.step hinv hstep hnext, hdelivering'⟩
    | absent =>
      -- no client is left, so nobody is inside `ingest`
      have hphase : state.2 = .idle := by
        have hnone := (hinv.safe plat).deleted l hstep
        exact hdelivering.free (hinv.free hnone)
      refine ⟨state, ?_, fun _ => hphase, fun o' heq => by cases heq⟩
      cases hstep with
      | stopReturnsToShutdown _ => exact deliver_stopReturns state
      | initThrows => exact deliver_internal state
    | aborted =>
      cases hstep with
      | assertionFails =>
        exact ⟨state, deliver_internal state, fun heq => (by cases heq), fun o' heq => (by cases heq)⟩

/-- **Deliveries.** If Fledge registers its callback before it starts the plugin, then
in whatever order the threads of the clients take their turns, their readings reach
it one after the other: each by one call of the callback that was registered last,
with its own argument, and none while a callback is registered gets lost. -/
theorem readings_delivered {plat : Platform} {ls : List SystemLabel} {s : SystemState}
    (hrun : Run (SystemStep plat) .absent ls s) (hregisters : RegistersFirst ls) : Delivered ls := by
  rcases Option.isSome_iff_exists.mp hregisters with ⟨started, hstarted⟩
  have habsent : Feeding false ((none, 0), .idle) .absent :=
    ⟨fun _ => rfl, fun o heq => by cases heq⟩
  rcases hrun.accepted (fun _ _ _ _ _ _ h hstep hnext => h.step hstep hnext) habsent hstarted with
    ⟨state, hstate, _⟩
  exact Option.isSome_iff_exists.mpr ⟨state, hstate⟩

/-! ## A reading that is delivered -/

theorem registersFirst_replicate (n : Nat) (started : Bool) :
    (List.replicate n SystemLabel.internal).foldlM registersFirst started = some started := by
  induction n with
  | zero => rfl
  | succ n ih => rw [List.replicate_succ, List.foldlM_cons, registersFirst_internal]; exact ih

/-- A stored client takes a step. -/
theorem stored_step {plat : Platform} {c : IEC61850ClientConfig} {m : ClientObjects} {f f' : Feed}
    {pc : SystemPc} {key : String} {client client' : ClientObject} {l : SystemLabel}
    (h : BackgroundStep f client l f' client') :
    SystemStep plat (.loaded ⟨c, m.insert key client, f, pc⟩) l
      (.loaded ⟨c, m.insert key client', f', pc⟩) := by
  have hsame : (m.insert key client).insert key client' = m.insert key client' := by
    apply ExtTreeMap.ext_getElem?
    intro other
    rw [getElem?_insert_eq, getElem?_insert_eq, getElem?_insert_eq]
    split <;> rfl
  rw [← hsame]
  exact @SystemStep.background plat ⟨c, m.insert key client, f, pc⟩ (.stored key) client client' f' l
    ExtTreeMap.getElem?_insert_self h

/-- The threads of a client that has just read its first value. -/
def readingThreads : ClientThreads :=
  { memory := { m_backgroundLaunchThread := true, m_isMmsReadingActivated := true,
                m_connection := true },
    launch := some .assign, reading := some .ingest }

/-- The launch thread connects and creates the reading thread, which reads. -/
theorem reads_run {plat : Platform} {c : IEC61850ClientConfig} {m : ClientObjects} {f : Feed}
    {pc : SystemPc} {key : String} {created : RunningClient} :
    Run (SystemStep plat)
      (.loaded ⟨c, m.insert key { created := created, threads := startedThreads }, f, pc⟩)
      (List.replicate 20 .internal)
      (.loaded ⟨c, m.insert key { created := created, threads := readingThreads }, f, pc⟩) := by
  refine .cons (stored_step (.launch rfl (.initializing (.destroyed (.absent rfl))))) ?_
  refine .cons (stored_step (.launch rfl (.initializing (.create (.absent rfl))))) ?_
  refine .cons (stored_step (.launch rfl (.initializing (.create .opened)))) ?_
  refine .cons (stored_step (.launch rfl (.initializing (.created .store)))) ?_
  refine .cons (stored_step (.launch rfl (.initializing .askConnected))) ?_
  refine .cons (stored_step (.launch rfl (.initializing .notConnected))) ?_
  refine .cons (stored_step (.launch rfl (.initializing .slept))) ?_
  refine .cons (stored_step (.launch rfl (.initializing (.notOrdered rfl)))) ?_
  refine .cons (stored_step (.launch rfl (.initializing .askStillConnected))) ?_
  refine .cons (stored_step (.launch rfl (.initialized .stillConnected))) ?_
  refine .cons (stored_step (.launch rfl .activate)) ?_
  refine .cons (stored_step (.launch rfl .spawn)) ?_
  refine .cons (stored_step (.reading rfl .testNull)) ?_
  refine .cons (stored_step (.reading rfl (.activated rfl))) ?_
  refine .cons (stored_step (.reading rfl .askConnected)) ?_
  refine .cons (stored_step (.reading rfl .connected)) ?_
  refine .cons (stored_step (.reading rfl .askNoError)) ?_
  refine .cons (stored_step (.reading rfl .noError)) ?_
  refine .cons (stored_step (.reading rfl .read)) ?_
  exact .cons (stored_step (.reading rfl .converted)) (.nil _)

/-- The reading is passed to Fledge, and the client goes on. -/
theorem delivers_run {plat : Platform} {c : IEC61850ClientConfig} {m : ClientObjects}
    {pc : SystemPc} {key : String} {created : RunningClient} (ingest_cb : IngestCallback)
    (data : IngestData) :
    Run (SystemStep plat)
      (.loaded ⟨c, m.insert key { created := created, threads := readingThreads },
        ⟨some ingest_cb, data, false⟩, pc⟩)
      (List.replicate 4 .internal ++ [.callback (some ingest_cb) data, .callbackReturns,
        .ingestReturns])
      (.loaded ⟨c, m.insert key
        { created := created, threads := { readingThreads with reading := some (.read .enter) } },
        ⟨some ingest_cb, data, false⟩, pc⟩) := by
  refine .cons (stored_step (.lock rfl rfl rfl)) ?_
  refine .cons (stored_step (.registered rfl rfl)) ?_
  refine .cons (stored_step (.loadCallback rfl)) <| .cons (stored_step (.loadData rfl)) ?_
  refine .cons (stored_step (.call rfl)) <| .cons (stored_step (.callReturns rfl)) ?_
  exact .cons (stored_step (.unlock rfl rfl .sentItem)) (.nil _)

/-- `plugin_init`, `plugin_register_ingest`, `plugin_start`, and a first reading. -/
theorem readings_delivered_sample : ∃ ls, Delivered ls ∧ .callback (some 7) 3 ∈ ls := by
  rcases olderStored_initialized with ⟨n, hinit⟩
  rcases olderStored_entries with ⟨key, param, entries, hentries⟩
  rcases system_started_run ⟨some 7, 3, false⟩ key param entries with ⟨m, hcreate⟩
  have hregister : Run (SystemStep samplePlatform) (.loaded ⟨olderStored, ∅, {}, .idle⟩)
      [.registerIngest (some 7) 3, .internal, .internal]
      (.loaded ⟨olderStored, ∅, ⟨some 7, 3, false⟩, .idle⟩) :=
    .cons (.registerIngest (some 7) 3) (.cons .registerCallback (.cons .registerData (.nil _)))
  have hstart := olderStored_start hentries ⟨some 7, 3, false⟩
  have hrun := hinit.append (hregister.append (.cons hstart
    (hcreate.append (reads_run.append (delivers_run 7 3)))))
  refine ⟨_, readings_delivered hrun ?_, by simp⟩
  unfold RegistersFirst
  simp [List.foldlM_append, registersFirst_replicate, registersFirst]

end Iec61850South
