import Iec61850South.Plugin.SystemStatus

/-! # The invariant of the plugin with its threads

Every client is as far as the thread of Fledge lets it be, and whoever is inside
`ingest` has the mutex.
-/

namespace Iec61850South

open Lib Std

/-! ## Who has the mutex -/

/-- Of the clients `clientAt`, at most one is inside `ingest`, and the mutex is locked
exactly as long as one is. -/
structure IngestAlone (clientAt : Place → Option ClientObject) (locked : Bool) : Prop where
  reading : ∀ place client, clientAt place = some client → client.ingest.isSome = true →
    client.threads.reading = some .ingest
  held : ∀ place client, clientAt place = some client → client.ingest.isSome = true →
    locked = true
  holder : locked = true → ∃ place client, clientAt place = some client ∧
    client.ingest.isSome = true
  alone : ∀ place place' client client', clientAt place = some client →
    clientAt place' = some client' → client.ingest.isSome = true →
    client'.ingest.isSome = true → place = place'

/-- What holds at each statement of the thread of Fledge. -/
def SystemPc.Holds (m : ClientObjects) : SystemPc → Prop
  | .stopping _ keys => keys.Nodup ∧ ∀ key ∈ keys, key ∈ m
  | .inStop _ key keys => (key :: keys).Nodup ∧ ∀ other ∈ key :: keys, other ∈ m
  | .inClear _ key => key ∈ m
  | .importing _ _ _ => m = ∅
  | .replacing key _ _ => key ∈ m
  | .inReplace key _ _ => key ∈ m
  | .launching key _ => key ∈ m
  | .inStart key _ => key ∈ m
  | _ => True

structure SystemInvariant (o : SystemObject) : Prop where
  threads : ∀ place client, o.clientAt place = some client →
    (o.pc.statusAt place).Holds client.threads
  ingest : IngestAlone o.clientAt o.feed.m_ingestMutex
  pc : o.pc.Holds o.m_clients

/-! ## Changes of the clients -/

section Ingest

variable {clientAt clientAt' : Place → Option ClientObject} {locked : Bool}

/-- The clients that are inside `ingest` may move, but none enters or leaves. -/
theorem IngestAlone.transfer (h : IngestAlone clientAt locked) (move : Place → Place)
    (hback : ∀ place' client', clientAt' place' = some client' → client'.ingest.isSome = true →
      client'.threads.reading = some .ingest ∧
        ∃ place client, clientAt place = some client ∧ client.ingest.isSome = true ∧
          place' = move place)
    (hforth : ∀ place client, clientAt place = some client → client.ingest.isSome = true →
      ∃ client', clientAt' (move place) = some client' ∧ client'.ingest.isSome = true) :
    IngestAlone clientAt' locked := by
  constructor
  case reading =>
    intro place' client' hclient' hingest'
    exact (hback place' client' hclient' hingest').1
  case held =>
    intro place' client' hclient' hingest'
    rcases (hback place' client' hclient' hingest').2 with ⟨place, client, hclient, hingest, _⟩
    exact h.held place client hclient hingest
  case holder =>
    intro hlocked
    rcases h.holder hlocked with ⟨place, client, hclient, hingest⟩
    rcases hforth place client hclient hingest with ⟨client', hclient', hingest'⟩
    exact ⟨move place, client', hclient', hingest'⟩
  case alone =>
    intro place₁ place₂ client₁ client₂ h₁ h₂ hingest₁ hingest₂
    rcases (hback place₁ client₁ h₁ hingest₁).2 with ⟨from₁, old₁, hold₁, holdIngest₁, rfl⟩
    rcases (hback place₂ client₂ h₂ hingest₂).2 with ⟨from₂, old₂, hold₂, holdIngest₂, rfl⟩
    rw [h.alone from₁ from₂ old₁ old₂ hold₁ hold₂ holdIngest₁ holdIngest₂]

/-- One client changes, and stays where it is in `ingest`. -/
theorem IngestAlone.update (h : IngestAlone clientAt locked) {place : Place}
    {client client' : ClientObject} (hclient : clientAt place = some client)
    (hclient' : clientAt' place = some client')
    (hothers : ∀ other, other ≠ place → clientAt' other = clientAt other)
    (hsame : client'.ingest.isSome = client.ingest.isSome)
    (hreading : client.ingest.isSome = true → client'.threads.reading = some .ingest) :
    IngestAlone clientAt' locked := by
  refine h.transfer id ?_ ?_
  · intro other client₁ hclient₁ hingest
    by_cases hplace : other = place
    · rw [hplace, hclient', Option.some.injEq] at hclient₁
      rw [← hclient₁] at hingest ⊢
      rw [hsame] at hingest
      exact ⟨hreading hingest, place, client, hclient, hingest, hplace⟩
    · rw [hothers other hplace] at hclient₁
      exact ⟨h.reading other client₁ hclient₁ hingest, other, client₁, hclient₁, hingest, rfl⟩
  · intro other client₁ hclient₁ hingest
    by_cases hplace : other = place
    · rw [hplace, hclient, Option.some.injEq] at hclient₁
      rw [← hclient₁] at hingest
      exact ⟨client', by rw [hplace]; exact hclient', hsame.trans hingest⟩
    · exact ⟨client₁, (hothers other hplace).trans hclient₁, hingest⟩

/-- Clients outside of `ingest` may come and go. -/
theorem IngestAlone.outside (h : IngestAlone clientAt locked)
    (hold : ∀ place client, clientAt place = some client → client.ingest.isSome = true →
      clientAt' place = some client)
    (hnew : ∀ place client, clientAt' place = some client → client.ingest.isSome = true →
      clientAt place = some client) : IngestAlone clientAt' locked := by
  refine h.transfer id ?_ ?_
  · intro place client hclient hingest
    have hclient : clientAt place = some client := hnew place client hclient hingest
    exact ⟨h.reading place client hclient hingest, place, client, hclient, hingest, rfl⟩
  · intro place client hclient hingest
    exact ⟨client, hold place client hclient hingest, hingest⟩

end Ingest

/-- A call of Fledge does not change where the reading thread is in `ingest`. -/
theorem ClientObject.Controlled.ingest {client client' : ClientObject} {l : Label}
    (h : client.Controlled l client') : client'.ingest = client.ingest := by
  rcases h with ⟨threads, _, rfl⟩
  rfl

theorem ClientObject.Controlled.reading {client client' : ClientObject} {l : Label}
    (h : client.Controlled l client') (hreading : client.threads.reading = some .ingest) :
    client'.threads.reading = some .ingest := by
  rcases h with ⟨threads, hstep, rfl⟩
  show threads.reading = some .ingest
  generalize client.threads.control = pc at hstep
  cases hstep with
  | joinReading hdone =>
    rw [hreading] at hdone
    cases hdone
  | _ => exact hreading

/-- A client without threads is not inside `ingest`. -/
theorem IngestAlone.outside_of_quiet {clientAt : Place → Option ClientObject} {locked : Bool}
    (h : IngestAlone clientAt locked) {place : Place} {client : ClientObject}
    (hclient : clientAt place = some client) (hnone : client.threads.reading = none) :
    client.ingest.isSome = false := by
  cases hingest : client.ingest.isSome with
  | false => rfl
  | true =>
    rw [h.reading place client hclient hingest] at hnone
    cases hnone

section Changes

variable {c c' : IEC61850ClientConfig} {m : ClientObjects} {f : Feed} {pc pc' : SystemPc}

theorem clientAt_stored (key : String) :
    SystemObject.clientAt ⟨c, m, f, pc⟩ (.stored key) = m[key]? := rfl

theorem clientAt_insert_self (key : String) (client : ClientObject) :
    SystemObject.clientAt ⟨c, m.insert key client, f, pc⟩ (.stored key) = some client :=
  ExtTreeMap.getElem?_insert_self

/-- Another place than the one whose client is written. -/
theorem clientAt_insert {key : String} {client : ClientObject}
    (hreplaced : SystemObject.clientAt ⟨c', m, f, pc'⟩ .replaced =
      SystemObject.clientAt ⟨c, m, f, pc⟩ .replaced)
    {place : Place} (hplace : place ≠ .stored key) :
    SystemObject.clientAt ⟨c', m.insert key client, f, pc'⟩ place =
      SystemObject.clientAt ⟨c, m, f, pc⟩ place := by
  cases place with
  | stored other =>
    have hkey : key ≠ other := by
      rintro rfl
      exact hplace rfl
    rw [clientAt_stored, clientAt_stored, getElem?_insert_eq, if_neg hkey]
  | replaced => exact hreplaced

/-- The thread of Fledge takes a step of the client with the given key. -/
theorem SystemInvariant.controlled (h : SystemInvariant ⟨c, m, f, pc⟩) {key : String}
    {client client' : ClientObject} {l : Label} (hclient : m[key]? = some client)
    (hstep : client.Controlled l client')
    (hreplaced : SystemObject.clientAt ⟨c, m, f, pc'⟩ .replaced =
      SystemObject.clientAt ⟨c, m, f, pc⟩ .replaced)
    (hstatus : (pc'.statusAt (.stored key)).Holds client'.threads)
    (hothers : ∀ place, place ≠ .stored key → pc'.statusAt place = pc.statusAt place)
    (hpc : pc'.Holds (m.insert key client')) :
    SystemInvariant ⟨c, m.insert key client', f, pc'⟩ := by
  have hat : ∀ place, place ≠ .stored key →
      SystemObject.clientAt ⟨c, m.insert key client', f, pc'⟩ place =
        SystemObject.clientAt ⟨c, m, f, pc⟩ place :=
    fun place hplace => clientAt_insert hreplaced hplace
  constructor
  case threads =>
    intro place client₁ hclient₁
    by_cases hplace : place = .stored key
    · rw [hplace, clientAt_insert_self, Option.some.injEq] at hclient₁
      rw [hplace, ← hclient₁]
      exact hstatus
    · rw [hat place hplace] at hclient₁
      show (pc'.statusAt place).Holds client₁.threads
      rw [hothers place hplace]
      exact h.threads place client₁ hclient₁
  case ingest =>
    have hclient : SystemObject.clientAt ⟨c, m, f, pc⟩ (.stored key) = some client := hclient
    -- what the thread of Fledge does is not a statement of `ingest`
    refine h.ingest.update hclient (clientAt_insert_self key client') hat ?_ ?_
    · rw [hstep.ingest]
    · intro hingest
      exact hstep.reading (h.ingest.reading (.stored key) client hclient hingest)
  case pc => exact hpc

end Changes

/-! ## The threads of a client -/

section Background

variable {f f' : Feed} {client client' : ClientObject} {l : SystemLabel}

/-- To the threads, `ingest` is a single statement. -/
theorem BackgroundStep.threads (h : BackgroundStep f client l f' client') :
    client'.threads = client.threads ∨
      ∃ l', ThreadStep client.threads l' client'.threads ∧ (l' = .internal ∨ l' = .ingest) ∧
        client'.threads.control = client.threads.control := by
  cases h with
  | launch hpc hstep => exact .inr ⟨.internal, .launch hpc hstep, .inl rfl, rfl⟩
  | reading hpc hstep => exact .inr ⟨.internal, .reading hpc hstep, .inl rfl, rfl⟩
  | unlock _ hpc hstep => exact .inr ⟨.ingest, .reading hpc hstep, .inr rfl, rfl⟩
  | _ => exact .inl rfl

theorem BackgroundStep.status (h : BackgroundStep f client l f' client') {status : Status}
    (hstatus : status.Holds client.threads) : status.Holds client'.threads := by
  rcases h.threads with heq | ⟨l', hstep, hl', hcontrol⟩
  · rw [heq]
    exact hstatus
  · refine hstatus.background hstep ?_ hcontrol ?_
    · intro started
      rcases hl' with rfl | rfl <;> cases started <;> rfl
    · rintro rfl
      rcases hl' with hl' | hl' <;> cases hl'

variable {clientAt clientAt' : Place → Option ClientObject} {place : Place}

/-- Nobody is inside `ingest` while the mutex is free. -/
theorem IngestAlone.lock (h : IngestAlone clientAt false)
    (hclient' : clientAt' place = some client')
    (hothers : ∀ other, other ≠ place → clientAt' other = clientAt other)
    (hreading : client'.threads.reading = some .ingest) (hingest : client'.ingest.isSome = true) :
    IngestAlone clientAt' true := by
  have honly : ∀ other client₁, clientAt' other = some client₁ → client₁.ingest.isSome = true →
      other = place := by
    intro other client₁ hclient₁ hingest₁
    by_contra hplace
    rw [hothers other hplace] at hclient₁
    cases h.held other client₁ hclient₁ hingest₁
  constructor
  case reading =>
    intro other client₁ hclient₁ hingest₁
    rw [honly other client₁ hclient₁ hingest₁, hclient', Option.some.injEq] at hclient₁
    rw [← hclient₁]
    exact hreading
  case held =>
    intro other client₁ hclient₁ hingest₁
    rfl
  case holder =>
    intro _
    exact ⟨place, client', hclient', hingest⟩
  case alone =>
    intro place₁ place₂ client₁ client₂ h₁ h₂ hingest₁ hingest₂
    rw [honly place₁ client₁ h₁ hingest₁, honly place₂ client₂ h₂ hingest₂]

theorem IngestAlone.unlock {locked : Bool} (h : IngestAlone clientAt locked)
    (hclient : clientAt place = some client) (hingest : client.ingest.isSome = true)
    (hclient' : clientAt' place = some client') (hleft : client'.ingest = none)
    (hothers : ∀ other, other ≠ place → clientAt' other = clientAt other) :
    IngestAlone clientAt' false := by
  have hnone : ∀ other client₁, clientAt' other = some client₁ → ¬ client₁.ingest.isSome = true := by
    intro other client₁ hclient₁ hingest₁
    by_cases hplace : other = place
    · rw [hplace, hclient', Option.some.injEq] at hclient₁
      rw [← hclient₁, hleft] at hingest₁
      cases hingest₁
    · rw [hothers other hplace] at hclient₁
      exact hplace (h.alone other place client₁ client hclient₁ hclient hingest₁ hingest)
  constructor
  case reading =>
    intro other client₁ hclient₁ hingest₁
    exact absurd hingest₁ (hnone other client₁ hclient₁)
  case held =>
    intro other client₁ hclient₁ hingest₁
    exact absurd hingest₁ (hnone other client₁ hclient₁)
  case holder =>
    intro hlocked
    cases hlocked
  case alone =>
    intro place₁ place₂ client₁ client₂ h₁ h₂ hingest₁ hingest₂
    exact absurd hingest₁ (hnone place₁ client₁ h₁)

/-- The launch thread does not touch a reading thread that there is. -/
theorem ClientThreads.Coherent.keepsReading {t : ClientThreads} {started : Bool}
    (h : t.Coherent started) {pc pc' : LaunchPc} {m' : Memory} {reading' : Option ReadingPc}
    (hpc : t.launch = some pc) (hstep : LaunchStep t.memory t.reading pc m' reading' pc')
    {readingPc : ReadingPc} (hreading : t.reading = some readingPc) :
    reading' = some readingPc := by
  have hsafe : LaunchSafe t.memory t.reading pc := h.launchSafe hpc
  cases hstep with
  | spawn =>
    have hnone : t.reading = none := hsafe.1
    rw [hreading] at hnone
    cases hnone
  | _ => exact hreading

theorem BackgroundStep.ingest (hstep : BackgroundStep f client l f' client')
    (hcoherent : ∃ started, client.threads.Coherent started)
    (h : IngestAlone clientAt f.m_ingestMutex) (hclient : clientAt place = some client)
    (hclient' : clientAt' place = some client')
    (hothers : ∀ other, other ≠ place → clientAt' other = clientAt other) :
    IngestAlone clientAt' f'.m_ingestMutex := by
  have hreading : client.ingest.isSome = true → client.threads.reading = some .ingest :=
    h.reading place client hclient
  cases hstep with
  | @launch pc pc' m' reading' hpc hlaunch =>
    rcases hcoherent with ⟨started, hcoherent⟩
    exact h.update hclient hclient' hothers rfl fun hingest =>
      hcoherent.keepsReading hpc hlaunch (hreading hingest)
  | reading hpc hread =>
    refine h.update hclient hclient' hothers rfl ?_
    intro hingest
    rw [hreading hingest, Option.some.injEq] at hpc
    rw [← hpc] at hread
    cases hread
  | lock hreads _ hfree =>
    rw [hfree] at h
    exact h.lock hclient' hothers hreads rfl
  | registered hat _ => exact h.update hclient hclient' hothers (by rw [hat]; rfl) hreading
  | notRegistered hat _ => exact h.update hclient hclient' hothers (by rw [hat]; rfl) hreading
  | loadCallback hat => exact h.update hclient hclient' hothers (by rw [hat]; rfl) hreading
  | loadData hat => exact h.update hclient hclient' hothers (by rw [hat]; rfl) hreading
  | call hat => exact h.update hclient hclient' hothers (by rw [hat]; rfl) hreading
  | callReturns hat => exact h.update hclient hclient' hothers (by rw [hat]; rfl) hreading
  | unlock hat _ _ => exact h.unlock hclient (by rw [hat]; rfl) hclient' rfl hothers

end Background

/-! ## Each step preserves the invariant -/

section SetClient

variable {o : SystemObject} {place : Place} {client : ClientObject}

theorem clientAt_setClient_self (hclient : o.clientAt place = some client)
    (client' : ClientObject) : (o.setClient client' place).clientAt place = some client' := by
  cases place with
  | stored key => exact ExtTreeMap.getElem?_insert_self
  | replaced =>
    rcases o with ⟨c, m, f, pc⟩
    cases pc with
    | replacing key old entries => rfl
    | inReplace key old entries => rfl
    | _ => cases hclient

theorem clientAt_setClient_other {other : Place} (hother : other ≠ place)
    (client' : ClientObject) : (o.setClient client' place).clientAt other = o.clientAt other := by
  cases place with
  | stored key =>
    rcases o with ⟨c, m, f, pc⟩
    exact clientAt_insert rfl hother
  | replaced =>
    rcases o with ⟨c, m, f, pc⟩
    cases other with
    | stored key => cases pc <;> rfl
    | replaced => exact absurd rfl hother

theorem statusAt_setClient (client' : ClientObject) (other : Place) :
    (o.setClient client' place).pc.statusAt other = o.pc.statusAt other := by
  cases place with
  | stored key => rfl
  | replaced =>
    rcases o with ⟨c, m, f, pc⟩
    cases pc <;> cases other <;> rfl

/-- A client that is there may change. -/
theorem pcHolds_setClient (hclient : o.clientAt place = some client) (client' : ClientObject)
    (h : o.pc.Holds o.m_clients) :
    (o.setClient client' place).pc.Holds (o.setClient client' place).m_clients := by
  rcases o with ⟨c, m, f, pc⟩
  cases place with
  | replaced =>
    cases pc with
    | replacing key old entries => exact h
    | inReplace key old entries => exact h
    | _ => cases hclient
  | stored key =>
    have hgrows : ∀ other ∈ m, other ∈ m.insert key client' :=
      fun other hother => ExtTreeMap.mem_insert.mpr (.inr hother)
    cases pc with
    | stopping caller keys => exact ⟨h.1, fun other hother => hgrows other (h.2 other hother)⟩
    | inStop caller stopped keys => exact ⟨h.1, fun other hother => hgrows other (h.2 other hother)⟩
    | inClear caller cleared => exact hgrows cleared h
    | importing caller assignments defect =>
      -- there is no client to change
      have hempty : m = ∅ := h
      rw [clientAt_stored, hempty, ExtTreeMap.getElem?_empty] at hclient
      cases hclient
    | replacing created old entries => exact hgrows created h
    | inReplace created old entries => exact hgrows created h
    | launching created entries => exact hgrows created h
    | inStart started entries => exact hgrows started h
    | _ => trivial

theorem SystemInvariant.background (h : SystemInvariant o) (hclient : o.clientAt place = some client)
    {client' : ClientObject} {f' : Feed} {l : SystemLabel}
    (hstep : BackgroundStep o.feed client l f' client') :
    SystemInvariant { o.setClient client' place with feed := f' } := by
  constructor
  case threads =>
    intro other client₁ hclient₁
    have hclient₁ : (o.setClient client' place).clientAt other = some client₁ := hclient₁
    show ((o.setClient client' place).pc.statusAt other).Holds client₁.threads
    rw [statusAt_setClient]
    by_cases hother : other = place
    · rw [hother, clientAt_setClient_self hclient, Option.some.injEq] at hclient₁
      rw [hother, ← hclient₁]
      exact hstep.status (h.threads place client hclient)
    · rw [clientAt_setClient_other hother] at hclient₁
      exact h.threads other client₁ hclient₁
  case ingest =>
    exact hstep.ingest (h.threads place client hclient).coherent h.ingest hclient
      (clientAt_setClient_self hclient client') fun other hother =>
        clientAt_setClient_other hother client'
  case pc => exact pcHolds_setClient hclient client' h.pc

end SetClient

section Step

variable {c c' : IEC61850ClientConfig} {m : ClientObjects} {f f' : Feed} {pc pc' : SystemPc}

/-- The thread of Fledge goes on, and no client is concerned. -/
theorem SystemInvariant.goOn (h : SystemInvariant ⟨c, m, f, pc⟩)
    (hlocked : f'.m_ingestMutex = f.m_ingestMutex)
    (hreplaced : SystemObject.clientAt ⟨c', m, f', pc'⟩ .replaced =
      SystemObject.clientAt ⟨c, m, f, pc⟩ .replaced)
    (hstatus : ∀ place client, SystemObject.clientAt ⟨c, m, f, pc⟩ place = some client →
      pc'.statusAt place = pc.statusAt place) (hpc : pc'.Holds m) :
    SystemInvariant ⟨c', m, f', pc'⟩ := by
  have hat : SystemObject.clientAt ⟨c', m, f', pc'⟩ = SystemObject.clientAt ⟨c, m, f, pc⟩ := by
    funext place
    cases place with
    | stored key => rfl
    | replaced => exact hreplaced
  constructor
  case threads =>
    intro place client hclient
    rw [hat] at hclient
    show (pc'.statusAt place).Holds client.threads
    rw [hstatus place client hclient]
    exact h.threads place client hclient
  case ingest =>
    show IngestAlone (SystemObject.clientAt ⟨c', m, f', pc'⟩) f'.m_ingestMutex
    rw [hat, hlocked]
    exact h.ingest
  case pc => exact hpc

/-- The keys that `stop` has not come to, when it starts. -/
theorem holds_keys (m : ClientObjects) : m.keys.Nodup ∧ ∀ key ∈ m.keys, key ∈ m := by
  refine ⟨?_, fun key hkey => ExtTreeMap.mem_keys.mp hkey⟩
  exact ExtTreeMap.nodup_keys

/-- At the beginning of `stop`, all clients are serving. -/
theorem SystemInvariant.stop (h : SystemInvariant ⟨c, m, f, .idle⟩) (caller : StopCaller) :
    SystemInvariant ⟨c, m, f, .stopping caller m.keys⟩ := by
  refine h.goOn rfl rfl ?_ (holds_keys m)
  intro place client hclient
  cases place with
  | stored key =>
    have hmem : key ∈ m.keys := ExtTreeMap.mem_keys.mpr (mem_iff_exists.mpr ⟨client, hclient⟩)
    exact if_pos hmem
  | replaced => cases hclient

/-- When the loop of `stop` has ended, all clients are halted. -/
theorem SystemInvariant.clear {caller : StopCaller}
    (h : SystemInvariant ⟨c, m, f, .stopping caller []⟩) :
    SystemInvariant ⟨c, m, f, .clearing caller⟩ := by
  refine h.goOn rfl rfl ?_ trivial
  intro place client hclient
  cases place with
  | stored key => rfl
  | replaced => cases hclient

/-- Without clients, everything holds that is asked of each of them. -/
theorem SystemInvariant.empty (hlocked : f.m_ingestMutex = false)
    (hreplaced : SystemObject.clientAt ⟨c, ∅, f, pc⟩ .replaced = none)
    (hpc : pc.Holds ∅) : SystemInvariant ⟨c, ∅, f, pc⟩ := by
  have hnone : ∀ place, SystemObject.clientAt ⟨c, ∅, f, pc⟩ place = none := by
    intro place
    cases place with
    | stored key => exact ExtTreeMap.getElem?_empty
    | replaced => exact hreplaced
  constructor
  case threads =>
    intro place client hclient
    rw [hnone] at hclient
    cases hclient
  case ingest =>
    constructor
    case holder =>
      intro hheld
      have hheld : f.m_ingestMutex = true := hheld
      rw [hlocked] at hheld
      cases hheld
    all_goals
      intro place
      simp [hnone]
  case pc => exact hpc

/-- If there is no client, the mutex is free. -/
theorem SystemInvariant.free (h : SystemInvariant ⟨c, m, f, pc⟩)
    (hnone : ∀ place, SystemObject.clientAt ⟨c, m, f, pc⟩ place = none) :
    f.m_ingestMutex = false := by
  cases hlocked : f.m_ingestMutex with
  | false => rfl
  | true =>
    rcases h.ingest.holder hlocked with ⟨place, client, hclient, _⟩
    rw [hnone] at hclient
    cases hclient

/-- The clients of an object without stored clients, at a statement of `stop`. -/
theorem clientAt_empty (hreplaced : SystemObject.clientAt ⟨c, ∅, f, pc⟩ .replaced = none)
    (place : Place) : SystemObject.clientAt ⟨c, ∅, f, pc⟩ place = none := by
  cases place with
  | stored key => exact ExtTreeMap.getElem?_empty
  | replaced => exact hreplaced

/-- The last client has been destroyed. -/
theorem SystemInvariant.emptied (h : SystemInvariant ⟨c, ∅, f, pc⟩)
    (hreplaced : SystemObject.clientAt ⟨c, ∅, f, pc⟩ .replaced = none)
    (hreplaced' : SystemObject.clientAt ⟨c', ∅, f, pc'⟩ .replaced = none)
    (hpc : pc'.Holds ∅) : SystemInvariant ⟨c', ∅, f, pc'⟩ :=
  .empty (h.free (clientAt_empty hreplaced)) hreplaced' hpc

/-- A client that is destroyed has no reading thread. -/
theorem SystemInvariant.cleared_reading {caller : StopCaller} {key : String}
    {client : ClientObject} (h : SystemInvariant ⟨c, m, f, .inClear caller key⟩)
    (hclient : m[key]? = some client) : client.threads.reading = none := by
  have hholds : (SystemPc.statusAt (.inClear caller key) (.stored key)).Holds client.threads :=
    h.threads (.stored key) client hclient
  rw [SystemPc.statusAt, if_pos rfl] at hholds
  exact hholds.2.1.2.1.2.1

/-- A client without threads leaves the set. -/
theorem SystemInvariant.erase {caller : StopCaller} {key : String}
    (h : SystemInvariant ⟨c, m, f, .inClear caller key⟩) :
    SystemInvariant ⟨c, m.erase key, f, .clearing caller⟩ := by
  have hkept : ∀ other client, (m.erase key)[other]? = some client →
      other ≠ key ∧ m[other]? = some client := by
    intro other client hclient
    rw [getElem?_erase_eq] at hclient
    by_cases hkey : key = other
    · rw [if_pos hkey] at hclient
      cases hclient
    · rw [if_neg hkey] at hclient
      exact ⟨fun heq => hkey heq.symm, hclient⟩
  constructor
  case threads =>
    intro place client hclient
    cases place with
    | stored other =>
      rcases hkept other client hclient with ⟨hkey, hclient⟩
      have hholds := h.threads (.stored other) client hclient
      have hstatus : SystemPc.statusAt (.inClear caller key) (.stored other) = .halted :=
        if_neg hkey
      have hholds : (SystemPc.statusAt (.inClear caller key) (.stored other)).Holds client.threads :=
        hholds
      rw [hstatus] at hholds
      exact hholds
    | replaced => cases hclient
  case ingest =>
    refine h.ingest.outside ?_ ?_
    · intro place client hclient hingest
      cases place with
      | stored other =>
        by_cases hkey : key = other
        · subst hkey
          -- the client that is erased has no reading thread, which could be inside `ingest`
          rw [h.ingest.outside_of_quiet hclient (h.cleared_reading hclient)] at hingest
          cases hingest
        · rw [clientAt_stored, getElem?_erase_eq, if_neg hkey]
          exact hclient
      | replaced => cases hclient
    · intro place client hclient _
      cases place with
      | stored other => exact (hkept other client hclient).2
      | replaced => cases hclient
  case pc => trivial

/-! ### The loop of `start` -/

/-- What holds of the stored clients when a new one has been created. -/
theorem SystemInvariant.created_threads {entries : List (String × ServerConnectionParameters)}
    (h : SystemInvariant ⟨c, m, f, .starting entries⟩) {key : String} (created : RunningClient)
    {pc' : SystemPc}
    (hstatus : ∀ other, pc'.statusAt (.stored other) =
      if other = key then .halted else .serving) {other : String} {client : ClientObject}
    (hclient : (m.insert key { created := created })[other]? = some client) :
    (pc'.statusAt (.stored other)).Holds client.threads := by
  rw [getElem?_insert_eq] at hclient
  rw [hstatus]
  by_cases hkey : key = other
  · rw [if_pos hkey, Option.some.injEq] at hclient
    rw [if_pos hkey.symm, ← hclient]
    exact ⟨rfl, quiet_initial⟩
  · rw [if_neg hkey] at hclient
    rw [if_neg fun heq => hkey heq.symm]
    exact h.threads (.stored other) client hclient

theorem SystemInvariant.create {key : String} {param : ServerConnectionParameters}
    {entries : List (String × ServerConnectionParameters)}
    (h : SystemInvariant ⟨c, m, f, .starting ((key, param) :: entries)⟩) (hnew : m[key]? = none)
    (created : RunningClient) :
    SystemInvariant ⟨c, m.insert key { created := created }, f, .launching key entries⟩ := by
  constructor
  case threads =>
    intro place client hclient
    cases place with
    | stored other => exact h.created_threads created (fun _ => rfl) hclient
    | replaced => cases hclient
  case ingest =>
    refine h.ingest.outside ?_ ?_
    · intro place client hclient hingest
      cases place with
      | stored other =>
        -- the key was free, so that no client has been lost
        have hkey : key ≠ other := by
          rintro rfl
          rw [clientAt_stored, hnew] at hclient
          cases hclient
        rw [clientAt_stored, getElem?_insert_eq, if_neg hkey]
        exact hclient
      | replaced => cases hclient
    · intro place client hclient hingest
      cases place with
      | stored other =>
        rw [clientAt_stored, getElem?_insert_eq] at hclient
        -- the new client is not inside `ingest`
        by_cases hkey : key = other
        · rw [if_pos hkey, Option.some.injEq] at hclient
          rw [← hclient] at hingest
          cases hingest
        · rw [if_neg hkey] at hclient
          exact hclient
      | replaced => cases hclient
  case pc => exact ExtTreeMap.mem_insert_self

/-- The old client goes on at another place. -/
theorem SystemInvariant.replace {key : String} {param : ServerConnectionParameters}
    {entries : List (String × ServerConnectionParameters)} {old : ClientObject}
    (h : SystemInvariant ⟨c, m, f, .starting ((key, param) :: entries)⟩) (hold : m[key]? = some old)
    (created : RunningClient) :
    SystemInvariant ⟨c, m.insert key { created := created }, f, .replacing key old entries⟩ := by
  constructor
  case threads =>
    intro place client hclient
    cases place with
    | stored other => exact h.created_threads created (fun _ => rfl) hclient
    | replaced =>
      cases hclient
      exact h.threads (.stored key) old hold
  case ingest =>
    -- whoever is inside `ingest` stays there, at the place of the replaced client
    refine h.ingest.transfer (fun place => if place = .stored key then .replaced else place) ?_ ?_
    · intro place client hclient hingest
      cases place with
      | stored other =>
        rw [clientAt_stored, getElem?_insert_eq] at hclient
        by_cases hkey : key = other
        · rw [if_pos hkey, Option.some.injEq] at hclient
          rw [← hclient] at hingest
          cases hingest
        · rw [if_neg hkey] at hclient
          have hplace : Place.stored other ≠ .stored key := by
            rintro heq
            cases heq
            exact hkey rfl
          exact ⟨h.ingest.reading (.stored other) client hclient hingest, .stored other, client,
            hclient, hingest, (if_neg hplace).symm⟩
      | replaced =>
        cases hclient
        exact ⟨h.ingest.reading (.stored key) old hold hingest, .stored key, old, hold, hingest,
          (if_pos rfl).symm⟩
    · intro place client hclient hingest
      cases place with
      | stored other =>
        by_cases hkey : key = other
        · rw [if_pos (congrArg Place.stored hkey.symm)]
          rw [clientAt_stored, ← hkey, hold, Option.some.injEq] at hclient
          rw [← hclient] at hingest
          exact ⟨old, rfl, hingest⟩
        · have hplace : Place.stored other ≠ .stored key := by
            rintro heq
            cases heq
            exact hkey rfl
          rw [if_neg hplace]
          refine ⟨client, ?_, hingest⟩
          rw [clientAt_stored, getElem?_insert_eq, if_neg hkey]
          exact hclient
      | replaced => cases hclient
  case pc => exact ExtTreeMap.mem_insert_self

/-- The thread of Fledge takes a step of the client that is being replaced. -/
theorem SystemInvariant.controlled_old (h : SystemInvariant ⟨c, m, f, pc⟩) {key : String}
    {old old' : ClientObject} {entries : List (String × ServerConnectionParameters)} {l : Label}
    (hold : SystemObject.clientAt ⟨c, m, f, pc⟩ .replaced = some old)
    (hstep : old.Controlled l old') (hstatus : (Status.stopping true).Holds old'.threads)
    (hothers : ∀ other, pc.statusAt (.stored other) = if other = key then .halted else .serving)
    (hkey : key ∈ m) : SystemInvariant ⟨c, m, f, .inReplace key old' entries⟩ := by
  constructor
  case threads =>
    intro place client hclient
    cases place with
    | stored other =>
      have hholds : (pc.statusAt (.stored other)).Holds client.threads :=
        h.threads (.stored other) client hclient
      rw [hothers] at hholds
      exact hholds
    | replaced =>
      cases hclient
      exact hstatus
  case ingest =>
    have hold' : SystemObject.clientAt ⟨c, m, f, .inReplace key old' entries⟩ .replaced =
        some old' := rfl
    refine h.ingest.update hold hold' ?_ ?_ ?_
    · intro other hother
      cases other with
      | stored other => rfl
      | replaced => exact absurd rfl hother
    · rw [hstep.ingest]
    · intro hingest
      exact hstep.reading (h.ingest.reading .replaced old hold hingest)
  case pc => exact hkey

/-- When the destructor returns, the reading thread has been joined. -/
theorem SystemInvariant.replaced_reading {key : String} {old old' : ClientObject}
    {entries : List (String × ServerConnectionParameters)}
    (h : SystemInvariant ⟨c, m, f, .inReplace key old entries⟩)
    (hstep : old.Controlled .stopReturns old') : old.threads.reading ≠ some .ingest := by
  intro hingest
  have hreading : old'.threads.reading = some .ingest := hstep.reading hingest
  have hstopping : (Status.stopping true).Holds old.threads := h.threads .replaced old rfl
  rcases hstep with ⟨threads, hcontrol, rfl⟩
  have hnone : threads.reading = none := (hstopping.2.1.stopReturns (.control hcontrol)).2.1.2.1
  have hreading : threads.reading = some .ingest := hreading
  rw [hnone] at hreading
  cases hreading

theorem SystemInvariant.old_destroyed {key : String} {old old' : ClientObject}
    {entries : List (String × ServerConnectionParameters)}
    (h : SystemInvariant ⟨c, m, f, .inReplace key old entries⟩)
    (hstep : old.Controlled .stopReturns old') :
    SystemInvariant ⟨c, m, f, .launching key entries⟩ := by
  constructor
  case threads =>
    intro place client hclient
    cases place with
    | stored other => exact h.threads (.stored other) client hclient
    | replaced => cases hclient
  case ingest =>
    refine h.ingest.outside ?_ ?_
    · intro place client hclient hingest
      cases place with
      | stored other => exact hclient
      | replaced =>
        cases hclient
        exact absurd (h.ingest.reading .replaced old rfl hingest) (h.replaced_reading hstep)
    · intro place client hclient _
      cases place with
      | stored other => exact hclient
      | replaced => cases hclient
  case pc => exact h.pc

end Step

/-- **The step lemma.** One case for each kind of step. -/
theorem SystemInvariant.step {plat : Platform} {o o' : SystemObject} {l : SystemLabel}
    (h : SystemInvariant o) (hstep : SystemStep plat (.loaded o) l (.loaded o')) :
    SystemInvariant o' := by
  cases hstep with
  | background hclient hstep => exact h.background hclient hstep
  | registerIngest ingest_cb data => exact h.goOn rfl rfl (fun _ _ _ => rfl) trivial
  | registerCallback => exact h.goOn rfl rfl (fun _ _ _ => rfl) trivial
  | registerData => exact h.goOn rfl rfl (fun _ _ _ => rfl) trivial
  | start => exact h.goOn rfl rfl (fun _ _ _ => rfl) trivial
  | stop => exact h.stop .stop
  | reconfigure newConfig => exact h.stop (.reconfigure newConfig)
  | malformed => exact h
  | shutdown => exact h.stop .shutdown
  | @callStop c m f caller key keys client client' hclient hstep =>
    have hpc := h.pc
    -- from here on the key is the one that is being stopped, and the others stay as they are
    have hserving : (SystemPc.statusAt (.stopping caller (key :: keys)) (.stored key)).Holds
        client.threads := h.threads (.stored key) client hclient
    rw [SystemPc.statusAt, if_pos List.mem_cons_self] at hserving
    refine h.controlled hclient hstep rfl ?_ ?_ ?_
    · rw [SystemPc.statusAt, if_pos rfl]
      rcases hstep with ⟨threads, hcontrol, rfl⟩
      exact hserving.callStop hcontrol
    · intro place hplace
      cases place with
      | stored other =>
        have hother : other ≠ key := fun heq => hplace (congrArg Place.stored heq)
        simp [SystemPc.statusAt, hother]
      | replaced => rfl
    · exact ⟨hpc.1, fun other hother => ExtTreeMap.mem_insert.mpr (.inr (hpc.2 other hother))⟩
  | @stopClient c m f caller key keys client client' hclient hstep =>
    have hpc := h.pc
    have hstopping : (SystemPc.statusAt (.inStop caller key keys) (.stored key)).Holds
        client.threads := h.threads (.stored key) client hclient
    rw [SystemPc.statusAt, if_pos rfl] at hstopping
    refine h.controlled hclient hstep rfl ?_ (fun _ _ => rfl) ?_
    · rw [SystemPc.statusAt, if_pos rfl]
      rcases hstep with ⟨threads, hcontrol, rfl⟩
      exact hstopping.stop hcontrol
    · exact ⟨hpc.1, fun other hother => ExtTreeMap.mem_insert.mpr (.inr (hpc.2 other hother))⟩
  | @clientStopped c m f caller key keys client client' hclient hstep =>
    have hpc := h.pc
    have hstopping : (SystemPc.statusAt (.inStop caller key keys) (.stored key)).Holds
        client.threads := h.threads (.stored key) client hclient
    rw [SystemPc.statusAt, if_pos rfl] at hstopping
    -- its key does not come again, so that the client counts as halted
    have hfresh : key ∉ keys := (List.nodup_cons.mp hpc.1).1
    refine h.controlled hclient hstep rfl ?_ ?_ ?_
    · rw [SystemPc.statusAt, if_neg hfresh]
      rcases hstep with ⟨threads, hcontrol, rfl⟩
      exact hstopping.stopped hcontrol
    · intro place hplace
      cases place with
      | stored other =>
        have hother : other ≠ key := fun heq => hplace (congrArg Place.stored heq)
        simp [SystemPc.statusAt, hother]
      | replaced => rfl
    · refine ⟨(List.nodup_cons.mp hpc.1).2, fun other hother => ?_⟩
      exact ExtTreeMap.mem_insert.mpr (.inr (hpc.2 other (List.mem_cons_of_mem _ hother)))
  | clear => exact h.clear
  | @callDestructor c m f caller key client client' hclient hstep =>
    have hhalted : Status.halted.Holds client.threads := h.threads (.stored key) client hclient
    refine h.controlled hclient hstep rfl ?_ ?_ ExtTreeMap.mem_insert_self
    · rw [SystemPc.statusAt, if_pos rfl]
      rcases hstep with ⟨threads, hcontrol, rfl⟩
      exact hhalted.callLateDestructor hcontrol
    · intro place hplace
      cases place with
      | stored other => exact if_neg fun heq => hplace (congrArg Place.stored heq)
      | replaced => rfl
  | @destroyClient c m f caller key client client' hclient hstep =>
    have hdestroying : (SystemPc.statusAt (.inClear caller key) (.stored key)).Holds
        client.threads := h.threads (.stored key) client hclient
    rw [SystemPc.statusAt, if_pos rfl] at hdestroying
    refine h.controlled hclient hstep rfl ?_ (fun _ _ => rfl) ExtTreeMap.mem_insert_self
    rw [SystemPc.statusAt, if_pos rfl]
    rcases hstep with ⟨threads, hcontrol, rfl⟩
    exact hdestroying.destroy hcontrol
  | clientDestroyed _ _ => exact h.erase
  | stopReturns hempty =>
    subst hempty
    exact h.emptied rfl rfl trivial
  | stopReturnsToReconfigure _ hempty =>
    subst hempty
    exact h.emptied rfl rfl rfl
  | assign => exact h.goOn rfl rfl (fun _ _ _ => rfl) h.pc
  | initReturns => exact h.goOn rfl rfl (fun _ _ _ => rfl) trivial
  | imported => exact h.goOn rfl rfl (fun _ _ _ => rfl) trivial
  | reconfigureThrows => exact h.goOn rfl rfl (fun _ _ _ => rfl) trivial
  | create hnew => exact h.create hnew _
  | replace hold => exact h.replace hold _
  | @callOldDestructor c m f key old old' entries hstep =>
    have hserving : Status.serving.Holds old.threads := h.threads .replaced old rfl
    refine h.controlled_old rfl hstep ?_ (fun _ => rfl) h.pc
    rcases hstep with ⟨threads, hcontrol, rfl⟩
    exact hserving.callDestructor hcontrol
  | @destroyOld c m f key old old' entries hstep =>
    have hstopping : (Status.stopping true).Holds old.threads := h.threads .replaced old rfl
    refine h.controlled_old rfl hstep ?_ (fun _ => rfl) h.pc
    rcases hstep with ⟨threads, hcontrol, rfl⟩
    exact hstopping.stop hcontrol
  | oldDestroyed hstep => exact h.old_destroyed hstep
  | @callStart c m f key client client' entries hclient hstep =>
    have hhalted : (SystemPc.statusAt (.launching key entries) (.stored key)).Holds
        client.threads := h.threads (.stored key) client hclient
    rw [SystemPc.statusAt, if_pos rfl] at hhalted
    refine h.controlled hclient hstep rfl ?_ ?_ ExtTreeMap.mem_insert_self
    · rw [SystemPc.statusAt, if_pos rfl]
      rcases hstep with ⟨threads, hcontrol, rfl⟩
      exact hhalted.callStart hcontrol
    · intro place hplace
      cases place with
      | stored other =>
        have hother : other ≠ key := fun heq => hplace (congrArg Place.stored heq)
        simp [SystemPc.statusAt, hother]
      | replaced => rfl
  | @startClient c m f key client client' entries hclient hstep hcontrol =>
    have hstarting : (SystemPc.statusAt (.inStart key entries) (.stored key)).Holds
        client.threads := h.threads (.stored key) client hclient
    rw [SystemPc.statusAt, if_pos rfl] at hstarting
    refine h.controlled hclient hstep rfl ?_ (fun _ _ => rfl) ExtTreeMap.mem_insert_self
    rw [SystemPc.statusAt, if_pos rfl]
    rcases hstep with ⟨threads, hrun, rfl⟩
    have hnext := hstarting.start hrun
    rwa [if_neg hcontrol] at hnext
  | @clientStarted c m f key client client' entries hclient hstep hcontrol =>
    have hstarting : (SystemPc.statusAt (.inStart key entries) (.stored key)).Holds
        client.threads := h.threads (.stored key) client hclient
    rw [SystemPc.statusAt, if_pos rfl] at hstarting
    refine h.controlled hclient hstep rfl ?_ ?_ trivial
    · rcases hstep with ⟨threads, hrun, rfl⟩
      have hnext := hstarting.start hrun
      rwa [if_pos hcontrol] at hnext
    · intro place hplace
      cases place with
      | stored other =>
        have hother : other ≠ key := fun heq => hplace (congrArg Place.stored heq)
        simp [SystemPc.statusAt, hother]
      | replaced => rfl
  | startReturns => exact h.goOn rfl rfl (fun _ _ _ => rfl) trivial

/-! ## Runs -/

/-- The invariant of a state in which there is an object. -/
def SystemState.Invariant (s : SystemState) : Prop :=
  ∀ o, s = .loaded o → SystemInvariant o

theorem SystemState.Invariant.step {plat : Platform} {s s' : SystemState} {l : SystemLabel}
    (h : s.Invariant) (hstep : SystemStep plat s l s') : s'.Invariant := by
  rintro o' rfl
  cases s with
  | loaded o => exact (h o rfl).step hstep
  | absent =>
    cases hstep
    exact .empty rfl rfl rfl
  | aborted => cases hstep

theorem SystemState.Invariant.of_run {plat : Platform} {ls : List SystemLabel} {s : SystemState}
    (hrun : Run (SystemStep plat) .absent ls s) : s.Invariant := by
  have hstep : ∀ s l s', SystemState.Invariant s → SystemStep plat s l s' → True →
      SystemState.Invariant s' := fun s l s' h hstep _ => h.step hstep
  have habsent : SystemState.Invariant .absent := by
    intro o h
    cases h
  exact hrun.invariant hstep habsent fun _ _ => trivial

end Iec61850South
