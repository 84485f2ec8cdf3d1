import Iec61850South.Plugin.SystemWaits

/-! # Every call of Fledge returns

No step takes a call of Fledge further from its return, and the thread that the call
waits for can act, or waits for the mutex of `ingest`, which is free again and again. So
every call returns in a fair execution, unless `importConfig` runs into a failed
assertion, which aborts the process.
-/

namespace Iec61850South

open Lib Std

/-! ## Executions -/

section Executions

variable {plat : Platform} {e : SystemExecution plat}

/-- In the middle of a call of Fledge. -/
def SystemState.InCall (s : SystemState) : Prop :=
  ∃ o, s = .loaded o ∧ SystemInvariant o ∧ o.pc ≠ .idle

theorem SystemState.Invariant.inCall {s : SystemState} (h : s.Invariant) (hended : ¬ s.Ended) :
    s.InCall := by
  cases s with
  | loaded o => exact ⟨o, rfl, h o rfl, fun hidle => hended (.inl hidle)⟩
  | absent => exact absurd (.inl trivial) hended
  | aborted => exact absurd (.inr rfl) hended

/-- Fledge does not call the plugin in the middle of another call. -/
theorem not_calls_in_call {o : SystemObject} (hidle : o.pc ≠ .idle) {s' : SystemState} :
    ¬ SystemCalls plat (.loaded o) s' := by
  rintro ⟨l, hstep, hl⟩
  cases hstep with
  | background _ hback => cases hback <;> cases hl
  | registerIngest _ _ => exact hidle rfl
  | start => exact hidle rfl
  | stop => exact hidle rfl
  | reconfigure _ => exact hidle rfl
  | malformed => exact hidle rfl
  | shutdown => exact hidle rfl
  | _ => cases hl

/-- **The step lemma.** Whoever acts, the call ends, or gets closer to its end, or waits for
what it has waited for. -/
theorem inCall_step (hinv : ∀ n, (e.state n).Invariant) {n : Nat} (h : (e.state n).InCall) :
    (e.state (n + 1)).Ended ∨ (e.state (n + 1)).InCall ∧
      ((e.state (n + 1)).rank < (e.state n).rank ∨
        Execution.Waits SystemThread.IsLooping SystemState.rank SystemState.helper (e.state n)
            (e.state (n + 1)) ∧
          (e.actor n = some (e.state n).helper → (e.state n).helper.IsLooping (e.state n))) := by
  by_cases hended : (e.state (n + 1)).Ended
  · exact .inl hended
  refine .inr ⟨(hinv (n + 1)).inCall hended, ?_⟩
  cases hactor : e.actor n with
  | none =>
    -- nobody acts: Fledge could only call, and it is inside a call
    rcases e.rested n hactor with hsame | hcalls
    · rw [hsame]
      exact .inr ⟨.refl _ _ _ _, by rintro ⟨⟩⟩
    · rcases h with ⟨o, ho, _, hpc⟩
      rw [ho] at hcalls
      exact absurd hcalls (not_calls_in_call hpc)
  | some thread =>
    have hacts := e.acted n thread hactor
    rcases h with ⟨o, ho, hinv, hpc⟩
    rw [ho] at hacts ⊢
    cases thread with
    | fledge =>
      rcases hinv.fledge_rank hpc hacts with hends | ⟨o', ho', hlt⟩
      · exact absurd hends hended
      · rw [ho']
        exact .inl hlt
    | client place thread =>
      rcases hinv.goesOn hacts with ⟨o', ho', hlt | ⟨hwaits, hbusy⟩⟩
      · rw [ho']
        exact .inl hlt
      · rw [ho']
        exact .inr ⟨hwaits, fun hhelper => hbusy (Option.some.inj hhelper)⟩

/-- The reading thread that `stop` waits for may act, since the mutex is free again and
again. -/
theorem exists_readingTurn (hfair : e.Fair SystemThread.IsLooping)
    (hinv : ∀ n, (e.state n).Invariant) {place : Place} {n : Nat}
    (hwaits : ∀ m, n ≤ m → (e.state m).helper = .client place .reading) :
    ∃ k, n ≤ k ∧ ∃ s', ActsAt place .reading (e.state k) s' := by
  have hloaded : ∀ m, n ≤ m → ∃ o, e.state m = .loaded o := by
    intro m hm
    have hhelper := hwaits m hm
    cases hs : e.state m with
    | loaded o => exact ⟨o, rfl⟩
    | absent =>
      rw [hs] at hhelper
      cases hhelper
    | aborted =>
      rw [hs] at hhelper
      cases hhelper
  rcases hloaded n (Nat.le_refl n) with ⟨_, ho⟩
  rcases exists_mutexFree hfair hinv ho with ⟨k, hk, o, ho, hfree⟩
  refine ⟨k, hk, ?_⟩
  have hobj : SystemInvariant o := hinv k o ho
  have hhelper := hwaits k hk
  rw [ho] at hhelper ⊢
  rcases helper_client hhelper with ⟨hcurrent, client, hclient, hwaitsFor⟩
  rcases hobj.alive (.join hcurrent hclient hwaitsFor) with ⟨client, pc, hclient, hpc, hdone⟩
  rcases hobj.exists_readingAct hclient hpc hdone with hacts | ⟨_, hlocked⟩
  · exact hacts
  · rw [hfree] at hlocked
    cases hlocked

/-- **The call ends.** -/
theorem inCall_ends (hfair : e.Fair SystemThread.IsLooping)
    (hinv : ∀ n, (e.state n).Invariant) {n : Nat} (h : (e.state n).InCall) :
    ∃ m, n ≤ m ∧ (e.state m).Ended := by
  refine hfair.eventually_of_rank (fun m _ hm => inCall_step hinv hm) ?_ (Nat.zero_le n) h
  intro m _ hwaits
  rcases (hwaits m (Nat.le_refl m)).1 with ⟨o, ho, hobj, hpc⟩
  cases hhelper : (e.state m).helper with
  | fledge =>
    have hfledge : o.helper = .fledge := by
      rw [ho] at hhelper
      exact hhelper
    rcases hobj.exists_fledgeAct plat hpc hfledge with ⟨s', hs'⟩
    rw [← ho] at hs'
    exact ⟨m, Nat.le_refl m, s', hs'⟩
  | client place thread =>
    have hclient : o.helper = .client place thread := by
      rw [ho] at hhelper
      exact hhelper
    rcases helper_client hclient with ⟨hcurrent, client, hat, hwaitsFor⟩
    cases thread with
    | launch =>
      rcases hobj.alive (.join hcurrent hat hwaitsFor) with ⟨client, pc, hat, hpc, hdone⟩
      rcases exists_launchAct hat hpc hdone with ⟨s', hs'⟩
      rw [← ho] at hs'
      exact ⟨m, Nat.le_refl m, s', hs'⟩
    | reading =>
      refine exists_readingTurn hfair hinv fun k hk => ?_
      rcases hwaits k hk with ⟨_, _, hsame⟩
      exact hsame.trans hhelper

/-! ## How the process is aborted -/

/-- `importConfig` is about to ask a value of the document for what it is not. -/
def SystemState.FailsAssertion (s : SystemState) : Prop :=
  ∃ c m f caller accessor,
    s = .loaded ⟨c, m, f, .importing caller [] (some (.assertion accessor))⟩

/-- Nothing else aborts the process. -/
theorem SystemStep.failsAssertion {s : SystemState} {l : SystemLabel}
    (h : SystemStep plat s l .aborted) : s.FailsAssertion := by
  cases h with
  | assertionFails => exact ⟨_, _, _, _, _, rfl⟩

/-- An execution that gets to the abortion has passed the assertion that fails. -/
theorem exists_failedAssertion {n m : Nat} (hm : n ≤ m) (hstart : e.state n ≠ .aborted)
    (haborted : e.state m = .aborted) :
    ∃ k, n ≤ k ∧ (e.state k).FailsAssertion ∧ e.state (k + 1) = .aborted := by
  induction m, hm using Nat.le_induction with
  | base => exact absurd haborted hstart
  | succ m hm ih =>
    by_cases hearlier : e.state m = .aborted
    · exact ih hearlier
    · refine ⟨m, hm, ?_, haborted⟩
      cases hactor : e.actor m with
      | some thread =>
        have hacts := e.acted m thread hactor
        rw [haborted] at hacts
        rcases hacts.step with ⟨l, hstep⟩
        exact hstep.failsAssertion
      | none =>
        rcases e.rested m hactor with hsame | ⟨l, hstep, _⟩
        · exact absurd (hsame.symm.trans haborted) hearlier
        · rw [haborted] at hstep
          exact hstep.failsAssertion

end Executions

/-- **Every call of Fledge returns** in a fair execution, whatever the threads of the clients
are in the middle of, or its import fails an assertion and aborts the process. -/
theorem calls_return {plat : Platform} {ls : List SystemLabel} {e : SystemExecution plat}
    (hrun : Run (SystemStep plat) .absent ls (e.state 0)) (hfair : e.Fair SystemThread.IsLooping)
    (n : Nat) :
    (∃ m, n ≤ m ∧ (e.state m).Idle) ∨ e.state n = .aborted ∨
      ∃ m, n ≤ m ∧ (e.state m).FailsAssertion ∧ e.state (m + 1) = .aborted := by
  have hinv : ∀ n, (e.state n).Invariant := invariant_always (SystemState.Invariant.of_run hrun)
  have hends : ∃ m, n ≤ m ∧ (e.state m).Ended := by
    by_cases hended : (e.state n).Ended
    · exact ⟨n, Nat.le_refl n, hended⟩
    · exact inCall_ends hfair hinv ((hinv n).inCall hended)
  rcases hends with ⟨m, hm, hidle | haborted⟩
  · exact .inl ⟨m, hm, hidle⟩
  · right
    by_cases hstart : e.state n = .aborted
    · exact .inl hstart
    · exact .inr (exists_failedAssertion hm hstart haborted)

theorem calls_return_sample : ∃ (e : SystemExecution samplePlatform) (m : ClientObjects)
    (entries : List (String × ServerConnectionParameters)) (key : String) (client : ClientObject),
    e.state 0 = .loaded ⟨olderStored, m, {}, .starting entries⟩ ∧ m[key]? = some client ∧
      client.threads.launch.isSome = true ∧
      ∀ n, (∃ k, n ≤ k ∧ (e.state k).Idle) ∨ e.state n = .aborted ∨
        ∃ k, n ≤ k ∧ (e.state k).FailsAssertion ∧ e.state (k + 1) = .aborted := by
  rcases olderStored_running with ⟨_, m, key, _, entries, hrun⟩
  rcases (SystemState.Invariant.of_run hrun).exists_fair with ⟨e, hstart, hfair⟩
  rw [← hstart] at hrun
  exact ⟨e, _, entries, key, _, hstart, ExtTreeMap.getElem?_insert_self, rfl,
    calls_return hrun hfair⟩

end Iec61850South
