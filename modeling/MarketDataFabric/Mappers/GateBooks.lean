/-
**The books of the sequence gate**: what its statistics and its trust say about the calls so far.

* `SequenceStats.tally`, `counting_tally` — the counters of a list of verdicts.
* `GateBooks`, `GateBooks.call` — what every call keeps: the counters count the live verdicts, and
  trust is gained by a completed recovery and by nothing else.
* `gate_books` — **the books are right after every run**.
-/

import MarketDataFabric.Mappers.SequenceGate

namespace MarketDataFabric.Mappers

open Library

/-- What a live observation was answered. -/
def GateAnswer.verdict : GateAnswer → Option ContinuityEvent
  | .observed observation => some observation.event
  | .replayed _ | .completed _ | .nothing => none

/-- The live verdicts among some answers, in order. -/
abbrev verdicts (answers : List GateAnswer) : List ContinuityEvent :=
  answers.filterMap GateAnswer.verdict

theorem verdicts_concat (answers : List GateAnswer) (answer : GateAnswer) :
    verdicts (answers ++ [answer]) = verdicts answers ++ answer.verdict.toList := by
  rw [verdicts, List.filterMap_append]
  cases said : answer.verdict with
  | none => rw [List.filterMap_cons_none said]; rfl
  | some event => rw [List.filterMap_cons_some said]; rfl

/-- The recoveries that were completed. -/
abbrev completions (answers : List GateAnswer) : Nat := answers.count (.completed true)

/-- The counters after a list of verdicts. -/
def SequenceStats.tally (events : List ContinuityEvent) : SequenceStats where
  accepted := UInt64.ofNat (events.count .accepted)
  duplicates := UInt64.ofNat (events.count .duplicate)
  gaps := UInt64.ofNat (events.count .gap)
  regressions := UInt64.ofNat (events.count .regression)
  wrongPartition := UInt64.ofNat (events.count .wrongPartition)
  rejectedWhileStale :=
    UInt64.ofNat (events.count .awaitingBaseline + events.count .rejectedWhileStale)
  invalid := UInt64.ofNat (events.count .invalid)

/-- One more verdict counts one more. -/
theorem SequenceStats.counting_tally (events : List ContinuityEvent) (event : ContinuityEvent) :
    (tally events).counting event = tally (events ++ [event]) := by
  cases event with
  | awaitingBaseline =>
      simp [tally, counting, List.count_append]
      rw [UInt64.add_assoc, UInt64.add_assoc, UInt64.add_comm 1]
  | rejectedWhileStale => simp [tally, counting, List.count_append, ← Nat.add_assoc]
  | accepted | duplicate | gap | regression | wrongPartition | invalid =>
      simp [tally, counting, List.count_append]

/-- The sum of the counters. -/
def SequenceStats.total (stats : SequenceStats) : UInt64 :=
  stats.accepted + stats.duplicates + stats.gaps + stats.regressions + stats.wrongPartition +
    stats.rejectedWhileStale + stats.invalid

/-- No verdict is counted twice, and none is left out. -/
theorem SequenceStats.total_tally (events : List ContinuityEvent) :
    (tally events).total = UInt64.ofNat events.length := by
  have counted : events.length =
      events.count .accepted + events.count .duplicate + events.count .gap +
        events.count .regression + events.count .wrongPartition +
        (events.count .awaitingBaseline + events.count .rejectedWhileStale) +
        events.count .invalid := by
    induction events with
    | nil => rfl
    | cons event rest ih =>
        rw [List.length_cons, ih]
        cases event <;> simp <;> omega
  rw [counted]
  simp only [total, tally, UInt64.ofNat_add]

/-! ### Trust -/

/-- **What an answer says of the trust of a gate**: it goes from the first state to the second. -/
inductive TrustStep : ContinuityState → GateAnswer → ContinuityState → Prop
  | keeps (state : ContinuityState) (answer : GateAnswer) : answer.verdict ≠ some .gap →
      answer.verdict ≠ some .regression → answer.verdict ≠ some .wrongPartition →
      answer ≠ .completed true → answer ≠ .nothing → TrustStep state answer state
  | breaks (answer : GateAnswer) : answer.verdict = some .gap ∨ answer.verdict = some .regression →
      TrustStep .healthy answer .stale
  | strays (state : ContinuityState) (answer : GateAnswer) :
      answer.verdict = some .wrongPartition → TrustStep state answer .stale
  | completes (state : ContinuityState) : state = .uninitialized ∨ state = .recovering →
      TrustStep state (.completed true) .healthy
  | interrupts (state next : ContinuityState) : next = .uninitialized ∨ next = .recovering →
      TrustStep state .nothing next

/-- An answer without a verdict, if it completes and begins nothing. -/
theorem TrustStep.silent (state : ContinuityState) {answer : GateAnswer}
    (silent : answer.verdict = none) (incomplete : answer ≠ .completed true)
    (spoke : answer ≠ .nothing) : TrustStep state answer state := by
  have never (kind : ContinuityEvent) : answer.verdict ≠ some kind := by
    rw [silent]
    exact (Option.some_ne_none kind).symm
  exact .keeps state answer (never _) (never _) (never _) incomplete spoke

theorem SequenceGate.call_trust (gate : SequenceGate) (input : GateCall) :
    TrustStep gate.state (gate.call input).2 (gate.call input).1.state := by
  cases input with
  | observe partition sequence =>
      obtain ⟨event, state, lastAccepted, branch, said, left, -⟩ :=
        gate.exists_observe_step partition sequence
      show TrustStep gate.state (.observed (gate.observe partition sequence).1)
        (gate.observe partition sequence).2.state
      have verdict : (GateAnswer.observed (gate.observe partition sequence).1).verdict =
        some event := congrArg some said
      rw [left]
      cases branch with
      | wrongPartition => exact .strays _ _ verdict
      | gap healthy =>
          rw [healthy]
          exact .breaks _ (Or.inl verdict)
      | regression healthy =>
          rw [healthy]
          exact .breaks _ (Or.inr verdict)
      | invalid | awaitingBaseline | rejectedWhileStale | accepted | duplicate =>
          refine .keeps _ _ ?_ ?_ ?_ GateAnswer.noConfusion GateAnswer.noConfusion
          all_goals
            rw [verdict]
            decide
  | observeRecovery partition sequence =>
      have same := (gate.observeRecovery_frame partition sequence).2.2.1
      show TrustStep gate.state (.replayed (gate.observeRecovery partition sequence).1)
        (gate.observeRecovery partition sequence).2.state
      rw [same]
      exact .silent _ rfl GateAnswer.noConfusion GateAnswer.noConfusion
  | completeRecovery partition sequence =>
      show TrustStep gate.state (.completed (gate.completeRecovery partition sequence).1)
        (gate.completeRecovery partition sequence).2.state
      cases done : (gate.completeRecovery partition sequence).1 with
      | false =>
          rw [completeRecovery_of_false done]
          exact .silent _ rfl (by decide) GateAnswer.noConfusion
      | true =>
          obtain ⟨-, here⟩ := (gate.completeRecovery_eq_true_iff partition sequence).mp done
          rw [completeRecovery_of_true done]
          exact .completes _ (here.imp_right And.left)
  | beginRecovery => exact .interrupts _ _ (Or.inr rfl)
  | reset => exact .interrupts _ _ (Or.inl rfl)

/-- **The account of trust after some answers.** -/
structure TrustAccount (answers : List GateAnswer) (state : ContinuityState) : Prop where
  /-- A gap or a regression costs a completed recovery, and so does the trust there is. -/
  spent : (verdicts answers).count .gap + (verdicts answers).count .regression +
    (if state = .healthy then 1 else 0) ≤ completions answers
  /-- A completed recovery is trusted still, or was lost by a verdict, a reset or the begin of a
  recovery. -/
  earned : completions answers ≤ (verdicts answers).count .gap +
    (verdicts answers).count .regression + (verdicts answers).count .wrongPartition +
    answers.count .nothing + (if state = .healthy then 1 else 0)
  /-- Every completed recovery but the first follows a begin or a reset of its own. -/
  asked : completions answers +
    (if state = .uninitialized ∨ state = .recovering then 1 else 0) ≤ answers.count .nothing + 1

theorem TrustAccount.step {answers : List GateAnswer} {answer : GateAnswer}
    {state next : ContinuityState} (account : TrustAccount answers state)
    (step : TrustStep state answer next) : TrustAccount (answers ++ [answer]) next := by
  obtain ⟨spent, earned, asked⟩ := account
  have counted (kind : ContinuityEvent) : (verdicts (answers ++ [answer])).count kind =
      (verdicts answers).count kind + if answer.verdict = some kind then 1 else 0 := by
    rw [verdicts_concat, List.count_append]
    cases answer.verdict <;> simp [List.count_singleton]
  have told (kind : GateAnswer) : (answers ++ [answer]).count kind =
      answers.count kind + if answer = kind then 1 else 0 := by
    rw [List.count_append]
    simp [List.count_singleton]
  cases step with
  | keeps _ _ gap regression stray incomplete spoke =>
      constructor
      all_goals
        simp only [completions, counted, told, gap, regression, stray, incomplete, spoke, if_false,
          Nat.add_zero]
        assumption
  | breaks _ broken =>
      have quiet : answer ≠ .completed true ∧ answer ≠ .nothing := by
        constructor <;> rintro rfl <;> rcases broken with other | other <;> cases other
      rcases broken with said | said
      all_goals
        constructor
        all_goals
          simp only [completions, counted, told, quiet.1, quiet.2, said, Option.some.injEq,
            reduceCtorEq, if_false, if_true, or_self] at spent earned asked ⊢
          omega
  | strays _ _ said =>
      have quiet : answer ≠ .completed true ∧ answer ≠ .nothing := by
        constructor <;> rintro rfl <;> cases said
      constructor
      all_goals
        simp only [completions, counted, told, quiet.1, quiet.2, said, Option.some.injEq,
          reduceCtorEq, if_false, if_true, or_self] at spent earned asked ⊢
        split_ifs at spent earned asked <;> omega
  | completes _ waiting =>
      have distrusted : state ≠ .healthy := by
        rintro rfl
        rcases waiting with other | other <;> cases other
      constructor
      all_goals
        simp only [completions, counted, told, GateAnswer.verdict, waiting, distrusted, reduceCtorEq,
          if_false, if_true, or_self] at spent earned asked ⊢
        omega
  | interrupts _ _ waits =>
      have distrusts : next ≠ .healthy := by
        rintro rfl
        rcases waits with other | other <;> cases other
      constructor
      all_goals
        simp only [completions, counted, told, GateAnswer.verdict, waits, distrusts, reduceCtorEq,
          if_false, if_true] at spent earned asked ⊢
        split_ifs at spent earned asked <;> omega

/-! ### Runs -/

/-- **The books of a gate after some answers**: the counters count the live verdicts, each by its kind,
and trust is gained by a completed recovery and by nothing else. -/
structure GateBooks (answers : List GateAnswer) (gate : SequenceGate) : Prop where
  stats : gate.stats = .tally (verdicts answers)
  trust : TrustAccount answers gate.state

/-- A call counts its verdict, and no call but a live observation has one. -/
theorem SequenceGate.call_stats (gate : SequenceGate) (input : GateCall) :
    (gate.call input).1.stats =
      (gate.call input).2.verdict.elim gate.stats gate.stats.counting := by
  cases input with
  | observe partition sequence => exact gate.observe_stats partition sequence
  | observeRecovery partition sequence =>
      show (gate.observeRecovery partition sequence).2.stats = gate.stats
      obtain ⟨event, next, branch, -, moved⟩ := gate.exists_observeRecovery_step partition sequence
      rw [moved]
      cases branch <;> rfl
  | completeRecovery partition sequence =>
      show (gate.completeRecovery partition sequence).2.stats = gate.stats
      cases done : (gate.completeRecovery partition sequence).1 with
      | false => rw [completeRecovery_of_false done]
      | true => rw [completeRecovery_of_true done]
  | beginRecovery | reset => rfl

/-- **Every call keeps the books.** -/
theorem GateBooks.call {answers : List GateAnswer} {gate : SequenceGate}
    (books : GateBooks answers gate) (input : GateCall) :
    GateBooks (answers ++ [(gate.call input).2]) (gate.call input).1 where
  trust := books.trust.step (gate.call_trust input)
  stats := by
    rw [gate.call_stats, verdicts_concat, books.stats]
    cases (gate.call input).2.verdict with
    | none => rw [Option.toList_none, List.append_nil]; rfl
    | some event => exact SequenceStats.counting_tally _ event

theorem GateBooks.fresh (mode : SequenceMode) : GateBooks [] { mode } where
  stats := rfl
  trust := ⟨Nat.le_refl 0, Nat.le_refl 0, Nat.le_refl 1⟩

theorem GateBooks.after (mode : SequenceMode) (calls : List GateCall) :
    GateBooks (({ mode } : SequenceGate).answers calls) (({ mode } : SequenceGate).after calls) :=
  Machine.outputs_history SequenceGate.call GateBooks
    (fun _ _ input books => books.call input) [] { mode } calls (.fresh mode)

/-- **The books of a gate are right after every run.** Whatever is called on a fresh gate of either
mode:

* every counter is the number of live verdicts of its kind, in 64 bits, so all of them together count
  the live observations; replayed observations and resets leave them alone;
* gaps and regressions are at most as many as the recoveries that completed, and fewer while the gate is
  trusted;
* a completed recovery is still trusted, or was lost by a gap, a regression or a foreign partition, or
  taken back by a reset or a recovery that began, and but for the first one it follows one of these
  last two. -/
theorem gate_books (mode : SequenceMode) (calls : List GateCall) :
    let gate := ({ mode } : SequenceGate).after calls
    let answers := ({ mode } : SequenceGate).answers calls
    gate.stats = .tally (verdicts answers) ∧
      gate.stats.total = UInt64.ofNat (verdicts answers).length ∧
      TrustAccount answers gate.state := by
  intro gate answers
  have books : GateBooks answers gate := GateBooks.after mode calls
  refine ⟨books.stats, ?_, books.trust⟩
  rw [books.stats, SequenceStats.total_tally]

end MarketDataFabric.Mappers
