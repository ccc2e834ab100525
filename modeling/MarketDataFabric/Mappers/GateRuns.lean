/-
**Runs of the sequence gate.**

* `contiguous_moves` — inside an epoch (a baseline is set and no reset happens) a contiguous gate is
  a machine with a cursor, the pair of its partition and its last accepted number: it announces
  exactly the acceptances, live and replayed, and moves only to the successor.
* `contiguous_epoch` — hence the acceptances of an epoch are the successors of the baseline.
* `Distrusted`, `distrusted_step` — what damage leaves behind and every later call keeps, as long as
  no recovery completes; `stale_sticky` reads the consequences off.
* `recoverable_iff`, `recoverable_always_iff` — from which gates a recovery can complete, and the
  runs all of whose gates are such.
-/

import MarketDataFabric.Mappers.SequenceGate

namespace MarketDataFabric.Mappers

open Library

/-- What an answer accepts, live or replayed: its partition and its number. -/
def GateAnswer.acceptance : GateAnswer → Option (UInt64 × UInt64)
  | .observed observation | .replayed observation =>
      if observation.accepted then some (observation.partition, observation.received) else none
  | .completed _ | .nothing => none

namespace SequenceGate

/-! ### The cursor of an epoch -/

/-- The place of the gate in the stream of its partition. -/
def cursor (gate : SequenceGate) : UInt64 × UInt64 := (gate.partition, gate.lastAccepted)

/-- The next place of the same partition, with the 64-bit successor. -/
def nextPlace (place : UInt64 × UInt64) : UInt64 × UInt64 := (place.1, place.2 + 1)

theorem nextPlace_iterate (partition baseline : UInt64) (count : Nat) :
    nextPlace^[count] (partition, baseline) = (partition, baseline + UInt64.ofNat count) := by
  induction count with
  | zero => simp
  | succ count ih =>
      rw [Function.iterate_succ_apply', ih, nextPlace, UInt64.ofNat_add, UInt64.add_assoc]
      rfl

/-- The acceptances along a list of calls, live and replayed together, in call order. -/
abbrev acceptances (gate : SequenceGate) (calls : List GateCall) : List (UInt64 × UInt64) :=
  Machine.emitted call GateAnswer.acceptance gate calls

theorem accepts_contiguous {gate : SequenceGate} {sequence : UInt64}
    (contiguous : gate.mode = .contiguous) (fits : gate.accepts sequence = true) :
    sequence = gate.lastAccepted + 1 := by
  simpa [accepts, contiguous] using fits

theorem acceptance_observed (observation : ContinuityObservation) :
    (GateAnswer.observed observation).acceptance =
      if observation.event = .accepted then some (observation.partition, observation.received)
      else none := by
  simp [GateAnswer.acceptance, ContinuityObservation.accepted]

theorem acceptance_replayed (observation : ContinuityObservation) :
    (GateAnswer.replayed observation).acceptance =
      if observation.event = .accepted then some (observation.partition, observation.received)
      else none := by
  simp [GateAnswer.acceptance, ContinuityObservation.accepted]

/-- **A live observation moves the cursor exactly when it accepts.** -/
theorem observe_cursor (gate : SequenceGate) (partition sequence : UInt64) :
    ((gate.observe partition sequence).1.event = .accepted ∧
        partition = gate.partition ∧ gate.accepts sequence = true ∧
        (gate.observe partition sequence).2.cursor = (partition, sequence)) ∨
      ((gate.observe partition sequence).1.event ≠ .accepted ∧
        (gate.observe partition sequence).2.cursor = gate.cursor) := by
  obtain ⟨event, state, lastAccepted, branch, said, -, landed⟩ :=
    exists_observe_step gate partition sequence
  obtain ⟨-, samePartition, -, -⟩ := observe_frame gate partition sequence
  rw [cursor, cursor, samePartition, said, landed]
  cases branch with
  | accepted _ _ _ home fits => exact Or.inl ⟨rfl, home, fits, by rw [home]⟩
  | invalid | awaitingBaseline | wrongPartition | rejectedWhileStale | duplicate | gap
  | regression => exact Or.inr ⟨by decide, rfl⟩

/-- **So does a replayed one.** -/
theorem observeRecovery_cursor (gate : SequenceGate) (partition sequence : UInt64) :
    ((gate.observeRecovery partition sequence).1.event = .accepted ∧
        partition = gate.partition ∧ gate.accepts sequence = true ∧
        (gate.observeRecovery partition sequence).2.cursor = (partition, sequence)) ∨
      ((gate.observeRecovery partition sequence).1.event ≠ .accepted ∧
        (gate.observeRecovery partition sequence).2.cursor = gate.cursor) := by
  obtain ⟨event, next, branch, said, moved⟩ := exists_observeRecovery_step gate partition sequence
  rw [said, moved]
  cases branch with
  | accepted _ _ home fits => exact Or.inl ⟨rfl, home, fits, by rw [home]; rfl⟩
  | invalid | regression | gap => exact Or.inr ⟨by decide, rfl⟩

/-- A recovery that completes on a gate with a baseline names that baseline. -/
theorem completeRecovery_cursor {gate : SequenceGate} {partition sequence : UInt64}
    (based : gate.state ≠ .uninitialized) :
    (gate.completeRecovery partition sequence).2.cursor = gate.cursor := by
  cases done : (gate.completeRecovery partition sequence).1 with
  | false => rw [completeRecovery_of_false done]
  | true =>
      obtain ⟨-, here⟩ := (completeRecovery_eq_true_iff gate partition sequence).mp done
      obtain ⟨-, samePartition, sameSequence⟩ := here.resolve_left based
      rw [completeRecovery_of_true done, cursor, cursor, samePartition, sameSequence]

/-- No call but a reset loses the baseline. -/
theorem call_based {gate : SequenceGate} {input : GateCall} (based : gate.state ≠ .uninitialized)
    (noReset : input ≠ .reset) : (gate.call input).1.state ≠ .uninitialized := by
  cases input with
  | observe partition sequence =>
      show (gate.observe partition sequence).2.state ≠ _
      rcases observe_state gate partition sequence with same | ⟨stale, -⟩
      · rwa [same]
      · rw [stale]
        decide
  | beginRecovery => exact (by decide : ContinuityState.recovering ≠ .uninitialized)
  | observeRecovery partition sequence =>
      show (gate.observeRecovery partition sequence).2.state ≠ _
      rwa [(observeRecovery_frame gate partition sequence).2.2.1]
  | completeRecovery partition sequence =>
      show (gate.completeRecovery partition sequence).2.state ≠ _
      cases done : (gate.completeRecovery partition sequence).1 with
      | false => rwa [completeRecovery_of_false done]
      | true =>
          rw [completeRecovery_of_true done]
          exact (by decide : ContinuityState.healthy ≠ .uninitialized)
  | reset => exact absurd rfl noReset

theorem call_mode (gate : SequenceGate) (input : GateCall) :
    (gate.call input).1.mode = gate.mode := by
  cases input with
  | observe partition sequence => exact (observe_frame gate partition sequence).1
  | observeRecovery partition sequence => exact (observeRecovery_frame gate partition sequence).1
  | completeRecovery partition sequence =>
      show (gate.completeRecovery partition sequence).2.mode = _
      cases done : (gate.completeRecovery partition sequence).1 with
      | false => rw [completeRecovery_of_false done]
      | true => rw [completeRecovery_of_true done]
  | beginRecovery | reset => rfl

theorem after_mode (gate : SequenceGate) (calls : List GateCall) :
    (gate.after calls).mode = gate.mode :=
  Machine.final_invariant call (fun later => later.mode = gate.mode) (fun _ => True)
    (fun later input same _ => (call_mode later input).trans same) rfl fun _ _ => trivial

/-- **An epoch of a contiguous gate moves along successors.** -/
theorem contiguous_moves :
    Machine.Moves call (fun gate => gate.mode = .contiguous ∧ gate.state ≠ .uninitialized)
      (· ≠ .reset) cursor GateAnswer.acceptance fun here there => there = nextPlace here where
  keeps gate input holds noReset := ⟨(call_mode gate input).trans holds.1, call_based holds.2 noReset⟩
  stays := by
    intro gate input ⟨_, based⟩ noReset silent
    cases input with
    | observe partition sequence =>
        rcases observe_cursor gate partition sequence with ⟨accepted, -⟩ | ⟨-, same⟩
        · rw [call, acceptance_observed, if_pos accepted] at silent
          cases silent
        · exact same
    | beginRecovery => rfl
    | observeRecovery partition sequence =>
        rcases observeRecovery_cursor gate partition sequence with ⟨accepted, -⟩ | ⟨-, same⟩
        · rw [call, acceptance_replayed, if_pos accepted] at silent
          cases silent
        · exact same
    | completeRecovery partition sequence => exact completeRecovery_cursor based
    | reset => exact absurd rfl noReset
  moves := by
    intro gate input place ⟨contiguous, _⟩ _ said
    cases input with
    | observe partition sequence =>
        obtain ⟨-, -, answeredPartition, answeredSequence⟩ := observe_frame gate partition sequence
        rcases observe_cursor gate partition sequence with ⟨accepted, home, fits, moved⟩ | ⟨other, -⟩
        · rw [call, acceptance_observed, if_pos accepted, answeredPartition, answeredSequence] at said
          cases said
          exact ⟨by rw [nextPlace, cursor, home, accepts_contiguous contiguous fits], moved⟩
        · rw [call, acceptance_observed, if_neg other] at said
          cases said
    | observeRecovery partition sequence =>
        obtain ⟨-, -, -, answeredPartition, answeredSequence⟩ :=
          observeRecovery_frame gate partition sequence
        rcases observeRecovery_cursor gate partition sequence with
          ⟨accepted, home, fits, moved⟩ | ⟨other, -⟩
        · rw [call, acceptance_replayed, if_pos accepted, answeredPartition, answeredSequence] at said
          cases said
          exact ⟨by rw [nextPlace, cursor, home, accepts_contiguous contiguous fits], moved⟩
        · rw [call, acceptance_replayed, if_neg other] at said
          cases said
    | beginRecovery | completeRecovery | reset => cases said

/-- A run without a reset keeps the baseline. -/
theorem after_based {gate : SequenceGate} {calls : List GateCall}
    (based : gate.state ≠ .uninitialized) (noReset : GateCall.reset ∉ calls) :
    (gate.after calls).state ≠ .uninitialized :=
  Machine.final_invariant call (fun later => later.state ≠ .uninitialized) (· ≠ .reset)
    (fun _ _ holds other => call_based holds other) based fun _ member same => noReset (same ▸ member)

/-- **A contiguous gate never skips, repeats or mixes.** `before` is any run of a fresh contiguous
gate at whose end a recovery completes (in particular one that leaves it without a baseline, where
the completion opens an epoch), and `inside` is any run from there that does not reset. -/
theorem contiguous_epoch (before inside : List GateCall) (partition baseline : UInt64)
    (opens : ((({ mode := .contiguous } : SequenceGate).after before).completeRecovery partition
      baseline).1 = true)
    (noReset : GateCall.reset ∉ inside) :
    let opened := ((({ mode := .contiguous } : SequenceGate).after before).completeRecovery partition
      baseline).2
    let count := (opened.acceptances inside).length
    opened.acceptances inside =
        (List.range count).map (fun index => (partition, baseline + UInt64.ofNat (index + 1))) ∧
      (opened.after inside).partition = partition ∧
      (opened.after inside).lastAccepted = baseline + UInt64.ofNat count ∧
      ∀ front back other sequence, inside = front ++ .completeRecovery other sequence :: back →
        ((opened.after front).completeRecovery other sequence).1 = true →
          ((opened.after front).completeRecovery other sequence).2.partition =
              (opened.after front).partition ∧
            ((opened.after front).completeRecovery other sequence).2.lastAccepted =
              (opened.after front).lastAccepted := by
  intro opened count
  have shape := completeRecovery_of_true opens
  have based : opened.state ≠ .uninitialized := by
    show (completeRecovery _ _ _).2.state ≠ _
    rw [shape]
    exact (by decide : ContinuityState.healthy ≠ .uninitialized)
  have contiguous : opened.mode = .contiguous := by
    show (completeRecovery _ _ _).2.mode = _
    rw [shape]
    exact after_mode _ before
  have start : opened.cursor = (partition, baseline) := by
    show (completeRecovery _ _ _).2.cursor = _
    rw [shape]
    rfl
  have allowed : ∀ input ∈ inside, input ≠ .reset := fun input member same =>
    noReset (same ▸ member)
  obtain ⟨trail, landed⟩ := contiguous_moves.emitted_eq_walk ⟨contiguous, based⟩ allowed
  rw [start, nextPlace_iterate] at landed
  obtain ⟨landedPartition, landedSequence⟩ := Prod.mk.inj landed
  refine ⟨?_, landedPartition, landedSequence, ?_⟩
  · refine trail.trans ?_
    rw [start, Machine.walk]
    exact List.map_congr_left fun index _ => nextPlace_iterate _ _ _
  · intro front back other sequence split _
    have frontBased : (opened.after front).state ≠ .uninitialized :=
      after_based based fun member => noReset (by rw [split]; exact List.mem_append_left _ member)
    exact Prod.mk.inj (completeRecovery_cursor frontBased)

/-- A gap, a replay up to the message before it, and the completed recovery, in one epoch. -/
theorem contiguous_epoch_over_gap :
    ((({ mode := .contiguous } : SequenceGate).completeRecovery 3 99).2.after
        [.observe 3 100, .observe 3 104, .beginRecovery, .observeRecovery 3 101,
          .completeRecovery 3 101, .observe 3 102]).lastAccepted = 102 :=
  (contiguous_epoch []
    [.observe 3 100, .observe 3 104, .beginRecovery, .observeRecovery 3 101,
      .completeRecovery 3 101, .observe 3 102] 3 99
    (by decide) (by decide)).2.2.1

/-! ### Damage -/

end SequenceGate

/-- The events that damage a trusted stream. -/
def ContinuityEvent.damaging : ContinuityEvent → Bool
  | .gap | .regression | .wrongPartition => true
  | .accepted | .duplicate | .awaitingBaseline | .rejectedWhileStale | .invalid => false

/-- The events that continue a trusted stream. -/
def ContinuityEvent.continuing : ContinuityEvent → Bool
  | .accepted | .duplicate => true
  | .gap | .regression | .wrongPartition | .awaitingBaseline | .rejectedWhileStale
  | .invalid => false

namespace SequenceGate

/-- **What damage leaves behind.** `past` is what was called since the damage and `established` the
partition of the damaged stream: the gate is not trusted, and unless it was reset it still holds the
damaged stream and is recovering only on request. -/
structure Distrusted (established : UInt64) (past : List GateCall) (gate : SequenceGate) : Prop where
  untrusted : gate.state ≠ .healthy
  standing : .reset ∈ past ∨ (gate.state ≠ .uninitialized ∧ gate.partition = established ∧
    (gate.state = .recovering → .beginRecovery ∈ past))

/-- A damaging observation leaves the stream damaged. -/
theorem observe_damaging {gate : SequenceGate} {partition sequence : UInt64}
    (damage : (gate.observe partition sequence).1.event.damaging = true) :
    Distrusted gate.partition [] (gate.observe partition sequence).2 := by
  obtain ⟨-, samePartition, -, -⟩ := observe_frame gate partition sequence
  have stale : (gate.observe partition sequence).2.state = .stale := by
    obtain ⟨event, state, lastAccepted, branch, said, left, -⟩ :=
      exists_observe_step gate partition sequence
    rw [said] at damage
    rw [left]
    cases branch with
    | wrongPartition | gap | regression => rfl
    | invalid | awaitingBaseline | rejectedWhileStale | accepted | duplicate => cases damage
  refine ⟨by rw [stale]; decide, Or.inr ⟨by rw [stale]; decide, samePartition, ?_⟩⟩
  intro recovering
  rw [stale] at recovering
  cases recovering

/-- A gate that did not move is as distrusted as before. -/
theorem Distrusted.unmoved {established : UInt64} {past : List GateCall} {gate next : SequenceGate}
    (holds : Distrusted established past gate) (input : GateCall) (state : next.state = gate.state)
    (partition : next.partition = gate.partition) :
    Distrusted established (past ++ [input]) next := by
  refine ⟨by rw [state]; exact holds.untrusted, ?_⟩
  rcases holds.standing with reset | ⟨based, here, asked⟩
  · exact Or.inl (List.mem_append_left _ reset)
  · exact Or.inr ⟨by rwa [state], partition.trans here, fun recovering =>
      List.mem_append_left _ (asked (state ▸ recovering))⟩

/-- **Every later call keeps the stream distrusted, unless it completes a recovery.** -/
theorem distrusted_step {established : UInt64} {past : List GateCall} {gate : SequenceGate}
    {input : GateCall} (holds : Distrusted established past gate)
    (unfinished : (gate.call input).2 ≠ .completed true) :
    Distrusted established (past ++ [input]) (gate.call input).1 := by
  cases input with
  | observe partition sequence =>
      show Distrusted established _ (gate.observe partition sequence).2
      obtain ⟨-, samePartition, -, -⟩ := observe_frame gate partition sequence
      rcases observe_state gate partition sequence with same | ⟨stale, based⟩
      · exact holds.unmoved _ same samePartition
      · refine ⟨by rw [stale]; decide, ?_⟩
        rcases holds.standing with reset | ⟨_, here, _⟩
        · exact Or.inl (List.mem_append_left _ reset)
        · refine Or.inr ⟨by rw [stale]; decide, samePartition.trans here, fun recovering => ?_⟩
          rw [stale] at recovering
          cases recovering
  | beginRecovery =>
      refine ⟨(by decide : ContinuityState.recovering ≠ .healthy), ?_⟩
      rcases holds.standing with reset | ⟨_, here, _⟩
      · exact Or.inl (List.mem_append_left _ reset)
      · exact Or.inr ⟨(by decide : ContinuityState.recovering ≠ .uninitialized), here,
          fun _ => List.mem_append_right _ List.mem_cons_self⟩
  | observeRecovery partition sequence =>
      show Distrusted established _ (gate.observeRecovery partition sequence).2
      obtain ⟨-, samePartition, same, -, -⟩ := observeRecovery_frame gate partition sequence
      exact holds.unmoved _ same samePartition
  | completeRecovery partition sequence =>
      have refused : (gate.completeRecovery partition sequence).1 = false := by
        cases done : (gate.completeRecovery partition sequence).1 with
        | false => rfl
        | true => exact absurd (congrArg GateAnswer.completed done) unfinished
      show Distrusted established _ (gate.completeRecovery partition sequence).2
      rw [completeRecovery_of_false refused]
      exact holds.unmoved _ rfl rfl
  | reset =>
      exact ⟨(by decide : ContinuityState.uninitialized ≠ .healthy),
        Or.inl (List.mem_append_right _ List.mem_cons_self)⟩

/-- The damage lasts through any calls that complete no recovery. -/
theorem distrusted_after {established : UInt64} {gate : SequenceGate} {later : List GateCall}
    (holds : Distrusted established [] gate)
    (unfinished : GateAnswer.completed true ∉ gate.answers later) :
    Distrusted established later (gate.after later) :=
  Machine.final_history call (Distrusted established) (· ≠ .completed true)
    (fun _ _ _ => distrusted_step) holds fun _ member same => unfinished (same ▸ member)

/-- An observation continues the stream only on a trusted gate and its own partition. -/
theorem observe_continuing {gate : SequenceGate} {partition sequence : UInt64}
    (continued : (gate.observe partition sequence).1.event.continuing = true) :
    gate.state = .healthy ∧ partition = gate.partition := by
  obtain ⟨event, state, lastAccepted, branch, said, -, -⟩ :=
    exists_observe_step gate partition sequence
  rw [said] at continued
  cases branch with
  | accepted _ _ healthy home _ => exact ⟨healthy, home⟩
  | duplicate healthy home => exact ⟨healthy, home⟩
  | invalid | awaitingBaseline | wrongPartition | rejectedWhileStale | gap | regression =>
      cases continued

/-- Trust is only gained by a completed recovery. -/
theorem call_trusted {gate : SequenceGate} {input : GateCall}
    (trusted : (gate.call input).1.state = .healthy) (before : gate.state ≠ .healthy) :
    ∃ partition sequence, input = .completeRecovery partition sequence ∧
      (gate.call input).2 = .completed true := by
  by_contra other
  have holds : Distrusted gate.partition [.reset] gate :=
    ⟨before, Or.inl List.mem_cons_self⟩
  have unfinished : (gate.call input).2 ≠ .completed true := by
    intro completed
    apply other
    cases input with
    | completeRecovery partition sequence => exact ⟨partition, sequence, rfl, completed⟩
    | observe | beginRecovery | observeRecovery | reset => cases completed
  exact (distrusted_step holds unfinished).untrusted trusted

/-- **Stale is sticky.** `before` is any run of a fresh gate of either mode. After a damaging
observation and any calls `later` that complete no recovery, the gate is not trusted, no observation
continues the stream, and a recovery can only complete after a reset, or after `beginRecovery` at the
established partition and the last accepted number. Conversely trust is gained by
`completeRecovery` alone, and only a trusted gate continues, on its own partition. -/
theorem stale_sticky (mode : SequenceMode) (before : List GateCall) :
    (∀ partition sequence later,
      let gate := ({ mode } : SequenceGate).after before
      let damaged := (gate.observe partition sequence).2
      let now := damaged.after later
      (gate.observe partition sequence).1.event.damaging = true →
      GateAnswer.completed true ∉ damaged.answers later →
        now.trusted = false ∧
        (∀ other number, (now.observe other number).1.event.continuing = false) ∧
        ∀ other number, (now.completeRecovery other number).1 = true →
          .reset ∈ later ∨
            (.beginRecovery ∈ later ∧ other = gate.partition ∧ number = now.lastAccepted)) ∧
    (∀ input,
      let gate := ({ mode } : SequenceGate).after before
      gate.trusted = false → (gate.call input).1.trusted = true →
        ∃ partition sequence, input = .completeRecovery partition sequence ∧
          (gate.call input).2 = .completed true) ∧
    ∀ partition sequence,
      let gate := ({ mode } : SequenceGate).after before
      (gate.observe partition sequence).1.event.continuing = true →
        gate.trusted = true ∧ partition = gate.partition := by
  refine ⟨?_, ?_, ?_⟩
  · intro partition sequence later gate damaged now damage unfinished
    have distrusted := distrusted_after (observe_damaging damage) unfinished
    refine ⟨by simpa [trusted] using distrusted.untrusted, fun other number => ?_,
      fun other number completed => ?_⟩
    · rw [Bool.eq_false_iff]
      exact fun continued => distrusted.untrusted (observe_continuing continued).1
    · rcases distrusted.standing with reset | ⟨based, here, asked⟩
      · exact Or.inl reset
      · obtain ⟨-, place⟩ := (completeRecovery_eq_true_iff now other number).mp completed
        obtain ⟨recovering, samePartition, sameSequence⟩ := place.resolve_left based
        exact Or.inr ⟨asked recovering, samePartition.trans here, sameSequence⟩
  · intro input gate untrusted trusting
    exact call_trusted (by simpa [trusted] using trusting) (by simpa [trusted] using untrusted)
  · intro partition sequence gate continued
    obtain ⟨healthy, home⟩ := observe_continuing continued
    exact ⟨by simpa [trusted] using healthy, home⟩

/-- A gap on partition 3, then a replay and a refused completion: still distrusted. -/
theorem stale_sticky_after_gap :
    (((({ mode := .contiguous } : SequenceGate).after
        [.completeRecovery 3 99, .observe 3 100]).observe 3 104).2.after
      [.observe 3 101, .beginRecovery, .observeRecovery 3 101, .completeRecovery 3 104]).trusted
      = false :=
  ((stale_sticky .contiguous [.completeRecovery 3 99, .observe 3 100]).1 3 104
    [.observe 3 101, .beginRecovery, .observeRecovery 3 101, .completeRecovery 3 104]
    (by decide) (by decide)).1

/-! ### Where recovery is possible -/

/-- Some recovery can complete without a reset, with or without `beginRecovery` first. -/
def Recoverable (gate : SequenceGate) : Prop :=
  ∃ partition sequence,
    ((gate.beginRecovery.completeRecovery partition sequence).1 = true ∧
      (gate.beginRecovery.completeRecovery partition sequence).2.state = .healthy) ∨
    ((gate.completeRecovery partition sequence).1 = true ∧
      (gate.completeRecovery partition sequence).2.state = .healthy)

theorem completeRecovery_healthy {gate : SequenceGate} {partition sequence : UInt64}
    (completed : (gate.completeRecovery partition sequence).1 = true) :
    (gate.completeRecovery partition sequence).2.state = .healthy := by
  rw [completeRecovery_of_true completed]

/-- **Recovery is possible without a baseline or on an established partition**, and nowhere else. -/
theorem recoverable_iff (gate : SequenceGate) :
    gate.Recoverable ↔ gate.state = .uninitialized ∨ gate.partition ≠ 0 := by
  constructor
  · rintro ⟨partition, sequence, ⟨completed, -⟩ | ⟨completed, -⟩⟩
    · obtain ⟨named, place⟩ := (completeRecovery_eq_true_iff _ _ _).mp completed
      rcases place with unbased | ⟨-, here, -⟩
      · cases unbased
      · exact Or.inr (here ▸ named)
    · obtain ⟨named, place⟩ := (completeRecovery_eq_true_iff _ _ _).mp completed
      rcases place with unbased | ⟨-, here, -⟩
      · exact Or.inl unbased
      · exact Or.inr (here ▸ named)
  · rintro (unbased | established)
    · have completed : (gate.completeRecovery 1 0).1 = true :=
        (completeRecovery_eq_true_iff _ _ _).mpr ⟨by decide, Or.inl unbased⟩
      exact ⟨1, 0, Or.inr ⟨completed, completeRecovery_healthy completed⟩⟩
    · have completed :
          (gate.beginRecovery.completeRecovery gate.partition gate.lastAccepted).1 = true :=
        (completeRecovery_eq_true_iff _ _ _).mpr ⟨established, Or.inr ⟨rfl, rfl, rfl⟩⟩
      exact ⟨gate.partition, gate.lastAccepted,
        Or.inl ⟨completed, completeRecovery_healthy completed⟩⟩

/-- The call that traps a gate: a recovery begun before there is a baseline to recover to. -/
def Trapping (gate : SequenceGate) (input : GateCall) : Prop :=
  input = .beginRecovery ∧ gate.state = .uninitialized

/-- A gate without a baseline names no partition. -/
def Unnamed (gate : SequenceGate) : Prop :=
  gate.state = .uninitialized → gate.partition = 0

theorem call_unnamed {gate : SequenceGate} (input : GateCall) (unnamed : gate.Unnamed) :
    (gate.call input).1.Unnamed := by
  by_cases isReset : input = .reset
  · rw [isReset]
    exact fun _ => rfl
  by_cases unbased : gate.state = .uninitialized
  · cases input with
    | observe partition sequence =>
        intro _
        exact (observe_frame gate partition sequence).2.1.trans (unnamed unbased)
    | beginRecovery => intro impossible; cases impossible
    | observeRecovery partition sequence =>
        intro _
        exact (observeRecovery_frame gate partition sequence).2.1.trans (unnamed unbased)
    | completeRecovery partition sequence =>
        intro still
        have refused : (gate.completeRecovery partition sequence).1 = false := by
          by_contra done
          have healthy := completeRecovery_healthy (Bool.not_eq_false _ ▸ done)
          rw [call, healthy] at still
          cases still
        rw [call, completeRecovery_of_false refused]
        exact unnamed unbased
    | reset => exact absurd rfl isReset
  · exact fun still => absurd still (call_based unbased isReset)

/-- Every call but the trapping one keeps a recovery possible. -/
theorem call_recoverable {gate : SequenceGate} {input : GateCall} (recoverable : gate.Recoverable)
    (fine : ¬ gate.Trapping input) : (gate.call input).1.Recoverable := by
  rw [recoverable_iff] at recoverable ⊢
  cases input with
  | observe partition sequence =>
      show (gate.observe partition sequence).2.state = _ ∨
        (gate.observe partition sequence).2.partition ≠ 0
      rw [(observe_frame gate partition sequence).2.1]
      rcases recoverable with unbased | established
      · rcases observe_state gate partition sequence with same | ⟨-, based⟩
        · exact Or.inl (same.trans unbased)
        · exact absurd unbased based
      · exact Or.inr established
  | beginRecovery =>
      rcases recoverable with unbased | established
      · exact absurd ⟨rfl, unbased⟩ fine
      · exact Or.inr established
  | observeRecovery partition sequence =>
      obtain ⟨-, samePartition, same, -, -⟩ := observeRecovery_frame gate partition sequence
      show (gate.observeRecovery partition sequence).2.state = _ ∨
        (gate.observeRecovery partition sequence).2.partition ≠ 0
      rwa [samePartition, same]
  | completeRecovery partition sequence =>
      show (gate.completeRecovery partition sequence).2.state = _ ∨
        (gate.completeRecovery partition sequence).2.partition ≠ 0
      cases done : (gate.completeRecovery partition sequence).1 with
      | false => rwa [completeRecovery_of_false done]
      | true =>
          rw [completeRecovery_of_true done]
          exact Or.inr ((completeRecovery_eq_true_iff _ _ _).mp done).1
  | reset => exact Or.inl rfl

/-- The trapping call leaves no recovery possible. -/
theorem call_trapping {gate : SequenceGate} {input : GateCall} (unnamed : gate.Unnamed)
    (trapping : gate.Trapping input) : ¬ (gate.call input).1.Recoverable := by
  obtain ⟨rfl, unbased⟩ := trapping
  rw [recoverable_iff, not_or]
  exact ⟨(by decide : ContinuityState.recovering ≠ .uninitialized), not_not.mpr (unnamed unbased)⟩

/-- **The runs along which recovery always stays possible**: those that never begin a recovery
without a baseline. -/
theorem recoverable_always_iff (mode : SequenceMode) (calls : List GateCall) :
    (∀ front back, calls = front ++ back →
        (({ mode } : SequenceGate).after front).Recoverable) ↔
      ∀ front back, calls = front ++ .beginRecovery :: back →
        (({ mode } : SequenceGate).after front).state ≠ .uninitialized := by
  refine (Machine.final_always_iff call Unnamed Recoverable Trapping
    (fun _ input => call_unnamed input) (fun _ _ _ => call_recoverable) (fun _ _ => call_trapping)
    (fun _ => rfl) ((recoverable_iff _).mpr (Or.inl rfl)) calls).trans ?_
  constructor
  · intro never front back split unbased
    exact never front .beginRecovery back split ⟨rfl, unbased⟩
  · intro never front input back split trapping
    obtain ⟨rfl, unbased⟩ := trapping
    exact never front back split unbased

end SequenceGate

end MarketDataFabric.Mappers
