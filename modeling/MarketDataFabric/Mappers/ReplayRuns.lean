/-
**Replaying equals receiving.**

* `Settled`, `after_settled` — a trusted gate has received last what it accepted last, and names its
  partition; every run of a fresh gate keeps that.
* `Mirrors`, `replay_mirrors` — a trusted gate and a recovering gate at the same place accept the
  same lists, the one live and the other as a replay, and stay at the same place.
* `unaccounted`, `sameStream_lockstep` — the statistics decide nothing: gates that differ in them
  alone give the same answers for ever.
* `replay_equals_live` — hence the completed replay is the live gate, but for its statistics.
-/

import MarketDataFabric.Mappers.GateRuns

namespace MarketDataFabric.Mappers.SequenceGate

open Library

/-! ### What a trusted gate has received -/

/-- A trusted gate has received last what it accepted last, on a partition with a name. -/
def Settled (gate : SequenceGate) : Prop :=
  gate.state = .healthy → gate.lastReceived = gate.lastAccepted ∧ gate.partition ≠ 0

/-- A live observation with a name and a number is received, whatever becomes of it. -/
theorem observe_received (gate : SequenceGate) {partition sequence : UInt64}
    (read : ¬ (partition = 0 ∨ sequence = 0)) :
    (gate.observe partition sequence).2.lastReceived = sequence := by
  simp only [observe, if_neg read]
  split_ifs <;> rfl

theorem observe_settled {gate : SequenceGate} (partition sequence : UInt64)
    (settled : gate.Settled) : (gate.observe partition sequence).2.Settled := by
  by_cases read : partition = 0 ∨ sequence = 0
  · simp only [observe, if_pos read]
    exact settled
  have received := observe_received gate read
  obtain ⟨-, home, -, -⟩ := observe_frame gate partition sequence
  obtain ⟨event, state, lastAccepted, branch, -, left, landed⟩ :=
    exists_observe_step gate partition sequence
  rw [Settled, received, home, left, landed]
  intro healthy
  cases branch with
  | accepted => exact ⟨rfl, (settled healthy).2⟩
  | duplicate _ _ _ again => exact ⟨again, (settled healthy).2⟩
  | invalid zero => exact absurd zero read
  | awaitingBaseline _ _ unbased => rw [healthy] at unbased; cases unbased
  | rejectedWhileStale distrusted => rw [healthy] at distrusted; simp at distrusted
  | wrongPartition | gap | regression => cases healthy

theorem call_settled {gate : SequenceGate} (input : GateCall) (settled : gate.Settled) :
    (gate.call input).1.Settled := by
  cases input with
  | observe partition sequence => exact observe_settled partition sequence settled
  | beginRecovery => intro impossible; cases impossible
  | observeRecovery partition sequence =>
      obtain ⟨event, next, branch, -, moved⟩ :=
        exists_observeRecovery_step gate partition sequence
      show (gate.observeRecovery partition sequence).2.Settled
      rw [moved]
      cases branch with
      | accepted recovering =>
          intro healthy
          rw [show gate.state = .healthy from healthy] at recovering
          cases recovering
      | invalid | regression | gap => exact settled
  | completeRecovery partition sequence =>
      show (gate.completeRecovery partition sequence).2.Settled
      cases done : (gate.completeRecovery partition sequence).1 with
      | false => rwa [completeRecovery_of_false done]
      | true =>
          rw [completeRecovery_of_true done]
          exact fun _ => ⟨rfl, ((completeRecovery_eq_true_iff _ _ _).mp done).1⟩
  | reset => intro impossible; cases impossible

theorem after_settled (mode : SequenceMode) (calls : List GateCall) :
    (({ mode } : SequenceGate).after calls).Settled :=
  Machine.final_invariant call Settled (fun _ => True)
    (fun _ input settled _ => call_settled input settled) (fun impossible => by cases impossible)
    fun _ _ => trivial

/-! ### The two ways of accepting -/

/-- Every call of a list is an observation the gate accepts, live or replayed. -/
def AcceptsAll (gate : SequenceGate) (calls : List GateCall) : Prop :=
  ∀ answer ∈ gate.answers calls, answer.acceptance.isSome

/-- **A trusted gate and a recovering one at the same place of the same stream.** -/
structure Mirrors (live replayed : SequenceGate) : Prop where
  healthy : live.state = .healthy
  recovering : replayed.state = .recovering
  named : live.partition ≠ 0
  mode : replayed.mode = live.mode
  partition : replayed.partition = live.partition
  lastAccepted : replayed.lastAccepted = live.lastAccepted

theorem Mirrors.accepts {live replayed : SequenceGate} (mirrors : Mirrors live replayed)
    (sequence : UInt64) : replayed.accepts sequence = live.accepts sequence := by
  unfold SequenceGate.accepts
  rw [mirrors.mode, mirrors.lastAccepted]

theorem observe_accepted_iff {gate : SequenceGate} {sequence : UInt64}
    (healthy : gate.state = .healthy) (named : gate.partition ≠ 0) (numbered : sequence ≠ 0) :
    (gate.observe gate.partition sequence).1.accepted = true ↔ gate.accepts sequence = true :=
  ⟨fun accepted => (observe_accepted accepted).fits,
    fun fits => (observe_of_accepts named numbered healthy rfl fits).1⟩

/-- What a recovering gate does with a number of its own partition. -/
theorem observeRecovery_of_recovering {gate : SequenceGate}
    (recovering : gate.state = .recovering) (named : gate.partition ≠ 0) (sequence : UInt64) :
    ((gate.observeRecovery gate.partition sequence).1.accepted = true ↔
        gate.accepts sequence = true) ∧
      (gate.accepts sequence = true →
        (gate.observeRecovery gate.partition sequence).2 = { gate with lastAccepted := sequence }) := by
  obtain ⟨event, next, branch, said, moved⟩ :=
    exists_observeRecovery_step gate gate.partition sequence
  rw [ContinuityObservation.accepted, said, moved]
  cases branch with
  | accepted _ _ _ fits => exact ⟨iff_of_true rfl fits, fun _ => rfl⟩
  | invalid refused =>
      rcases refused with other | unnamed | foreign
      · exact absurd recovering other
      · exact absurd unnamed named
      · exact absurd rfl foreign
  | regression _ _ unfit | gap _ _ unfit =>
      rw [unfit]
      exact ⟨iff_of_false (by decide) (by decide), fun fits => by cases fits⟩

/-- **Both accept a number or both refuse it**, and an accepted number keeps them at one place. -/
theorem Mirrors.step {live replayed : SequenceGate} (mirrors : Mirrors live replayed)
    {sequence : UInt64} (numbered : sequence ≠ 0) :
    ((live.observe live.partition sequence).1.accepted = true ↔
        (replayed.observeRecovery live.partition sequence).1.accepted = true) ∧
      ((live.observe live.partition sequence).1.accepted = true →
        Mirrors (live.observe live.partition sequence).2
          (replayed.observeRecovery live.partition sequence).2) := by
  have here := observe_accepted_iff mirrors.healthy mirrors.named numbered
  obtain ⟨there, moved⟩ := observeRecovery_of_recovering mirrors.recovering
    (mirrors.partition ▸ mirrors.named) sequence
  rw [mirrors.partition, mirrors.accepts] at there moved
  refine ⟨here.trans there.symm, fun accepted => ?_⟩
  obtain ⟨mode, home, -, -⟩ := observe_frame live live.partition sequence
  have landed := observe_accepted accepted
  rw [moved landed.fits]
  exact {
    healthy := (observe_of_accepts mirrors.named numbered mirrors.healthy rfl landed.fits).2
    recovering := mirrors.recovering
    named := fun unnamed => mirrors.named (home.symm.trans unnamed)
    mode := mirrors.mode.trans mode.symm
    partition := home.symm
    lastAccepted := landed.lastAccepted.symm }

theorem acceptsAll_observe (gate : SequenceGate) (partition sequence : UInt64)
    (rest : List GateCall) :
    gate.AcceptsAll (.observe partition sequence :: rest) ↔
      (gate.observe partition sequence).1.accepted = true ∧
        (gate.observe partition sequence).2.AcceptsAll rest := by
  unfold AcceptsAll answers
  rw [Machine.outputs_cons, List.forall_mem_cons, call, GateAnswer.acceptance]
  split_ifs with accepted <;> simp [accepted]

theorem acceptsAll_observeRecovery (gate : SequenceGate) (partition sequence : UInt64)
    (rest : List GateCall) :
    gate.AcceptsAll (.observeRecovery partition sequence :: rest) ↔
      (gate.observeRecovery partition sequence).1.accepted = true ∧
        (gate.observeRecovery partition sequence).2.AcceptsAll rest := by
  unfold AcceptsAll answers
  rw [Machine.outputs_cons, List.forall_mem_cons, call, GateAnswer.acceptance]
  split_ifs with accepted <;> simp [accepted]

/-- **Both accept a list or both refuse some of it**, and an accepted list leaves them at one place,
its last number. -/
theorem replay_mirrors (numbers : List UInt64) (numbered : ∀ number ∈ numbers, number ≠ 0) :
    ∀ {live replayed : SequenceGate} (partition : UInt64), live.partition = partition →
      Mirrors live replayed →
        (live.AcceptsAll (numbers.map (.observe partition)) ↔
          replayed.AcceptsAll (numbers.map (.observeRecovery partition))) ∧
        (live.AcceptsAll (numbers.map (.observe partition)) →
          Mirrors (live.after (numbers.map (.observe partition)))
              (replayed.after (numbers.map (.observeRecovery partition))) ∧
            (live.after (numbers.map (.observe partition))).partition = partition ∧
            (live.after (numbers.map (.observe partition))).lastAccepted =
              numbers.getLastD live.lastAccepted) := by
  intro live replayed partition home mirrors
  induction numbers generalizing live replayed with
  | nil =>
      exact ⟨iff_of_true (fun _ member => by cases member) (fun _ member => by cases member),
        fun _ => ⟨mirrors, home, rfl⟩⟩
  | cons number rest ih =>
      obtain ⟨same, moved⟩ := mirrors.step (numbered number List.mem_cons_self)
      rw [home] at same moved
      have later := fun here => ih (fun other member => numbered other (List.mem_cons_of_mem _ member))
        (((observe_frame live partition number).2.1).trans home) (moved here)
      rw [List.map_cons, List.map_cons, acceptsAll_observe, acceptsAll_observeRecovery]
      refine ⟨?_, ?_⟩
      · rw [← same]
        exact and_congr_right fun here => (later here).1
      · rintro ⟨here, all⟩
        obtain ⟨still, stays, landed⟩ := (later here).2 all
        refine ⟨still, stays, ?_⟩
        rw [(observe_accepted here).lastAccepted] at landed
        rw [List.getLastD_cons]
        exact landed

/-! ### The statistics decide nothing -/

/-- The gate with its statistics forgotten. -/
def unaccounted (gate : SequenceGate) : SequenceGate := { gate with stats := {} }

/-- Replies that differ in the statistics alone. -/
def SameReply {α : Type} (here there : α × SequenceGate) : Prop :=
  here.1 = there.1 ∧ here.2.unaccounted = there.2.unaccounted

theorem sameReply_reply {gate other : SequenceGate} (same : gate.unaccounted = other.unaccounted)
    (event : ContinuityEvent) (partition received expected : UInt64) :
    SameReply (reply gate event partition received expected)
      (reply other event partition received expected) := by
  have sameState : gate.unaccounted.state = other.unaccounted.state := by rw [same]
  have sameLast : gate.unaccounted.lastAccepted = other.unaccounted.lastAccepted := by rw [same]
  refine ⟨?_, same⟩
  show result gate event partition received expected = result other event partition received expected
  unfold result
  rw [show gate.state = other.state from sameState,
    show gate.lastAccepted = other.lastAccepted from sameLast]

theorem SameReply.ite {α : Type} {condition : Prop} [Decidable condition]
    {here there otherwise instead : α × SequenceGate}
    (holds : SameReply here there) (fails : SameReply otherwise instead) :
    SameReply (if condition then here else otherwise) (if condition then there else instead) := by
  split_ifs
  · exact holds
  · exact fails

theorem observe_unaccounted (gate : SequenceGate) (partition sequence : UInt64) :
    SameReply (gate.unaccounted.observe partition sequence) (gate.observe partition sequence) := by
  unfold observe
  repeat' apply SameReply.ite
  all_goals exact sameReply_reply rfl _ _ _ _

theorem observeRecovery_unaccounted (gate : SequenceGate) (partition sequence : UInt64) :
    SameReply (gate.unaccounted.observeRecovery partition sequence)
      (gate.observeRecovery partition sequence) := by
  unfold observeRecovery
  repeat' apply SameReply.ite
  all_goals exact sameReply_reply rfl _ _ _ _

theorem completeRecovery_unaccounted (gate : SequenceGate) (partition sequence : UInt64) :
    SameReply (gate.unaccounted.completeRecovery partition sequence)
      (gate.completeRecovery partition sequence) := by
  unfold completeRecovery
  repeat' apply SameReply.ite
  all_goals exact ⟨rfl, rfl⟩

/-- **A call reads nothing of the statistics.** -/
theorem call_unaccounted (gate : SequenceGate) (input : GateCall) :
    (gate.unaccounted.call input).2 = (gate.call input).2 ∧
      (gate.unaccounted.call input).1.unaccounted = (gate.call input).1.unaccounted := by
  cases input with
  | observe partition sequence =>
      obtain ⟨said, landed⟩ := observe_unaccounted gate partition sequence
      exact ⟨congrArg GateAnswer.observed said, landed⟩
  | observeRecovery partition sequence =>
      obtain ⟨said, landed⟩ := observeRecovery_unaccounted gate partition sequence
      exact ⟨congrArg GateAnswer.replayed said, landed⟩
  | completeRecovery partition sequence =>
      obtain ⟨said, landed⟩ := completeRecovery_unaccounted gate partition sequence
      exact ⟨congrArg GateAnswer.completed said, landed⟩
  | beginRecovery | reset => exact ⟨rfl, rfl⟩

/-- **Gates that differ in their statistics alone run in step.** -/
theorem sameStream_lockstep :
    Machine.Lockstep call call (fun gate other => gate.unaccounted = other.unaccounted)
      (fun input given : GateCall => input = given) (fun answer given => answer = given) := by
  rintro gate other input _ same rfl
  obtain ⟨saidHere, hereNext⟩ := call_unaccounted gate input
  obtain ⟨saidThere, thereNext⟩ := call_unaccounted other input
  rw [same] at saidHere hereNext
  exact ⟨saidHere.symm.trans saidThere, hereNext.symm.trans thereNext⟩

theorem sameStream_run {gate other : SequenceGate} (same : gate.unaccounted = other.unaccounted)
    (later : List GateCall) :
    gate.answers later = other.answers later ∧
      (gate.after later).unaccounted = (other.after later).unaccounted := by
  have matched : List.Forall₂ (fun input given : GateCall => input = given) later later :=
    List.forall₂_eq_eq_eq ▸ rfl
  obtain ⟨said, landed⟩ := sameStream_lockstep.run same matched
  exact ⟨by rwa [List.forall₂_eq_eq_eq] at said, landed⟩

/-! ### Replaying and receiving -/

/-- What completing a mirroring replay leaves. -/
theorem Mirrors.completed {live replayed : SequenceGate} (mirrors : Mirrors live replayed)
    (received : live.lastReceived = live.lastAccepted) :
    (replayed.completeRecovery live.partition live.lastAccepted).1 = true ∧
      (replayed.completeRecovery live.partition live.lastAccepted).2.unaccounted =
        live.unaccounted := by
  have done : (replayed.completeRecovery live.partition live.lastAccepted).1 = true :=
    (completeRecovery_eq_true_iff _ _ _).mpr ⟨mirrors.named,
      Or.inr ⟨mirrors.recovering, mirrors.partition.symm, mirrors.lastAccepted.symm⟩⟩
  refine ⟨done, ?_⟩
  rw [completeRecovery_of_true done]
  unfold unaccounted
  rw [mirrors.mode, mirrors.healthy, received]

/-- **Replaying equals receiving.** `gate` is any trusted gate a run of a fresh gate of either mode
reaches, and `numbers` any numbers but zero. They are all accepted live exactly when they are all
accepted as a replay; the recovery then completes at the last of them, and what it leaves is the live
gate but for its statistics: every later run answers the same. A refused replay changes nothing. -/
theorem replay_equals_live (mode : SequenceMode) (before : List GateCall) (numbers : List UInt64)
    (healthy : (({ mode } : SequenceGate).after before).state = .healthy)
    (numbered : ∀ number ∈ numbers, number ≠ 0) :
    let gate := ({ mode } : SequenceGate).after before
    let live := gate.after (numbers.map (.observe gate.partition))
    let replayed := gate.beginRecovery.after (numbers.map (.observeRecovery gate.partition))
    let completed := replayed.completeRecovery gate.partition (numbers.getLastD gate.lastAccepted)
    (gate.AcceptsAll (numbers.map (.observe gate.partition)) ↔
      gate.beginRecovery.AcceptsAll (numbers.map (.observeRecovery gate.partition))) ∧
    (gate.AcceptsAll (numbers.map (.observe gate.partition)) →
      completed.1 = true ∧
      completed.2.state = live.state ∧ completed.2.partition = live.partition ∧
      completed.2.lastAccepted = live.lastAccepted ∧
      completed.2.lastReceived = live.lastReceived ∧
      ∀ later, completed.2.answers later = live.answers later ∧
        (completed.2.after later).unaccounted = (live.after later).unaccounted) ∧
    ∀ (other : SequenceGate) partition sequence,
      (other.observeRecovery partition sequence).1.accepted = false →
        (other.observeRecovery partition sequence).2 = other := by
  intro gate live replayed completed
  have settled : gate.Settled := after_settled mode before
  have mirrors : Mirrors gate gate.beginRecovery :=
    ⟨healthy, rfl, (settled healthy).2, rfl, rfl, rfl⟩
  obtain ⟨same, moved⟩ := replay_mirrors numbers numbered gate.partition rfl mirrors
  refine ⟨same, fun all => ?_, ?_⟩
  · obtain ⟨still, home, landed⟩ := moved all
    have whole : live = ({ mode } : SequenceGate).after
        (before ++ numbers.map (.observe gate.partition)) :=
      (Machine.final_append call _ before _).symm
    have received : live.lastReceived = live.lastAccepted := by
      have later : live.Settled := whole ▸ after_settled mode _
      exact (later still.healthy).1
    obtain ⟨done, agree⟩ := still.completed received
    rw [home, landed] at done agree
    have sameState : completed.2.unaccounted.state = live.unaccounted.state := by rw [agree]
    have samePartition : completed.2.unaccounted.partition = live.unaccounted.partition := by
      rw [agree]
    have sameAccepted : completed.2.unaccounted.lastAccepted = live.unaccounted.lastAccepted := by
      rw [agree]
    have sameReceived : completed.2.unaccounted.lastReceived = live.unaccounted.lastReceived := by
      rw [agree]
    exact ⟨done, sameState, samePartition, sameAccepted, sameReceived, sameStream_run agree⟩
  · intro other partition sequence refused
    obtain ⟨event, next, branch, said, moved⟩ :=
      exists_observeRecovery_step other partition sequence
    rw [ContinuityObservation.accepted, said] at refused
    rw [moved]
    cases branch with
    | accepted => cases refused
    | invalid | regression | gap => rfl

/-- A baseline, one live row, and two rows more: the same live and as a replay. -/
theorem replay_equals_live_two :
    ((({ mode := .contiguous } : SequenceGate).after
        [.completeRecovery 3 99, .observe 3 100]).AcceptsAll [.observe 3 101, .observe 3 102] ↔
      (({ mode := .contiguous } : SequenceGate).after
        [.completeRecovery 3 99, .observe 3 100]).beginRecovery.AcceptsAll
          [.observeRecovery 3 101, .observeRecovery 3 102]) :=
  (replay_equals_live .contiguous [.completeRecovery 3 99, .observe 3 100] [101, 102] (by decide)
    (by simp)).1

end MarketDataFabric.Mappers.SequenceGate
