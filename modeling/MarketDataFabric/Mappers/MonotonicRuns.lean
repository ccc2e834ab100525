/-
**Runs of a monotonic gate that is never asked to recover.**

The owner of such a gate only observes rows and establishes baselines.

* `observe_unbased` — before a baseline nothing is accepted and nothing is counted as a gap.
* `Climbing` — what holds from the first baseline on: the partition stays, no baseline is established
  again, and no jump is a gap while numbers can still rise.
* `Climbing.backward`, `Climbing.forward` — the rows that damage the stream for good are exactly
  those that go backward or come from another partition.
-/

import Mathlib.Algebra.Group.Nat.Defs
import Mathlib.Order.Basic
import MarketDataFabric.Mappers.GateRuns

namespace MarketDataFabric.Mappers.SequenceGate

/-! ### Numbers -/

/-- An accepted number is above the last one, in either mode. -/
theorem accepts_above {gate : SequenceGate} {sequence : UInt64}
    (fits : gate.accepts sequence = true) (numbered : sequence ≠ 0) :
    gate.lastAccepted < sequence := by
  have reasons : sequence = gate.lastAccepted + 1 ∨
      (gate.mode = .monotonic ∧ sequence > gate.lastAccepted) := by
    simpa [accepts] using fits
  rcases reasons with rfl | ⟨-, above⟩
  · -- the successor of the last 64-bit number is 0, which no row carries
    have positive : (gate.lastAccepted + 1).toNat ≠ 0 := fun zero =>
      numbered (UInt64.toNat_inj.mp zero)
    have bound := gate.lastAccepted.toNat_lt
    rw [UInt64.toNat_add, UInt64.toNat_one] at positive
    rw [UInt64.lt_iff_toNat_lt, UInt64.toNat_add, UInt64.toNat_one]
    omega
  · exact above

theorem accepts_of_above {gate : SequenceGate} {sequence : UInt64}
    (monotonic : gate.mode = .monotonic) (above : gate.lastAccepted < sequence) :
    gate.accepts sequence = true := by
  simp [accepts, monotonic, above]

/-- The last accepted number never falls. -/
theorem observe_climbs (gate : SequenceGate) (partition sequence : UInt64) :
    gate.lastAccepted.toNat ≤ (gate.observe partition sequence).2.lastAccepted.toNat := by
  obtain ⟨event, state, lastAccepted, branch, -, -, landed⟩ :=
    exists_observe_step gate partition sequence
  rw [landed]
  cases branch with
  | accepted _ numbered _ _ fits =>
      exact Nat.le_of_lt (UInt64.lt_iff_toNat_lt.mp (accepts_above fits numbered))
  | invalid | awaitingBaseline | wrongPartition | rejectedWhileStale | duplicate | gap
  | regression => exact Nat.le_refl _

/-! ### Gaps -/

/-- Only a gap is counted as one. -/
theorem observe_gaps {gate : SequenceGate} {partition sequence : UInt64}
    (other : (gate.observe partition sequence).1.event ≠ .gap) :
    (gate.observe partition sequence).2.stats.gaps = gate.stats.gaps := by
  rw [observe_stats]
  cases said : (gate.observe partition sequence).1.event with
  | gap => exact absurd said other
  | accepted | duplicate | regression | wrongPartition | awaitingBaseline | rejectedWhileStale
  | invalid => rfl

/-- A gap needs a trusted stream. -/
theorem observe_gap {gate : SequenceGate} {partition sequence : UInt64}
    (gap : (gate.observe partition sequence).1.event = .gap) :
    gate.state = .healthy ∧ gate.accepts sequence = false ∧ sequence > gate.lastAccepted + 1 := by
  have branch := observe_step gate partition sequence
  rw [gap] at branch
  generalize (gate.observe partition sequence).2.state = state at branch
  generalize (gate.observe partition sequence).2.lastAccepted = lastAccepted at branch
  cases branch with
  | gap healthy _ unfit _ jump => exact ⟨healthy, unfit, jump⟩

/-- **Before a baseline** nothing is accepted and nothing is counted as a gap. -/
theorem observe_unbased {gate : SequenceGate} (unbased : gate.state = .uninitialized)
    (partition sequence : UInt64) :
    (gate.observe partition sequence).1.accepted = false ∧
      (gate.observe partition sequence).2.state = .uninitialized ∧
      (gate.observe partition sequence).2.stats.gaps = gate.stats.gaps := by
  have untrusted : gate.state ≠ .healthy := by
    rw [unbased]
    decide
  refine ⟨?_, ?_, observe_gaps fun gap => untrusted (observe_gap gap).1⟩
  · rw [Bool.eq_false_iff]
    exact fun accepted => untrusted (observe_accepted accepted).healthy
  · rcases observe_state gate partition sequence with same | ⟨-, based⟩
    · exact same.trans unbased
    · exact absurd unbased based

/-! ### After a baseline -/

/-- **A monotonic gate with a baseline that is never asked to recover.** While numbers can still
rise, no gap has been counted. -/
structure Climbing (established : UInt64) (gate : SequenceGate) : Prop where
  named : established ≠ 0
  monotonic : gate.mode = .monotonic
  home : gate.partition = established
  settled : gate.state = .healthy ∨ gate.state = .stale
  gaps : gate.lastAccepted.toNat < 2 ^ 64 - 1 → gate.stats.gaps = 0

/-- A row goes backward, or comes from another partition. -/
def Backward (established : UInt64) (gate : SequenceGate) (partition sequence : UInt64) : Prop :=
  partition ≠ 0 ∧ sequence ≠ 0 ∧ (sequence < gate.lastAccepted ∨ partition ≠ established)

namespace Climbing

variable {established : UInt64} {gate : SequenceGate}

/-- A stream that is not at the end of the numbers has no gap. -/
theorem no_gap (here : Climbing established gate) (room : gate.lastAccepted.toNat < 2 ^ 64 - 1)
    (partition sequence : UInt64) : (gate.observe partition sequence).1.event ≠ .gap := by
  intro gap
  obtain ⟨-, unfit, jump⟩ := observe_gap gap
  have above : gate.lastAccepted < sequence := by
    rw [gt_iff_lt, UInt64.lt_iff_toNat_lt, UInt64.toNat_add, UInt64.toNat_one] at jump
    rw [UInt64.lt_iff_toNat_lt]
    omega
  rw [accepts_of_above here.monotonic above] at unfit
  cases unfit

/-- An observation keeps all of it. -/
theorem observe (here : Climbing established gate) (partition sequence : UInt64) :
    Climbing established (gate.observe partition sequence).2 := by
  obtain ⟨sameMode, samePartition, -, -⟩ := observe_frame gate partition sequence
  refine ⟨here.named, sameMode.trans here.monotonic, samePartition.trans here.home, ?_, ?_⟩
  · rcases observe_state gate partition sequence with same | ⟨stale, -⟩
    · rw [same]
      exact here.settled
    · exact Or.inr stale
  · intro room
    have before := Nat.lt_of_le_of_lt (observe_climbs gate partition sequence) room
    rw [observe_gaps (here.no_gap before partition sequence)]
    exact here.gaps before

/-- No further baseline is established. -/
theorem refuses (here : Climbing established gate) (partition sequence : UInt64) :
    (gate.completeRecovery partition sequence).1 = false := by
  rw [Bool.eq_false_iff]
  intro completed
  obtain ⟨-, unbased | ⟨recovering, -⟩⟩ :=
    (completeRecovery_eq_true_iff gate partition sequence).mp completed
  · rcases here.settled with state | state <;> rw [state] at unbased <;> cases unbased
  · rcases here.settled with state | state <;> rw [state] at recovering <;> cases recovering

/-- **A jump forward is accepted** by a trusted stream, and keeps it trusted. -/
theorem jump (here : Climbing established gate) (healthy : gate.state = .healthy)
    {sequence : UInt64} (above : gate.lastAccepted < sequence) :
    (gate.observe established sequence).1.accepted = true := by
  have numbered : sequence ≠ 0 := by
    rintro rfl
    exact absurd (UInt64.lt_iff_toNat_lt.mp above) (Nat.not_lt_zero _)
  exact (observe_of_accepts here.named numbered healthy here.home.symm
    (accepts_of_above here.monotonic above)).1

/-- A row that goes backward is not accepted. -/
theorem not_accepted (here : Climbing established gate) {partition sequence : UInt64}
    (backward : Backward established gate partition sequence) :
    (gate.observe partition sequence).1.accepted = false := by
  obtain ⟨-, numbered, reason⟩ := backward
  rw [Bool.eq_false_iff]
  intro accepted
  have accepting := observe_accepted accepted
  have below := reason.resolve_right (not_not.mpr (accepting.home.trans here.home))
  exact UInt64.lt_asymm below (accepts_above accepting.fits numbered)

/-- **A row that goes backward damages the stream.** -/
theorem backward (here : Climbing established gate) {partition sequence : UInt64}
    (backward : Backward established gate partition sequence) :
    (gate.observe partition sequence).2.state = .stale := by
  obtain ⟨named, numbered, reason⟩ := backward
  have based : gate.state ≠ .uninitialized := by
    rcases here.settled with state | state <;> rw [state] <;> decide
  have below : partition = gate.partition → sequence < gate.lastAccepted := fun home =>
    reason.resolve_right (not_not.mpr (home.trans here.home))
  obtain ⟨event, state, lastAccepted, branch, -, left, -⟩ :=
    exists_observe_step gate partition sequence
  rw [left]
  cases branch with
  | wrongPartition | gap | regression => rfl
  | invalid unnamed => exact absurd unnamed (not_or.mpr ⟨named, numbered⟩)
  | awaitingBaseline _ _ unbased => exact absurd unbased based
  | rejectedWhileStale distrusted =>
      rcases here.settled with state | state
      · rw [state] at distrusted
        simp at distrusted
      · exact state
  | accepted _ _ _ home fits =>
      exact absurd (below home) (UInt64.lt_asymm (accepts_above fits numbered))
  | duplicate _ home _ same => exact absurd (same ▸ below home) (UInt64.lt_irrefl _)

/-- **A trusted stream survives every other row.** -/
theorem forward (here : Climbing established gate) (healthy : gate.state = .healthy)
    {partition sequence : UInt64} (fine : ¬ Backward established gate partition sequence) :
    (gate.observe partition sequence).2.state = .healthy := by
  by_cases unnamed : partition = 0 ∨ sequence = 0
  · simp only [SequenceGate.observe, if_pos unnamed, reply_gate]
    exact healthy
  obtain ⟨named, numbered⟩ := not_or.mp unnamed
  have reasons := not_or.mp fun reason => fine ⟨named, numbered, reason⟩
  have home : partition = gate.partition := (not_not.mp reasons.2).trans here.home.symm
  -- what the gate refuses is not above its cursor, so here it is the cursor itself
  have stuck : gate.accepts sequence = false → sequence = gate.lastAccepted := by
    intro unfit
    have notAbove : ¬ gate.lastAccepted < sequence := fun above => by
      rw [accepts_of_above here.monotonic above] at unfit
      cases unfit
    exact UInt64.le_antisymm (UInt64.not_lt.mp notAbove) (UInt64.not_lt.mp reasons.1)
  obtain ⟨event, state, lastAccepted, branch, -, left, -⟩ :=
    exists_observe_step gate partition sequence
  rw [left]
  cases branch with
  | invalid | accepted | duplicate => exact healthy
  | awaitingBaseline _ _ unbased => rw [healthy] at unbased; cases unbased
  | wrongPartition _ _ _ foreign => exact absurd home foreign
  | rejectedWhileStale distrusted => rw [healthy] at distrusted; simp at distrusted
  | gap _ _ unfit other => exact absurd (stuck unfit) other
  | regression _ _ unfit other => exact absurd (stuck unfit) other

end Climbing

/-- **A first baseline starts the climb**, at its own partition and number. -/
theorem climbing_of_completed {gate : SequenceGate} {partition sequence : UInt64}
    (monotonic : gate.mode = .monotonic) (gaps : gate.stats.gaps = 0)
    (completed : (gate.completeRecovery partition sequence).1 = true) :
    Climbing partition (gate.completeRecovery partition sequence).2 ∧
      (gate.completeRecovery partition sequence).2.state = .healthy ∧
      (gate.completeRecovery partition sequence).2.lastAccepted = sequence := by
  obtain ⟨named, -⟩ := (completeRecovery_eq_true_iff gate partition sequence).mp completed
  rw [completeRecovery_of_true completed]
  exact ⟨⟨named, monotonic, rfl, Or.inl rfl, fun _ => gaps⟩, rfl, rfl⟩

end MarketDataFabric.Mappers.SequenceGate
