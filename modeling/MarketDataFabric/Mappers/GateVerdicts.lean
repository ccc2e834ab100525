/-
**The verdicts of a trusted sequence gate, as arithmetic.**

* `call_named` — a gate that trusts its stream has a partition, on every run.
* `RightVerdict` — what a verdict about the own partition should be, as a comparison of unbounded
  numbers.
* `verdicts_right_iff` — the verdict is right below the largest 64-bit number; at that number the
  expected successor is `0`, and every number below it is taken for a gap.
-/

import MarketDataFabric.Mappers.GateRuns
import Mathlib.Algebra.Group.Nat.Defs

namespace MarketDataFabric.Mappers

open Library

namespace SequenceGate

/-! ### The partition of a trusted gate -/

/-- A gate that trusts its stream knows its partition. -/
def Named (gate : SequenceGate) : Prop := gate.state = .healthy → gate.partition ≠ 0

theorem call_named {gate : SequenceGate} (input : GateCall) (named : gate.Named) :
    (gate.call input).1.Named := by
  cases input with
  | observe partition sequence =>
      intro healthy
      have kept := (observe_frame gate partition sequence).2.1
      rcases observe_state gate partition sequence with same | ⟨stale, -⟩
      · exact fun zero => named (same.symm.trans healthy) (kept.symm.trans zero)
      · exact absurd (stale.symm.trans healthy) (by decide)
  | beginRecovery => intro impossible; cases impossible
  | observeRecovery partition sequence =>
      intro healthy zero
      obtain ⟨-, kept, same, -, -⟩ := observeRecovery_frame gate partition sequence
      exact named (same.symm.trans healthy) (kept.symm.trans zero)
  | completeRecovery partition sequence =>
      cases done : (gate.completeRecovery partition sequence).1 with
      | false =>
          rw [call, completeRecovery_of_false done]
          exact named
      | true =>
          rw [call, completeRecovery_of_true done]
          exact fun _ => ((completeRecovery_eq_true_iff _ _ _).mp done).1
  | reset => intro impossible; cases impossible

theorem after_named (mode : SequenceMode) (calls : List GateCall) :
    (({ mode } : SequenceGate).after calls).Named :=
  Machine.final_invariant call Named (fun _ => True) (fun _ input named _ => call_named input named)
    (fun impossible => by cases impossible) fun _ _ => trivial

/-! ### The four verdicts of a trusted gate -/

/-- **The verdict on a number of the own partition**, compared with the last accepted one without
any bound, and counted once. -/
structure RightVerdict (gate : SequenceGate) (sequence : UInt64) : Prop where
  duplicate : (gate.observe gate.partition sequence).1.event = .duplicate ↔
    sequence.toNat = gate.lastAccepted.toNat
  accepted : (gate.observe gate.partition sequence).1.event = .accepted ↔
    sequence.toNat = gate.lastAccepted.toNat + 1 ∨
      (gate.mode = .monotonic ∧ gate.lastAccepted.toNat < sequence.toNat)
  regression : (gate.observe gate.partition sequence).1.event = .regression ↔
    sequence.toNat < gate.lastAccepted.toNat
  gap : (gate.observe gate.partition sequence).1.event = .gap ↔
    gate.mode = .contiguous ∧ gate.lastAccepted.toNat + 1 < sequence.toNat
  stats : (gate.observe gate.partition sequence).2.stats =
    gate.stats.counting (gate.observe gate.partition sequence).1.event

/-- The branches of a trusted gate on its own partition. -/
inductive TrustedStep (gate : SequenceGate) (sequence : UInt64) : ContinuityEvent → Prop
  | accepted : gate.accepts sequence = true → TrustedStep gate sequence .accepted
  | duplicate : gate.accepts sequence = false → sequence = gate.lastAccepted →
      TrustedStep gate sequence .duplicate
  | gap : gate.accepts sequence = false → sequence ≠ gate.lastAccepted →
      gate.lastAccepted + 1 < sequence → TrustedStep gate sequence .gap
  | regression : gate.accepts sequence = false → sequence ≠ gate.lastAccepted →
      ¬ gate.lastAccepted + 1 < sequence → TrustedStep gate sequence .regression

theorem trusted_step {gate : SequenceGate} {sequence : UInt64} (healthy : gate.state = .healthy)
    (named : gate.partition ≠ 0) (numbered : sequence ≠ 0) :
    TrustedStep gate sequence (gate.observe gate.partition sequence).1.event := by
  obtain ⟨event, state, lastAccepted, branch, said, -, -⟩ :=
    exists_observe_step gate gate.partition sequence
  rw [said]
  cases branch with
  | invalid zero => exact absurd zero (not_or.mpr ⟨named, numbered⟩)
  | awaitingBaseline _ _ unbased => rw [healthy] at unbased; cases unbased
  | wrongPartition _ _ _ foreign => exact absurd rfl foreign
  | rejectedWhileStale distrusted _ =>
      rw [healthy] at distrusted
      rcases distrusted with stale | recovering
      · cases stale
      · cases recovering
  | accepted _ _ _ _ fits => exact .accepted fits
  | duplicate _ _ unfit same => exact .duplicate unfit same
  | gap _ _ unfit other jump => exact .gap unfit other jump
  | regression _ _ unfit other below => exact .regression unfit other below

/-- The successor below the largest number. -/
theorem toNat_successor {last : UInt64} (room : last.toNat ≠ 2 ^ 64 - 1) :
    (last + 1).toNat = last.toNat + 1 := by
  have bound := last.toNat_lt
  rw [UInt64.toNat_add, UInt64.toNat_one, Nat.mod_eq_of_lt (by omega)]

/-- The acceptance test, below the largest number. -/
theorem accepts_iff {gate : SequenceGate} (sequence : UInt64)
    (room : gate.lastAccepted.toNat ≠ 2 ^ 64 - 1) :
    gate.accepts sequence = true ↔ sequence.toNat = gate.lastAccepted.toNat + 1 ∨
      (gate.mode = .monotonic ∧ gate.lastAccepted.toNat < sequence.toNat) := by
  rw [accepts, decide_eq_true_eq, gt_iff_lt, UInt64.lt_iff_toNat_lt, ← UInt64.toNat_inj,
    toNat_successor room]

/-- **Below the largest number every verdict is right.** -/
theorem rightVerdict_of_room {gate : SequenceGate} {sequence : UInt64}
    (healthy : gate.state = .healthy) (named : gate.partition ≠ 0) (numbered : sequence ≠ 0)
    (room : gate.lastAccepted.toNat ≠ 2 ^ 64 - 1) : RightVerdict gate sequence := by
  have branch := trusted_step healthy named numbered
  have fits_iff := accepts_iff sequence room
  have same_iff : sequence = gate.lastAccepted ↔ sequence.toNat = gate.lastAccepted.toNat :=
    UInt64.toNat_inj.symm
  have further_iff : gate.lastAccepted + 1 < sequence ↔
      gate.lastAccepted.toNat + 1 < sequence.toNat := by
    rw [UInt64.lt_iff_toNat_lt, toNat_successor room]
  have mode : gate.mode = .contiguous ∨ gate.mode = .monotonic := by cases gate.mode <;> simp
  refine ⟨?_, ?_, ?_, ?_, observe_stats _ _ _⟩
  all_goals
    generalize (gate.observe gate.partition sequence).1.event = event at branch ⊢
    cases branch with
    | accepted fits =>
        have above := fits_iff.mp fits
        grind
    | duplicate unfit same =>
        have equal := same_iff.mp same
        grind
    | gap unfit other jump =>
        have beyond := further_iff.mp jump
        grind
    | regression unfit other short =>
        have below := fun jump => short (further_iff.mpr jump)
        grind

/-- **At the largest number** only the number itself gets a right verdict: every number below it is
behind, and above the expected `0`. -/
theorem rightVerdict_at_last {gate : SequenceGate} {sequence : UInt64}
    (healthy : gate.state = .healthy) (named : gate.partition ≠ 0) (numbered : sequence ≠ 0)
    (last : gate.lastAccepted.toNat = 2 ^ 64 - 1) :
    RightVerdict gate sequence ↔ sequence = gate.lastAccepted := by
  have branch := trusted_step healthy named numbered
  have wrapped : gate.lastAccepted + 1 = 0 := by
    rw [← UInt64.toNat_inj, UInt64.toNat_add, last]
    rfl
  have positive : gate.lastAccepted + 1 < sequence := by
    rw [wrapped]
    exact UInt64.pos_iff_ne_zero.mpr numbered
  have unfit : gate.accepts sequence = false := by
    have bound := sequence.toNat_lt
    rw [accepts, wrapped, decide_eq_false_iff_not, not_or, not_and, gt_iff_lt, UInt64.not_lt,
      UInt64.le_iff_toNat_le]
    exact ⟨numbered, fun _ => by omega⟩
  constructor
  · intro right
    by_contra other
    have behind : sequence.toNat < gate.lastAccepted.toNat := by
      have bound := sequence.toNat_lt
      have different := mt UInt64.toNat_inj.mp other
      omega
    have verdict := right.regression.mpr behind
    rw [verdict] at branch
    cases branch with
    | regression _ _ short => exact short positive
  · rintro rfl
    refine ⟨?_, ?_, ?_, ?_, observe_stats _ _ _⟩
    all_goals
      generalize (gate.observe gate.partition gate.lastAccepted).1.event = event at branch ⊢
      cases branch with
      | accepted fits => exact absurd fits (Bool.eq_false_iff.mp unfit)
      | duplicate => simp
      | gap _ other | regression _ other => exact absurd rfl other

/-- **When the verdicts are arithmetically right.** In either mode, on every run to a gate that
trusts its stream, the verdict on a number of the own partition is the comparison with the last
accepted one, unless that is the largest 64-bit number and the number lies below it. -/
theorem verdicts_right_iff (mode : SequenceMode) (calls : List GateCall) (sequence : UInt64)
    (healthy : (({ mode } : SequenceGate).after calls).state = .healthy)
    (numbered : sequence ≠ 0) :
    RightVerdict (({ mode } : SequenceGate).after calls) sequence ↔
      ((({ mode } : SequenceGate).after calls).lastAccepted.toNat ≠ 2 ^ 64 - 1 ∨
        sequence = (({ mode } : SequenceGate).after calls).lastAccepted) := by
  have named := after_named mode calls healthy
  by_cases room : (({ mode } : SequenceGate).after calls).lastAccepted.toNat ≠ 2 ^ 64 - 1
  · exact iff_of_true (rightVerdict_of_room healthy named numbered room) (Or.inl room)
  · rw [rightVerdict_at_last healthy named numbered (not_not.mp room)]
    exact ⟨Or.inr, fun reason => reason.resolve_left room⟩

/-- A baseline and its successor. -/
theorem verdicts_right_next :
    RightVerdict (({} : SequenceGate).after [.completeRecovery 3 100]) 101 :=
  (verdicts_right_iff .contiguous [.completeRecovery 3 100] 101 (by decide) (by decide)).mpr
    (Or.inl (by decide))

/-- At the largest number the number `5` is a gap, in both modes. -/
theorem verdict_wraps :
    ((({} : SequenceGate).after [.completeRecovery 3 0xFFFFFFFFFFFFFFFF]).observe 3 5).1.event =
        .gap ∧
      ¬ RightVerdict (({} : SequenceGate).after [.completeRecovery 3 0xFFFFFFFFFFFFFFFF]) 5 ∧
      ¬ RightVerdict (({ mode := .monotonic } : SequenceGate).after
        [.completeRecovery 3 0xFFFFFFFFFFFFFFFF]) 5 := by
  refine ⟨by decide, fun right => ?_, fun right => ?_⟩
  · exact absurd (right.regression.mpr (by decide)) (by decide)
  · exact absurd (right.regression.mpr (by decide)) (by decide)

end SequenceGate

end MarketDataFabric.Mappers
