/-
**The sequence gate: one partition's continuity state.**

`SequenceGate` is translated operation by operation from `mappers/sequence_gate.hpp`. Counters and
sequence numbers are 64-bit words, so the expected successor of the last number is `0`.

* `ObserveStep`, `observe_step` — **everything a live observation can do**, one constructor a branch:
  the event it answers, the state and the cursor it leaves. Later proofs split on it and never
  unfold `observe`.
* `SequenceStats.counting`, `observe_stats` — every verdict increments the counter of its own kind
  and no other.
* `RecoverStep`, `observeRecovery_step` — the same for a replayed observation.
* `completeRecovery_eq_true_iff`, `completeRecovery_of_false` — when a recovery completes, and that
  a refused one changes nothing.
* `GateCall`, `call` — the five operations as the inputs of one machine.
-/

import MarketDataFabric.Library.Machine

namespace MarketDataFabric.Mappers

inductive MapStatus where
  | mapped
  | mappedDiagnostic
  | ignored
  | invalid
  | unsupported
deriving Repr, DecidableEq

structure MapResult where
  status : MapStatus
  lossless : Bool
deriving Repr, DecidableEq

def MapResult.ok (result : MapResult) : Bool :=
  result.status = .mapped ∨ result.status = .mappedDiagnostic

inductive ContinuityState where
  | uninitialized
  | healthy
  | stale
  | recovering
deriving Repr, DecidableEq

inductive ContinuityEvent where
  | accepted
  | duplicate
  | gap
  | regression
  | wrongPartition
  | awaitingBaseline
  | rejectedWhileStale
  | invalid
deriving Repr, DecidableEq

structure ContinuityObservation where
  event : ContinuityEvent
  state : ContinuityState
  partition : UInt64
  expected : UInt64
  received : UInt64
deriving Repr, DecidableEq

def ContinuityObservation.accepted (observation : ContinuityObservation) : Bool :=
  observation.event = .accepted

def ContinuityObservation.trusted (observation : ContinuityObservation) : Bool :=
  observation.state = .healthy

structure MapOutcome where
  mapping : MapResult
  continuity : ContinuityObservation
deriving Repr, DecidableEq

def MapOutcome.publishable (outcome : MapOutcome) : Bool :=
  outcome.continuity.accepted && outcome.mapping.ok

structure SequenceStats where
  accepted : UInt64 := 0
  duplicates : UInt64 := 0
  gaps : UInt64 := 0
  regressions : UInt64 := 0
  wrongPartition : UInt64 := 0
  rejectedWhileStale : UInt64 := 0
  invalid : UInt64 := 0
deriving Repr, DecidableEq

/-- The counters with the one of an event incremented. -/
def SequenceStats.counting (stats : SequenceStats) : ContinuityEvent → SequenceStats
  | .accepted => { stats with accepted := stats.accepted + 1 }
  | .duplicate => { stats with duplicates := stats.duplicates + 1 }
  | .gap => { stats with gaps := stats.gaps + 1 }
  | .regression => { stats with regressions := stats.regressions + 1 }
  | .wrongPartition => { stats with wrongPartition := stats.wrongPartition + 1 }
  | .awaitingBaseline | .rejectedWhileStale =>
      { stats with rejectedWhileStale := stats.rejectedWhileStale + 1 }
  | .invalid => { stats with invalid := stats.invalid + 1 }

inductive SequenceMode where
  | contiguous
  | monotonic
deriving Repr, DecidableEq

structure SequenceGate where
  state : ContinuityState := .uninitialized
  mode : SequenceMode := .contiguous
  partition : UInt64 := 0
  lastAccepted : UInt64 := 0
  lastReceived : UInt64 := 0
  stats : SequenceStats := {}
deriving Repr, DecidableEq

namespace SequenceGate

/-- The observation a branch returns; a missing `expected` is filled from the cursor. -/
def result (gate : SequenceGate) (event : ContinuityEvent) (partition received : UInt64)
    (expected : UInt64 := 0) : ContinuityObservation :=
  let expected :=
    if expected = 0 ∧ gate.lastAccepted ≠ 0 then gate.lastAccepted + 1 else expected
  { event, state := gate.state, partition, expected, received }

/-- The acceptance test shared by live and replayed observations. -/
def accepts (gate : SequenceGate) (sequence : UInt64) : Bool :=
  sequence = gate.lastAccepted + 1 ∨ (gate.mode = .monotonic ∧ sequence > gate.lastAccepted)

/-- The return of a branch: its observation is made after the branch has updated the gate. -/
def reply (gate : SequenceGate) (event : ContinuityEvent) (partition received : UInt64)
    (expected : UInt64 := 0) : ContinuityObservation × SequenceGate :=
  (gate.result event partition received expected, gate)

def observe (gate : SequenceGate) (partition sequence : UInt64) :
    ContinuityObservation × SequenceGate :=
  if partition = 0 ∨ sequence = 0 then
    reply { gate with stats.invalid := gate.stats.invalid + 1 } .invalid partition sequence
  else
    let gate := { gate with lastReceived := sequence }
    if gate.state = .uninitialized then
      reply { gate with stats.rejectedWhileStale := gate.stats.rejectedWhileStale + 1 }
        .awaitingBaseline partition sequence
    else if partition ≠ gate.partition then
      reply { gate with state := .stale, stats.wrongPartition := gate.stats.wrongPartition + 1 }
        .wrongPartition partition sequence
    else if gate.state = .stale ∨ gate.state = .recovering then
      reply { gate with stats.rejectedWhileStale := gate.stats.rejectedWhileStale + 1 }
        .rejectedWhileStale partition sequence
    else
      let expected := gate.lastAccepted + 1
      if gate.accepts sequence then
        reply { gate with lastAccepted := sequence, stats.accepted := gate.stats.accepted + 1 }
          .accepted partition sequence
      else if sequence = gate.lastAccepted then
        reply { gate with stats.duplicates := gate.stats.duplicates + 1 }
          .duplicate partition sequence
      else if sequence > expected then
        reply { gate with state := .stale, stats.gaps := gate.stats.gaps + 1 }
          .gap partition sequence expected
      else
        reply { gate with state := .stale, stats.regressions := gate.stats.regressions + 1 }
          .regression partition sequence expected

def beginRecovery (gate : SequenceGate) : SequenceGate :=
  { gate with state := .recovering }

def observeRecovery (gate : SequenceGate) (partition sequence : UInt64) :
    ContinuityObservation × SequenceGate :=
  if gate.state ≠ .recovering ∨ partition = 0 ∨ partition ≠ gate.partition then
    reply gate .invalid partition sequence
  else
    let expected := gate.lastAccepted + 1
    if gate.accepts sequence then
      reply { gate with lastAccepted := sequence } .accepted partition sequence
    else
      reply gate (if sequence < expected then .regression else .gap) partition sequence expected

def completeRecovery (gate : SequenceGate) (partition sequence : UInt64) : Bool × SequenceGate :=
  if partition = 0 then
    (false, gate)
  else if gate.state = .recovering ∧
      (partition ≠ gate.partition ∨ sequence ≠ gate.lastAccepted) then
    (false, gate)
  else if gate.state ≠ .uninitialized ∧ gate.state ≠ .recovering then
    (false, gate)
  else
    (true, { gate with
      partition, lastAccepted := sequence, lastReceived := sequence, state := .healthy })

/-- Back to no baseline; the mode and the statistics stay. -/
def reset (gate : SequenceGate) : SequenceGate :=
  { gate with state := .uninitialized, partition := 0, lastAccepted := 0, lastReceived := 0 }

def trusted (gate : SequenceGate) : Bool :=
  gate.state = .healthy

/-! ### What each operation can do -/

section Reply

variable (gate : SequenceGate) (event : ContinuityEvent) (partition received expected : UInt64)

@[simp] theorem reply_event :
    (reply gate event partition received expected).1.event = event := rfl

@[simp] theorem reply_gate : (reply gate event partition received expected).2 = gate := rfl

end Reply

/-- **The branches of a live observation**: the event answered, the state and the last accepted
number it leaves behind. -/
inductive ObserveStep (gate : SequenceGate) (partition sequence : UInt64) :
    ContinuityEvent → ContinuityState → UInt64 → Prop
  | invalid : partition = 0 ∨ sequence = 0 →
      ObserveStep gate partition sequence .invalid gate.state gate.lastAccepted
  | awaitingBaseline : partition ≠ 0 → sequence ≠ 0 → gate.state = .uninitialized →
      ObserveStep gate partition sequence .awaitingBaseline gate.state gate.lastAccepted
  | wrongPartition : partition ≠ 0 → sequence ≠ 0 → gate.state ≠ .uninitialized →
      partition ≠ gate.partition →
      ObserveStep gate partition sequence .wrongPartition .stale gate.lastAccepted
  | rejectedWhileStale : gate.state = .stale ∨ gate.state = .recovering →
      partition = gate.partition →
      ObserveStep gate partition sequence .rejectedWhileStale gate.state gate.lastAccepted
  | accepted : partition ≠ 0 → sequence ≠ 0 → gate.state = .healthy →
      partition = gate.partition → gate.accepts sequence = true →
      ObserveStep gate partition sequence .accepted gate.state sequence
  | duplicate : gate.state = .healthy → partition = gate.partition →
      gate.accepts sequence = false → sequence = gate.lastAccepted →
      ObserveStep gate partition sequence .duplicate gate.state gate.lastAccepted
  | gap : gate.state = .healthy → partition = gate.partition → gate.accepts sequence = false →
      sequence ≠ gate.lastAccepted → sequence > gate.lastAccepted + 1 →
      ObserveStep gate partition sequence .gap .stale gate.lastAccepted
  | regression : gate.state = .healthy → partition = gate.partition →
      gate.accepts sequence = false → sequence ≠ gate.lastAccepted →
      ¬ sequence > gate.lastAccepted + 1 →
      ObserveStep gate partition sequence .regression .stale gate.lastAccepted

theorem observe_step (gate : SequenceGate) (partition sequence : UInt64) :
    ObserveStep gate partition sequence (gate.observe partition sequence).1.event
      (gate.observe partition sequence).2.state (gate.observe partition sequence).2.lastAccepted := by
  by_cases zero : partition = 0 ∨ sequence = 0
  · simp only [observe, if_pos zero, reply_event, reply_gate]
    exact .invalid zero
  obtain ⟨named, numbered⟩ := not_or.mp zero
  simp only [observe, if_neg zero]
  by_cases unbased : gate.state = .uninitialized
  · simp only [if_pos unbased, reply_event, reply_gate]
    exact .awaitingBaseline named numbered unbased
  simp only [if_neg unbased]
  by_cases foreign : partition ≠ gate.partition
  · simp only [if_pos foreign, reply_event, reply_gate]
    exact .wrongPartition named numbered unbased foreign
  simp only [if_neg foreign]
  have home : partition = gate.partition := not_not.mp foreign
  by_cases distrusted : gate.state = .stale ∨ gate.state = .recovering
  · simp only [if_pos distrusted, reply_event, reply_gate]
    exact .rejectedWhileStale distrusted home
  simp only [if_neg distrusted]
  have healthy : gate.state = .healthy := by
    cases here : gate.state <;> simp_all
  cases fits : gate.accepts sequence with
  | true =>
      have same : accepts { gate with lastReceived := sequence } sequence = true := fits
      simp only [same, if_true, reply_event, reply_gate]
      exact .accepted named numbered healthy home fits
  | false =>
      have same : accepts { gate with lastReceived := sequence } sequence = false := fits
      simp only [same, Bool.false_eq_true, if_false]
      by_cases again : sequence = gate.lastAccepted
      · simp only [if_pos again, reply_event, reply_gate]
        exact .duplicate healthy home fits again
      simp only [if_neg again]
      by_cases jump : sequence > gate.lastAccepted + 1
      · simp only [if_pos jump, reply_event, reply_gate]
        exact .gap healthy home fits again jump
      · simp only [if_neg jump, reply_event, reply_gate]
        exact .regression healthy home fits again jump

/-- The same with the three results named. -/
theorem exists_observe_step (gate : SequenceGate) (partition sequence : UInt64) :
    ∃ event state lastAccepted, ObserveStep gate partition sequence event state lastAccepted ∧
      (gate.observe partition sequence).1.event = event ∧
      (gate.observe partition sequence).2.state = state ∧
      (gate.observe partition sequence).2.lastAccepted = lastAccepted :=
  ⟨_, _, _, observe_step gate partition sequence, rfl, rfl, rfl⟩

/-- A live observation never touches the mode or the established partition, and answers with the
partition and the number it was given. -/
theorem observe_frame (gate : SequenceGate) (partition sequence : UInt64) :
    (gate.observe partition sequence).2.mode = gate.mode ∧
      (gate.observe partition sequence).2.partition = gate.partition ∧
      (gate.observe partition sequence).1.partition = partition ∧
      (gate.observe partition sequence).1.received = sequence := by
  simp only [observe]
  split_ifs <;> exact ⟨rfl, rfl, rfl, rfl⟩

/-- **Every verdict is counted once**, by the counter of its own kind. -/
theorem observe_stats (gate : SequenceGate) (partition sequence : UInt64) :
    (gate.observe partition sequence).2.stats =
      gate.stats.counting (gate.observe partition sequence).1.event := by
  unfold observe
  simp only []
  split_ifs <;> rfl

/-- A live observation keeps the state or damages it, and only damages a gate with a baseline. -/
theorem observe_state (gate : SequenceGate) (partition sequence : UInt64) :
    (gate.observe partition sequence).2.state = gate.state ∨
      ((gate.observe partition sequence).2.state = .stale ∧ gate.state ≠ .uninitialized) := by
  obtain ⟨event, state, lastAccepted, branch, -, left, -⟩ :=
    exists_observe_step gate partition sequence
  rw [left]
  cases branch with
  | wrongPartition _ _ based _ => exact Or.inr ⟨rfl, based⟩
  | gap healthy | regression healthy => exact Or.inr ⟨rfl, by rw [healthy]; decide⟩
  | invalid | awaitingBaseline | rejectedWhileStale | accepted | duplicate => exact Or.inl rfl

/-- What an accepted live observation says of the gate before and after it. -/
structure Accepting (gate next : SequenceGate) (partition sequence : UInt64) : Prop where
  named : partition ≠ 0
  numbered : sequence ≠ 0
  healthy : gate.state = .healthy
  home : partition = gate.partition
  fits : gate.accepts sequence = true
  lastAccepted : next.lastAccepted = sequence

theorem observe_accepted {gate : SequenceGate} {partition sequence : UInt64}
    (accepted : (gate.observe partition sequence).1.accepted = true) :
    Accepting gate (gate.observe partition sequence).2 partition sequence := by
  have event : (gate.observe partition sequence).1.event = .accepted := by
    simpa [ContinuityObservation.accepted] using accepted
  have branch := observe_step gate partition sequence
  rw [event] at branch
  generalize (gate.observe partition sequence).2.state = state at branch
  generalize landed : (gate.observe partition sequence).2.lastAccepted = lastAccepted at branch
  cases branch with
  | accepted named numbered healthy home fits => exact ⟨named, numbered, healthy, home, fits, landed⟩

/-- A trusted gate accepts what fits its own partition, and stays trusted. -/
theorem observe_of_accepts {gate : SequenceGate} {partition sequence : UInt64}
    (named : partition ≠ 0) (numbered : sequence ≠ 0) (healthy : gate.state = .healthy)
    (home : partition = gate.partition) (fits : gate.accepts sequence = true) :
    (gate.observe partition sequence).1.accepted = true ∧
      (gate.observe partition sequence).2.state = .healthy := by
  obtain ⟨event, state, lastAccepted, branch, said, left, -⟩ :=
    exists_observe_step gate partition sequence
  rw [ContinuityObservation.accepted, said, left]
  cases branch with
  | accepted => exact ⟨rfl, healthy⟩
  | invalid zero => exact absurd zero (not_or.mpr ⟨named, numbered⟩)
  | awaitingBaseline _ _ unbased => rw [healthy] at unbased; cases unbased
  | wrongPartition _ _ _ foreign => exact absurd home foreign
  | rejectedWhileStale distrusted _ => rw [healthy] at distrusted; simp at distrusted
  | duplicate _ _ unfit | gap _ _ unfit | regression _ _ unfit =>
      rw [fits] at unfit
      cases unfit

/-- **The branches of a replayed observation.** -/
inductive RecoverStep (gate : SequenceGate) (partition sequence : UInt64) :
    ContinuityEvent → SequenceGate → Prop
  | invalid : gate.state ≠ .recovering ∨ partition = 0 ∨ partition ≠ gate.partition →
      RecoverStep gate partition sequence .invalid gate
  | accepted : gate.state = .recovering → partition ≠ 0 → partition = gate.partition →
      gate.accepts sequence = true →
      RecoverStep gate partition sequence .accepted { gate with lastAccepted := sequence }
  | regression : gate.state = .recovering → partition = gate.partition →
      gate.accepts sequence = false → sequence < gate.lastAccepted + 1 →
      RecoverStep gate partition sequence .regression gate
  | gap : gate.state = .recovering → partition = gate.partition →
      gate.accepts sequence = false → ¬ sequence < gate.lastAccepted + 1 →
      RecoverStep gate partition sequence .gap gate

theorem observeRecovery_step (gate : SequenceGate) (partition sequence : UInt64) :
    RecoverStep gate partition sequence (gate.observeRecovery partition sequence).1.event
      (gate.observeRecovery partition sequence).2 := by
  by_cases refused : gate.state ≠ .recovering ∨ partition = 0 ∨ partition ≠ gate.partition
  · simp only [observeRecovery, if_pos refused, reply_event, reply_gate]
    exact .invalid refused
  simp only [observeRecovery, if_neg refused]
  obtain ⟨recovering, named, home⟩ : gate.state = .recovering ∧ partition ≠ 0 ∧
      partition = gate.partition := by
    simpa only [not_or, ne_eq, not_not] using refused
  cases fits : gate.accepts sequence with
  | true =>
      simp only [if_true, reply_event, reply_gate]
      exact .accepted recovering named home fits
  | false =>
      simp only [Bool.false_eq_true, if_false, reply_event, reply_gate]
      by_cases below : sequence < gate.lastAccepted + 1
      · rw [if_pos below]
        exact .regression recovering home fits below
      · rw [if_neg below]
        exact .gap recovering home fits below

/-- The same with the two results named. -/
theorem exists_observeRecovery_step (gate : SequenceGate) (partition sequence : UInt64) :
    ∃ event next, RecoverStep gate partition sequence event next ∧
      (gate.observeRecovery partition sequence).1.event = event ∧
      (gate.observeRecovery partition sequence).2 = next :=
  ⟨_, _, observeRecovery_step gate partition sequence, rfl, rfl⟩

/-- A replayed observation touches nothing but the cursor, and answers with the partition and the
number it was given. -/
theorem observeRecovery_frame (gate : SequenceGate) (partition sequence : UInt64) :
    (gate.observeRecovery partition sequence).2.mode = gate.mode ∧
      (gate.observeRecovery partition sequence).2.partition = gate.partition ∧
      (gate.observeRecovery partition sequence).2.state = gate.state ∧
      (gate.observeRecovery partition sequence).1.partition = partition ∧
      (gate.observeRecovery partition sequence).1.received = sequence := by
  simp only [observeRecovery]
  split_ifs <;> exact ⟨rfl, rfl, rfl, rfl, rfl⟩

/-- **When a recovery completes**: at the established cursor while recovering, at any named
partition while there is no baseline, and in no other state. -/
theorem completeRecovery_eq_true_iff (gate : SequenceGate) (partition sequence : UInt64) :
    (gate.completeRecovery partition sequence).1 = true ↔
      partition ≠ 0 ∧ (gate.state = .uninitialized ∨
        (gate.state = .recovering ∧ partition = gate.partition ∧
          sequence = gate.lastAccepted)) := by
  unfold completeRecovery
  split_ifs with unnamed mismatch trusting
  · simp [unnamed]
  · simp only [false_iff, not_and, not_or]
    intro _
    refine ⟨by rw [mismatch.1]; decide, fun _ same equal => ?_⟩
    rcases mismatch.2 with other | other
    · exact other same
    · exact other equal
  · simp only [false_iff, not_and, not_or]
    exact fun _ => ⟨trusting.1, fun here => absurd here trusting.2⟩
  · simp only [true_iff]
    refine ⟨unnamed, ?_⟩
    by_cases unbased : gate.state = .uninitialized
    · exact Or.inl unbased
    · have recovering : gate.state = .recovering := by
        by_contra other
        exact trusting ⟨unbased, other⟩
      refine Or.inr ⟨recovering, ?_, ?_⟩
      · by_contra other
        exact mismatch ⟨recovering, Or.inl other⟩
      · by_contra other
        exact mismatch ⟨recovering, Or.inr other⟩

/-- A refused completion changes nothing. -/
theorem completeRecovery_of_false {gate : SequenceGate} {partition sequence : UInt64}
    (refused : (gate.completeRecovery partition sequence).1 = false) :
    (gate.completeRecovery partition sequence).2 = gate := by
  unfold completeRecovery at refused ⊢
  split_ifs at refused ⊢ <;> rfl

/-- A completed recovery trusts exactly the boundary it was given. -/
theorem completeRecovery_of_true {gate : SequenceGate} {partition sequence : UInt64}
    (completed : (gate.completeRecovery partition sequence).1 = true) :
    (gate.completeRecovery partition sequence).2 = { gate with
      partition, lastAccepted := sequence, lastReceived := sequence, state := .healthy } := by
  unfold completeRecovery at completed ⊢
  split_ifs at completed ⊢
  rfl

/-! ### The gate as a machine -/

end SequenceGate

/-- The five operations, with their arguments. -/
inductive GateCall where
  | observe (partition sequence : UInt64)
  | beginRecovery
  | observeRecovery (partition sequence : UInt64)
  | completeRecovery (partition sequence : UInt64)
  | reset
deriving Repr, DecidableEq

/-- What an operation returns to its caller. -/
inductive GateAnswer where
  | observed (observation : ContinuityObservation)
  | replayed (observation : ContinuityObservation)
  | completed (done : Bool)
  | nothing
deriving Repr, DecidableEq

namespace SequenceGate

def call (gate : SequenceGate) : GateCall → SequenceGate × GateAnswer
  | .observe partition sequence =>
      ((gate.observe partition sequence).2, .observed (gate.observe partition sequence).1)
  | .beginRecovery => (gate.beginRecovery, .nothing)
  | .observeRecovery partition sequence =>
      ((gate.observeRecovery partition sequence).2,
        .replayed (gate.observeRecovery partition sequence).1)
  | .completeRecovery partition sequence =>
      ((gate.completeRecovery partition sequence).2,
        .completed (gate.completeRecovery partition sequence).1)
  | .reset => (gate.reset, .nothing)

/-- The gate after a list of calls. -/
abbrev after (gate : SequenceGate) (calls : List GateCall) : SequenceGate :=
  Library.Machine.final call gate calls

/-- The answers along a list of calls. -/
abbrev answers (gate : SequenceGate) (calls : List GateCall) : List GateAnswer :=
  Library.Machine.outputs call gate calls

end SequenceGate

end MarketDataFabric.Mappers
