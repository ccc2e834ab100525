/-
**The trading-phase tracker**, `markets/trading_phase_tracker.hpp`: the phase of one instrument,
kept from whatever updates arrive, in whatever order.

* `apply_state` — one call: a supported update with a larger sequence than the tracked one is taken,
  and every other update changes nothing.
* `phase_latest` — hence the tracker ends at the supported update with the largest sequence, and it
  ends there in every order of delivery and under every repetition.
-/

import Mathlib.Data.List.MinMax
import MarketDataFabric.Core.Events
import MarketDataFabric.Library.Machine

namespace MarketDataFabric.Markets

open MarketDataFabric.Core Library

inductive PhaseApplyStatus where
  | applied
  | duplicate
  | regression
  | unsupported
deriving Repr, DecidableEq

structure TradingPhaseTracker where
  phase : TradingPhase := .unknown
  sequence : UInt64 := 0
deriving Repr, DecidableEq

namespace TradingPhaseTracker

def apply (tracker : TradingPhaseTracker) (event : TradingPhaseUpdate) :
    TradingPhaseTracker × PhaseApplyStatus :=
  if event.tradingPhase = .unknown ∨ event.header.exchangeSeq = 0 then (tracker, .unsupported)
  else if event.header.exchangeSeq = tracker.sequence then (tracker, .duplicate)
  else if event.header.exchangeSeq < tracker.sequence then (tracker, .regression)
  else (⟨event.tradingPhase, event.header.exchangeSeq⟩, .applied)

/-- The tracker after a list of updates. -/
abbrev after (tracker : TradingPhaseTracker) (events : List TradingPhaseUpdate) :
    TradingPhaseTracker := Machine.final apply tracker events

/-! ### What an update says -/

/-- An update with a known phase and a sequence. -/
def supported (event : TradingPhaseUpdate) : Bool :=
  event.tradingPhase ≠ .unknown ∧ event.header.exchangeSeq ≠ 0

/-- The place of an update in the stream of its exchange. -/
def place (event : TradingPhaseUpdate) : ℕ := event.header.exchangeSeq.toNat

/-- The supported update with the largest sequence, the earliest in the list among equals. -/
def latest (events : List TradingPhaseUpdate) : Option TradingPhaseUpdate :=
  (events.filter supported).argmax place

/-- The tracker that holds one update, or none. -/
def holding : Option TradingPhaseUpdate → TradingPhaseTracker
  | none => {}
  | some event => ⟨event.tradingPhase, event.header.exchangeSeq⟩

/-- **One call**: only a supported update with a larger sequence is taken. -/
theorem apply_state (tracker : TradingPhaseTracker) (event : TradingPhaseUpdate) :
    (tracker.apply event).1 =
      if supported event = true ∧ tracker.sequence.toNat < place event then holding (some event)
      else tracker := by
  have known : supported event = true ↔
      ¬ (event.tradingPhase = .unknown ∨ event.header.exchangeSeq = 0) := by
    rw [supported, decide_eq_true_eq, not_or]
  unfold apply
  by_cases refused : event.tradingPhase = .unknown ∨ event.header.exchangeSeq = 0
  · rw [if_pos refused, if_neg fun taken => known.mp taken.1 refused]
  rw [if_neg refused]
  by_cases same : event.header.exchangeSeq = tracker.sequence
  · have equal : place event = tracker.sequence.toNat := congrArg UInt64.toNat same
    rw [if_pos same, if_neg fun taken => Nat.ne_of_gt taken.2 equal]
  rw [if_neg same]
  by_cases behind : event.header.exchangeSeq < tracker.sequence
  · rw [if_pos behind, if_neg fun taken => Nat.lt_asymm taken.2 behind]
  · have ahead := UInt64.lt_of_le_of_ne (UInt64.not_lt.mp behind) (Ne.symm same)
    rw [if_neg behind, if_pos ⟨known.mpr refused, ahead⟩]
    rfl

/-! ### Whole runs -/

/-- A supported update is ahead of the fresh tracker. -/
theorem place_pos {event : TradingPhaseUpdate} (known : supported event = true) : 0 < place event :=
  Nat.pos_of_ne_zero fun zero =>
    (of_decide_eq_true known).2 (UInt64.toNat_inj.mp (zero.trans UInt64.toNat_zero.symm))

/-- What a tracker holds decides whether the next update is taken. -/
theorem apply_holding (held : Option TradingPhaseUpdate) (event : TradingPhaseUpdate)
    (known : supported event = true) :
    ((holding held).apply event).1 =
      holding (Option.casesOn held (some event) fun earlier =>
        if place earlier < place event then some event else some earlier) := by
  rw [apply_state]
  cases held with
  | none => exact if_pos ⟨known, place_pos known⟩
  | some earlier =>
      by_cases further : place earlier < place event
      · rw [if_pos ⟨known, further⟩]
        simp only [if_pos further]
      · rw [if_neg fun taken => further taken.2]
        simp only [if_neg further]

/-- One more update: it is the latest if it is supported and ahead of the latest so far. -/
theorem latest_append (events : List TradingPhaseUpdate) (event : TradingPhaseUpdate) :
    latest (events ++ [event]) =
      if supported event = true then
        Option.casesOn (latest events) (some event) fun earlier =>
          if place earlier < place event then some event else some earlier
      else latest events := by
  unfold latest
  rw [List.filter_append]
  split_ifs with known
  · rw [List.filter_cons_of_pos known, List.filter_nil, List.argmax_concat]
  · rw [List.filter_cons_of_neg known, List.filter_nil, List.append_nil]

/-- The running maximum: after any updates, the tracker holds the latest of them. -/
theorem after_eq_latest (events : List TradingPhaseUpdate) :
    after {} events = holding (latest events) := by
  induction events using List.reverseRecOn with
  | nil => rfl
  | append_singleton events event ih =>
      have earlier : Machine.final apply {} events = holding (latest events) := ih
      rw [after, Machine.final_append, earlier, latest_append, Machine.final_cons,
        Machine.final_nil]
      split_ifs with known
      · exact apply_holding _ event known
      · rw [apply_state, if_neg fun taken => known taken.1]

/-- Where every sequence has one update, the latest one does not depend on order or repetition. -/
theorem latest_eq_of_mem_iff {events others : List TradingPhaseUpdate}
    (distinct : ∀ one ∈ events, ∀ two ∈ events,
      one.header.exchangeSeq = two.header.exchangeSeq → one = two)
    (same : ∀ event, event ∈ others ↔ event ∈ events) : latest others = latest events := by
  have among : ∀ event, event ∈ others.filter supported ↔ event ∈ events.filter supported :=
    fun event => by rw [List.mem_filter, List.mem_filter, same]
  cases left : latest others with
  | none =>
      have nothing : others.filter supported = [] := List.argmax_eq_none.mp left
      refine (List.argmax_eq_none.mpr (List.eq_nil_iff_forall_not_mem.mpr fun event found => ?_)).symm
      exact absurd ((among event).mpr found) (nothing ▸ List.not_mem_nil)
  | some one =>
      have here := List.argmax_mem (Option.mem_def.mpr left)
      cases right : latest events with
      | none =>
          have nothing : events.filter supported = [] := List.argmax_eq_none.mp right
          exact absurd ((among one).mp here) (nothing ▸ List.not_mem_nil)
      | some two =>
          have there := List.argmax_mem (Option.mem_def.mpr right)
          have below : place one ≤ place two :=
            List.le_of_mem_argmax ((among one).mp here) (Option.mem_def.mpr right)
          have above : place two ≤ place one :=
            List.le_of_mem_argmax ((among two).mpr there) (Option.mem_def.mpr left)
          have equal := UInt64.toNat_inj.mp (Nat.le_antisymm below above)
          rw [distinct one (List.mem_filter.mp ((among one).mp here)).1 two
            (List.mem_filter.mp there).1 equal]

/-- **The trading phase does not depend on the order of delivery.** After every list of updates the
fresh tracker has the phase and the sequence of the supported update with the largest sequence, the
earliest among equals, or is still fresh if no update is supported. Where different updates have
different sequences, every list of the same updates, in any order and with any repetitions, leads to
the same state. -/
theorem phase_latest (events : List TradingPhaseUpdate) :
    (after {} events = match latest events with
      | some event => ⟨event.tradingPhase, event.header.exchangeSeq⟩
      | none => ⟨.unknown, 0⟩) ∧
    ((∀ one ∈ events, ∀ two ∈ events,
        one.header.exchangeSeq = two.header.exchangeSeq → one = two) →
      ∀ others : List TradingPhaseUpdate, (∀ event, event ∈ others ↔ event ∈ events) →
        after {} others = after {} events) := by
  refine ⟨?_, fun distinct others same => ?_⟩
  · rw [after_eq_latest]
    cases latest events <;> rfl
  · rw [after_eq_latest, after_eq_latest, latest_eq_of_mem_iff distinct same]

/-- An update of the zeroed core. -/
def sampleUpdate (phase : TradingPhase) (sequence : UInt64) : TradingPhaseUpdate :=
  { TradingCore.zeroed.tradingPhaseUpdate with
    tradingPhase := phase
    header := { TradingCore.zeroed.eventHeader with exchangeSeq := sequence } }

/-- Two updates of one morning, delivered late and twice. -/
theorem phase_latest_reordered :
    after {} [sampleUpdate .continuous 100, sampleUpdate .openingCall 99,
        sampleUpdate .continuous 100] =
      after {} [sampleUpdate .openingCall 99, sampleUpdate .continuous 100] := by
  refine (phase_latest [sampleUpdate .openingCall 99, sampleUpdate .continuous 100]).2 ?_ _ ?_
  · decide
  · intro event
    simp only [List.mem_cons, List.not_mem_nil, or_false]
    tauto

end TradingPhaseTracker

end MarketDataFabric.Markets
