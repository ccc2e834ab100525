/-
**The numbers that a mapper publishes**, over a whole run.

* `Grounded`, `Grounded.call` — the last accepted number of a gate that is not reset never falls, with
  baselines and recoveries in any order.
* `climbs` — hence a Tonglian mapper that is not reset publishes increasing numbers, as a CSMAR mapper
  does.
* `MapperStream.increasing` — both, as what a reader of their events may rely on.
-/

import MarketDataFabric.Providers.CsmarRuns
import MarketDataFabric.Providers.TonglianRuns

namespace MarketDataFabric

open MarketDataFabric.Core Mappers Library

namespace Mappers.SequenceGate

/-- Without a baseline nothing was accepted. -/
def Grounded (gate : SequenceGate) : Prop := gate.state = .uninitialized → gate.lastAccepted = 0

/-- An observation that leaves a gate without a baseline leaves its last accepted number. -/
theorem Grounded.observe {gate : SequenceGate} (grounded : gate.Grounded)
    (partition sequence : UInt64) : (gate.observe partition sequence).2.Grounded := by
  obtain ⟨event, state, lastAccepted, branch, -, left, landed⟩ :=
    exists_observe_step gate partition sequence
  rw [Grounded, left, landed]
  cases branch with
  | accepted _ _ healthy =>
      intro unbased
      rw [healthy] at unbased
      cases unbased
  | invalid | awaitingBaseline | rejectedWhileStale | duplicate => exact grounded
  | wrongPartition | gap | regression => nofun

/-- **The last accepted number never falls** while nothing is reset and nothing is replayed. -/
theorem Grounded.call {gate : SequenceGate} (grounded : gate.Grounded) {input : GateCall}
    (other : input ≠ .reset) (live : ∀ partition sequence, input ≠ .observeRecovery partition sequence) :
    (gate.call input).1.Grounded ∧
      gate.lastAccepted.toNat ≤ (gate.call input).1.lastAccepted.toNat := by
  cases input with
  | observe partition sequence =>
      exact ⟨grounded.observe partition sequence, gate.observe_climbs partition sequence⟩
  | beginRecovery => exact ⟨nofun, Nat.le_refl _⟩
  | observeRecovery partition sequence => exact absurd rfl (live partition sequence)
  | completeRecovery partition sequence =>
      show Grounded (gate.completeRecovery partition sequence).2 ∧
        _ ≤ (gate.completeRecovery partition sequence).2.lastAccepted.toNat
      cases done : (gate.completeRecovery partition sequence).1 with
      | false =>
          rw [completeRecovery_of_false done]
          exact ⟨grounded, Nat.le_refl _⟩
      | true =>
          rw [completeRecovery_of_true done]
          refine ⟨nofun, ?_⟩
          rcases ((completeRecovery_eq_true_iff gate partition sequence).mp done).2 with
            unbased | ⟨-, -, same⟩
          · rw [grounded unbased]
            exact Nat.zero_le _
          · rw [same]
  | reset => exact absurd rfl other

end Mappers.SequenceGate

namespace Providers

namespace Tonglian

variable [TradingCore]

/-- The event a call publishes. -/
def TonglianAnswer.event (answer : TonglianAnswer) : Option MarketEvent :=
  answer.publication.bind Prod.snd

/-- A row publishes events with its own number. -/
theorem exchangeSeq_of_publication {context : MappingContext} {row : Row} (numbered : row.bizIndex ≠ 0)
    {kind : EventKind} {event : MarketEvent}
    (shown : row.publication context = some (kind, some event)) :
    event.header.exchangeSeq = row.bizIndex := by
  cases row with
  | order row =>
      obtain ⟨mapped, same, said⟩ := Option.map_eq_some_iff.mp shown
      cases said
      exact ((orderRow_publishes context row).admits_mappedEvent same).2.2
  | transaction row =>
      obtain ⟨mapped, same, said⟩ := Option.map_eq_some_iff.mp shown
      cases said
      exact ((transactionRow_publishes context row).admits_mappedEvent same).2.2.trans
        (transactionView_exchangeSeq numbered)

/-- **The numbers of the published events climb** with the gate's last accepted number. -/
theorem climbs :
    Machine.Climbs TonglianMapper.call (fun mapper => mapper.sequence.Grounded) (· ≠ .reset)
      (fun mapper => mapper.sequence.lastAccepted.toNat) TonglianAnswer.event
      (fun event => event.header.exchangeSeq.toNat) where
  keeps mapper input grounded other := by
    rw [TonglianMapper.call_sequence]
    exact (grounded.call (TonglianCall.gateCall_ne_reset other) (by cases input <;> nofun)).1
  climbs mapper input grounded other := by
    rw [TonglianMapper.call_sequence]
    exact (grounded.call (TonglianCall.gateCall_ne_reset other) (by cases input <;> nofun)).2
  announces := by
    intro mapper input event grounded _ shown
    obtain ⟨⟨kind, said⟩, published, named⟩ := Option.bind_eq_some_iff.mp shown
    obtain rfl : said = some event := named
    cases carries : input.row with
    | none =>
        rw [(call_silent mapper carries).1] at published
        cases published
    | some row =>
        rw [call_publication mapper carries] at published
        split_ifs at published with accepted
        have accepting := SequenceGate.observe_accepted accepted
        have above := SequenceGate.accepts_above accepting.fits accepting.numbered
        rw [exchangeSeq_of_publication accepting.numbered published, TonglianMapper.call_sequence,
          TonglianCall.gateCall_of_row carries]
        show _ ∧ _ ≤ (mapper.sequence.observe row.channel row.bizIndex).2.lastAccepted.toNat
        rw [accepting.lastAccepted]
        exact ⟨UInt64.lt_iff_toNat_lt.mp above, Nat.le_refl _⟩

end Tonglian

namespace Csmar

variable [TradingCore]

/-- A call of a mapper is a call of its gate. -/
theorem exists_gateCall (mapper : CsmarMapper) (input : CsmarCall) :
    ∃ call : GateCall, (mapper.call input).1.sequence = (mapper.sequence.call call).1 ∧
      call ≠ .reset ∧ ∀ partition sequence, call ≠ .observeRecovery partition sequence := by
  rcases input.cases_row with ⟨partition, sequence, rfl⟩ | ⟨row, carries⟩
  · exact ⟨.completeRecovery partition sequence, rfl, nofun, nofun⟩
  · exact ⟨.observe row.partition row.recordId, (mapper.call_observes carries).1, nofun, nofun⟩

/-- **The numbers of the published events climb**, also before the first baseline. -/
theorem climbs_fresh :
    Machine.Climbs CsmarMapper.call (fun mapper => mapper.sequence.Grounded) (fun _ => True)
      (fun mapper => mapper.sequence.lastAccepted.toNat) CsmarAnswer.event
      (fun event => event.header.exchangeSeq.toNat) where
  keeps mapper input grounded _ := by
    obtain ⟨call, stepped, other, live⟩ := exists_gateCall mapper input
    rw [stepped]
    exact (grounded.call other live).1
  climbs mapper input grounded _ := by
    obtain ⟨call, stepped, other, live⟩ := exists_gateCall mapper input
    rw [stepped]
    exact (grounded.call other live).2
  announces := by
    intro mapper input event _ _ shown
    obtain ⟨said, published, named⟩ := Option.bind_eq_some_iff.mp shown
    obtain ⟨row, other, carries, rfl, accepted, numbered⟩ := mapper.call_published published
    cases named
    have accepting := SequenceGate.observe_accepted accepted
    rw [(mapper.call_observes carries).1, accepting.lastAccepted, numbered]
    exact ⟨UInt64.lt_iff_toNat_lt.mp
      (SequenceGate.accepts_above accepting.fits accepting.numbered), Nat.le_refl _⟩

end Csmar

/-- The numbers of some publications, in order. -/
def numbersOf (published : List (EventKind × Option MarketEvent)) : List Sequence :=
  published.filterMap fun said => said.2.map fun event => event.header.exchangeSeq

/-- **The numbers that a mapper publishes over a run**: a Tonglian mapper that is not reset, or a CSMAR
mapper, each from its start on. -/
inductive MapperStream [TradingCore] : List Sequence → Prop
  | tonglian (context : Tonglian.MappingContext) (calls : List Tonglian.TonglianCall) :
      (∀ input ∈ calls, input ≠ .reset) →
      MapperStream (numbersOf (({ context } : Tonglian.TonglianMapper).published calls))
  | csmar (context : Csmar.MappingContext) (calls : List Csmar.CsmarCall) :
      MapperStream (numbersOf (({ context } : Csmar.CsmarMapper).published calls))

/-- A machine whose cursor climbs publishes increasing numbers. -/
theorem increasing_of_climbs {S I O : Type} {step : S → I → S × O} {inv : S → Prop}
    {allowed : I → Prop} {cursor : S → ℕ} {publication : O → Option (EventKind × Option MarketEvent)}
    (climbs : Machine.Climbs step inv allowed cursor (fun answer => (publication answer).bind Prod.snd)
      fun event => event.header.exchangeSeq.toNat)
    {state : S} {inputs : List I} (holds : inv state) (all : ∀ input ∈ inputs, allowed input) :
    (numbersOf (Machine.emitted step publication state inputs)).Pairwise (· < ·) := by
  have numbers : numbersOf (Machine.emitted step publication state inputs) =
      (Machine.emitted step (fun answer => (publication answer).bind Prod.snd) state inputs).map
        fun event => event.header.exchangeSeq := by
    rw [numbersOf, Machine.emitted, Machine.emitted, List.filterMap_filterMap, List.map_filterMap]
    refine List.filterMap_congr fun answer _ => ?_
    cases publication answer <;> rfl
  rw [numbers]
  refine List.Pairwise.imp UInt64.lt_iff_toNat_lt.mpr (List.pairwise_map.mp ?_)
  rw [List.map_map]
  exact (List.pairwise_cons.mp (climbs.pairwise holds all)).2

theorem MapperStream.increasing [TradingCore] {numbers : List Sequence}
    (stream : MapperStream numbers) : numbers.Pairwise (· < ·) := by
  cases stream with
  | tonglian context calls never =>
      exact increasing_of_climbs Tonglian.climbs (fun _ => rfl) never
  | csmar context calls =>
      exact increasing_of_climbs Csmar.climbs_fresh (fun _ => rfl) fun _ _ => trivial

end Providers

end MarketDataFabric
