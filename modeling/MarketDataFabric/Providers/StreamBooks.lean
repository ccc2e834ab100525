/-
**The books of a stream mapper**: what `sequence_stats()` of the two Chinese mappers says of the rows it
was given.

* `GateInside`, `GateInside.books` — a machine with a gate inside has its books.
* `stream_books` — **both mappers count every row once**, by the verdict on it, and publish no more
  than they accept.
-/

import MarketDataFabric.Mappers.GateBooks
import MarketDataFabric.Providers.ContentIndependence

namespace MarketDataFabric.Mappers

open Library

section Inside

variable {S I O : Type}

/-- A machine whose state has a gate: a step makes one call of the gate, and its answer has the answer of
the gate. -/
def GateInside (step : S → I → S × O) (gate : S → SequenceGate) (asks : I → GateCall)
    (tells : O → GateAnswer) : Prop :=
  ∀ state input, gate (step state input).1 = ((gate state).call (asks input)).1 ∧
    tells (step state input).2 = ((gate state).call (asks input)).2

variable {step : S → I → S × O} {gate : S → SequenceGate} {asks : I → GateCall}
  {tells : O → GateAnswer}

theorem GateInside.books (inside : GateInside step gate asks tells) {mode : SequenceMode} (state : S)
    (fresh : gate state = { mode }) (inputs : List I) :
    GateBooks ((Machine.outputs step state inputs).map tells)
      (gate (Machine.final step state inputs)) := by
  refine Machine.outputs_history step (fun past state => GateBooks (past.map tells) (gate state))
    (fun past state input books => ?_) [] state inputs ?_
  · obtain ⟨moved, told⟩ := inside state input
    rw [List.map_append, List.map_singleton, moved, told]
    exact books.call (asks input)
  · rw [fresh]
    exact .fresh mode

/-- The inputs that are shown to the gate are as many as its verdicts. -/
theorem GateInside.verdicts_length {R : Type} (inside : GateInside step gate asks tells)
    (row : I → Option R)
    (shows : ∀ state input, ((gate state).call (asks input)).2.verdict.isSome = (row input).isSome)
    (state : S) (inputs : List I) :
    (verdicts ((Machine.outputs step state inputs).map tells)).length =
      (inputs.filterMap row).length := by
  induction inputs generalizing state with
  | nil => rfl
  | cons input rest ih =>
      have here := shows state input
      have tail := ih (step state input).1
      rw [verdicts] at tail ⊢
      rw [Machine.outputs_cons, List.map_cons, List.filterMap_cons, List.filterMap_cons,
        (inside state input).2]
      revert here
      cases ((gate state).call (asks input)).2.verdict <;> cases row input
      all_goals
        intro here
        first | exact tail | exact congrArg Nat.succ tail | cases here

/-- What is published only on an acceptance is no more than the acceptances. -/
theorem published_le {E : Type} {emit : O → Option E}
    (only : ∀ output, (emit output).isSome → (tells output).verdict = some .accepted)
    (outputs : List O) :
    (outputs.filterMap emit).length ≤ (verdicts (outputs.map tells)).count .accepted := by
  induction outputs with
  | nil => exact Nat.le_refl 0
  | cons output rest ih =>
      have here := only output
      rw [verdicts] at ih ⊢
      rw [List.map_cons, List.filterMap_cons, List.filterMap_cons]
      cases shown : emit output with
      | none =>
          refine Nat.le_trans ih ?_
          cases (tells output).verdict with
          | none => exact Nat.le_refl _
          | some event => exact (List.sublist_cons_self event _).count_le _
      | some event =>
          rw [here (by rw [shown]; rfl), List.count_cons_self]
          exact Nat.succ_le_succ ih

end Inside

/-- **The books of a stream**: of the gate, of the rows it was shown, and of what was published. -/
structure StreamBooks (answers : List GateAnswer) (gate : SequenceGate) (rows published : Nat) : Prop
    extends GateBooks answers gate where
  rows : (verdicts answers).length = rows
  published : published ≤ (verdicts answers).count .accepted

end MarketDataFabric.Mappers

namespace MarketDataFabric.Providers

open MarketDataFabric.Core Mappers Library

/-- A mapped row makes one call of the gate, and reports its answer. -/
theorem gatedMap_inside {Out : Type} [MapOutput Out] (mapRow : Out → MapResult × Out)
    (gate : SequenceGate) (partition sequence : UInt64) (out : Out) :
    (gatedMap mapRow gate partition sequence out).2.2 =
        (gate.call (.observe partition sequence)).1 ∧
      GateAnswer.observed (gatedMap mapRow gate partition sequence out).1.continuity =
        (gate.call (.observe partition sequence)).2 :=
  ⟨gatedMap_gate mapRow gate partition sequence out,
    congrArg GateAnswer.observed (gatedMap_continuity mapRow gate partition sequence out)⟩

/-- What is published was accepted. -/
theorem event_of_published {E : Type} {outcome : MapOutcome} {said : E}
    (shown : (if outcome.publishable then some said else none).isSome) :
    outcome.continuity.event = .accepted := by
  by_cases publishable : outcome.publishable = true
  · rw [MapOutcome.publishable, Bool.and_eq_true] at publishable
    exact of_decide_eq_true publishable.1
  · rw [if_neg publishable] at shown
    cases shown

namespace Tonglian

/-- What the gate answered in an answer of the mapper. -/
def TonglianAnswer.gateAnswer : TonglianAnswer → GateAnswer
  | .order outcome _ | .transaction outcome _ => .observed outcome.continuity
  | .completed done => .completed done
  | .nothing => .nothing

theorem accepted_of_publication (answer : TonglianAnswer) (shown : answer.publication.isSome) :
    answer.gateAnswer.verdict = some .accepted := by
  cases answer with
  | order outcome out | transaction outcome out =>
      exact congrArg some (event_of_published shown)
  | completed | nothing => cases shown

variable [TradingCore]

theorem gateInside : GateInside TonglianMapper.call TonglianMapper.sequence TonglianCall.gateCall
    TonglianAnswer.gateAnswer := by
  intro mapper input
  cases input with
  | mapOrder row out =>
      exact gatedMap_inside (mapAcceptedOrderRow mapper.context row) mapper.sequence row.channel
        row.bizIndex out
  | mapTransaction row out =>
      exact gatedMap_inside (mapTransactionRow mapper.context row) mapper.sequence row.channel
        row.bizIndex out
  | beginRecovery | completeRecovery | reset => exact ⟨rfl, rfl⟩

end Tonglian

namespace Csmar

/-- What a call asks of the gate. -/
def CsmarCall.gateCall : CsmarCall → GateCall
  | .establishBaseline partition sequence => .completeRecovery partition sequence
  | .mapShanghaiOrder row _ => .observe row.setId row.recordId
  | .mapShanghaiTransaction row _ => .observe row.tradeChannel row.recordId
  | .mapShenzhenOrder row _ => .observe row.setId row.recordId
  | .mapShenzhenTransaction row _ => .observe row.setId row.recordId

def CsmarAnswer.gateAnswer : CsmarAnswer → GateAnswer
  | .established done => .completed done
  | .order outcome _ | .transaction outcome _ => .observed outcome.continuity

theorem accepted_of_publication (answer : CsmarAnswer) (shown : answer.publication.isSome) :
    answer.gateAnswer.verdict = some .accepted := by
  cases answer with
  | order outcome out | transaction outcome out =>
      exact congrArg some (event_of_published shown)
  | established => cases shown

variable [TradingCore]

theorem gateInside : GateInside CsmarMapper.call CsmarMapper.sequence CsmarCall.gateCall
    CsmarAnswer.gateAnswer := by
  intro mapper input
  cases input with
  | establishBaseline partition sequence => exact ⟨rfl, rfl⟩
  | mapShanghaiOrder row out =>
      exact gatedMap_inside (mapAcceptedShanghaiOrder mapper.context row) mapper.sequence row.setId
        row.recordId out
  | mapShanghaiTransaction row out =>
      exact gatedMap_inside (mapAcceptedShanghaiTransaction mapper.context row) mapper.sequence
        row.tradeChannel row.recordId out
  | mapShenzhenOrder row out =>
      exact gatedMap_inside (mapAcceptedShenzhenOrder mapper.context row) mapper.sequence row.setId
        row.recordId out
  | mapShenzhenTransaction row out =>
      exact gatedMap_inside (mapAcceptedShenzhenTransaction mapper.context row) mapper.sequence
        row.setId row.recordId out

end Csmar

/-- **Both stream mappers keep right books.** Whatever a fresh mapper is called with, in any context: its
statistics count each row it was given once, by the verdict on it, in 64 bits; what it published is no
more than it accepted; and gaps, regressions and trust are in the balance of the recoveries. -/
theorem stream_books [TradingCore] :
    (∀ (context : Tonglian.MappingContext) (calls : List Tonglian.TonglianCall),
      let mapper : Tonglian.TonglianMapper := { context }
      StreamBooks ((mapper.answers calls).map Tonglian.TonglianAnswer.gateAnswer)
        (mapper.after calls).sequence (calls.filterMap Tonglian.TonglianCall.row).length
        (mapper.published calls).length ∧
      (mapper.after calls).sequenceStats.total =
        UInt64.ofNat (calls.filterMap Tonglian.TonglianCall.row).length) ∧
    (∀ (context : Csmar.MappingContext) (calls : List Csmar.CsmarCall),
      let mapper : Csmar.CsmarMapper := { context }
      StreamBooks ((mapper.answers calls).map Csmar.CsmarAnswer.gateAnswer)
        (mapper.after calls).sequence (calls.filterMap Csmar.CsmarCall.row).length
        (mapper.published calls).length ∧
      (mapper.after calls).sequenceStats.total =
        UInt64.ofNat (calls.filterMap Csmar.CsmarCall.row).length) := by
  constructor
  · intro context calls mapper
    have books := Tonglian.gateInside.books mapper rfl calls
    have rows := Tonglian.gateInside.verdicts_length Tonglian.TonglianCall.row
      (fun state input => by cases input <;> rfl) mapper calls
    refine ⟨⟨books, rows, published_le Tonglian.accepted_of_publication _⟩, ?_⟩
    rw [← rows, ← SequenceStats.total_tally]
    exact congrArg SequenceStats.total books.stats
  · intro context calls mapper
    have books := Csmar.gateInside.books mapper rfl calls
    have rows := Csmar.gateInside.verdicts_length Csmar.CsmarCall.row
      (fun state input => by cases input <;> rfl) mapper calls
    refine ⟨⟨books, rows, published_le Csmar.accepted_of_publication _⟩, ?_⟩
    rw [← rows, ← SequenceStats.total_tally]
    exact congrArg SequenceStats.total books.stats

end MarketDataFabric.Providers
