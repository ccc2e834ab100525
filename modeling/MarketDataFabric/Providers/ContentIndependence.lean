/-
**Continuity does not depend on content.**

* `Alike` — two calls that ask the gate the same thing: the same recovery or baseline call, or rows
  of any kind that agree on the stream and the number they are observed under.
* `alike_lockstep` — two mappers whose gates are equal run in step under such calls, whatever their
  contexts, the other fields of the rows and the outputs they fill.
* `content_independent` — hence two runs report the same continuity, count the same and are trusted
  alike at every step.
-/

import MarketDataFabric.Providers.CsmarRuns
import MarketDataFabric.Providers.TonglianRuns

namespace MarketDataFabric.Providers

open MarketDataFabric.Core Mappers Library

/-! ### Tonglian -/

namespace Tonglian

def TonglianMapper.sequenceStats (mapper : TonglianMapper) : SequenceStats := mapper.sequence.stats

/-- The continuity half of an outcome. -/
def TonglianAnswer.continuity : TonglianAnswer → Option ContinuityObservation
  | .order outcome _ | .transaction outcome _ => some outcome.continuity
  | .completed _ | .nothing => none

/-- **Calls that differ in content alone.** -/
inductive TonglianCall.Alike : TonglianCall → TonglianCall → Prop
  | rows {input other : TonglianCall} {row given : Row} : input.row = some row →
      other.row = some given → row.channel = given.channel → row.bizIndex = given.bizIndex →
      Alike input other
  | recovery {input : TonglianCall} : input.row = none → Alike input input

variable [TradingCore]

/-- The answers along a list of calls. -/
abbrev TonglianMapper.answers (mapper : TonglianMapper) (calls : List TonglianCall) :
    List TonglianAnswer :=
  Machine.outputs TonglianMapper.call mapper calls

/-- A map call reports what the gate observed. -/
theorem TonglianMapper.call_continuity (mapper : TonglianMapper) {input : TonglianCall} {row : Row}
    (carries : input.row = some row) :
    (mapper.call input).2.continuity =
      some (mapper.sequence.observe row.channel row.bizIndex).1 := by
  cases input with
  | mapOrder orderRow out =>
      cases carries
      exact congrArg some (gatedMap_continuity (mapAcceptedOrderRow mapper.context orderRow)
        mapper.sequence orderRow.channel orderRow.bizIndex out)
  | mapTransaction transactionRow out =>
      cases carries
      exact congrArg some (gatedMap_continuity (mapTransactionRow mapper.context transactionRow)
        mapper.sequence transactionRow.channel transactionRow.bizIndex out)
  | beginRecovery | completeRecovery | reset => cases carries

theorem TonglianMapper.call_continuity_of_recovery (mapper : TonglianMapper) {input : TonglianCall}
    (recovery : input.row = none) : (mapper.call input).2.continuity = none := by
  cases input with
  | mapOrder | mapTransaction => cases recovery
  | beginRecovery | completeRecovery | reset => rfl

/-- **Mappers with equal gates run in step under calls that differ in content alone.** -/
theorem alike_lockstep :
    Machine.Lockstep TonglianMapper.call TonglianMapper.call
      (fun mapper other => mapper.sequence = other.sequence) TonglianCall.Alike
      (fun answer given => answer.continuity = given.continuity) := by
  intro mapper other input given same alike
  show (mapper.call input).2.continuity = (other.call given).2.continuity ∧
    (mapper.call input).1.sequence = (other.call given).1.sequence
  rw [mapper.call_sequence, other.call_sequence, same]
  cases alike with
  | rows carries carried sameChannel sameIndex =>
      rw [mapper.call_continuity carries, other.call_continuity carried,
        TonglianCall.gateCall_of_row carries, TonglianCall.gateCall_of_row carried, same,
        sameChannel, sameIndex]
      exact ⟨rfl, rfl⟩
  | recovery noRow =>
      rw [mapper.call_continuity_of_recovery noRow, other.call_continuity_of_recovery noRow]
      exact ⟨rfl, rfl⟩

end Tonglian

/-! ### CSMAR -/

namespace Csmar

def CsmarMapper.sequenceStats (mapper : CsmarMapper) : SequenceStats := mapper.sequence.stats

/-- **Calls that differ in content alone.** -/
inductive CsmarCall.Alike : CsmarCall → CsmarCall → Prop
  | rows {input other : CsmarCall} {row given : Row} : input.row = some row →
      other.row = some given → row.partition = given.partition → row.recordId = given.recordId →
      Alike input other
  | baseline {input : CsmarCall} : input.row = none → Alike input input

/-- **Mappers with equal gates run in step under calls that differ in content alone.** -/
theorem alike_lockstep [TradingCore] :
    Machine.Lockstep CsmarMapper.call CsmarMapper.call
      (fun mapper other => mapper.sequence = other.sequence) CsmarCall.Alike
      (fun answer given => answer.continuity = given.continuity) := by
  intro mapper other input given same alike
  show (mapper.call input).2.continuity = (other.call given).2.continuity ∧
    (mapper.call input).1.sequence = (other.call given).1.sequence
  cases alike with
  | rows carries carried samePartition sameNumber =>
      obtain ⟨stepped, reported⟩ := mapper.call_observes carries
      obtain ⟨there, told⟩ := other.call_observes carried
      rw [stepped, reported, there, told, same, samePartition, sameNumber]
      exact ⟨rfl, rfl⟩
  | baseline noRow =>
      rcases input.cases_row with ⟨partition, sequence, rfl⟩ | ⟨row, carries⟩
      · refine ⟨rfl, ?_⟩
        show (mapper.sequence.completeRecovery partition sequence).2 =
          (other.sequence.completeRecovery partition sequence).2
        rw [same]
      · rw [noRow] at carries
        cases carries

end Csmar

/-! ### Both providers -/

/-- **Continuity does not depend on content.** Two mappers of one provider, fresh in any contexts, are
called alike: the same recovery or baseline calls, and rows of any kind and content, into any outputs,
that agree on their stream and number. They report the same continuity, count the same and are
trusted alike after every call. -/
theorem content_independent [TradingCore] :
    (∀ (context other : Tonglian.MappingContext) (calls others : List Tonglian.TonglianCall),
      let first : Tonglian.TonglianMapper := { context }
      let second : Tonglian.TonglianMapper := { context := other }
      List.Forall₂ Tonglian.TonglianCall.Alike calls others →
        (first.answers calls).map (·.continuity) = (second.answers others).map (·.continuity) ∧
        ∀ count,
          (first.after (calls.take count)).sequenceStats =
              (second.after (others.take count)).sequenceStats ∧
            (first.after (calls.take count)).streamTrusted =
              (second.after (others.take count)).streamTrusted) ∧
    ∀ (context other : Csmar.MappingContext) (calls others : List Csmar.CsmarCall),
      let first : Csmar.CsmarMapper := { context }
      let second : Csmar.CsmarMapper := { context := other }
      List.Forall₂ Csmar.CsmarCall.Alike calls others →
        (first.answers calls).map (·.continuity) = (second.answers others).map (·.continuity) ∧
        ∀ count,
          (first.after (calls.take count)).sequenceStats =
              (second.after (others.take count)).sequenceStats ∧
            (first.after (calls.take count)).sequence.trusted =
              (second.after (others.take count)).sequence.trusted := by
  refine ⟨?_, ?_⟩
  · intro context other calls others first second matched
    have start : first.sequence = second.sequence := rfl
    obtain ⟨reported, same⟩ := Tonglian.alike_lockstep.reports
      (fun (mapper given : Tonglian.TonglianMapper) gates => by
        show (mapper.sequenceStats, mapper.streamTrusted) = (given.sequenceStats, given.streamTrusted)
        unfold Tonglian.TonglianMapper.sequenceStats Tonglian.TonglianMapper.streamTrusted
        rw [gates]) start matched
    exact ⟨reported, fun count => Prod.mk.inj (same count)⟩
  · intro context other calls others first second matched
    have start : first.sequence = second.sequence := rfl
    obtain ⟨reported, same⟩ := Csmar.alike_lockstep.reports
      (fun (mapper given : Csmar.CsmarMapper) gates => by
        show (mapper.sequenceStats, mapper.sequence.trusted) =
          (given.sequenceStats, given.sequence.trusted)
        unfold Csmar.CsmarMapper.sequenceStats
        rw [gates]) start matched
    exact ⟨reported, fun count => Prod.mk.inj (same count)⟩

/-- An order of Shanghai in one run, a cancellation without a market in the other, at one place. -/
theorem content_independent_kinds :
    letI := TradingCore.zeroed
    let first : Tonglian.TonglianMapper := { context := { market := .shanghai } }
    let second : Tonglian.TonglianMapper := { context := {} }
    (first.answers [.completeRecovery 3 99,
        .mapOrder { channel := 3, bizIndex := 100, orderKind := 'A' } .empty]).map
          (·.continuity) =
      (second.answers [.completeRecovery 3 99,
        .mapTransaction { channel := 3, bizIndex := 100, functionCode := 'C' } .empty]).map
          (·.continuity) :=
  letI := TradingCore.zeroed
  (content_independent.1 { market := .shanghai } {}
    [.completeRecovery 3 99, .mapOrder { channel := 3, bizIndex := 100, orderKind := 'A' } .empty]
    [.completeRecovery 3 99,
      .mapTransaction { channel := 3, bizIndex := 100, functionCode := 'C' } .empty]
    (.cons (.recovery rfl) (.cons (.rows rfl rfl rfl rfl) .nil))).1

end MarketDataFabric.Providers
