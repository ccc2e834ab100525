/-
**The reused outputs of the provider mappers, and the gate in front of every row.**

Tonglian and CSMAR declare the same two outputs: an order row yields a `BookOrder` or a trading
phase, a transaction row a `BookOrder` (a cancellation) or a `BookTrade`, and `eventKind` names the
member that is current.

* `MapOutput` — what a call may do to an output: tag it unknown and keep every member, or write one
  member and name it.
* `gatedMap` — the prologue the six `map` entry points share: untag the output, observe the row's
  sequence, and map only accepted rows.
* `Publishes`, `gatedMap_spec` — **the contract of a row mapping, and what the gate makes of it.**
* `Faithful`, `gatedMap_faithful` — **what the caller may read out of the output afterwards.**
-/

import MarketDataFabric.Markets.Sse
import MarketDataFabric.Markets.Szse

namespace MarketDataFabric.Providers

open MarketDataFabric.Core Mappers Markets

structure OrderMapOutput where
  eventKind : EventKind
  order : BookOrder
  phaseUpdate : TradingPhaseUpdate
deriving Repr, DecidableEq

structure TransactionMapOutput where
  eventKind : EventKind
  order : BookOrder
  trade : BookTrade
deriving Repr, DecidableEq

/-- `OrderMapOutput{}`. -/
def OrderMapOutput.empty [TradingCore] : OrderMapOutput :=
  ⟨.unknown, TradingCore.bookOrder, TradingCore.tradingPhaseUpdate⟩

/-- `TransactionMapOutput{}`. -/
def TransactionMapOutput.empty [TradingCore] : TransactionMapOutput :=
  ⟨.unknown, TradingCore.bookOrder, TradingCore.bookTrade⟩

/-- The kind that names an event. -/
def eventKindOf : MarketEvent → EventKind
  | .bookOrder _ => .bookOrder
  | .bookTrade _ => .bookTrade
  | .tradingPhaseUpdate _ => .tradingPhaseUpdate

/-- A header of the right kind for its event, with the given exchange sequence. -/
def WellHeaded (exchangeSeq : Sequence) (event : MarketEvent) : Prop :=
  Headed (eventKindOf event) exchangeSeq event.header

/-- An output whose tag names its current member. `publish out none` untags it and keeps every
member; `publish out (some event)` writes the member of `event`, names it and keeps the others. -/
class MapOutput (Out : Type) where
  empty : [TradingCore] → Out
  eventKind : Out → EventKind
  named : Out → Option MarketEvent
  publish : Out → Option MarketEvent → Out
  Carries : MarketEvent → Prop
  eventKind_none : ∀ out, eventKind (publish out none) = .unknown
  named_none : ∀ out, named (publish out none) = none
  eventKind_some : ∀ out event, Carries event →
    eventKind (publish out (some event)) = eventKindOf event
  named_some : ∀ out event, Carries event → named (publish out (some event)) = some event
  publish_none : ∀ out effect, publish (publish out none) effect = publish out effect

theorem eventKindOf_ne_unknown (event : MarketEvent) : eventKindOf event ≠ .unknown := by
  cases event <;> exact EventKind.noConfusion

/-! ### Writing one member and naming it -/

/-- `mapped = map(…, out.member)`, then the tag: the four ways a row is mapped into an output differ
in the member (`get`, `put`) and in the kind that names it. -/
def storeMember {Out α : Type} (get : Out → α) (put : Out → EventKind → α → Out) (kind : EventKind)
    (out : Out) (map : α → MapResult × α) : MapResult × Out :=
  let mapped := map (get out)
  (mapped.1, put out (if mapped.1.ok then kind else .unknown) mapped.2)

namespace OrderMapOutput

/-- An order or a cancellation. -/
def storeOrder : OrderMapOutput → (BookOrder → MapResult × BookOrder) → MapResult × OrderMapOutput :=
  storeMember order (fun out eventKind order => { out with eventKind, order }) .bookOrder

/-- A trading phase. -/
def storePhase : OrderMapOutput → (TradingPhaseUpdate → MapResult × TradingPhaseUpdate) →
    MapResult × OrderMapOutput :=
  storeMember phaseUpdate (fun out eventKind phaseUpdate => { out with eventKind, phaseUpdate })
    .tradingPhaseUpdate

/-- The member the tag names. -/
def named (out : OrderMapOutput) : Option MarketEvent :=
  match out.eventKind with
  | .bookOrder => some (.bookOrder out.order)
  | .tradingPhaseUpdate => some (.tradingPhaseUpdate out.phaseUpdate)
  | _ => none

/-- Publish an event in an output, or nothing. An order row never yields a trade. -/
def publish (out : OrderMapOutput) : Option MarketEvent → OrderMapOutput
  | some (.bookOrder event) => { out with eventKind := .bookOrder, order := event }
  | some (.tradingPhaseUpdate event) =>
      { out with eventKind := .tradingPhaseUpdate, phaseUpdate := event }
  | some (.bookTrade _) | none => { out with eventKind := .unknown }

/-- The events an order output has a member for. -/
def Carries : MarketEvent → Prop
  | .bookOrder _ | .tradingPhaseUpdate _ => True
  | .bookTrade _ => False

instance : MapOutput OrderMapOutput where
  empty := .empty
  eventKind := eventKind
  named := named
  publish := publish
  Carries := Carries
  eventKind_none _ := rfl
  named_none _ := rfl
  eventKind_some
    | _, .bookOrder _, _ | _, .tradingPhaseUpdate _, _ => rfl
  named_some
    | _, .bookOrder _, _ | _, .tradingPhaseUpdate _, _ => rfl
  publish_none
    | _, none | _, some (.bookOrder _) | _, some (.bookTrade _)
    | _, some (.tradingPhaseUpdate _) => rfl

end OrderMapOutput

namespace TransactionMapOutput

/-- A cancellation. -/
def storeOrder : TransactionMapOutput → (BookOrder → MapResult × BookOrder) →
    MapResult × TransactionMapOutput :=
  storeMember order (fun out eventKind order => { out with eventKind, order }) .bookOrder

/-- A trade. -/
def storeTrade : TransactionMapOutput → (BookTrade → MapResult × BookTrade) →
    MapResult × TransactionMapOutput :=
  storeMember trade (fun out eventKind trade => { out with eventKind, trade }) .bookTrade

/-- The member the tag names. -/
def named (out : TransactionMapOutput) : Option MarketEvent :=
  match out.eventKind with
  | .bookOrder => some (.bookOrder out.order)
  | .bookTrade => some (.bookTrade out.trade)
  | _ => none

/-- Publish an event in an output, or nothing. A transaction row never yields a phase. -/
def publish (out : TransactionMapOutput) : Option MarketEvent → TransactionMapOutput
  | some (.bookOrder event) => { out with eventKind := .bookOrder, order := event }
  | some (.bookTrade event) => { out with eventKind := .bookTrade, trade := event }
  | some (.tradingPhaseUpdate _) | none => { out with eventKind := .unknown }

/-- The events a transaction output has a member for. -/
def Carries : MarketEvent → Prop
  | .bookOrder _ | .bookTrade _ => True
  | .tradingPhaseUpdate _ => False

instance : MapOutput TransactionMapOutput where
  empty := .empty
  eventKind := eventKind
  named := named
  publish := publish
  Carries := Carries
  eventKind_none _ := rfl
  named_none _ := rfl
  eventKind_some
    | _, .bookOrder _, _ | _, .bookTrade _, _ => rfl
  named_some
    | _, .bookOrder _, _ | _, .bookTrade _, _ => rfl
  publish_none
    | _, none | _, some (.bookOrder _) | _, some (.bookTrade _)
    | _, some (.tradingPhaseUpdate _) => rfl

end TransactionMapOutput

/-! ### The contract of a row mapping -/

section Contract

open MapOutput

variable {Out : Type} [MapOutput Out]

/-- What may be published in an output under a sequence number. -/
def Admits (Out : Type) [MapOutput Out] (exchangeSeq : Sequence) (event : MarketEvent) : Prop :=
  Carries Out event ∧ WellHeaded exchangeSeq event

/-- **A row mapping over an untagged output** rejects and leaves it untagged, or publishes one event,
the same whatever the output held before. -/
inductive Publishes (exchangeSeq : Sequence) (map : Out → MapResult × Out) : Prop
  | rejected (result : MapResult) : result.ok = false →
      (∀ out, map (publish out none) = (result, publish out none)) → Publishes exchangeSeq map
  | published (result : MapResult) (event : MarketEvent) : result.ok = true →
      Admits Out exchangeSeq event →
      (∀ out, map (publish out none) = (result, publish out (some event))) →
      Publishes exchangeSeq map

/-- **A mapping that honours the contract of its member publishes through its output.** `inject`
makes the event of a member, and the two laws say that `put` is `publish` on an untagged output. -/
theorem storeMember_publishes {α : Type} {get : Out → α} {put : Out → EventKind → α → Out}
    {kind : EventKind} {exchangeSeq : Sequence} {shape : α → Prop} {map : α → MapResult × α}
    (inject : α → MarketEvent)
    (keep : ∀ out : Out,
      put (publish out none) .unknown (get (publish out none)) = publish out none)
    (write : ∀ (out : Out) event,
      put (publish out none) kind event = publish out (some (inject event)))
    (admitted : ∀ event, shape event → Admits Out exchangeSeq (inject event))
    (contract : Overwrites shape map) :
    Publishes exchangeSeq fun out : Out => storeMember get put kind out map := by
  cases contract with
  | rejected result bad same =>
      refine .rejected result bad fun out => ?_
      simp only [storeMember, same, bad, Bool.false_eq_true, if_false, keep]
  | written result event ok shaped same =>
      refine .published result (inject event) ok (admitted event shaped) fun out => ?_
      simp only [storeMember, same, ok, if_true, write]

theorem OrderMapOutput.storeOrder_publishes {exchangeSeq : Sequence}
    {map : BookOrder → MapResult × BookOrder}
    (contract : Overwrites (fun event => Headed .bookOrder exchangeSeq event.header) map) :
    Publishes exchangeSeq fun out : OrderMapOutput => out.storeOrder map :=
  storeMember_publishes .bookOrder (fun _ => rfl) (fun _ _ => rfl)
    (fun _ headed => ⟨trivial, headed⟩) contract

theorem OrderMapOutput.storePhase_publishes {exchangeSeq : Sequence}
    {map : TradingPhaseUpdate → MapResult × TradingPhaseUpdate}
    (contract : Overwrites (fun event => Headed .tradingPhaseUpdate exchangeSeq event.header) map) :
    Publishes exchangeSeq fun out : OrderMapOutput => out.storePhase map :=
  storeMember_publishes .tradingPhaseUpdate (fun _ => rfl) (fun _ _ => rfl)
    (fun _ headed => ⟨trivial, headed⟩) contract

theorem TransactionMapOutput.storeOrder_publishes {exchangeSeq : Sequence}
    {map : BookOrder → MapResult × BookOrder}
    (contract : Overwrites (fun event => Headed .bookOrder exchangeSeq event.header) map) :
    Publishes exchangeSeq fun out : TransactionMapOutput => out.storeOrder map :=
  storeMember_publishes .bookOrder (fun _ => rfl) (fun _ _ => rfl)
    (fun _ headed => ⟨trivial, headed⟩) contract

theorem TransactionMapOutput.storeTrade_publishes {exchangeSeq : Sequence}
    {map : BookTrade → MapResult × BookTrade}
    (contract : Overwrites (fun event => Headed .bookTrade exchangeSeq event.header) map) :
    Publishes exchangeSeq fun out : TransactionMapOutput => out.storeTrade map :=
  storeMember_publishes .bookTrade (fun _ => rfl) (fun _ _ => rfl)
    (fun _ headed => ⟨trivial, headed⟩) contract

/-! ### The gate in front of a row -/

/-- **The prologue of every `map` entry point.** `mapRow` is what the entry point does with an
accepted row. -/
def gatedMap (mapRow : Out → MapResult × Out) (gate : SequenceGate) (partition sequence : UInt64)
    (out : Out) : MapOutcome × Out × SequenceGate :=
  let out := publish out none
  let (continuity, gate) := gate.observe partition sequence
  if continuity.accepted then
    let (mapped, out) := mapRow out
    (⟨mapped, continuity⟩, out, gate)
  else
    (⟨⟨.ignored, false⟩, continuity⟩, out, gate)

/-- An accepted row is mapped into the untagged output. -/
theorem gatedMap_accepted {gate : SequenceGate} {partition sequence : UInt64}
    (accepted : (gate.observe partition sequence).1.accepted = true)
    (mapRow : Out → MapResult × Out) (out : Out) :
    (gatedMap mapRow gate partition sequence out).1.mapping = (mapRow (publish out none)).1 ∧
      (gatedMap mapRow gate partition sequence out).2.1 = (mapRow (publish out none)).2 := by
  unfold gatedMap
  simp only [accepted, if_true, and_self]

/-- What mapping a row into a value-initialised output publishes. -/
def mappedEvent [TradingCore] (mapRow : Out → MapResult × Out) : Option MarketEvent :=
  named (mapRow (publish (MapOutput.empty : Out) none)).2

/-- What a row publishes through a member has the shape of the member's contract. -/
theorem mappedEvent_storeMember [TradingCore] {α : Type} {get : Out → α}
    {put : Out → EventKind → α → Out} {kind : EventKind} {shape : α → Prop}
    {map : α → MapResult × α} {event : MarketEvent} (inject : α → MarketEvent)
    (shown : ∀ (out : Out) member, named (put out kind member) = some (inject member))
    (hidden : ∀ (out : Out) member, named (put out .unknown member) = none)
    (contract : Overwrites shape map)
    (mapped : mappedEvent (fun out : Out => storeMember get put kind out map) = some event) :
    ∃ member, inject member = event ∧ shape member := by
  unfold mappedEvent storeMember at mapped
  cases contract with
  | rejected result bad same =>
      simp only [same, bad, Bool.false_eq_true, if_false, hidden] at mapped
      cases mapped
  | written result member ok shaped same =>
      simp only [same, ok, if_true, shown] at mapped
      exact ⟨member, Option.some.inj mapped, shaped⟩

/-- What one gated row publishes: nothing without an acceptance. -/
def gatedEvent [TradingCore] (mapRow : Out → MapResult × Out) (gate : SequenceGate)
    (partition sequence : UInt64) : Option MarketEvent :=
  if (gate.observe partition sequence).1.accepted then mappedEvent mapRow else none

@[simp] theorem gatedMap_gate (mapRow : Out → MapResult × Out) (gate : SequenceGate)
    (partition sequence : UInt64) (out : Out) :
    (gatedMap mapRow gate partition sequence out).2.2 = (gate.observe partition sequence).2 := by
  unfold gatedMap
  dsimp only
  split_ifs <;> rfl

@[simp] theorem gatedMap_continuity (mapRow : Out → MapResult × Out) (gate : SequenceGate)
    (partition sequence : UInt64) (out : Out) :
    (gatedMap mapRow gate partition sequence out).1.continuity =
      (gate.observe partition sequence).1 := by
  unfold gatedMap
  dsimp only
  split_ifs <;> rfl

/-! ### What one call publishes -/

section Published

variable [TradingCore] {exchangeSeq : Sequence} {mapRow : Out → MapResult × Out}

/-- What a row publishes is admitted under its sequence. -/
theorem Publishes.admits_mappedEvent (contract : Publishes exchangeSeq mapRow) {event : MarketEvent}
    (mapped : mappedEvent mapRow = some event) : Admits Out exchangeSeq event := by
  unfold mappedEvent at mapped
  cases contract with
  | rejected result bad same => rw [same, named_none] at mapped; cases mapped
  | published result other ok admitted same =>
      rw [same, named_some _ _ admitted.1] at mapped
      cases mapped
      exact admitted

/-- **An accepted row maps into any output what it maps into an empty one.** -/
theorem Publishes.map_eq (contract : Publishes exchangeSeq mapRow) (out : Out) :
    (mapRow (publish out none)).2 = publish out (mappedEvent mapRow) ∧
      (mapRow (publish out none)).1.ok = (mappedEvent mapRow).isSome := by
  unfold mappedEvent
  cases contract with
  | rejected result bad same => simp only [same, named_none, bad, Option.isSome_none, and_self]
  | published result event ok admitted same =>
      simp only [same, named_some _ _ admitted.1, ok, Option.isSome_some, and_self]

/-- **One call publishes one event or nothing**, the same whatever the output held. -/
theorem gatedMap_spec (contract : Publishes exchangeSeq mapRow) (gate : SequenceGate)
    (partition sequence : UInt64) (out : Out) :
    (gatedMap mapRow gate partition sequence out).2.1 =
        publish out (gatedEvent mapRow gate partition sequence) ∧
      (gatedMap mapRow gate partition sequence out).1.publishable =
        (gatedEvent mapRow gate partition sequence).isSome := by
  unfold gatedMap gatedEvent
  cases observed : (gate.observe partition sequence).1.accepted with
  | false => simp [observed, MapOutcome.publishable]
  | true =>
      obtain ⟨wrote, ok⟩ := contract.map_eq out
      simp [observed, MapOutcome.publishable, wrote, ok]

/-- A gated row publishes through its output what it publishes at all. -/
theorem gatedMap_publication (contract : Publishes exchangeSeq mapRow)
    (gate : SequenceGate) (partition sequence : UInt64) (out : Out) :
    (if (gatedMap mapRow gate partition sequence out).1.publishable then
        some (eventKind (gatedMap mapRow gate partition sequence out).2.1,
          named (gatedMap mapRow gate partition sequence out).2.1)
      else none) =
      if (gate.observe partition sequence).1.accepted then
        (mappedEvent mapRow).map fun event => (eventKindOf event, some event)
      else none := by
  obtain ⟨wrote, publishable⟩ := gatedMap_spec contract gate partition sequence out
  rw [wrote, publishable]
  unfold gatedEvent
  split_ifs with observed shown hidden
  · obtain ⟨event, mapped⟩ := Option.isSome_iff_exists.mp shown
    have carried := (contract.admits_mappedEvent mapped).1
    rw [mapped, eventKind_some _ _ carried, named_some _ _ carried]
    rfl
  · rw [Option.not_isSome_iff_eq_none.mp shown]
    rfl
  · cases hidden
  · rfl

/-- **What the caller may read out of an output.** Its tag is set exactly when the outcome is
publishable. If it is not, the output only lost its tag. If it is, the tagged member holds the event
that the row alone determines (`fresh`), under its own kind and the accepted sequence, and the other
members are those of before. -/
structure Faithful (outcome : MapOutcome) (accepted : Sequence) (fresh : Option MarketEvent)
    (before after : Out) : Prop where
  tagged : eventKind after ≠ .unknown ↔ outcome.publishable = true
  silent : outcome.publishable = false → after = publish before none
  current : outcome.publishable = true → ∃ event, fresh = some event ∧ named after = some event ∧
    event.header.kind = eventKind after ∧ event.header.exchangeSeq = accepted ∧
    after = publish before (some event)

/-- **The gate leaves a faithful output behind**, under the sequence it accepted. -/
theorem gatedMap_faithful (contract : Publishes exchangeSeq mapRow) (gate : SequenceGate)
    (partition sequence : UInt64) (numbered : sequence ≠ 0 → exchangeSeq = sequence) (out : Out) :
    Faithful (gatedMap mapRow gate partition sequence out).1
      (gatedMap mapRow gate partition sequence out).2.2.lastAccepted (mappedEvent mapRow) out
      (gatedMap mapRow gate partition sequence out).2.1 := by
  obtain ⟨wrote, publishable⟩ := gatedMap_spec contract gate partition sequence out
  rw [gatedMap_gate, wrote]
  cases published : gatedEvent mapRow gate partition sequence with
  | none =>
      rw [published] at publishable
      refine ⟨?_, fun _ => rfl, fun shown => ?_⟩
      · rw [eventKind_none, publishable]
        simp
      · rw [publishable] at shown
        cases shown
  | some event =>
      rw [published] at publishable
      obtain ⟨observed, mapped⟩ : (gate.observe partition sequence).1.accepted = true ∧
          mappedEvent mapRow = some event := by
        unfold gatedEvent at published
        split_ifs at published with observed
        exact ⟨observed, published⟩
      obtain ⟨carried, headed⟩ := contract.admits_mappedEvent mapped
      have accepted := SequenceGate.observe_accepted observed
      refine ⟨?_, fun shown => ?_, fun _ => ⟨event, mapped, named_some _ _ carried, ?_, ?_, rfl⟩⟩
      · rw [eventKind_some _ _ carried, publishable]
        simp [eventKindOf_ne_unknown]
      · rw [publishable] at shown
        cases shown
      · rw [eventKind_some _ _ carried]
        exact headed.1
      · rw [accepted.lastAccepted, ← numbered accepted.numbered]
        exact headed.2

end Published

end Contract

end MarketDataFabric.Providers
