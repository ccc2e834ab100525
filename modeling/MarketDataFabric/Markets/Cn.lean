/-
**The shared views of the Chinese stock markets, and what it means to map into a reused buffer.**

Providers decode their rows into `OrderView` and `TransactionView`; the exchange mappers of
`Markets.Sse` and `Markets.Szse` turn a view into a `trading-core` event written over `out`.

`Overwrites` is the contract of all of them: **a mapping either rejects and leaves the buffer as it
was, or accepts and overwrites it with an event that depends on the row alone.**
-/

import MarketDataFabric.Core.Events
import MarketDataFabric.Mappers.SequenceGate

namespace MarketDataFabric.Markets

open MarketDataFabric.Core Mappers

structure EventContext where
  sourceId : SourceId
  venueId : VenueId
  feedId : FeedId
  instrumentId : InstrumentId
  tradingDay : TradingDay
deriving Repr, DecidableEq

inductive OrderKind where
  | unknown
  | addLimit
  | addMarket
  | addOwnBest
  | delete
  | tradingPhase
deriving Repr, DecidableEq

structure OrderView where
  exchangeTsNs : TimestampNs
  eventSeq : Sequence
  exchangeSeq : Sequence
  partitionId : PartitionId
  orderId : OrderId := 0
  originalOrderId : OrderId := 0
  price : Price := 0
  quantity : Quantity := 0
  side : Side := .unknown
  kind : OrderKind := .unknown
  tradingPhase : TradingPhase := .unknown
deriving Repr, DecidableEq

inductive TransactionKind where
  | unknown
  | trade
  | cancel
deriving Repr, DecidableEq

structure TransactionView where
  exchangeTsNs : TimestampNs
  eventSeq : Sequence
  exchangeSeq : Sequence
  partitionId : PartitionId
  tradeId : TradeId := 0
  bidOrderId : OrderId := 0
  askOrderId : OrderId := 0
  price : Price := 0
  quantity : Quantity := 0
  aggressorSide : AggressorSide := .unknown
  neutralTrade : Bool := false
  kind : TransactionKind := .unknown
deriving Repr, DecidableEq

/-- `fill_header`: value-initialise the header, then write the members a mapper knows. -/
def fillHeader [TradingCore] (context : EventContext) (kind : EventKind)
    (exchangeTsNs : TimestampNs) (eventSeq exchangeSeq : Sequence) : EventHeader :=
  { TradingCore.eventHeader with
    kind
    sourceId := context.sourceId
    venueId := context.venueId
    feedId := context.feedId
    instrumentId := context.instrumentId
    tradingDay := context.tradingDay
    eventSeq
    exchangeSeq
    exchangeTsNs }

/-- The body both exchanges give their `map` of a transaction view into a `BookOrder`, a cancellation
of the ask order if it is named, else of the bid order. They differ in the result of an accepted
one. -/
def cancelOrder [TradingCore] (accepted : MapResult) (context : EventContext)
    (view : TransactionView) (out : BookOrder) : MapResult × BookOrder :=
  if view.kind ≠ .cancel ∨ view.quantity ≤ 0 then
    (⟨.invalid, false⟩, out)
  else
    let canceledOrderId := if view.askOrderId ≠ 0 then view.askOrderId else view.bidOrderId
    if canceledOrderId = 0 then
      (⟨.invalid, false⟩, out)
    else
      (accepted, { TradingCore.bookOrder with
        header := fillHeader context .bookOrder view.exchangeTsNs view.eventSeq view.exchangeSeq
        orderId := canceledOrderId
        partitionId := view.partitionId
        orderSeq := view.exchangeSeq
        quantity := view.quantity
        action := .cancel })

/-! ### Mapping into a reused buffer -/

/-- **The contract of a mapping into a buffer.** Whatever the buffer holds, the mapping rejects and
keeps it, or it overwrites it with one and the same event, which satisfies `shape`. -/
inductive Overwrites {α : Type} (shape : α → Prop) (map : α → MapResult × α) : Prop
  | rejected (result : MapResult) : result.ok = false → (∀ out, map out = (result, out)) →
      Overwrites shape map
  | written (result : MapResult) (event : α) : result.ok = true → shape event →
      (∀ out, map out = (result, event)) → Overwrites shape map

theorem Overwrites.imp {α : Type} {shape other : α → Prop} {map : α → MapResult × α}
    (contract : Overwrites shape map) (weaker : ∀ event, shape event → other event) :
    Overwrites other map := by
  cases contract with
  | rejected result bad same => exact .rejected result bad same
  | written result event ok shaped same => exact .written result event ok (weaker event shaped) same

/-- The header every mapped event carries. -/
def Headed (kind : EventKind) (exchangeSeq : Sequence) (header : EventHeader) : Prop :=
  header.kind = kind ∧ header.exchangeSeq = exchangeSeq

theorem headed_fillHeader [TradingCore] (context : EventContext) (kind : EventKind)
    (exchangeTsNs : TimestampNs) (eventSeq exchangeSeq : Sequence) :
    Headed kind exchangeSeq (fillHeader context kind exchangeTsNs eventSeq exchangeSeq) :=
  ⟨rfl, rfl⟩

/-- The order is the cancellation that the view describes. -/
structure Cancels (view : TransactionView) (order : BookOrder) : Prop where
  kind : view.kind = .cancel
  header : Headed .bookOrder view.exchangeSeq order.header
  action : order.action = .cancel
  orderId : order.orderId = if view.askOrderId ≠ 0 then view.askOrderId else view.bidOrderId
  partitionId : order.partitionId = view.partitionId
  quantity : order.quantity = view.quantity

/-- The trade is the one that the view describes. -/
structure Trades (view : TransactionView) (trade : BookTrade) : Prop where
  kind : view.kind = .trade
  header : Headed .bookTrade view.exchangeSeq trade.header
  tradeId : trade.tradeId = view.tradeId
  partitionId : trade.partitionId = view.partitionId
  price : trade.price = view.price
  quantity : trade.quantity = view.quantity

theorem cancelOrder_overwrites [TradingCore] {accepted : MapResult} (ok : accepted.ok = true)
    (context : EventContext) (view : TransactionView) :
    Overwrites (Cancels view) (cancelOrder accepted context view) := by
  unfold cancelOrder
  by_cases invalid : view.kind ≠ .cancel ∨ view.quantity ≤ 0
  · exact .rejected _ rfl fun _ => if_pos invalid
  have cancel : view.kind = .cancel := not_not.mp fun other => invalid (Or.inl other)
  simp only [if_neg invalid]
  by_cases unnamed : (if view.askOrderId ≠ 0 then view.askOrderId else view.bidOrderId) = 0
  · exact .rejected _ rfl fun _ => if_pos unnamed
  · exact .written _ _ ok ⟨cancel, headed_fillHeader .., rfl, rfl, rfl, rfl⟩
      fun _ => if_neg unnamed

end MarketDataFabric.Markets
