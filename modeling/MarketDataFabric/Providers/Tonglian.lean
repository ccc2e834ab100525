/-
**The Tonglian mapper**, `providers/cn/stock/tonglian/mapper.hpp`.

A row carries Tonglian's own characters and its `HHMMSSmmm` clock; the stateless functions
`mapOrderRow`, `mapStatusRow` and `mapTransactionRow` decode it into a market view and call the
exchange mapper of the context's market. `TonglianMapper` puts one contiguous gate in front of them.

`orderRow_publishes` and `transactionRow_publishes` state the contract of its two row mappings.
-/

import MarketDataFabric.Providers.MapOutput

namespace MarketDataFabric.Providers.Tonglian

open MarketDataFabric.Core Mappers Markets

def kCnStockTonglianSourceId : SourceId := 1001

inductive Market where
  | unknown
  | shanghai
  | shenzhen
deriving Repr, DecidableEq

structure MappingContext where
  sourceId : SourceId := kCnStockTonglianSourceId
  venueId : VenueId := 0
  feedId : FeedId := 0
  instrumentId : InstrumentId := 0
  tradingDay : TradingDay := 0
  market : Market := .unknown
deriving Repr, DecidableEq

def MappingContext.eventContext (context : MappingContext) : EventContext :=
  ⟨context.sourceId, context.venueId, context.feedId, context.instrumentId, context.tradingDay⟩

structure OrderRow where
  timeHhmmssmmm : UInt32 := 0
  rowSeq : Sequence := 0
  orderId : OrderId := 0
  exchangeOrderId : OrderId := 0
  orderKind : Char := '\x00'
  functionCode : Char := '\x00'
  price : Price := 0
  quantity : Quantity := 0
  channel : PartitionId := 0
  originalOrderId : OrderId := 0
  bizIndex : Sequence := 0
  tradingPhase : TradingPhase := .unknown
deriving Repr, DecidableEq

structure TransactionRow where
  timeHhmmssmmm : UInt32 := 0
  rowSeq : Sequence := 0
  transactionId : TradeId := 0
  functionCode : Char := '\x00'
  orderKind : Char := '\x00'
  bsFlag : Char := '\x00'
  price : Price := 0
  quantity : Quantity := 0
  askOrderId : OrderId := 0
  bidOrderId : OrderId := 0
  channel : PartitionId := 0
  bizIndex : Sequence := 0
deriving Repr, DecidableEq

/-- The digits are split in 32-bit arithmetic; the sum is formed in 64 bits. -/
def hhmmssmmmToNs (value : UInt32) : TimestampNs :=
  let milliseconds := value % 1000
  let value := value / 1000
  let seconds := value % 100
  let value := value / 100
  let minutes := value % 100
  let value := value / 100
  let hours := value
  (((hours.toUInt64 * 60 + minutes.toUInt64) * 60 + seconds.toUInt64) * 1000 +
    milliseconds.toUInt64) * 1000000

def mapSide (functionCode : Char) : Side :=
  match functionCode with
  | 'B' => .buy
  | 'S' => .sell
  | _ => .unknown

def mapAggressorSide (bsFlag : Char) : AggressorSide :=
  match bsFlag with
  | 'B' => .buy
  | 'S' => .sell
  | _ => .unknown

/-- Tonglian's `order_id` is a channel code; the exchange's order number locates the order. -/
def effectiveOrderId (row : OrderRow) : OrderId := row.exchangeOrderId

section Rows

variable [TradingCore]

def orderKindOf (market : Market) (orderKind : Char) : OrderKind :=
  match market with
  | .shanghai =>
      if orderKind = 'A' then .addLimit
      else if orderKind = 'D' then .delete
      else if orderKind = 'S' then .tradingPhase
      else .unknown
  | .shenzhen =>
      if orderKind = '0' then .addLimit
      else if orderKind = '1' then .addMarket
      else if orderKind = 'U' then .addOwnBest
      else .unknown
  | .unknown => .unknown

/-- The view `map_order_row` builds. -/
def orderView (context : MappingContext) (row : OrderRow) : OrderView where
  exchangeTsNs := hhmmssmmmToNs row.timeHhmmssmmm
  eventSeq := row.rowSeq
  exchangeSeq := row.bizIndex
  partitionId := row.channel
  orderId := effectiveOrderId row
  originalOrderId := row.originalOrderId
  price := row.price
  quantity := row.quantity
  side := mapSide row.functionCode
  kind := orderKindOf context.market row.orderKind
  tradingPhase := row.tradingPhase

def mapOrderRow (context : MappingContext) (row : OrderRow) (out : BookOrder) :
    MapResult × BookOrder :=
  match context.market with
  | .shanghai => Sse.mapOrder context.eventContext (orderView context row) out
  | .shenzhen => Szse.mapOrder context.eventContext (orderView context row) out
  | .unknown => (⟨.unsupported, false⟩, out)

/-- The view `map_status_row` builds. -/
def statusView (row : OrderRow) : OrderView where
  exchangeTsNs := hhmmssmmmToNs row.timeHhmmssmmm
  eventSeq := row.rowSeq
  exchangeSeq := row.bizIndex
  partitionId := row.channel
  kind := .tradingPhase
  tradingPhase := row.tradingPhase

def mapStatusRow (context : MappingContext) (row : OrderRow) (out : TradingPhaseUpdate) :
    MapResult × TradingPhaseUpdate :=
  if context.market ≠ .shanghai ∨ row.orderKind ≠ 'S' then
    (⟨.unsupported, false⟩, out)
  else
    Sse.mapPhase context.eventContext (statusView row) out

def transactionKindOf (functionCode : Char) : TransactionKind :=
  if functionCode = 'C' then .cancel
  else if functionCode = '0' ∨ functionCode = '\x00' then .trade
  else .unknown

/-- The view `map_transaction_row` builds. A missing `biz_index` falls back on the transaction id. -/
def transactionView (row : TransactionRow) : TransactionView where
  exchangeTsNs := hhmmssmmmToNs row.timeHhmmssmmm
  eventSeq := row.rowSeq
  exchangeSeq := if row.bizIndex ≠ 0 then row.bizIndex else row.transactionId
  partitionId := row.channel
  tradeId := row.transactionId
  bidOrderId := row.bidOrderId
  askOrderId := row.askOrderId
  price := row.price
  quantity := row.quantity
  aggressorSide := mapAggressorSide row.bsFlag
  neutralTrade := row.bsFlag = 'N'
  kind := transactionKindOf row.functionCode

/-- An unknown market leaves the output as it is, its tag included. -/
def mapTransactionRow (context : MappingContext) (row : TransactionRow)
    (out : TransactionMapOutput) : MapResult × TransactionMapOutput :=
  let view := transactionView row
  match context.market with
  | .shanghai =>
      if view.kind = .cancel then out.storeOrder (Sse.mapCancel context.eventContext view)
      else out.storeTrade (Sse.mapTrade context.eventContext view)
  | .shenzhen =>
      if view.kind = .cancel then out.storeOrder (Szse.mapCancel context.eventContext view)
      else out.storeTrade (Szse.mapTrade context.eventContext view)
  | .unknown => (⟨.unsupported, false⟩, out)

end Rows

/-! ### The stateful mapper -/

structure TonglianMapper where
  context : MappingContext
  sequence : SequenceGate := {}
deriving Repr, DecidableEq

section Mapper

variable [TradingCore]

/-- What `map` does with an accepted order row: a status row goes to the phase member. -/
def mapAcceptedOrderRow (context : MappingContext) (row : OrderRow) (out : OrderMapOutput) :
    MapResult × OrderMapOutput :=
  if row.orderKind = 'S' then out.storePhase (mapStatusRow context row)
  else out.storeOrder (mapOrderRow context row)

namespace TonglianMapper

def beginRecovery (mapper : TonglianMapper) : TonglianMapper :=
  { mapper with sequence := mapper.sequence.beginRecovery }

def completeRecovery (mapper : TonglianMapper) (channel : PartitionId) (sequence : Sequence) :
    Bool × TonglianMapper :=
  let (done, gate) := mapper.sequence.completeRecovery channel sequence
  (done, { mapper with sequence := gate })

def reset (mapper : TonglianMapper) : TonglianMapper :=
  { mapper with sequence := mapper.sequence.reset }

/-- `map` of an order row. -/
def mapOrder (mapper : TonglianMapper) (row : OrderRow) (out : OrderMapOutput) :
    MapOutcome × OrderMapOutput × TonglianMapper :=
  let (outcome, out, sequence) := gatedMap (mapAcceptedOrderRow mapper.context row)
    mapper.sequence row.channel row.bizIndex out
  (outcome, out, { mapper with sequence })

/-- `map` of a transaction row. -/
def mapTransaction (mapper : TonglianMapper) (row : TransactionRow) (out : TransactionMapOutput) :
    MapOutcome × TransactionMapOutput × TonglianMapper :=
  let (outcome, out, sequence) := gatedMap (mapTransactionRow mapper.context row)
    mapper.sequence row.channel row.bizIndex out
  (outcome, out, { mapper with sequence })

def streamTrusted (mapper : TonglianMapper) : Bool := mapper.sequence.trusted

end TonglianMapper

/-! ### The contract of the row mappings -/

theorem mapOrderRow_overwrites (context : MappingContext) (row : OrderRow) :
    Overwrites (fun event => Headed .bookOrder row.bizIndex event.header)
      (mapOrderRow context row) := by
  unfold mapOrderRow
  cases context.market with
  | shanghai => exact Sse.mapOrder_overwrites _ (orderView context row)
  | shenzhen => exact Szse.mapOrder_overwrites _ (orderView context row)
  | unknown => exact .rejected _ rfl fun _ => rfl

theorem mapStatusRow_overwrites (context : MappingContext) (row : OrderRow) :
    Overwrites (fun event => Headed .tradingPhaseUpdate row.bizIndex event.header)
      (mapStatusRow context row) := by
  unfold mapStatusRow
  by_cases other : context.market ≠ .shanghai ∨ row.orderKind ≠ 'S'
  · exact .rejected _ rfl fun _ => if_pos other
  · simp only [if_neg other]
    exact Sse.mapPhase_overwrites _ (statusView row)

/-- **An accepted order row** publishes an order or a phase under its `biz_index`, or nothing. -/
theorem orderRow_publishes (context : MappingContext) (row : OrderRow) :
    Publishes row.bizIndex (mapAcceptedOrderRow context row) := by
  unfold mapAcceptedOrderRow
  by_cases status : row.orderKind = 'S'
  · simp only [if_pos status]
    exact OrderMapOutput.storePhase_publishes (mapStatusRow_overwrites context row)
  · simp only [if_neg status]
    exact OrderMapOutput.storeOrder_publishes (mapOrderRow_overwrites context row)

/-- **A transaction row** publishes a cancellation or a trade, or nothing, under the sequence its
view carries. -/
theorem transactionRow_publishes (context : MappingContext) (row : TransactionRow) :
    Publishes (transactionView row).exchangeSeq (mapTransactionRow context row) := by
  unfold mapTransactionRow
  cases context.market with
  | shanghai =>
      by_cases cancel : (transactionView row).kind = .cancel
      · simp only [if_pos cancel]
        exact TransactionMapOutput.storeOrder_publishes
          ((Sse.mapCancel_overwrites _ _).imp fun _ cancels => cancels.header)
      · simp only [if_neg cancel]
        exact TransactionMapOutput.storeTrade_publishes
          ((Sse.mapTrade_overwrites _ _).imp fun _ trades => trades.header)
  | shenzhen =>
      by_cases cancel : (transactionView row).kind = .cancel
      · simp only [if_pos cancel]
        exact TransactionMapOutput.storeOrder_publishes
          ((Szse.mapCancel_overwrites _ _).imp fun _ cancels => cancels.header)
      · simp only [if_neg cancel]
        exact TransactionMapOutput.storeTrade_publishes
          ((Szse.mapTrade_overwrites _ _).imp fun _ trades => trades.header)
  | unknown => exact .rejected _ rfl fun _ => rfl

omit [TradingCore] in
/-- A numbered transaction row carries its own number. -/
theorem transactionView_exchangeSeq {row : TransactionRow} (numbered : row.bizIndex ≠ 0) :
    (transactionView row).exchangeSeq = row.bizIndex := if_pos numbered

namespace TonglianMapper

theorem mapOrder_faithful (mapper : TonglianMapper) (row : OrderRow) (out : OrderMapOutput) :
    Faithful (mapper.mapOrder row out).1 (mapper.mapOrder row out).2.2.sequence.lastAccepted
      (mappedEvent (mapAcceptedOrderRow mapper.context row)) out (mapper.mapOrder row out).2.1 :=
  gatedMap_faithful (orderRow_publishes mapper.context row) mapper.sequence row.channel
    row.bizIndex (fun _ => rfl) out

theorem mapTransaction_faithful (mapper : TonglianMapper) (row : TransactionRow)
    (out : TransactionMapOutput) :
    Faithful (mapper.mapTransaction row out).1
      (mapper.mapTransaction row out).2.2.sequence.lastAccepted
      (mappedEvent (mapTransactionRow mapper.context row)) out
      (mapper.mapTransaction row out).2.1 :=
  gatedMap_faithful (transactionRow_publishes mapper.context row) mapper.sequence row.channel
    row.bizIndex transactionView_exchangeSeq out

end TonglianMapper

end Mapper

end MarketDataFabric.Providers.Tonglian
