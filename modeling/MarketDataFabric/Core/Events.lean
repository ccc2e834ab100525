/-
**The `trading-core` vocabulary the mappers write.**

`trading-core` is a sibling repository. Its event structures appear here with the members this
repository reads or writes; every enumeration has the enumerators this repository names and `other`
for the rest. What a value-initialised event (`te::BookOrder event{}`) contains is `trading-core`'s
decision, so it is a parameter: `TradingCore` supplies the default-constructed events, and every
mapper starts from them.
-/

import Mathlib.Logic.Basic

namespace MarketDataFabric.Core

abbrev SourceId := UInt32
abbrev VenueId := UInt32
abbrev FeedId := UInt32
abbrev InstrumentId := UInt32
abbrev TradingDay := UInt32
abbrev Sequence := UInt64
abbrev PartitionId := UInt64
abbrev OrderId := UInt64
abbrev TradeId := UInt64
abbrev TimestampNs := UInt64
abbrev Price := Int64
abbrev Quantity := Int64

inductive EventKind where
  | unknown
  | bookOrder
  | bookTrade
  | tradingPhaseUpdate
  | other (code : UInt16)
deriving Repr, DecidableEq

inductive Side where
  | unknown
  | buy
  | sell
  | other (code : UInt8)
deriving Repr, DecidableEq

inductive AggressorSide where
  | unknown
  | buy
  | sell
  | other (code : UInt8)
deriving Repr, DecidableEq

inductive OrderAction where
  | add
  | delete
  | cancel
  | other (code : UInt8)
deriving Repr, DecidableEq

inductive OrderType where
  | limit
  | market
  | other (code : UInt8)
deriving Repr, DecidableEq

inductive PriceInstruction where
  | explicitLimit
  | unpricedMarket
  | ownBest
  | other (code : UInt8)
deriving Repr, DecidableEq

inductive TimeInForce where
  | day
  | other (code : UInt8)
deriving Repr, DecidableEq

inductive RemainderPolicy where
  | rest
  | other (code : UInt8)
deriving Repr, DecidableEq

inductive TradingPhase where
  | unknown
  | startup
  | openingCall
  | continuous
  | break
  | suspended
  | closingCall
  | closed
  | endOfTrading
  | afterHours
  | volatilityInterruption
  | fixedPriceCall
  | other (code : UInt8)
deriving Repr, DecidableEq

/-- The common head of every event. `schemaVersion` is written by `trading-core` alone. -/
structure EventHeader where
  kind : EventKind
  schemaVersion : UInt16
  sourceId : SourceId
  venueId : VenueId
  feedId : FeedId
  instrumentId : InstrumentId
  tradingDay : TradingDay
  eventSeq : Sequence
  exchangeSeq : Sequence
  exchangeTsNs : TimestampNs
deriving Repr, DecidableEq

structure BookOrder where
  header : EventHeader
  orderId : OrderId
  originalOrderId : OrderId
  partitionId : PartitionId
  orderSeq : Sequence
  priorityId : OrderId
  price : Price
  quantity : Quantity
  remainingQty : Quantity
  side : Side
  action : OrderAction
  orderType : OrderType
  priceInstruction : PriceInstruction
  timeInForce : TimeInForce
  remainderPolicy : RemainderPolicy
deriving Repr, DecidableEq

structure BookTrade where
  header : EventHeader
  tradeId : TradeId
  tradeSeq : TradeId
  partitionId : PartitionId
  price : Price
  quantity : Quantity
  aggressorSide : AggressorSide
  sellOrderId : OrderId
  buyOrderId : OrderId
  restingOrderId : OrderId
deriving Repr, DecidableEq

structure TradingPhaseUpdate where
  header : EventHeader
  tradingPhase : TradingPhase
deriving Repr, DecidableEq

/-- The value-initialised events of `trading-core`: what `EventHeader{}`, `BookOrder{}`,
`BookTrade{}` and `TradingPhaseUpdate{}` contain before a mapper writes to them. -/
class TradingCore where
  eventHeader : EventHeader
  bookOrder : BookOrder
  bookTrade : BookTrade
  tradingPhaseUpdate : TradingPhaseUpdate

/-- Events that start out all zero. -/
@[reducible] def TradingCore.zeroed : TradingCore where
  eventHeader := zeroHeader
  bookOrder :=
    { header := zeroHeader, orderId := 0, originalOrderId := 0, partitionId := 0, orderSeq := 0,
      priorityId := 0, price := 0, quantity := 0, remainingQty := 0, side := .unknown,
      action := .other 0, orderType := .other 0, priceInstruction := .other 0,
      timeInForce := .other 0, remainderPolicy := .other 0 }
  bookTrade :=
    { header := zeroHeader, tradeId := 0, tradeSeq := 0, partitionId := 0, price := 0,
      quantity := 0, aggressorSide := .unknown, sellOrderId := 0, buyOrderId := 0,
      restingOrderId := 0 }
  tradingPhaseUpdate := { header := zeroHeader, tradingPhase := .unknown }
where
  zeroHeader : EventHeader :=
    { kind := .unknown, schemaVersion := 0, sourceId := 0, venueId := 0, feedId := 0,
      instrumentId := 0, tradingDay := 0, eventSeq := 0, exchangeSeq := 0, exchangeTsNs := 0 }

/-- One mapped event, whichever member of an output it came from. -/
inductive MarketEvent where
  | bookOrder (event : BookOrder)
  | bookTrade (event : BookTrade)
  | tradingPhaseUpdate (event : TradingPhaseUpdate)
deriving Repr, DecidableEq

namespace MarketEvent

def header : MarketEvent → EventHeader
  | .bookOrder event => event.header
  | .bookTrade event => event.header
  | .tradingPhaseUpdate event => event.header

end MarketEvent

/-! ### Events of the crypto venues -/

/-- The head of an event with the members that name the message it came from. -/
structure CapturedHeader extends EventHeader where
  flags : UInt32
  connectionId : UInt32
  captureSeq : Sequence
  recvTsNs : TimestampNs
  sendTsNs : TimestampNs
deriving Repr, DecidableEq

structure Trade where
  header : CapturedHeader
  price : Price
  quantity : Quantity
  tradeId : TradeId
  aggressorSide : AggressorSide
deriving Repr, DecidableEq

structure Quote where
  header : CapturedHeader
  bidPrice : Price
  bidQty : Quantity
  askPrice : Price
  askQty : Quantity
deriving Repr, DecidableEq

/-- What `EventHeader{}`, `Trade{}` and `Quote{}` contain, and the enumerators `EventKind::Trade` and
`EventKind::Quote`. -/
class QuoteCore where
  capturedHeader : CapturedHeader
  trade : Trade
  quote : Quote
  tradeKind : EventKind
  quoteKind : EventKind

/-- Trades and quotes that start out all zero but for their kind. -/
@[reducible] def QuoteCore.zeroed : QuoteCore where
  capturedHeader := zeroHeader .unknown
  trade :=
    { header := zeroHeader (.other 1), price := 0, quantity := 0, tradeId := 0,
      aggressorSide := .unknown }
  quote := { header := zeroHeader (.other 2), bidPrice := 0, bidQty := 0, askPrice := 0, askQty := 0 }
  tradeKind := .other 1
  quoteKind := .other 2
where
  zeroHeader (kind : EventKind) : CapturedHeader :=
    { TradingCore.zeroed.zeroHeader with
      kind, flags := 0, connectionId := 0, captureSeq := 0, recvTsNs := 0, sendTsNs := 0 }

end MarketDataFabric.Core
