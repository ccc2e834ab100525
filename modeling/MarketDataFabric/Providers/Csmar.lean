/-
**The CSMAR mapper**, `providers/cn/stock/csmar/mapper.hpp`.

CSMAR has one row type for each exchange and stream, a UTC millisecond clock and its own codes. The
four `map` overloads share a monotonic gate; each checks an accepted row itself before it builds a
market view and calls the exchange mapper.

`shanghaiOrder_publishes` and its three companions state the contract of the four row mappings.
-/

import MarketDataFabric.Providers.MapOutput

namespace MarketDataFabric.Providers.Csmar

open MarketDataFabric.Core Mappers Markets

def kCnStockCsmarSourceId : SourceId := 1002

inductive Market where
  | unknown
  | shanghai
  | shenzhen
deriving Repr, DecidableEq

structure MappingContext where
  sourceId : SourceId := kCnStockCsmarSourceId
  venueId : VenueId := 0
  feedId : FeedId := 0
  instrumentId : InstrumentId := 0
  tradingDay : TradingDay := 0
  market : Market := .unknown
deriving Repr, DecidableEq

def MappingContext.eventContext (context : MappingContext) : EventContext :=
  ⟨context.sourceId, context.venueId, context.feedId, context.instrumentId, context.tradingDay⟩

/-- `orderType` is `A` for a new order, `D` for a deletion and `S` for a product status. -/
structure ShanghaiOrderRow where
  unixTimeMs : UInt64 := 0
  recordId : Sequence := 0
  setId : PartitionId := 0
  orderId : OrderId := 0
  price : Price := 0
  balance : Quantity := 0
  orderType : Char := '\x00'
  orderCode : String := ""
deriving Repr, DecidableEq

structure ShanghaiTransactionRow where
  unixTimeMs : UInt64 := 0
  recordId : Sequence := 0
  tradeChannel : PartitionId := 0
  buyOrderId : OrderId := 0
  sellOrderId : OrderId := 0
  price : Price := 0
  quantity : Quantity := 0
  buySellFlag : Char := '\x00'
deriving Repr, DecidableEq

structure ShenzhenOrderRow where
  unixTimeMs : UInt64 := 0
  recordId : Sequence := 0
  setId : PartitionId := 0
  price : Price := 0
  quantity : Quantity := 0
  orderType : Char := '\x00'
  orderCode : Char := '\x00'
deriving Repr, DecidableEq

/-- `tradeType` is `F` for a trade and `4` for a cancellation. -/
structure ShenzhenTransactionRow where
  unixTimeMs : UInt64 := 0
  recordId : Sequence := 0
  setId : PartitionId := 0
  buyOrderId : OrderId := 0
  sellOrderId : OrderId := 0
  price : Price := 0
  quantity : Quantity := 0
  tradeType : Char := '\x00'
deriving Repr, DecidableEq

def kDayMs : UInt64 := 86400000

def kShanghaiOffsetMs : UInt64 := 8 * 60 * 60 * 1000

/-- The nanosecond of the exchange's local day. The modulus comes before the offset, so that the
sum does not overflow. -/
def exchangeTimeNs (unixTimeMs : UInt64) : TimestampNs :=
  (unixTimeMs % kDayMs + kShanghaiOffsetMs) % kDayMs * 1000000

def shanghaiSide (code : String) : Side :=
  if code = "B" then .buy
  else if code = "S" then .sell
  else .unknown

def shanghaiAggressor (flag : Char) : AggressorSide :=
  if flag = 'B' then .buy
  else if flag = 'S' then .sell
  else .unknown

def shanghaiPhase (code : String) : TradingPhase :=
  if code = "ADD" ∨ code = "START" ∨ code = "PRETR" then .startup
  else if code = "OCALL" ∨ code = "OOBB" ∨ code = "OPOBB" then .openingCall
  else if code = "TRADE" then .continuous
  else if code = "BETW" ∨ code = "BREAK" then .break
  else if code = "SUSP" ∨ code = "HALT" ∨ code = "NOTRD" then .suspended
  else if code = "CCALL" then .closingCall
  else if code = "CLOSE" then .closed
  else if code = "ENDTR" then .endOfTrading
  else if code = "POSTR" then .afterHours
  else if code = "VOLA" ∨ code = "ICALL" ∨ code = "IOBB" ∨ code = "IPOBB" then
    .volatilityInterruption
  else if code = "FCALL" then .fixedPriceCall
  else .unknown

def shenzhenSide (code : Char) : Side :=
  if code = '1' then .buy
  else if code = '2' then .sell
  else .unknown

def shenzhenOrderKind (type : Char) : OrderKind :=
  if type = '1' then .addMarket
  else if type = '2' then .addLimit
  else if type = 'U' then .addOwnBest
  else .unknown

/-! ### The views of the rows -/

/-- The view of a product status. -/
def shanghaiStatusView (row : ShanghaiOrderRow) : OrderView where
  exchangeTsNs := exchangeTimeNs row.unixTimeMs
  eventSeq := row.recordId
  exchangeSeq := row.recordId
  partitionId := row.setId
  kind := .tradingPhase
  tradingPhase := shanghaiPhase row.orderCode

/-- The view of a deletion: a cancellation of the remaining balance. -/
def shanghaiDeleteView (row : ShanghaiOrderRow) : TransactionView where
  exchangeTsNs := exchangeTimeNs row.unixTimeMs
  eventSeq := row.recordId
  exchangeSeq := row.recordId
  partitionId := row.setId
  bidOrderId := if shanghaiSide row.orderCode = .buy then row.orderId else 0
  askOrderId := if shanghaiSide row.orderCode = .sell then row.orderId else 0
  quantity := row.balance
  kind := .cancel

/-- The view of any other order row. `balance` is the quantity that remains. -/
def shanghaiOrderView (row : ShanghaiOrderRow) : OrderView where
  exchangeTsNs := exchangeTimeNs row.unixTimeMs
  eventSeq := row.recordId
  exchangeSeq := row.recordId
  partitionId := row.setId
  orderId := row.orderId
  price := row.price
  quantity := row.balance
  side := shanghaiSide row.orderCode
  kind := if row.orderType = 'A' then .addLimit else .unknown

def ShanghaiTransactionRow.validFlag (row : ShanghaiTransactionRow) : Bool :=
  row.buySellFlag = 'B' ∨ row.buySellFlag = 'S' ∨ row.buySellFlag = 'N'

/-- A flag that names no side is a trade of a call auction, or one nobody is known to have
initiated. -/
def shanghaiTransactionView (row : ShanghaiTransactionRow) : TransactionView where
  exchangeTsNs := exchangeTimeNs row.unixTimeMs
  eventSeq := row.recordId
  exchangeSeq := row.recordId
  partitionId := row.tradeChannel
  tradeId := row.recordId
  bidOrderId := row.buyOrderId
  askOrderId := row.sellOrderId
  price := row.price
  quantity := row.quantity
  aggressorSide := shanghaiAggressor row.buySellFlag
  neutralTrade := shanghaiAggressor row.buySellFlag = .unknown
  kind := .trade

/-- There is no order id of its own: trades refer to the record number of the order. -/
def shenzhenOrderView (row : ShenzhenOrderRow) : OrderView where
  exchangeTsNs := exchangeTimeNs row.unixTimeMs
  eventSeq := row.recordId
  exchangeSeq := row.recordId
  partitionId := row.setId
  orderId := row.recordId
  price := row.price
  quantity := row.quantity
  side := shenzhenSide row.orderCode
  kind := shenzhenOrderKind row.orderType

def ShenzhenTransactionRow.isTrade (row : ShenzhenTransactionRow) : Bool := row.tradeType = 'F'

def ShenzhenTransactionRow.isCancel (row : ShenzhenTransactionRow) : Bool := row.tradeType = '4'

def ShenzhenTransactionRow.exactlyOneOrder (row : ShenzhenTransactionRow) : Bool :=
  decide (row.buyOrderId = 0) != decide (row.sellOrderId = 0)

def shenzhenTransactionView (row : ShenzhenTransactionRow) : TransactionView where
  exchangeTsNs := exchangeTimeNs row.unixTimeMs
  eventSeq := row.recordId
  exchangeSeq := row.recordId
  partitionId := row.setId
  tradeId := if row.isTrade then row.recordId else 0
  bidOrderId := row.buyOrderId
  askOrderId := row.sellOrderId
  price := row.price
  quantity := row.quantity
  kind := if row.isTrade then .trade else .cancel

/-! ### The stateful mapper -/

structure CsmarMapper where
  context : MappingContext
  sequence : SequenceGate := { mode := .monotonic }
deriving Repr, DecidableEq

section Mapper

variable [TradingCore]

/-- What `map` does with an accepted Shanghai order row. -/
def mapAcceptedShanghaiOrder (context : MappingContext) (row : ShanghaiOrderRow)
    (out : OrderMapOutput) : MapResult × OrderMapOutput :=
  if context.market ≠ .shanghai ∨ row.unixTimeMs = 0 then
    (⟨.invalid, false⟩, out)
  else if row.orderType = 'S' then
    out.storePhase (Sse.mapPhase context.eventContext (shanghaiStatusView row))
  else if row.orderType = 'D' then
    out.storeOrder (Sse.mapCancel context.eventContext (shanghaiDeleteView row))
  else
    out.storeOrder (Sse.mapOrder context.eventContext (shanghaiOrderView row))

/-- What `map` does with an accepted Shanghai transaction row. -/
def mapAcceptedShanghaiTransaction (context : MappingContext) (row : ShanghaiTransactionRow)
    (out : TransactionMapOutput) : MapResult × TransactionMapOutput :=
  if context.market ≠ .shanghai ∨ row.unixTimeMs = 0 ∨ row.recordId = 0 ∨ row.quantity ≤ 0 ∨
      row.price ≤ 0 ∨ row.validFlag = false ∨ (row.buyOrderId = 0 ∧ row.sellOrderId = 0) then
    (⟨.invalid, false⟩, out)
  else
    out.storeTrade (Sse.mapTrade context.eventContext (shanghaiTransactionView row))

/-- What `map` does with an accepted Shenzhen order row. -/
def mapAcceptedShenzhenOrder (context : MappingContext) (row : ShenzhenOrderRow)
    (out : OrderMapOutput) : MapResult × OrderMapOutput :=
  if context.market ≠ .shenzhen ∨ row.unixTimeMs = 0 then
    (⟨.invalid, false⟩, out)
  else
    out.storeOrder (Szse.mapOrder context.eventContext (shenzhenOrderView row))

/-- What `map` does with an accepted Shenzhen transaction row. -/
def mapAcceptedShenzhenTransaction (context : MappingContext) (row : ShenzhenTransactionRow)
    (out : TransactionMapOutput) : MapResult × TransactionMapOutput :=
  if context.market ≠ .shenzhen ∨ row.unixTimeMs = 0 ∨ row.recordId = 0 ∨ row.quantity ≤ 0 then
    (⟨.invalid, false⟩, out)
  else if (row.isTrade = false ∧ row.isCancel = false) ∨
      (row.isTrade ∧ (row.price ≤ 0 ∨ row.buyOrderId = 0 ∨ row.sellOrderId = 0)) ∨
      (row.isCancel ∧ row.exactlyOneOrder = false) then
    (⟨.invalid, false⟩, out)
  else if row.isTrade then
    out.storeTrade (Szse.mapTrade context.eventContext (shenzhenTransactionView row))
  else
    out.storeOrder (Szse.mapCancel context.eventContext (shenzhenTransactionView row))

namespace CsmarMapper

def establishBaseline (mapper : CsmarMapper) (partition : PartitionId) (sequence : Sequence) :
    Bool × CsmarMapper :=
  let (done, gate) := mapper.sequence.completeRecovery partition sequence
  (done, { mapper with sequence := gate })

/-- `map` of a Shanghai order row. -/
def mapShanghaiOrder (mapper : CsmarMapper) (row : ShanghaiOrderRow) (out : OrderMapOutput) :
    MapOutcome × OrderMapOutput × CsmarMapper :=
  let (outcome, out, sequence) := gatedMap (mapAcceptedShanghaiOrder mapper.context row)
    mapper.sequence row.setId row.recordId out
  (outcome, out, { mapper with sequence })

/-- `map` of a Shanghai transaction row. -/
def mapShanghaiTransaction (mapper : CsmarMapper) (row : ShanghaiTransactionRow)
    (out : TransactionMapOutput) : MapOutcome × TransactionMapOutput × CsmarMapper :=
  let (outcome, out, sequence) := gatedMap (mapAcceptedShanghaiTransaction mapper.context row)
    mapper.sequence row.tradeChannel row.recordId out
  (outcome, out, { mapper with sequence })

/-- `map` of a Shenzhen order row. -/
def mapShenzhenOrder (mapper : CsmarMapper) (row : ShenzhenOrderRow) (out : OrderMapOutput) :
    MapOutcome × OrderMapOutput × CsmarMapper :=
  let (outcome, out, sequence) := gatedMap (mapAcceptedShenzhenOrder mapper.context row)
    mapper.sequence row.setId row.recordId out
  (outcome, out, { mapper with sequence })

/-- `map` of a Shenzhen transaction row. -/
def mapShenzhenTransaction (mapper : CsmarMapper) (row : ShenzhenTransactionRow)
    (out : TransactionMapOutput) : MapOutcome × TransactionMapOutput × CsmarMapper :=
  let (outcome, out, sequence) := gatedMap (mapAcceptedShenzhenTransaction mapper.context row)
    mapper.sequence row.setId row.recordId out
  (outcome, out, { mapper with sequence })

end CsmarMapper

/-! ### The contract of the row mappings -/

/-- **An accepted Shanghai order row** publishes a phase, a cancellation or an order under its record
number, or nothing. -/
theorem shanghaiOrder_publishes (context : MappingContext) (row : ShanghaiOrderRow) :
    Publishes row.recordId (mapAcceptedShanghaiOrder context row) := by
  unfold mapAcceptedShanghaiOrder
  by_cases refused : context.market ≠ .shanghai ∨ row.unixTimeMs = 0
  · exact .rejected _ rfl fun _ => if_pos refused
  simp only [if_neg refused]
  by_cases status : row.orderType = 'S'
  · simp only [if_pos status]
    exact OrderMapOutput.storePhase_publishes (Sse.mapPhase_overwrites _ (shanghaiStatusView row))
  simp only [if_neg status]
  by_cases deletion : row.orderType = 'D'
  · simp only [if_pos deletion]
    exact OrderMapOutput.storeOrder_publishes
      ((Sse.mapCancel_overwrites _ (shanghaiDeleteView row)).imp fun _ cancels => cancels.header)
  · simp only [if_neg deletion]
    exact OrderMapOutput.storeOrder_publishes (Sse.mapOrder_overwrites _ (shanghaiOrderView row))

/-- **An accepted Shanghai transaction row** publishes a trade under its record number, or
nothing. -/
theorem shanghaiTransaction_publishes (context : MappingContext) (row : ShanghaiTransactionRow) :
    Publishes row.recordId (mapAcceptedShanghaiTransaction context row) := by
  unfold mapAcceptedShanghaiTransaction
  split_ifs with refused
  · exact .rejected _ rfl fun _ => rfl
  · exact TransactionMapOutput.storeTrade_publishes
      ((Sse.mapTrade_overwrites _ (shanghaiTransactionView row)).imp fun _ trades => trades.header)

/-- **An accepted Shenzhen order row** publishes an order under its record number, or nothing. -/
theorem shenzhenOrder_publishes (context : MappingContext) (row : ShenzhenOrderRow) :
    Publishes row.recordId (mapAcceptedShenzhenOrder context row) := by
  unfold mapAcceptedShenzhenOrder
  split_ifs with refused
  · exact .rejected _ rfl fun _ => rfl
  · exact OrderMapOutput.storeOrder_publishes (Szse.mapOrder_overwrites _ (shenzhenOrderView row))

/-- **An accepted Shenzhen transaction row** publishes a trade or a cancellation under its record
number, or nothing. -/
theorem shenzhenTransaction_publishes (context : MappingContext) (row : ShenzhenTransactionRow) :
    Publishes row.recordId (mapAcceptedShenzhenTransaction context row) := by
  unfold mapAcceptedShenzhenTransaction
  split_ifs with refused malformed trade
  · exact .rejected _ rfl fun _ => rfl
  · exact .rejected _ rfl fun _ => rfl
  · exact TransactionMapOutput.storeTrade_publishes
      ((Szse.mapTrade_overwrites _ (shenzhenTransactionView row)).imp fun _ trades => trades.header)
  · exact TransactionMapOutput.storeOrder_publishes
      ((Szse.mapCancel_overwrites _ (shenzhenTransactionView row)).imp
        fun _ cancels => cancels.header)

namespace CsmarMapper

theorem mapShanghaiOrder_faithful (mapper : CsmarMapper) (row : ShanghaiOrderRow)
    (out : OrderMapOutput) :
    Faithful (mapper.mapShanghaiOrder row out).1
      (mapper.mapShanghaiOrder row out).2.2.sequence.lastAccepted
      (mappedEvent (mapAcceptedShanghaiOrder mapper.context row)) out
      (mapper.mapShanghaiOrder row out).2.1 :=
  gatedMap_faithful (shanghaiOrder_publishes mapper.context row) mapper.sequence row.setId
    row.recordId (fun _ => rfl) out

theorem mapShanghaiTransaction_faithful (mapper : CsmarMapper) (row : ShanghaiTransactionRow)
    (out : TransactionMapOutput) :
    Faithful (mapper.mapShanghaiTransaction row out).1
      (mapper.mapShanghaiTransaction row out).2.2.sequence.lastAccepted
      (mappedEvent (mapAcceptedShanghaiTransaction mapper.context row)) out
      (mapper.mapShanghaiTransaction row out).2.1 :=
  gatedMap_faithful (shanghaiTransaction_publishes mapper.context row) mapper.sequence row.tradeChannel
    row.recordId (fun _ => rfl) out

theorem mapShenzhenOrder_faithful (mapper : CsmarMapper) (row : ShenzhenOrderRow)
    (out : OrderMapOutput) :
    Faithful (mapper.mapShenzhenOrder row out).1
      (mapper.mapShenzhenOrder row out).2.2.sequence.lastAccepted
      (mappedEvent (mapAcceptedShenzhenOrder mapper.context row)) out
      (mapper.mapShenzhenOrder row out).2.1 :=
  gatedMap_faithful (shenzhenOrder_publishes mapper.context row) mapper.sequence row.setId
    row.recordId (fun _ => rfl) out

theorem mapShenzhenTransaction_faithful (mapper : CsmarMapper) (row : ShenzhenTransactionRow)
    (out : TransactionMapOutput) :
    Faithful (mapper.mapShenzhenTransaction row out).1
      (mapper.mapShenzhenTransaction row out).2.2.sequence.lastAccepted
      (mappedEvent (mapAcceptedShenzhenTransaction mapper.context row)) out
      (mapper.mapShenzhenTransaction row out).2.1 :=
  gatedMap_faithful (shenzhenTransaction_publishes mapper.context row) mapper.sequence row.setId
    row.recordId (fun _ => rfl) out

end CsmarMapper

end Mapper

end MarketDataFabric.Providers.Csmar
