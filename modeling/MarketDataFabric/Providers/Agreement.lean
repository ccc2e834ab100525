/-
**Two providers, one contract and one market semantics.**

* `outputs_faithful` — every `map` entry point of both mappers leaves a faithful output behind.
* `wallClock` — the digits `HHMMSSmmm` of the UTC+8 day, in unbounded arithmetic, and
  `hhmmssmmmToNs_eq_exchangeTimeNs`: the two time codecs agree on it.
* `SameShanghaiAdd` and its four companions — when a Tonglian row and a CSMAR row describe one
  message, and that CSMAR's own checks pass.
* `providers_agree` — such a pair maps to the same result and the same event.
-/

import MarketDataFabric.Providers.Csmar
import MarketDataFabric.Providers.Tonglian

namespace MarketDataFabric.Providers

open MarketDataFabric.Core Mappers Markets
open Tonglian (TonglianMapper OrderRow TransactionRow hhmmssmmmToNs)
open Csmar (CsmarMapper ShanghaiOrderRow ShanghaiTransactionRow ShenzhenOrderRow
  ShenzhenTransactionRow exchangeTimeNs kDayMs kShanghaiOffsetMs)

/-- **Outputs are tagged exactly and never stale**, for both overloads of the Tonglian mapper and the
four of the CSMAR mapper, in any state and over any prior output: see `Faithful`. -/
theorem outputs_faithful [TradingCore] :
    (∀ (mapper : TonglianMapper) (row : OrderRow) (out : OrderMapOutput),
      Faithful (mapper.mapOrder row out).1 (mapper.mapOrder row out).2.2.sequence.lastAccepted
        (mappedEvent (Tonglian.mapAcceptedOrderRow mapper.context row)) out
        (mapper.mapOrder row out).2.1) ∧
    (∀ (mapper : TonglianMapper) (row : TransactionRow) (out : TransactionMapOutput),
      Faithful (mapper.mapTransaction row out).1
        (mapper.mapTransaction row out).2.2.sequence.lastAccepted
        (mappedEvent (Tonglian.mapTransactionRow mapper.context row)) out
        (mapper.mapTransaction row out).2.1) ∧
    (∀ (mapper : CsmarMapper) (row : ShanghaiOrderRow) (out : OrderMapOutput),
      Faithful (mapper.mapShanghaiOrder row out).1
        (mapper.mapShanghaiOrder row out).2.2.sequence.lastAccepted
        (mappedEvent (Csmar.mapAcceptedShanghaiOrder mapper.context row)) out
        (mapper.mapShanghaiOrder row out).2.1) ∧
    (∀ (mapper : CsmarMapper) (row : ShanghaiTransactionRow) (out : TransactionMapOutput),
      Faithful (mapper.mapShanghaiTransaction row out).1
        (mapper.mapShanghaiTransaction row out).2.2.sequence.lastAccepted
        (mappedEvent (Csmar.mapAcceptedShanghaiTransaction mapper.context row)) out
        (mapper.mapShanghaiTransaction row out).2.1) ∧
    (∀ (mapper : CsmarMapper) (row : ShenzhenOrderRow) (out : OrderMapOutput),
      Faithful (mapper.mapShenzhenOrder row out).1
        (mapper.mapShenzhenOrder row out).2.2.sequence.lastAccepted
        (mappedEvent (Csmar.mapAcceptedShenzhenOrder mapper.context row)) out
        (mapper.mapShenzhenOrder row out).2.1) ∧
    ∀ (mapper : CsmarMapper) (row : ShenzhenTransactionRow) (out : TransactionMapOutput),
      Faithful (mapper.mapShenzhenTransaction row out).1
        (mapper.mapShenzhenTransaction row out).2.2.sequence.lastAccepted
        (mappedEvent (Csmar.mapAcceptedShenzhenTransaction mapper.context row)) out
        (mapper.mapShenzhenTransaction row out).2.1 :=
  ⟨TonglianMapper.mapOrder_faithful, TonglianMapper.mapTransaction_faithful,
    CsmarMapper.mapShanghaiOrder_faithful, CsmarMapper.mapShanghaiTransaction_faithful,
    CsmarMapper.mapShenzhenOrder_faithful, CsmarMapper.mapShenzhenTransaction_faithful⟩

/-! ### The two clocks -/

/-- The millisecond of the UTC+8 day. -/
def millisecondOfDay (unixTimeMs : Nat) : Nat := (unixTimeMs + 8 * 60 * 60 * 1000) % 86400000

/-- The decimal digits `HHMMSSmmm` of a millisecond of the day. -/
def clockDigits (ofDay : Nat) : Nat :=
  ofDay / 3600000 * 10000000 + ofDay / 60000 % 60 * 100000 + ofDay / 1000 % 60 * 1000 + ofDay % 1000

/-- **The UTC+8 wall clock** of an epoch millisecond, as Tonglian writes it. -/
def wallClock (unixTimeMs : Nat) : Nat := clockDigits (millisecondOfDay unixTimeMs)

/-- CSMAR's clock does not overflow: it is the millisecond of the day. -/
theorem exchangeTimeNs_toNat (unixTimeMs : UInt64) :
    (exchangeTimeNs unixTimeMs).toNat = millisecondOfDay unixTimeMs.toNat * 1000000 := by
  have day : kDayMs.toNat = 86400000 := rfl
  have offset : kShanghaiOffsetMs.toNat = 28800000 := rfl
  have million : (1000000 : UInt64).toNat = 1000000 := rfl
  unfold exchangeTimeNs millisecondOfDay
  rw [UInt64.toNat_mul, UInt64.toNat_mod, UInt64.toNat_add, UInt64.toNat_mod, day, offset, million]
  have early : unixTimeMs.toNat % 86400000 < 86400000 := Nat.mod_lt _ (by decide)
  have shifted : (unixTimeMs.toNat % 86400000 + 28800000) % 2 ^ 64 =
      unixTimeMs.toNat % 86400000 + 28800000 := Nat.mod_eq_of_lt (by omega)
  have inside : (unixTimeMs.toNat + 28800000) % 86400000 < 86400000 := Nat.mod_lt _ (by decide)
  rw [shifted, Nat.mod_add_mod, Nat.mod_eq_of_lt (by omega)]

/-- Tonglian's clock reads the digits back. -/
theorem hhmmssmmmToNs_toNat {timeHhmmssmmm : UInt32} {ofDay : Nat} (inside : ofDay < 86400000)
    (digits : timeHhmmssmmm.toNat = clockDigits ofDay) :
    (hhmmssmmmToNs timeHhmmssmmm).toNat = ofDay * 1000000 := by
  unfold clockDigits at digits
  have milliseconds : timeHhmmssmmm.toNat % 1000 = ofDay % 1000 := by omega
  have seconds : timeHhmmssmmm.toNat / 1000 % 100 = ofDay / 1000 % 60 := by omega
  have minutes : timeHhmmssmmm.toNat / 1000 / 100 % 100 = ofDay / 60000 % 60 := by omega
  have hours : timeHhmmssmmm.toNat / 1000 / 100 / 100 = ofDay / 3600000 := by omega
  simp only [hhmmssmmmToNs, UInt64.toNat_mul, UInt64.toNat_add, UInt32.toNat_toUInt64,
    UInt32.toNat_mod, UInt32.toNat_div, UInt64.reduceToNat, UInt32.reduceToNat]
  rw [milliseconds, seconds, minutes, hours]
  have whole : ((ofDay / 3600000 * 60 + ofDay / 60000 % 60) * 60 + ofDay / 1000 % 60) * 1000 +
      ofDay % 1000 = ofDay := by omega
  have fewHours : ofDay / 3600000 < 24 := by omega
  generalize ofDay / 3600000 = hours at whole fewHours ⊢
  generalize ofDay / 60000 % 60 = minutes at whole ⊢
  generalize ofDay / 1000 % 60 = seconds at whole ⊢
  generalize ofDay % 1000 = milliseconds at whole ⊢
  simp (disch := omega) only [Nat.mod_eq_of_lt, whole]

/-- A Tonglian time and a nonzero CSMAR time that name the same moment of the day. -/
structure SameTime (unixTimeMs : UInt64) (timeHhmmssmmm : UInt32) : Prop where
  known : unixTimeMs ≠ 0
  digits : timeHhmmssmmm.toNat = wallClock unixTimeMs.toNat

/-- **The two time codecs agree**, for every 64-bit epoch value. -/
theorem hhmmssmmmToNs_eq_exchangeTimeNs {unixTimeMs : UInt64} {timeHhmmssmmm : UInt32}
    (same : SameTime unixTimeMs timeHhmmssmmm) :
    hhmmssmmmToNs timeHhmmssmmm = exchangeTimeNs unixTimeMs := by
  have inside : millisecondOfDay unixTimeMs.toNat < 86400000 := Nat.mod_lt _ (by decide)
  refine UInt64.toNat_inj.mp ?_
  rw [hhmmssmmmToNs_toNat inside same.digits, exchangeTimeNs_toNat]

/-! ### Rows that describe one message -/

/-- The fields a Tonglian order row shares with a CSMAR one. -/
structure SameOrder (unixTimeMs : UInt64) (recordId : Sequence) (partition : PartitionId)
    (orderId : OrderId) (price : Price) (quantity : Quantity) (other : OrderRow) : Prop where
  time : SameTime unixTimeMs other.timeHhmmssmmm
  rowSeq : other.rowSeq = recordId
  bizIndex : other.bizIndex = recordId
  channel : other.channel = partition
  exchangeOrderId : other.exchangeOrderId = orderId
  originalOrderId : other.originalOrderId = 0
  price : other.price = price
  quantity : other.quantity = quantity

/-- A Shanghai limit add of both providers. -/
structure SameShanghaiAdd (row : ShanghaiOrderRow) (other : OrderRow) : Prop extends
    SameOrder row.unixTimeMs row.recordId row.setId row.orderId row.price row.balance other where
  kind : row.orderType = 'A' ∧ other.orderKind = 'A'
  side : (row.orderCode = "B" ∧ other.functionCode = 'B') ∨
    (row.orderCode = "S" ∧ other.functionCode = 'S')

/-- A Shenzhen order of both providers: limit, market or own best. -/
structure SameShenzhenOrder (row : ShenzhenOrderRow) (other : OrderRow) : Prop extends
    SameOrder row.unixTimeMs row.recordId row.setId row.recordId row.price row.quantity other where
  kind : (row.orderType = '2' ∧ other.orderKind = '0') ∨
    (row.orderType = '1' ∧ other.orderKind = '1') ∨ (row.orderType = 'U' ∧ other.orderKind = 'U')
  side : (row.orderCode = '1' ∧ other.functionCode = 'B') ∨
    (row.orderCode = '2' ∧ other.functionCode = 'S')

/-- The fields a Tonglian transaction row shares with a CSMAR one, and the quantity check of both
exchanges. -/
structure SameTransaction (unixTimeMs : UInt64) (recordId : Sequence) (partition : PartitionId)
    (buyOrderId sellOrderId : OrderId) (price : Price) (quantity : Quantity)
    (other : TransactionRow) : Prop where
  time : SameTime unixTimeMs other.timeHhmmssmmm
  rowSeq : other.rowSeq = recordId
  bizIndex : other.bizIndex = recordId
  transactionId : other.transactionId = recordId
  channel : other.channel = partition
  bidOrderId : other.bidOrderId = buyOrderId
  askOrderId : other.askOrderId = sellOrderId
  positive : 0 < quantity
  price : other.price = price
  quantity : other.quantity = quantity

/-- A Shanghai trade of both providers. -/
structure SameShanghaiTrade (row : ShanghaiTransactionRow) (other : TransactionRow) : Prop extends
    SameTransaction row.unixTimeMs row.recordId row.tradeChannel row.buyOrderId row.sellOrderId
      row.price row.quantity other where
  kind : other.functionCode = '0' ∨ other.functionCode = '\x00'
  flag : other.bsFlag = row.buySellFlag
  flagged : row.buySellFlag = 'B' ∨ row.buySellFlag = 'S' ∨ row.buySellFlag = 'N'
  priced : 0 < row.price
  named : ¬ (row.buyOrderId = 0 ∧ row.sellOrderId = 0)

/-- A Shenzhen trade of both providers. Tonglian names no aggressor there. -/
structure SameShenzhenTrade (row : ShenzhenTransactionRow) (other : TransactionRow) : Prop extends
    SameTransaction row.unixTimeMs row.recordId row.setId row.buyOrderId row.sellOrderId
      row.price row.quantity other where
  kind : row.tradeType = 'F' ∧ (other.functionCode = '0' ∨ other.functionCode = '\x00')
  flag : other.bsFlag ≠ 'B' ∧ other.bsFlag ≠ 'S'
  priced : 0 < row.price
  named : row.buyOrderId ≠ 0 ∧ row.sellOrderId ≠ 0

/-- A Shenzhen cancellation of both providers. -/
structure SameShenzhenCancel (row : ShenzhenTransactionRow) (other : TransactionRow) : Prop extends
    SameTransaction row.unixTimeMs row.recordId row.setId row.buyOrderId row.sellOrderId
      row.price row.quantity other where
  kind : row.tradeType = '4' ∧ other.functionCode = 'C'
  named : ¬ (row.buyOrderId = 0 ↔ row.sellOrderId = 0)

/-! ### The views agree -/

theorem orderView_shanghaiAdd {context : Tonglian.MappingContext} {row : ShanghaiOrderRow}
    {other : OrderRow} (market : context.market = .shanghai) (same : SameShanghaiAdd row other) :
    Tonglian.orderView context other =
      { Csmar.shanghaiOrderView row with tradingPhase := other.tradingPhase } := by
  have side : Tonglian.mapSide other.functionCode = Csmar.shanghaiSide row.orderCode := by
    rcases same.side with ⟨code, function⟩ | ⟨code, function⟩ <;> rw [code, function] <;> rfl
  simp only [Tonglian.orderView, Csmar.shanghaiOrderView, Tonglian.effectiveOrderId,
    Tonglian.orderKindOf, hhmmssmmmToNs_eq_exchangeTimeNs same.time, same.rowSeq, same.bizIndex,
    same.channel, same.exchangeOrderId, same.originalOrderId, same.price, same.quantity, side,
    market, same.kind.1, same.kind.2, if_true]

theorem orderView_shenzhen {context : Tonglian.MappingContext} {row : ShenzhenOrderRow}
    {other : OrderRow} (market : context.market = .shenzhen) (same : SameShenzhenOrder row other) :
    Tonglian.orderView context other =
      { Csmar.shenzhenOrderView row with tradingPhase := other.tradingPhase } := by
  have side : Tonglian.mapSide other.functionCode = Csmar.shenzhenSide row.orderCode := by
    rcases same.side with ⟨code, function⟩ | ⟨code, function⟩ <;> rw [code, function] <;> rfl
  have kind : Tonglian.orderKindOf .shenzhen other.orderKind =
      Csmar.shenzhenOrderKind row.orderType := by
    rcases same.kind with ⟨type, kind⟩ | ⟨type, kind⟩ | ⟨type, kind⟩ <;> rw [type, kind] <;> rfl
  simp only [Tonglian.orderView, Csmar.shenzhenOrderView, Tonglian.effectiveOrderId,
    hhmmssmmmToNs_eq_exchangeTimeNs same.time, same.rowSeq, same.bizIndex, same.channel,
    same.exchangeOrderId, same.originalOrderId, same.price, same.quantity, side, market, kind]

theorem transactionView_shanghaiTrade {row : ShanghaiTransactionRow} {other : TransactionRow}
    (same : SameShanghaiTrade row other) :
    Tonglian.transactionView other = Csmar.shanghaiTransactionView row := by
  have aggressor : Tonglian.mapAggressorSide other.bsFlag =
        Csmar.shanghaiAggressor row.buySellFlag ∧
      decide (other.bsFlag = 'N') = decide (Csmar.shanghaiAggressor row.buySellFlag = .unknown) := by
    rw [same.flag]
    rcases same.flagged with flag | flag | flag <;> rw [flag] <;> exact ⟨rfl, rfl⟩
  have kind : Tonglian.transactionKindOf other.functionCode = .trade := by
    rcases same.kind with function | function <;> rw [function] <;> rfl
  simp only [Tonglian.transactionView, Csmar.shanghaiTransactionView,
    hhmmssmmmToNs_eq_exchangeTimeNs same.time, same.rowSeq, same.bizIndex, same.transactionId,
    same.channel, same.bidOrderId, same.askOrderId, same.price, same.quantity, aggressor.1,
    aggressor.2, kind, ite_self]

/-- The exchange mapper of Shenzhen reads neither the neutral flag of a trade nor the trade id and
the sides of a cancellation. -/
theorem transactionView_shenzhenTrade {row : ShenzhenTransactionRow} {other : TransactionRow}
    (same : SameShenzhenTrade row other) :
    Tonglian.transactionView other =
      { Csmar.shenzhenTransactionView row with neutralTrade := other.bsFlag = 'N' } := by
  have aggressor : Tonglian.mapAggressorSide other.bsFlag = .unknown := by
    unfold Tonglian.mapAggressorSide
    split
    · exact absurd ‹_› same.flag.1
    · exact absurd ‹_› same.flag.2
    · rfl
  have kind : Tonglian.transactionKindOf other.functionCode = .trade := by
    rcases same.kind.2 with function | function <;> rw [function] <;> rfl
  have trade : row.isTrade = true := by simp [ShenzhenTransactionRow.isTrade, same.kind.1]
  simp only [Tonglian.transactionView, Csmar.shenzhenTransactionView,
    hhmmssmmmToNs_eq_exchangeTimeNs same.time, same.rowSeq, same.bizIndex, same.transactionId,
    same.channel, same.bidOrderId, same.askOrderId, same.price, same.quantity, aggressor, kind,
    trade, if_true, ite_self]

theorem transactionView_shenzhenCancel {row : ShenzhenTransactionRow} {other : TransactionRow}
    (same : SameShenzhenCancel row other) :
    Tonglian.transactionView other =
      { Csmar.shenzhenTransactionView row with
        tradeId := row.recordId
        aggressorSide := Tonglian.mapAggressorSide other.bsFlag
        neutralTrade := other.bsFlag = 'N' } := by
  have kind : Tonglian.transactionKindOf other.functionCode = .cancel := by rw [same.kind.2]; rfl
  have cancel : row.isTrade = false := by simp [ShenzhenTransactionRow.isTrade, same.kind.1]
  simp only [Tonglian.transactionView, Csmar.shenzhenTransactionView,
    hhmmssmmmToNs_eq_exchangeTimeNs same.time, same.rowSeq, same.bizIndex, same.transactionId,
    same.channel, same.bidOrderId, same.askOrderId, same.price, same.quantity, kind, cancel,
    Bool.false_eq_true, if_false, ite_self]

/-! ### The mappings agree -/

/-- Contexts of one Shanghai instrument. -/
structure OnShanghai (context : Csmar.MappingContext) (other : Tonglian.MappingContext) : Prop where
  csmar : context.market = .shanghai
  tonglian : other.market = .shanghai
  event : context.eventContext = other.eventContext

/-- Contexts of one Shenzhen instrument. -/
structure OnShenzhen (context : Csmar.MappingContext) (other : Tonglian.MappingContext) : Prop where
  csmar : context.market = .shenzhen
  tonglian : other.market = .shenzhen
  event : context.eventContext = other.eventContext

section Agreement

variable [TradingCore] {mapper : CsmarMapper} {context : Tonglian.MappingContext}

theorem shanghaiAdd_agrees {row : ShanghaiOrderRow} {other : OrderRow}
    (here : OnShanghai mapper.context context) (same : SameShanghaiAdd row other)
    (accepted : (mapper.sequence.observe row.setId row.recordId).1.accepted = true)
    (out : OrderMapOutput) :
    (mapper.mapShanghaiOrder row out).1.mapping =
        (Tonglian.mapOrderRow context other out.order).1 ∧
      (mapper.mapShanghaiOrder row out).2.1.order =
        (Tonglian.mapOrderRow context other out.order).2 := by
  obtain ⟨mapping, filled⟩ :=
    gatedMap_accepted accepted (Csmar.mapAcceptedShanghaiOrder mapper.context row) out
  have checked : ¬ (mapper.context.market ≠ .shanghai ∨ row.unixTimeMs = 0) :=
    not_or.mpr ⟨not_not.mpr here.csmar, same.time.known⟩
  have tonglian : Tonglian.mapOrderRow context other out.order =
      Sse.mapOrder mapper.context.eventContext (Csmar.shanghaiOrderView row) out.order := by
    unfold Tonglian.mapOrderRow
    rw [here.tonglian, orderView_shanghaiAdd here.tonglian same, here.event]
    rfl
  have csmar (out : OrderMapOutput) : Csmar.mapAcceptedShanghaiOrder mapper.context row out =
      out.storeOrder (Sse.mapOrder mapper.context.eventContext (Csmar.shanghaiOrderView row)) := by
    unfold Csmar.mapAcceptedShanghaiOrder
    rw [if_neg checked, same.kind.1, if_neg (by decide), if_neg (by decide)]
  rw [csmar] at mapping filled
  rw [tonglian]
  exact ⟨mapping, congrArg OrderMapOutput.order filled⟩

theorem shenzhenOrder_agrees {row : ShenzhenOrderRow} {other : OrderRow}
    (here : OnShenzhen mapper.context context) (same : SameShenzhenOrder row other)
    (accepted : (mapper.sequence.observe row.setId row.recordId).1.accepted = true)
    (out : OrderMapOutput) :
    (mapper.mapShenzhenOrder row out).1.mapping =
        (Tonglian.mapOrderRow context other out.order).1 ∧
      (mapper.mapShenzhenOrder row out).2.1.order =
        (Tonglian.mapOrderRow context other out.order).2 := by
  obtain ⟨mapping, filled⟩ :=
    gatedMap_accepted accepted (Csmar.mapAcceptedShenzhenOrder mapper.context row) out
  have checked : ¬ (mapper.context.market ≠ .shenzhen ∨ row.unixTimeMs = 0) :=
    not_or.mpr ⟨not_not.mpr here.csmar, same.time.known⟩
  have tonglian : Tonglian.mapOrderRow context other out.order =
      Szse.mapOrder mapper.context.eventContext (Csmar.shenzhenOrderView row) out.order := by
    unfold Tonglian.mapOrderRow
    rw [here.tonglian, orderView_shenzhen here.tonglian same, here.event]
    rfl
  have csmar (out : OrderMapOutput) : Csmar.mapAcceptedShenzhenOrder mapper.context row out =
      out.storeOrder (Szse.mapOrder mapper.context.eventContext (Csmar.shenzhenOrderView row)) :=
    if_neg checked
  rw [csmar] at mapping filled
  rw [tonglian]
  exact ⟨mapping, congrArg OrderMapOutput.order filled⟩

theorem shanghaiTrade_agrees {row : ShanghaiTransactionRow} {other : TransactionRow}
    (here : OnShanghai mapper.context context) (same : SameShanghaiTrade row other)
    (accepted : (mapper.sequence.observe row.tradeChannel row.recordId).1.accepted = true)
    (out : TransactionMapOutput) :
    (mapper.mapShanghaiTransaction row out).1.mapping =
        (Tonglian.mapTransactionRow context other out).1 ∧
      (mapper.mapShanghaiTransaction row out).2.1 =
        (Tonglian.mapTransactionRow context other out).2 := by
  obtain ⟨mapping, filled⟩ :=
    gatedMap_accepted accepted (Csmar.mapAcceptedShanghaiTransaction mapper.context row) out
  have checked : ¬ (mapper.context.market ≠ .shanghai ∨ row.unixTimeMs = 0 ∨ row.recordId = 0 ∨
      row.quantity ≤ 0 ∨ row.price ≤ 0 ∨ row.validFlag = false ∨
      (row.buyOrderId = 0 ∧ row.sellOrderId = 0)) := by
    have flagged : row.validFlag = true := decide_eq_true same.flagged
    simp only [not_or, not_not, Int64.not_le, Bool.not_eq_false]
    exact ⟨here.csmar, same.time.known, (SequenceGate.observe_accepted accepted).numbered,
      same.positive, same.priced, flagged, same.named⟩
  have tonglian : Tonglian.mapTransactionRow context other out = out.storeTrade
      (Sse.mapTrade mapper.context.eventContext (Csmar.shanghaiTransactionView row)) := by
    unfold Tonglian.mapTransactionRow
    rw [here.tonglian, transactionView_shanghaiTrade same, here.event]
    rfl
  have csmar (out : TransactionMapOutput) :
      Csmar.mapAcceptedShanghaiTransaction mapper.context row out = out.storeTrade
        (Sse.mapTrade mapper.context.eventContext (Csmar.shanghaiTransactionView row)) :=
    if_neg checked
  rw [csmar] at mapping filled
  rw [tonglian]
  exact ⟨mapping, filled⟩

omit [TradingCore] in
/-- Both kinds of Shenzhen transactions pass the first four checks of CSMAR alike. -/
theorem shenzhen_checked {row : ShenzhenTransactionRow} {other : TransactionRow}
    (here : OnShenzhen mapper.context context)
    (same : SameTransaction row.unixTimeMs row.recordId row.setId row.buyOrderId row.sellOrderId
      row.price row.quantity other)
    (accepted : (mapper.sequence.observe row.setId row.recordId).1.accepted = true) :
    ¬ (mapper.context.market ≠ .shenzhen ∨ row.unixTimeMs = 0 ∨ row.recordId = 0 ∨
      row.quantity ≤ 0) := by
  simp only [not_or, not_not, Int64.not_le]
  exact ⟨here.csmar, same.time.known, (SequenceGate.observe_accepted accepted).numbered,
    same.positive⟩

theorem shenzhenTrade_agrees {row : ShenzhenTransactionRow} {other : TransactionRow}
    (here : OnShenzhen mapper.context context) (same : SameShenzhenTrade row other)
    (accepted : (mapper.sequence.observe row.setId row.recordId).1.accepted = true)
    (out : TransactionMapOutput) :
    (mapper.mapShenzhenTransaction row out).1.mapping =
        (Tonglian.mapTransactionRow context other out).1 ∧
      (mapper.mapShenzhenTransaction row out).2.1 =
        (Tonglian.mapTransactionRow context other out).2 := by
  obtain ⟨mapping, filled⟩ :=
    gatedMap_accepted accepted (Csmar.mapAcceptedShenzhenTransaction mapper.context row) out
  have trade : row.isTrade = true := decide_eq_true same.kind.1
  have cancel : row.isCancel = false := by rw [ShenzhenTransactionRow.isCancel, same.kind.1]; rfl
  have wellFormed : ¬ ((row.isTrade = false ∧ row.isCancel = false) ∨
      (row.isTrade ∧ (row.price ≤ 0 ∨ row.buyOrderId = 0 ∨ row.sellOrderId = 0)) ∨
      (row.isCancel ∧ row.exactlyOneOrder = false)) := by
    have priced : ¬ row.price ≤ 0 := Int64.not_le.mpr same.priced
    simp [trade, cancel, priced, same.named.1, same.named.2]
  have tonglian : Tonglian.mapTransactionRow context other out = out.storeTrade
      (Szse.mapTrade mapper.context.eventContext (Csmar.shenzhenTransactionView row)) := by
    have kind : (Csmar.shenzhenTransactionView row).kind ≠ .cancel := by
      simp [Csmar.shenzhenTransactionView, trade]
    unfold Tonglian.mapTransactionRow
    rw [here.tonglian, transactionView_shenzhenTrade same, here.event]
    exact if_neg kind
  have csmar (out : TransactionMapOutput) :
      Csmar.mapAcceptedShenzhenTransaction mapper.context row out = out.storeTrade
        (Szse.mapTrade mapper.context.eventContext (Csmar.shenzhenTransactionView row)) := by
    unfold Csmar.mapAcceptedShenzhenTransaction
    rw [if_neg (shenzhen_checked here same.toSameTransaction accepted), if_neg wellFormed,
      if_pos trade]
  rw [csmar] at mapping filled
  rw [tonglian]
  exact ⟨mapping, filled⟩

theorem shenzhenCancel_agrees {row : ShenzhenTransactionRow} {other : TransactionRow}
    (here : OnShenzhen mapper.context context) (same : SameShenzhenCancel row other)
    (accepted : (mapper.sequence.observe row.setId row.recordId).1.accepted = true)
    (out : TransactionMapOutput) :
    (mapper.mapShenzhenTransaction row out).1.mapping =
        (Tonglian.mapTransactionRow context other out).1 ∧
      (mapper.mapShenzhenTransaction row out).2.1 =
        (Tonglian.mapTransactionRow context other out).2 := by
  obtain ⟨mapping, filled⟩ :=
    gatedMap_accepted accepted (Csmar.mapAcceptedShenzhenTransaction mapper.context row) out
  have trade : row.isTrade = false := by rw [ShenzhenTransactionRow.isTrade, same.kind.1]; rfl
  have cancel : row.isCancel = true := decide_eq_true same.kind.1
  have one : row.exactlyOneOrder = true := by
    have named := same.named
    by_cases buy : row.buyOrderId = 0 <;> by_cases sell : row.sellOrderId = 0 <;>
      simp_all [ShenzhenTransactionRow.exactlyOneOrder]
  have wellFormed : ¬ ((row.isTrade = false ∧ row.isCancel = false) ∨
      (row.isTrade ∧ (row.price ≤ 0 ∨ row.buyOrderId = 0 ∨ row.sellOrderId = 0)) ∨
      (row.isCancel ∧ row.exactlyOneOrder = false)) := by
    simp [trade, cancel, one]
  have tonglian : Tonglian.mapTransactionRow context other out = out.storeOrder
      (Szse.mapCancel mapper.context.eventContext (Csmar.shenzhenTransactionView row)) := by
    have kind : (Csmar.shenzhenTransactionView row).kind = .cancel := by
      simp [Csmar.shenzhenTransactionView, trade]
    unfold Tonglian.mapTransactionRow
    rw [here.tonglian, transactionView_shenzhenCancel same, here.event]
    exact if_pos kind
  have csmar (out : TransactionMapOutput) :
      Csmar.mapAcceptedShenzhenTransaction mapper.context row out = out.storeOrder
        (Szse.mapCancel mapper.context.eventContext (Csmar.shenzhenTransactionView row)) := by
    unfold Csmar.mapAcceptedShenzhenTransaction
    rw [if_neg (shenzhen_checked here same.toSameTransaction accepted), if_neg wellFormed,
      if_neg (by rw [trade]; decide)]
  rw [csmar] at mapping filled
  rw [tonglian]
  exact ⟨mapping, filled⟩

/-- **Two providers, one market semantics.** Contexts that name the same source, venue, feed,
instrument and day, rows that describe one message, and a CSMAR gate that accepts it: both paths
return the same result and the same event, over any prior output. -/
theorem providers_agree (mapper : CsmarMapper) (context : Tonglian.MappingContext) :
    (∀ (row : ShanghaiOrderRow) (other : OrderRow) (out : OrderMapOutput),
      OnShanghai mapper.context context → SameShanghaiAdd row other →
      (mapper.sequence.observe row.setId row.recordId).1.accepted = true →
        (mapper.mapShanghaiOrder row out).1.mapping =
            (Tonglian.mapOrderRow context other out.order).1 ∧
          (mapper.mapShanghaiOrder row out).2.1.order =
            (Tonglian.mapOrderRow context other out.order).2) ∧
    (∀ (row : ShanghaiTransactionRow) (other : TransactionRow) (out : TransactionMapOutput),
      OnShanghai mapper.context context → SameShanghaiTrade row other →
      (mapper.sequence.observe row.tradeChannel row.recordId).1.accepted = true →
        (mapper.mapShanghaiTransaction row out).1.mapping =
            (Tonglian.mapTransactionRow context other out).1 ∧
          (mapper.mapShanghaiTransaction row out).2.1 =
            (Tonglian.mapTransactionRow context other out).2) ∧
    (∀ (row : ShenzhenOrderRow) (other : OrderRow) (out : OrderMapOutput),
      OnShenzhen mapper.context context → SameShenzhenOrder row other →
      (mapper.sequence.observe row.setId row.recordId).1.accepted = true →
        (mapper.mapShenzhenOrder row out).1.mapping =
            (Tonglian.mapOrderRow context other out.order).1 ∧
          (mapper.mapShenzhenOrder row out).2.1.order =
            (Tonglian.mapOrderRow context other out.order).2) ∧
    ∀ (row : ShenzhenTransactionRow) (other : TransactionRow) (out : TransactionMapOutput),
      OnShenzhen mapper.context context →
      SameShenzhenTrade row other ∨ SameShenzhenCancel row other →
      (mapper.sequence.observe row.setId row.recordId).1.accepted = true →
        (mapper.mapShenzhenTransaction row out).1.mapping =
            (Tonglian.mapTransactionRow context other out).1 ∧
          (mapper.mapShenzhenTransaction row out).2.1 =
            (Tonglian.mapTransactionRow context other out).2 := by
  refine ⟨fun row other out here same accepted => shanghaiAdd_agrees here same accepted out,
    fun row other out here same accepted => shanghaiTrade_agrees here same accepted out,
    fun row other out here same accepted => shenzhenOrder_agrees here same accepted out,
    fun row other out here same accepted => ?_⟩
  rcases same with trade | cancel
  · exact shenzhenTrade_agrees here trade accepted out
  · exact shenzhenCancel_agrees here cancel accepted out

end Agreement

/-- One message of each shape, at 09:31:07.250 in Shanghai and across midnight in Shenzhen. -/
theorem providers_agree_on_messages :
    letI := TradingCore.zeroed
    let shanghai : CsmarMapper :=
      (CsmarMapper.establishBaseline
        { context := { sourceId := 1001, market := .shanghai } } 7 99).2
    let shenzhen : CsmarMapper :=
      (CsmarMapper.establishBaseline
        { context := { sourceId := 1001, market := .shenzhen } } 2011 99).2
    let add : ShanghaiOrderRow :=
      { unixTimeMs := 5467250, recordId := 100, setId := 7, orderId := 41, price := 10,
        balance := 300, orderType := 'A', orderCode := "B" }
    let sold : ShanghaiTransactionRow :=
      { unixTimeMs := 5467250, recordId := 100, tradeChannel := 7, buyOrderId := 41,
        sellOrderId := 40, price := 10, quantity := 200, buySellFlag := 'S' }
    let ownBest : ShenzhenOrderRow :=
      { unixTimeMs := 57600001, recordId := 100, setId := 2011, quantity := 300, orderType := 'U',
        orderCode := '2' }
    let crossed : ShenzhenTransactionRow :=
      { unixTimeMs := 57600001, recordId := 100, setId := 2011, buyOrderId := 98,
        sellOrderId := 97, price := 10, quantity := 200, tradeType := 'F' }
    let withdrawn : ShenzhenTransactionRow :=
      { crossed with buyOrderId := 0, price := 0, tradeType := '4' }
    ((shanghai.mapShanghaiOrder add .empty).2.1.order =
        (Tonglian.mapOrderRow { market := .shanghai }
          { timeHhmmssmmm := 93107250, rowSeq := 100, exchangeOrderId := 41, orderKind := 'A',
            functionCode := 'B', price := 10, quantity := 300, channel := 7, bizIndex := 100 }
          TradingCore.bookOrder).2) ∧
      ((shanghai.mapShanghaiTransaction sold .empty).2.1 =
        (Tonglian.mapTransactionRow { market := .shanghai }
          { timeHhmmssmmm := 93107250, rowSeq := 100, transactionId := 100, bsFlag := 'S',
            price := 10, quantity := 200, askOrderId := 40, bidOrderId := 41, channel := 7,
            bizIndex := 100 } .empty).2) ∧
      ((shenzhen.mapShenzhenOrder ownBest .empty).2.1.order =
        (Tonglian.mapOrderRow { market := .shenzhen }
          { timeHhmmssmmm := 1, rowSeq := 100, exchangeOrderId := 100, orderKind := 'U',
            functionCode := 'S', quantity := 300, channel := 2011, bizIndex := 100 }
          TradingCore.bookOrder).2) ∧
      ((shenzhen.mapShenzhenTransaction crossed .empty).2.1 =
        (Tonglian.mapTransactionRow { market := .shenzhen }
          { timeHhmmssmmm := 1, rowSeq := 100, transactionId := 100, functionCode := '0',
            bsFlag := 'N', price := 10, quantity := 200, askOrderId := 97, bidOrderId := 98,
            channel := 2011, bizIndex := 100 } .empty).2) ∧
      (shenzhen.mapShenzhenTransaction withdrawn .empty).2.1 =
        (Tonglian.mapTransactionRow { market := .shenzhen }
          { timeHhmmssmmm := 1, rowSeq := 100, transactionId := 100, functionCode := 'C',
            quantity := 200, askOrderId := 97, channel := 2011, bizIndex := 100 } .empty).2 := by
  let core : TradingCore := TradingCore.zeroed
  intro shanghai shenzhen add sold ownBest crossed withdrawn
  obtain ⟨adds, trades, -, -⟩ := providers_agree shanghai { market := .shanghai }
  obtain ⟨-, -, orders, transactions⟩ := providers_agree shenzhen { market := .shenzhen }
  refine ⟨(adds add _ .empty ⟨rfl, rfl, rfl⟩ ?_ rfl).2,
    (trades sold _ .empty ⟨rfl, rfl, rfl⟩ ?_ rfl).2,
    (orders ownBest _ .empty ⟨rfl, rfl, rfl⟩ ?_ rfl).2,
    (transactions crossed _ .empty ⟨rfl, rfl, rfl⟩ (Or.inl ?_) rfl).2,
    (transactions withdrawn _ .empty ⟨rfl, rfl, rfl⟩ (Or.inr ?_) rfl).2⟩
  · exact ⟨⟨⟨by decide, by decide⟩, rfl, rfl, rfl, rfl, rfl, rfl, rfl⟩, ⟨rfl, rfl⟩, Or.inl ⟨rfl, rfl⟩⟩
  · exact ⟨⟨⟨by decide, by decide⟩, rfl, rfl, rfl, rfl, rfl, rfl, by decide, rfl, rfl⟩, Or.inr rfl,
      rfl, Or.inr (Or.inl rfl), by decide, by decide⟩
  · exact ⟨⟨⟨by decide, by decide⟩, rfl, rfl, rfl, rfl, rfl, rfl, rfl⟩, Or.inr (Or.inr ⟨rfl, rfl⟩),
      Or.inr ⟨rfl, rfl⟩⟩
  · exact ⟨⟨⟨by decide, by decide⟩, rfl, rfl, rfl, rfl, rfl, rfl, by decide, rfl, rfl⟩,
      ⟨rfl, Or.inl rfl⟩, by decide, by decide, by decide⟩
  · exact ⟨⟨⟨by decide, by decide⟩, rfl, rfl, rfl, rfl, rfl, rfl, by decide, rfl, rfl⟩, ⟨rfl, rfl⟩,
      by decide⟩

end MarketDataFabric.Providers
