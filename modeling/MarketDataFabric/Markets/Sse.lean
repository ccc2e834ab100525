/-
**The Shanghai exchange mapper**, `markets/cn/sse/mapper.hpp`: one definition for each overload of
`sse::map`, and for each that it honours the contract of a reused buffer (`Overwrites`).
-/

import MarketDataFabric.Markets.Cn

namespace MarketDataFabric.Markets.Sse

open MarketDataFabric.Core Mappers

variable [TradingCore]

/-- `sse::map` of an order view into a `BookOrder`. -/
def mapOrder (context : EventContext) (view : OrderView) (out : BookOrder) :
    MapResult × BookOrder :=
  if view.kind = .tradingPhase then
    (⟨.ignored, false⟩, out)
  else if view.orderId = 0 ∨ view.side = .unknown ∨ view.quantity < 0 ∨ view.price < 0 then
    (⟨.invalid, false⟩, out)
  else
    let event : BookOrder := { TradingCore.bookOrder with
      header := fillHeader context .bookOrder view.exchangeTsNs view.eventSeq view.exchangeSeq
      orderId := view.orderId
      originalOrderId := view.originalOrderId
      partitionId := view.partitionId
      orderSeq := view.exchangeSeq
      priorityId := view.orderId
      price := view.price
      quantity := view.quantity
      remainingQty := view.quantity
      side := view.side
      orderType := .limit
      priceInstruction := .explicitLimit
      timeInForce := .day }
    match view.kind with
    | .addLimit => (⟨.mappedDiagnostic, false⟩, { event with action := .add })
    | .delete => (⟨.mappedDiagnostic, false⟩, { event with action := .delete })
    | _ => (⟨.unsupported, false⟩, out)

/-- `sse::map` of an order view into a `TradingPhaseUpdate`. -/
def mapPhase (context : EventContext) (view : OrderView) (out : TradingPhaseUpdate) :
    MapResult × TradingPhaseUpdate :=
  if view.kind ≠ .tradingPhase ∨ view.tradingPhase = .unknown then
    (⟨.invalid, false⟩, out)
  else
    (⟨.mapped, true⟩, { TradingCore.tradingPhaseUpdate with
      header := fillHeader context .tradingPhaseUpdate view.exchangeTsNs view.eventSeq
        view.exchangeSeq
      tradingPhase := view.tradingPhase })

/-- `sse::map` of a transaction view into a `BookOrder`: a cancellation. -/
def mapCancel (context : EventContext) (view : TransactionView) (out : BookOrder) :
    MapResult × BookOrder :=
  cancelOrder ⟨.mappedDiagnostic, false⟩ context view out

/-- 09:30 local time, in nanoseconds of the day. -/
def continuousTradingNs : TimestampNs := 34200000000000

/-- `sse::map` of a transaction view into a `BookTrade`. -/
def mapTrade (context : EventContext) (view : TransactionView) (out : BookTrade) :
    MapResult × BookTrade :=
  if view.kind ≠ .trade ∨ view.tradeId = 0 ∨ view.quantity ≤ 0 ∨ view.price < 0 then
    (⟨.invalid, false⟩, out)
  else
    let event : BookTrade := { TradingCore.bookTrade with
      header := fillHeader context .bookTrade view.exchangeTsNs view.eventSeq view.exchangeSeq
      tradeId := view.tradeId
      tradeSeq := view.tradeId
      partitionId := view.partitionId
      price := view.price
      quantity := view.quantity
      aggressorSide := view.aggressorSide }
    if view.exchangeTsNs < continuousTradingNs ∨ view.neutralTrade then
      let event := { event with sellOrderId := view.askOrderId, buyOrderId := view.bidOrderId }
      (⟨.mappedDiagnostic, false⟩,
        if view.neutralTrade then { event with aggressorSide := .unknown } else event)
    else if view.aggressorSide = .buy then
      (⟨.mappedDiagnostic, false⟩, { event with restingOrderId := view.askOrderId })
    else if view.aggressorSide = .sell then
      (⟨.mappedDiagnostic, false⟩, { event with restingOrderId := view.bidOrderId })
    else
      (⟨.unsupported, false⟩, out)

/-! ### The contract -/

theorem mapOrder_overwrites (context : EventContext) (view : OrderView) :
    Overwrites (fun event => Headed .bookOrder view.exchangeSeq event.header)
      (mapOrder context view) := by
  unfold mapOrder
  by_cases phase : view.kind = .tradingPhase
  · exact .rejected _ rfl fun out => if_pos phase
  by_cases invalid : view.orderId = 0 ∨ view.side = .unknown ∨ view.quantity < 0 ∨ view.price < 0
  · exact .rejected ⟨.invalid, false⟩ rfl fun out => by rw [if_neg phase, if_pos invalid]
  simp only [if_neg phase, if_neg invalid]
  cases view.kind with
  | addLimit => exact .written _ _ rfl (headed_fillHeader ..) fun _ => rfl
  | delete => exact .written _ _ rfl (headed_fillHeader ..) fun _ => rfl
  | unknown | addMarket | addOwnBest | tradingPhase => exact .rejected _ rfl fun _ => rfl

theorem mapPhase_overwrites (context : EventContext) (view : OrderView) :
    Overwrites (fun event => Headed .tradingPhaseUpdate view.exchangeSeq event.header)
      (mapPhase context view) := by
  unfold mapPhase
  by_cases invalid : view.kind ≠ .tradingPhase ∨ view.tradingPhase = .unknown
  · exact .rejected _ rfl fun _ => if_pos invalid
  · exact .written _ _ rfl (headed_fillHeader ..) fun _ => if_neg invalid

theorem mapCancel_overwrites (context : EventContext) (view : TransactionView) :
    Overwrites (Cancels view) (mapCancel context view) :=
  cancelOrder_overwrites rfl context view

theorem mapTrade_overwrites (context : EventContext) (view : TransactionView) :
    Overwrites (Trades view) (mapTrade context view) := by
  unfold mapTrade
  by_cases invalid : view.kind ≠ .trade ∨ view.tradeId = 0 ∨ view.quantity ≤ 0 ∨ view.price < 0
  · exact .rejected _ rfl fun _ => if_pos invalid
  have trade : view.kind = .trade := not_not.mp fun other => invalid (Or.inl other)
  simp only [if_neg invalid]
  by_cases early : view.exchangeTsNs < continuousTradingNs ∨ view.neutralTrade = true
  · refine .written _ _ rfl ?_ fun _ => if_pos early
    cases view.neutralTrade <;> exact ⟨trade, headed_fillHeader .., rfl, rfl, rfl, rfl⟩
  simp only [if_neg early]
  by_cases buy : view.aggressorSide = .buy
  · exact .written _ _ rfl ⟨trade, headed_fillHeader .., rfl, rfl, rfl, rfl⟩ fun _ => if_pos buy
  by_cases sell : view.aggressorSide = .sell
  · exact .written ⟨.mappedDiagnostic, false⟩ _ rfl
      ⟨trade, headed_fillHeader .., rfl, rfl, rfl, rfl⟩ fun _ => by rw [if_neg buy, if_pos sell]
  · exact .rejected ⟨.unsupported, false⟩ rfl fun _ => by rw [if_neg buy, if_neg sell]

/-! ### The orders a trade refers to -/

/-- A trade that reduces both of its orders: of a call auction, or one nobody initiated. -/
def ReducesBoth (view : TransactionView) : Prop :=
  view.exchangeTsNs < continuousTradingNs ∨ view.neutralTrade = true

/-- **The ids a mapped trade carries**: those of both orders, or that of the passive one alone. What
is not written is as `trading-core` initialises it. -/
inductive Refers (view : TransactionView) (trade : BookTrade) : Prop
  | both : ReducesBoth view → trade.buyOrderId = view.bidOrderId →
      trade.sellOrderId = view.askOrderId →
      trade.restingOrderId = TradingCore.bookTrade.restingOrderId → Refers view trade
  | passive : ¬ ReducesBoth view →
      (view.aggressorSide = .buy ∧ trade.restingOrderId = view.askOrderId) ∨
        (view.aggressorSide = .sell ∧ trade.restingOrderId = view.bidOrderId) →
      trade.buyOrderId = TradingCore.bookTrade.buyOrderId →
      trade.sellOrderId = TradingCore.bookTrade.sellOrderId → Refers view trade

theorem mapTrade_refers {context : EventContext} {view : TransactionView} {out : BookTrade}
    (ok : (mapTrade context view out).1.ok = true) : Refers view (mapTrade context view out).2 := by
  unfold mapTrade at ok ⊢
  by_cases invalid : view.kind ≠ .trade ∨ view.tradeId = 0 ∨ view.quantity ≤ 0 ∨ view.price < 0
  · rw [if_pos invalid] at ok
    cases ok
  simp only [if_neg invalid] at ok ⊢
  by_cases early : view.exchangeTsNs < continuousTradingNs ∨ view.neutralTrade = true
  · simp only [if_pos early]
    cases view.neutralTrade <;> exact .both early rfl rfl rfl
  simp only [if_neg early] at ok ⊢
  by_cases buy : view.aggressorSide = .buy
  · simp only [if_pos buy]
    exact .passive early (Or.inl ⟨buy, rfl⟩) rfl rfl
  simp only [if_neg buy] at ok ⊢
  by_cases sell : view.aggressorSide = .sell
  · simp only [if_pos sell]
    exact .passive early (Or.inr ⟨sell, rfl⟩) rfl rfl
  · rw [if_neg sell] at ok
    cases ok

end MarketDataFabric.Markets.Sse
