/-
**The Shenzhen exchange mapper**, `markets/cn/szse/mapper.hpp`: one definition for each overload of
`szse::map`, and for each that it honours the contract of a reused buffer (`Overwrites`). Unlike
Shanghai, every mapping is lossless and a trade keeps both order ids.
-/

import MarketDataFabric.Markets.Cn

namespace MarketDataFabric.Markets.Szse

open MarketDataFabric.Core Mappers

variable [TradingCore]

/-- `szse::map` of an order view into a `BookOrder`. -/
def mapOrder (context : EventContext) (view : OrderView) (out : BookOrder) :
    MapResult × BookOrder :=
  if view.orderId = 0 ∨ view.side = .unknown ∨ view.quantity < 0 ∨ view.price < 0 then
    (⟨.invalid, false⟩, out)
  else
    let event : BookOrder := { TradingCore.bookOrder with
      header := fillHeader context .bookOrder view.exchangeTsNs view.eventSeq view.exchangeSeq
      orderId := view.orderId
      originalOrderId := view.originalOrderId
      partitionId := view.partitionId
      orderSeq := view.exchangeSeq
      priorityId := view.orderId
      price := view.price
      quantity := view.quantity
      remainingQty := view.quantity
      side := view.side
      action := .add
      timeInForce := .day }
    match view.kind with
    | .addLimit =>
        (⟨.mapped, true⟩, { event with orderType := .limit, priceInstruction := .explicitLimit })
    | .addMarket =>
        (⟨.mapped, true⟩, { event with orderType := .market, priceInstruction := .unpricedMarket })
    | .addOwnBest =>
        (⟨.mapped, true⟩, { event with
          orderType := .market, priceInstruction := .ownBest, remainderPolicy := .rest })
    | _ => (⟨.unsupported, false⟩, out)

/-- `szse::map` of a transaction view into a `BookOrder`: a cancellation. -/
def mapCancel (context : EventContext) (view : TransactionView) (out : BookOrder) :
    MapResult × BookOrder :=
  cancelOrder ⟨.mapped, true⟩ context view out

/-- `szse::map` of a transaction view into a `BookTrade`. A missing aggressor is the side whose
order came later. -/
def mapTrade (context : EventContext) (view : TransactionView) (out : BookTrade) :
    MapResult × BookTrade :=
  if view.kind ≠ .trade ∨ view.tradeId = 0 ∨ view.quantity ≤ 0 ∨ view.price < 0 then
    (⟨.invalid, false⟩, out)
  else
    let event : BookTrade := { TradingCore.bookTrade with
      header := fillHeader context .bookTrade view.exchangeTsNs view.eventSeq view.exchangeSeq
      tradeId := view.tradeId
      tradeSeq := view.tradeId
      partitionId := view.partitionId
      sellOrderId := view.askOrderId
      buyOrderId := view.bidOrderId
      price := view.price
      quantity := view.quantity
      aggressorSide := view.aggressorSide }
    (⟨.mapped, true⟩,
      if event.aggressorSide = .unknown ∧ view.bidOrderId ≠ 0 ∧ view.askOrderId ≠ 0 then
        { event with aggressorSide := if view.bidOrderId > view.askOrderId then .buy else .sell }
      else event)

/-! ### The contract -/

theorem mapOrder_overwrites (context : EventContext) (view : OrderView) :
    Overwrites (fun event => Headed .bookOrder view.exchangeSeq event.header)
      (mapOrder context view) := by
  unfold mapOrder
  by_cases invalid : view.orderId = 0 ∨ view.side = .unknown ∨ view.quantity < 0 ∨ view.price < 0
  · exact .rejected _ rfl fun _ => if_pos invalid
  simp only [if_neg invalid]
  cases view.kind with
  | addLimit | addMarket | addOwnBest =>
      exact .written _ _ rfl (headed_fillHeader ..) fun _ => rfl
  | unknown | delete | tradingPhase => exact .rejected _ rfl fun _ => rfl

theorem mapCancel_overwrites (context : EventContext) (view : TransactionView) :
    Overwrites (Cancels view) (mapCancel context view) :=
  cancelOrder_overwrites rfl context view

theorem mapTrade_overwrites (context : EventContext) (view : TransactionView) :
    Overwrites (Trades view) (mapTrade context view) := by
  unfold mapTrade
  by_cases invalid : view.kind ≠ .trade ∨ view.tradeId = 0 ∨ view.quantity ≤ 0 ∨ view.price < 0
  · exact .rejected _ rfl fun _ => if_pos invalid
  have trade : view.kind = .trade := not_not.mp fun other => invalid (Or.inl other)
  refine .written _ _ rfl ?_ fun _ => if_neg invalid
  dsimp only
  split_ifs <;> exact ⟨trade, headed_fillHeader .., rfl, rfl, rfl, rfl⟩

end MarketDataFabric.Markets.Szse
