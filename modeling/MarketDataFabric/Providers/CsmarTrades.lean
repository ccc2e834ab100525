/-
**The orders a published Shanghai trade of CSMAR names.**

The mapper checks the two ids of a row together, and the exchange mapper then keeps one of them from
09:30 on.

* `published_trade` — what a publishable outcome says of its row and of the exchange mapper.
* `NamesReducedOrder` — **what an order book needs of a trade**: the ids of both orders in a call
  auction or without an initiator, else that of the passive one.
* `names_reduced_order_iff` — a published trade names the order to reduce exactly when the id the
  exchange mapper keeps is there.
-/

import MarketDataFabric.Providers.Csmar

namespace MarketDataFabric.Providers.Csmar

open MarketDataFabric.Core Mappers Markets

/-- The order a continuous trade reduces: the one the initiator met. -/
def ShanghaiTransactionRow.passiveOrderId (row : ShanghaiTransactionRow) : OrderId :=
  if row.buySellFlag = 'B' then row.sellOrderId else row.buyOrderId

/-- A trade before 09:30 local time, or one without an initiator. -/
def ShanghaiTransactionRow.InAuction (row : ShanghaiTransactionRow) : Prop :=
  exchangeTimeNs row.unixTimeMs < Sse.continuousTradingNs ∨ row.buySellFlag = 'N'

/-- The trade names both orders of its row. -/
structure NamesBoth (row : ShanghaiTransactionRow) (trade : BookTrade) : Prop where
  auction : row.InAuction
  buy : trade.buyOrderId = row.buyOrderId
  sell : trade.sellOrderId = row.sellOrderId
  resting : trade.restingOrderId = 0

/-- The trade names the passive order of its row alone. -/
structure NamesPassive (row : ShanghaiTransactionRow) (trade : BookTrade) : Prop where
  continuous : Sse.continuousTradingNs ≤ exchangeTimeNs row.unixTimeMs
  initiated : row.buySellFlag = 'B' ∨ row.buySellFlag = 'S'
  buy : trade.buyOrderId = 0
  sell : trade.sellOrderId = 0
  resting : trade.restingOrderId = row.passiveOrderId
  named : trade.restingOrderId ≠ 0

/-- **A trade names the order it must reduce**, in exactly one of the two ways. -/
structure NamesReducedOrder (row : ShanghaiTransactionRow) (trade : BookTrade) : Prop where
  named : trade.buyOrderId ≠ 0 ∨ trade.sellOrderId ≠ 0 ∨ trade.restingOrderId ≠ 0
  way : NamesBoth row trade ∨ NamesPassive row trade
  one : ¬ (NamesBoth row trade ∧ NamesPassive row trade)

/-- The exchange mapper's two ways of naming an order are those of the row. -/
theorem reducesBoth_iff (row : ShanghaiTransactionRow)
    (flag : row.buySellFlag = 'B' ∨ row.buySellFlag = 'S' ∨ row.buySellFlag = 'N') :
    Sse.ReducesBoth (shanghaiTransactionView row) ↔ row.InAuction := by
  refine or_congr_right ?_
  show decide (shanghaiAggressor row.buySellFlag = .unknown) = true ↔ _
  rw [decide_eq_true_iff]
  rcases flag with same | same | same <;> rw [same] <;> decide

theorem passiveOrderId_of_buy {row : ShanghaiTransactionRow}
    (buys : shanghaiAggressor row.buySellFlag = .buy) :
    row.buySellFlag = 'B' ∧ row.passiveOrderId = row.sellOrderId := by
  unfold shanghaiAggressor at buys
  split_ifs at buys with buy
  exact ⟨buy, if_pos buy⟩

theorem passiveOrderId_of_sell {row : ShanghaiTransactionRow}
    (sells : shanghaiAggressor row.buySellFlag = .sell) :
    row.buySellFlag = 'S' ∧ row.passiveOrderId = row.buyOrderId := by
  unfold shanghaiAggressor at sells
  split_ifs at sells with buy sell
  exact ⟨sell, if_neg buy⟩

section Published

variable [TradingCore]

/-- `BookTrade{}` names no order. -/
structure StartsUnnamed : Prop where
  buyOrderId : TradingCore.bookTrade.buyOrderId = 0
  sellOrderId : TradingCore.bookTrade.sellOrderId = 0
  restingOrderId : TradingCore.bookTrade.restingOrderId = 0

/-- **What a publishable outcome says**: the row has a flag and names an order, and the trade in the
output is one the exchange mapper wrote. -/
theorem published_trade {mapper : CsmarMapper} {row : ShanghaiTransactionRow}
    {out : TransactionMapOutput}
    (published : (mapper.mapShanghaiTransaction row out).1.publishable = true) :
    (row.buySellFlag = 'B' ∨ row.buySellFlag = 'S' ∨ row.buySellFlag = 'N') ∧
      ¬ (row.buyOrderId = 0 ∧ row.sellOrderId = 0) ∧
      Sse.Refers (shanghaiTransactionView row) (mapper.mapShanghaiTransaction row out).2.1.trade := by
  obtain ⟨observed, mapped⟩ := Bool.and_eq_true_iff.mp published
  have accepted : (mapper.sequence.observe row.tradeChannel row.recordId).1.accepted = true :=
    (congrArg ContinuityObservation.accepted (gatedMap_continuity
      (mapAcceptedShanghaiTransaction mapper.context row) mapper.sequence row.tradeChannel
      row.recordId out)).symm.trans observed
  obtain ⟨result, filled⟩ :=
    gatedMap_accepted accepted (mapAcceptedShanghaiTransaction mapper.context row) out
  have ok := (congrArg MapResult.ok result).symm.trans mapped
  rw [show (mapper.mapShanghaiTransaction row out).2.1 = _ from filled]
  unfold mapAcceptedShanghaiTransaction at ok ⊢
  split_ifs at ok ⊢ with refused
  · cases ok
  obtain ⟨-, -, -, -, -, flagged, named⟩ := by simpa only [not_or] using refused
  exact ⟨of_decide_eq_true (eq_true_of_ne_false flagged), named, Sse.mapTrade_refers ok⟩

/-- **A published trade names the order it must reduce exactly when** it names both, or the passive
order has an id. -/
theorem names_reduced_order_iff (unnamed : StartsUnnamed) (mapper : CsmarMapper)
    (row : ShanghaiTransactionRow) (out : TransactionMapOutput)
    (published : (mapper.mapShanghaiTransaction row out).1.publishable = true) :
    NamesReducedOrder row (mapper.mapShanghaiTransaction row out).2.1.trade ↔
      row.InAuction ∨ row.passiveOrderId ≠ 0 := by
  obtain ⟨flag, named, refers⟩ := published_trade published
  generalize (mapper.mapShanghaiTransaction row out).2.1.trade = trade at refers ⊢
  have apart : ¬ (NamesBoth row trade ∧ NamesPassive row trade) := by
    rintro ⟨both, passive⟩
    exact passive.named both.resting
  constructor
  · rintro ⟨-, both | passive, -⟩
    · exact Or.inl both.auction
    · exact Or.inr (passive.resting ▸ passive.named)
  · intro fine
    cases refers with
    | both reduces buy sell resting =>
        refine ⟨?_, Or.inl ⟨(reducesBoth_iff row flag).mp reduces, buy, sell,
          resting.trans unnamed.restingOrderId⟩, apart⟩
        rcases not_and_or.mp named with bought | sold
        · exact Or.inl fun zero => bought (buy.symm.trans zero)
        · exact Or.inr (Or.inl fun zero => sold (sell.symm.trans zero))
    | passive reduces resting buy sell =>
        have outside : ¬ row.InAuction := mt (reducesBoth_iff row flag).mpr reduces
        have identified : row.passiveOrderId ≠ 0 := fine.resolve_left outside
        obtain ⟨initiated, kept⟩ : (row.buySellFlag = 'B' ∨ row.buySellFlag = 'S') ∧
            trade.restingOrderId = row.passiveOrderId := by
          rcases resting with ⟨buys, kept⟩ | ⟨sells, kept⟩
          · obtain ⟨buy, same⟩ := passiveOrderId_of_buy buys
            exact ⟨Or.inl buy, kept.trans same.symm⟩
          · obtain ⟨sell, same⟩ := passiveOrderId_of_sell sells
            exact ⟨Or.inr sell, kept.trans same.symm⟩
        have some : trade.restingOrderId ≠ 0 := fun zero => identified (kept.symm.trans zero)
        refine ⟨Or.inr (Or.inr some), Or.inr ⟨?_, initiated, buy.trans unnamed.buyOrderId,
          sell.trans unnamed.sellOrderId, kept, some⟩, apart⟩
        exact UInt64.not_lt.mp fun early => outside (Or.inl early)

end Published

/-- A sale at 09:31 that met the bid 41. -/
theorem names_reduced_order_sale :
    letI := TradingCore.zeroed
    let mapper : CsmarMapper :=
      (CsmarMapper.establishBaseline { context := { market := .shanghai } } 7 99).2
    let row : ShanghaiTransactionRow :=
      { unixTimeMs := 5467250, recordId := 100, tradeChannel := 7, buyOrderId := 41, price := 10,
        quantity := 200, buySellFlag := 'S' }
    NamesReducedOrder row (mapper.mapShanghaiTransaction row .empty).2.1.trade :=
  letI := TradingCore.zeroed
  (names_reduced_order_iff ⟨rfl, rfl, rfl⟩
    (CsmarMapper.establishBaseline { context := { market := .shanghai } } 7 99).2
    { unixTimeMs := 5467250, recordId := 100, tradeChannel := 7, buyOrderId := 41, price := 10,
      quantity := 200, buySellFlag := 'S' } .empty (by decide)).mpr (Or.inr (by decide))

/-- A purchase at 09:31 that names its initiator alone is published, and names no order. -/
theorem names_no_order :
    letI := TradingCore.zeroed
    let mapper : CsmarMapper :=
      (CsmarMapper.establishBaseline { context := { market := .shanghai } } 7 99).2
    let row : ShanghaiTransactionRow :=
      { unixTimeMs := 5467250, recordId := 100, tradeChannel := 7, buyOrderId := 41, price := 10,
        quantity := 200, buySellFlag := 'B' }
    let answer := mapper.mapShanghaiTransaction row .empty
    answer.1.publishable = true ∧ answer.2.1.eventKind = .bookTrade ∧
      answer.2.1.trade.buyOrderId = 0 ∧ answer.2.1.trade.sellOrderId = 0 ∧
      answer.2.1.trade.restingOrderId = 0 ∧ ¬ NamesReducedOrder row answer.2.1.trade := by
  let core : TradingCore := TradingCore.zeroed
  intro mapper row answer
  refine ⟨by decide, by decide, by decide, by decide, by decide, fun names => ?_⟩
  rcases names.named with bought | sold | rests
  · exact bought (by decide)
  · exact sold (by decide)
  · exact rests (by decide)

end MarketDataFabric.Providers.Csmar
