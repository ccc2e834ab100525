/-
**The tag of a transaction output after the stateless Tonglian entry.**

The four branches of `map_transaction_row` write the tag; the way past them, taken for a context of no
known market, does not.

* `RowEvent` — the event a row stands for: a cancellation or a trade with the row's own members.
* `Truthful` — **what the tag must tell** the caller about the result, the members and the row.
* `truthful_iff` — the tag is truthful exactly when the market is known or there was no tag before.
-/

import MarketDataFabric.Providers.Tonglian

namespace MarketDataFabric.Providers.Tonglian

open MarketDataFabric.Core Mappers Markets

/-- An event that a row stands for. -/
def RowEvent (row : TransactionRow) : MarketEvent → Prop
  | .bookOrder order => Cancels (transactionView row) order
  | .bookTrade trade => Trades (transactionView row) trade
  | .tradingPhaseUpdate _ => False

section Tags

variable [TradingCore]

/-- **A truthful tag.** It names a member exactly if the result is ok. Then that member holds an event
of the row, the one the row maps to whatever the output held, and the other member is as it was.
Without an ok result there is no tag and no member has changed. -/
structure Truthful (context : MappingContext) (row : TransactionRow)
    (before : TransactionMapOutput) (answer : MapResult × TransactionMapOutput) : Prop where
  tagged : answer.1.ok = true ↔
    answer.2.eventKind = .bookOrder ∨ answer.2.eventKind = .bookTrade
  current : answer.1.ok = true → ∃ event, RowEvent row event ∧ answer.2.named = some event ∧
    mappedEvent (mapTransactionRow context row) = some event
  order : answer.1.ok = true → answer.2.eventKind = .bookOrder → answer.2.trade = before.trade
  trade : answer.1.ok = true → answer.2.eventKind = .bookTrade → answer.2.order = before.order
  silent : answer.1.ok = false → answer.2 = { before with eventKind := .unknown }

/-- **What a row publishes is an event of the row.** -/
theorem mappedEvent_rowEvent {context : MappingContext} {row : TransactionRow} {event : MarketEvent}
    (mapped : mappedEvent (mapTransactionRow context row) = some event) : RowEvent row event := by
  have cancelled {map : BookOrder → MapResult × BookOrder}
      (contract : Overwrites (Cancels (transactionView row)) map)
      (named : mappedEvent (fun out : TransactionMapOutput => out.storeOrder map) = some event) :
      RowEvent row event := by
    obtain ⟨order, rfl, cancels⟩ := mappedEvent_storeMember .bookOrder (fun _ _ => rfl)
      (fun _ _ => rfl) contract named
    exact cancels
  have traded {map : BookTrade → MapResult × BookTrade}
      (contract : Overwrites (Trades (transactionView row)) map)
      (named : mappedEvent (fun out : TransactionMapOutput => out.storeTrade map) = some event) :
      RowEvent row event := by
    obtain ⟨trade, rfl, trades⟩ := mappedEvent_storeMember .bookTrade (fun _ _ => rfl)
      (fun _ _ => rfl) contract named
    exact trades
  unfold mapTransactionRow at mapped
  cases market : context.market with
  | shanghai =>
      simp only [market] at mapped
      split_ifs at mapped
      · exact cancelled (Sse.mapCancel_overwrites _ _) mapped
      · exact traded (Sse.mapTrade_overwrites _ _) mapped
  | shenzhen =>
      simp only [market] at mapped
      split_ifs at mapped
      · exact cancelled (Szse.mapCancel_overwrites _ _) mapped
      · exact traded (Szse.mapTrade_overwrites _ _) mapped
  | unknown =>
      simp only [market] at mapped
      cases mapped

/-- For a known market the tag that was there is never read. -/
theorem mapTransactionRow_untagged {context : MappingContext} (known : context.market ≠ .unknown)
    (row : TransactionRow) (out : TransactionMapOutput) :
    mapTransactionRow context row out =
      mapTransactionRow context row { out with eventKind := .unknown } := by
  unfold mapTransactionRow
  cases market : context.market with
  | shanghai => rfl
  | shenzhen => rfl
  | unknown => exact absurd market known

/-- Into an output without a tag the entry is truthful. -/
theorem truthful_of_untagged (context : MappingContext) (row : TransactionRow)
    (before : TransactionMapOutput) :
    Truthful context row before
      (mapTransactionRow context row { before with eventKind := .unknown }) := by
  have wrote := (transactionRow_publishes context row).map_eq before
  have untagged : MapOutput.publish before none = { before with eventKind := .unknown } := rfl
  rw [untagged] at wrote
  generalize mapTransactionRow context row { before with eventKind := .unknown } = answer at wrote ⊢
  obtain ⟨left, ok⟩ := wrote
  cases mapped : mappedEvent (mapTransactionRow context row) with
  | none =>
      rw [mapped] at left ok
      have silent : answer.2 = { before with eventKind := .unknown } := left
      have failed : answer.1.ok ≠ true := by
        rw [ok]
        decide
      refine ⟨?_, fun shown => absurd shown failed, fun shown => absurd shown failed,
        fun shown => absurd shown failed, fun _ => silent⟩
      rw [silent, ok]
      simp
  | some event =>
      rw [mapped] at left ok
      have holds := mappedEvent_rowEvent mapped
      have shown : answer.1.ok ≠ false := by
        rw [ok, Option.isSome_some]
        decide
      cases event with
      | bookOrder order =>
          have left : answer.2 = { before with eventKind := .bookOrder, order } := left
          refine ⟨?_, fun _ => ⟨_, holds, ?_, mapped⟩, fun _ _ => ?_, fun _ tag => ?_,
            fun failed => absurd failed shown⟩
          · rw [left, ok]
            simp
          · rw [left]
            rfl
          · rw [left]
          · rw [left] at tag
            cases tag
      | bookTrade trade =>
          have left : answer.2 = { before with eventKind := .bookTrade, trade } := left
          refine ⟨?_, fun _ => ⟨_, holds, ?_, mapped⟩, fun _ tag => ?_, fun _ _ => ?_,
            fun failed => absurd failed shown⟩
          · rw [left, ok]
            simp
          · rw [left]
            rfl
          · rw [left] at tag
            cases tag
          · rw [left]
      | tradingPhaseUpdate update => exact holds.elim

/-- **When the stateless entry leaves a truthful tag**: the market is known, or the output had no tag.
Otherwise the answer is `Unsupported` and the tag of before stays. -/
theorem truthful_iff (context : MappingContext) (row : TransactionRow)
    (before : TransactionMapOutput) :
    Truthful context row before (mapTransactionRow context row before) ↔
      context.market ≠ .unknown ∨ before.eventKind = .unknown := by
  constructor
  · intro truthful
    by_cases known : context.market = .unknown
    · have answer : mapTransactionRow context row before = (⟨.unsupported, false⟩, before) := by
        unfold mapTransactionRow
        rw [known]
      rw [answer] at truthful
      have same : before = { before with eventKind := .unknown } := truthful.silent rfl
      exact Or.inr (congrArg TransactionMapOutput.eventKind same)
    · exact Or.inl known
  · rintro (known | untagged)
    · rw [mapTransactionRow_untagged known]
      exact truthful_of_untagged context row before
    · have same : before = { before with eventKind := .unknown } := by
        rw [← untagged]
      have fresh := truthful_of_untagged context row before
      rwa [← same] at fresh

end Tags

/-- A trade of a context without a market, after the trade 7 was published in the output: the answer
is `Unsupported`, and the output still names the trade 7. -/
theorem stale_tag :
    letI := TradingCore.zeroed
    let published := mapTransactionRow { market := .shenzhen }
      { transactionId := 7, price := 10, quantity := 100 } .empty
    let row : TransactionRow := { transactionId := 8, price := 11, quantity := 200 }
    let answer := mapTransactionRow {} row published.2
    published.1.ok = true ∧ answer.1 = ⟨.unsupported, false⟩ ∧ answer.1.ok = false ∧
      answer.2.eventKind = .bookTrade ∧ answer.2.trade.tradeId = 7 ∧
      ¬ Truthful {} row published.2 answer := by
  let core : TradingCore := TradingCore.zeroed
  intro published row answer
  have tag : answer.2.eventKind = .bookTrade := by decide
  refine ⟨by decide, by decide, by decide, tag, by decide, fun truthful => ?_⟩
  have silent := truthful.silent (by decide)
  rw [silent] at tag
  cases tag

end MarketDataFabric.Providers.Tonglian
