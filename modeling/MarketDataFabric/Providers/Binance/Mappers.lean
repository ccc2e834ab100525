/-
**The Binance mappers**, `providers/crypto/binance/trade_mapper.hpp`, `book_ticker_mapper.hpp` and
`mapping_context.hpp`, with `mappers/event_header.hpp`.

* `combined_streams_decode` — **a message of a combined stream decodes like the message itself**: both
  mappers search for keys that are not the wrapper's.
-/

import MarketDataFabric.Codecs.FixedPoint
import MarketDataFabric.Core.Events
import MarketDataFabric.Feed.Message
import MarketDataFabric.Providers.Binance.JsonValueReader
import Mathlib.Data.Option.Basic

namespace MarketDataFabric.Providers.Binance

open MarketDataFabric.Core Codecs Feed

def kBinanceSourceId : UInt32 := 110001

/-- `VenueId::Binance`. -/
def binanceVenueId : UInt32 := 1

structure BinanceMappingContext where
  sourceId : UInt32 := kBinanceSourceId
  venueId : UInt32 := binanceVenueId
  instrumentId : UInt32 := 0
  priceScale : Int := 8
  quantityScale : Int := 8
  providerSymbol : List Char := []
deriving Repr, DecidableEq

def msToNs (ms : UInt64) : Option UInt64 :=
  if ms > 18446744073709551615 / 1000000 then none else some (ms * 1000000)

/-- The test of the symbol. -/
def symbolMatches (context : BinanceMappingContext) (symbol : List Char) : Bool :=
  context.providerSymbol = [] || asciiEqualIgnoreCase symbol context.providerSymbol

/-- The multiplication is refused when it would wrap, and only then. -/
theorem msToNs_eq_some_iff {ms ns : UInt64} :
    msToNs ms = some ns ↔ ns.toNat = ms.toNat * 1000000 := by
  have guard : ms > 18446744073709551615 / 1000000 ↔ 2 ^ 64 ≤ ms.toNat * 1000000 := by
    rw [gt_iff_lt, UInt64.lt_iff_toNat_lt]
    have most : (18446744073709551615 / 1000000 : UInt64).toNat = 18446744073709 := by decide
    rw [most]
    omega
  have bound := ns.toNat_lt
  unfold msToNs
  by_cases excess : ms > 18446744073709551615 / 1000000
  · rw [if_pos excess]
    have beyond := guard.mp excess
    constructor
    · nofun
    · intro same
      omega
  · rw [if_neg excess, Option.some.injEq, ← UInt64.toNat_inj, UInt64.toNat_mul]
    have million : (1000000 : UInt64).toNat = 1000000 := rfl
    have fits : ms.toNat * 1000000 < 2 ^ 64 := Nat.lt_of_not_le fun beyond => excess (guard.mpr beyond)
    rw [million, Nat.mod_eq_of_lt fits]
    exact eq_comm

theorem symbolMatches_iff {context : BinanceMappingContext} {symbol : List Char} :
    symbolMatches context symbol = true ↔ context.providerSymbol = [] ∨
      symbol.map Char.toLower = context.providerSymbol.map Char.toLower := by
  rw [symbolMatches, Bool.or_eq_true, decide_eq_true_eq, asciiEqualIgnoreCase_iff]

section Mappers

variable [QuoteCore]

/-- The header members both mappers write first. -/
def contextHeader (context : BinanceMappingContext) (header : CapturedHeader) : CapturedHeader :=
  { header with
    sourceId := context.sourceId, venueId := context.venueId,
    instrumentId := context.instrumentId }

/-- The trade of a payload, if every step succeeds. -/
def readTrade (payload : List Char) (context : BinanceMappingContext) : Option Trade := do
  let symbol ← readJsonString payload ['s']
  let tradeId ← readJsonU64 payload ['t']
  let priceText ← readJsonString payload ['p']
  let quantityText ← readJsonString payload ['q']
  let tradeTimeMs ← readJsonU64 payload ['T']
  let buyerIsMaker ← readJsonBool payload ['m']
  guard (symbolMatches context symbol)
  let price ← parseDecimalToFixed priceText context.priceScale
  let quantity ← parseDecimalToFixed quantityText context.quantityScale
  let sourceTsNs ← msToNs tradeTimeMs
  let trade := QuoteCore.trade
  return { trade with
    header := { contextHeader context trade.header with
      exchangeSeq := tradeId, exchangeTsNs := sourceTsNs }
    price, quantity, tradeId
    aggressorSide := if buyerIsMaker then .sell else .buy }

/-- The quote of a payload, if every step succeeds. -/
def readQuote (payload : List Char) (context : BinanceMappingContext) : Option Quote := do
  let symbol ← readJsonString payload ['s']
  let updateId ← readJsonU64 payload ['u']
  let bidPriceText ← readJsonString payload ['b']
  let bidQuantityText ← readJsonString payload ['B']
  let askPriceText ← readJsonString payload ['a']
  let askQuantityText ← readJsonString payload ['A']
  guard (symbolMatches context symbol)
  let bidPrice ← parseDecimalToFixed bidPriceText context.priceScale
  let bidQty ← parseDecimalToFixed bidQuantityText context.quantityScale
  let askPrice ← parseDecimalToFixed askPriceText context.priceScale
  let askQty ← parseDecimalToFixed askQuantityText context.quantityScale
  let quote := QuoteCore.quote
  return { quote with
    header := { contextHeader context quote.header with exchangeSeq := updateId }
    bidPrice, bidQty, askPrice, askQty }

/-- A trade is read when every step succeeds, and it consists of what the steps yield. -/
theorem readTrade_eq_some_iff {payload : List Char} {context : BinanceMappingContext}
    {trade : Trade} :
    readTrade payload context = some trade ↔
      ∃ symbol tradeId priceText quantityText timeMs maker price quantity sourceTsNs,
        readJsonString payload ['s'] = some symbol ∧ readJsonU64 payload ['t'] = some tradeId ∧
        readJsonString payload ['p'] = some priceText ∧
        readJsonString payload ['q'] = some quantityText ∧
        readJsonU64 payload ['T'] = some timeMs ∧ readJsonBool payload ['m'] = some maker ∧
        symbolMatches context symbol = true ∧
        parseDecimalToFixed priceText context.priceScale = some price ∧
        parseDecimalToFixed quantityText context.quantityScale = some quantity ∧
        msToNs timeMs = some sourceTsNs ∧
        trade = { QuoteCore.trade with
          header := { contextHeader context QuoteCore.trade.header with
            exchangeSeq := tradeId, exchangeTsNs := sourceTsNs }
          price, quantity, tradeId
          aggressorSide := if maker then .sell else .buy } := by
  simp only [readTrade, Option.bind_eq_bind, Option.bind_eq_some_iff, Option.guard_eq_some']
  constructor
  · rintro ⟨symbol, s, tradeId, t, priceText, p, quantityText, q, timeMs, T, maker, m, ⟨⟩, matched,
      price, P, quantity, Q, sourceTsNs, ns, made⟩
    exact ⟨symbol, tradeId, priceText, quantityText, timeMs, maker, price, quantity, sourceTsNs,
      s, t, p, q, T, m, matched, P, Q, ns, (Option.some.inj made).symm⟩
  · rintro ⟨symbol, tradeId, priceText, quantityText, timeMs, maker, price, quantity, sourceTsNs,
      s, t, p, q, T, m, matched, P, Q, ns, rfl⟩
    exact ⟨symbol, s, tradeId, t, priceText, p, quantityText, q, timeMs, T, maker, m, ⟨⟩, matched,
      price, P, quantity, Q, sourceTsNs, ns, rfl⟩

/-- A quote is read when every step succeeds, and it consists of what the steps yield. -/
theorem readQuote_eq_some_iff {payload : List Char} {context : BinanceMappingContext}
    {quote : Quote} :
    readQuote payload context = some quote ↔
      ∃ symbol updateId bidPriceText bidQuantityText askPriceText askQuantityText bidPrice bidQty
          askPrice askQty,
        readJsonString payload ['s'] = some symbol ∧ readJsonU64 payload ['u'] = some updateId ∧
        readJsonString payload ['b'] = some bidPriceText ∧
        readJsonString payload ['B'] = some bidQuantityText ∧
        readJsonString payload ['a'] = some askPriceText ∧
        readJsonString payload ['A'] = some askQuantityText ∧
        symbolMatches context symbol = true ∧
        parseDecimalToFixed bidPriceText context.priceScale = some bidPrice ∧
        parseDecimalToFixed bidQuantityText context.quantityScale = some bidQty ∧
        parseDecimalToFixed askPriceText context.priceScale = some askPrice ∧
        parseDecimalToFixed askQuantityText context.quantityScale = some askQty ∧
        quote = { QuoteCore.quote with
          header := { contextHeader context QuoteCore.quote.header with exchangeSeq := updateId }
          bidPrice, bidQty, askPrice, askQty } := by
  simp only [readQuote, Option.bind_eq_bind, Option.bind_eq_some_iff, Option.guard_eq_some']
  constructor
  · rintro ⟨symbol, s, updateId, u, bidPriceText, b, bidQuantityText, B, askPriceText, a,
      askQuantityText, A, ⟨⟩, matched, bidPrice, bp, bidQty, bq, askPrice, ap, askQty, aq, made⟩
    exact ⟨symbol, updateId, bidPriceText, bidQuantityText, askPriceText, askQuantityText, bidPrice,
      bidQty, askPrice, askQty, s, u, b, B, a, A, matched, bp, bq, ap, aq,
      (Option.some.inj made).symm⟩
  · rintro ⟨symbol, updateId, bidPriceText, bidQuantityText, askPriceText, askQuantityText, bidPrice,
      bidQty, askPrice, askQty, s, u, b, B, a, A, matched, bp, bq, ap, aq, rfl⟩
    exact ⟨symbol, s, updateId, u, bidPriceText, b, bidQuantityText, B, askPriceText, a,
      askQuantityText, A, ⟨⟩, matched, bidPrice, bp, bidQty, bq, askPrice, ap, askQty, aq, rfl⟩

/-- An output is written on success alone. -/
def writeOut {Event : Type} (out : Event) : Option Event → Bool × Event
  | none => (false, out)
  | some event => (true, event)

def mapTradeToTrade (payload : List Char) (context : BinanceMappingContext) (out : Trade) :
    Bool × Trade :=
  writeOut out (readTrade payload context)

def mapBookTickerToQuote (payload : List Char) (context : BinanceMappingContext) (out : Quote) :
    Bool × Quote :=
  writeOut out (readQuote payload context)

/-- `md::mappers::make_event_header`. -/
def makeEventHeader (message : MessageEnvelope) (kind : EventKind) : CapturedHeader :=
  { QuoteCore.capturedHeader with
    kind, flags := message.flags, sourceId := message.sourceId, venueId := message.venueId,
    feedId := message.feedId, connectionId := message.connectionId,
    instrumentId := message.instrumentId, captureSeq := message.captureSeq,
    eventSeq := message.eventSeq, exchangeSeq := message.exchangeSeq,
    exchangeTsNs := message.sourceTsNs, recvTsNs := message.recvTsNs,
    sendTsNs := message.publishTsNs }

/-- The bytes of a payload as text. -/
def textView (payload : List UInt8) : List Char := payload.map fun byte => Char.ofNat byte.toNat

/-- The overload of `map_trade_to_trade` for a message: the header is the envelope's. -/
def mapTradeMessageToTrade (message : FeedMessageView) (context : BinanceMappingContext)
    (out : Trade) : Bool × Trade :=
  match mapTradeToTrade (textView message.payload) context out with
  | (false, out) => (false, out)
  | (true, out) =>
      (true, { out with
        header := { contextHeader context (makeEventHeader message.envelope QuoteCore.tradeKind) with
          exchangeSeq := out.header.exchangeSeq, exchangeTsNs := out.header.exchangeTsNs } })

/-- The overload of `map_book_ticker_to_quote` for a message. -/
def mapBookTickerMessageToQuote (message : FeedMessageView) (context : BinanceMappingContext)
    (out : Quote) : Bool × Quote :=
  match mapBookTickerToQuote (textView message.payload) context out with
  | (false, out) => (false, out)
  | (true, out) =>
      (true, { out with
        header := { contextHeader context (makeEventHeader message.envelope QuoteCore.quoteKind) with
          exchangeSeq := out.header.exchangeSeq } })

/-! ### Combined streams -/

theorem readTrade_combined {name : List Char} (plain : '"' ∉ name) (payload : List Char)
    (context : BinanceMappingContext) :
    readTrade (combinedStream name payload) context = readTrade payload context := by
  simp only [readTrade, readJsonString, readJsonU64, readJsonBool, findJsonValue_letter plain]

theorem readQuote_combined {name : List Char} (plain : '"' ∉ name) (payload : List Char)
    (context : BinanceMappingContext) :
    readQuote (combinedStream name payload) context = readQuote payload context := by
  simp only [readQuote, readJsonString, readJsonU64, findJsonValue_letter plain]

/-- **A message of a combined stream decodes like the message itself**, whatever its text: the reader
finds the same values under every key but the wrapper's two, and every mapper returns the same result
and the same output. -/
theorem combined_streams_decode {name : List Char} (plain : '"' ∉ name) (payload : List Char) :
    (∀ key, key ≠ "stream".toList → key ≠ "data".toList →
      findJsonValue (combinedStream name payload) key = findJsonValue payload key) ∧
    (∀ context out, mapTradeToTrade (combinedStream name payload) context out =
      mapTradeToTrade payload context out) ∧
    (∀ context out, mapBookTickerToQuote (combinedStream name payload) context out =
      mapBookTickerToQuote payload context out) ∧
    ∀ wrapped message : FeedMessageView, wrapped.envelope = message.envelope →
      textView message.payload = payload →
      textView wrapped.payload = combinedStream name payload →
      (∀ context out, mapTradeMessageToTrade wrapped context out =
        mapTradeMessageToTrade message context out) ∧
      ∀ context out, mapBookTickerMessageToQuote wrapped context out =
        mapBookTickerMessageToQuote message context out := by
  have trade : ∀ context out, mapTradeToTrade (combinedStream name payload) context out =
      mapTradeToTrade payload context out := by
    intro context out
    rw [mapTradeToTrade, readTrade_combined plain, mapTradeToTrade]
  have quote : ∀ context out, mapBookTickerToQuote (combinedStream name payload) context out =
      mapBookTickerToQuote payload context out := by
    intro context out
    rw [mapBookTickerToQuote, readQuote_combined plain, mapBookTickerToQuote]
  refine ⟨fun key stream data => findJsonValue_combined plain stream data payload, trade, quote, ?_⟩
  intro wrapped message envelope text combined
  constructor
  · intro context out
    rw [mapTradeMessageToTrade, combined, trade, envelope, ← text, ← mapTradeMessageToTrade]
  · intro context out
    rw [mapBookTickerMessageToQuote, combined, quote, envelope, ← text,
      ← mapBookTickerMessageToQuote]

end Mappers

/-- A stream named like a key of the message, around a text without braces: the reader finds the number
of the trade, and the mapper makes the trade. -/
theorem combined_streams_decode_broken :
    let _ : QuoteCore := QuoteCore.zeroed
    let payload : List Char := "\"s\":\"BNBUSDT\",\"T\":1672515782135,\"m\":true,".toList ++
      "\"p\":\"25.3519\",\"q\":\"31.21\",\"t\": 12".toList
    let wrapped := combinedStream "t".toList payload
    let context : BinanceMappingContext := { providerSymbol := "bnbusdt".toList }
    findJsonValue wrapped ['t'] = some ("12".toList, false) ∧
      (mapTradeToTrade wrapped context QuoteCore.trade).1 = true ∧
      (mapTradeToTrade wrapped context QuoteCore.trade).2.tradeId = 12 ∧
      (mapTradeToTrade wrapped context QuoteCore.trade).2.price = 2535190000 := by
  intro _ payload wrapped context
  obtain ⟨found, trade, -⟩ := combined_streams_decode (by decide : '"' ∉ "t".toList) payload
  have mapped : (mapTradeToTrade payload context QuoteCore.trade).1 = true ∧
      (mapTradeToTrade payload context QuoteCore.trade).2.tradeId = 12 ∧
      (mapTradeToTrade payload context QuoteCore.trade).2.price = 2535190000 := by
    decide +kernel
  rw [← trade] at mapped
  exact ⟨(found ['t'] (by decide) (by decide)).trans (by decide +kernel), mapped⟩

end MarketDataFabric.Providers.Binance
