/-
**Binance messages decode exactly.**

* `TradeMessage`, `QuoteMessage` — what a flat object must contain to be a trade or a best bid and
  offer, with the numbers it states; the texts denote rational numbers.
* `TradeCarries`, `QuoteCarries` — an event with these numbers.
* `readTrade_of_message`, `message_of_readTrade`, and the same of a quote — the mappers read the
  messages, and what they read is a message.
* `binance_decodes_exactly` — **the mappers succeed on the messages and on nothing else that is a flat
  object, and every number of the event is the number that is written.**
-/

import MarketDataFabric.Providers.Binance.FlatObject
import MarketDataFabric.Providers.Binance.Mappers

namespace MarketDataFabric.Providers.Binance

open MarketDataFabric.Core Codecs Feed Library.Decimal

/-! ### The messages -/

/-- A member is a string, and its text a decimal that has an integer of 64 bits at the scale. -/
structure FixedDecimal (object : FlatObject) (name : List Char) (scale : Int) (value : ℚ) : Prop where
  range : 0 ≤ scale ∧ scale ≤ 18
  decimal : ∃ text, object.HasString name text ∧ Denotes text value
  fits : ∃ fixed : Int, -2 ^ 63 ≤ fixed ∧ fixed < 2 ^ 63 ∧ (fixed : ℚ) = value * 10 ^ scale.toNat

/-- The object is about the symbol of the context, up to the case of the letters. -/
def HasSymbol (object : FlatObject) (context : BinanceMappingContext) : Prop :=
  ∃ symbol, object.HasString ['s'] symbol ∧ (context.providerSymbol = [] ∨
    symbol.map Char.toLower = context.providerSymbol.map Char.toLower)

/-- The numbers of a trade message. -/
structure TradeReading where
  tradeId : Nat
  timeMs : Nat
  price : ℚ
  quantity : ℚ
  buyerIsMaker : Bool

/-- **A trade message** with these numbers. -/
structure TradeMessage (object : FlatObject) (context : BinanceMappingContext)
    (reading : TradeReading) : Prop where
  symbol : HasSymbol object context
  tradeId : object.HasNumber ['t'] reading.tradeId
  tradeIdFits : reading.tradeId < 2 ^ 64
  timeMs : object.HasNumber ['T'] reading.timeMs
  timeFits : reading.timeMs * 10 ^ 6 < 2 ^ 64
  price : FixedDecimal object ['p'] context.priceScale reading.price
  quantity : FixedDecimal object ['q'] context.quantityScale reading.quantity
  buyerIsMaker : object.HasFlag ['m'] reading.buyerIsMaker

/-- **A trade that carries these numbers.** -/
structure TradeCarries (context : BinanceMappingContext) (reading : TradeReading) (trade : Trade) :
    Prop where
  sourceId : trade.header.sourceId = context.sourceId
  venueId : trade.header.venueId = context.venueId
  instrumentId : trade.header.instrumentId = context.instrumentId
  exchangeSeq : trade.header.exchangeSeq.toNat = reading.tradeId
  exchangeTsNs : trade.header.exchangeTsNs.toNat = reading.timeMs * 10 ^ 6
  tradeId : trade.tradeId.toNat = reading.tradeId
  price : (trade.price.toInt : ℚ) = reading.price * 10 ^ context.priceScale.toNat
  quantity : (trade.quantity.toInt : ℚ) = reading.quantity * 10 ^ context.quantityScale.toNat
  aggressorSide : trade.aggressorSide = if reading.buyerIsMaker then .sell else .buy

/-- The numbers of a message about the best bid and offer. -/
structure QuoteReading where
  updateId : Nat
  bidPrice : ℚ
  bidQty : ℚ
  askPrice : ℚ
  askQty : ℚ

/-- **A message about the best bid and offer** with these numbers. -/
structure QuoteMessage (object : FlatObject) (context : BinanceMappingContext)
    (reading : QuoteReading) : Prop where
  symbol : HasSymbol object context
  updateId : object.HasNumber ['u'] reading.updateId
  updateIdFits : reading.updateId < 2 ^ 64
  bidPrice : FixedDecimal object ['b'] context.priceScale reading.bidPrice
  bidQty : FixedDecimal object ['B'] context.quantityScale reading.bidQty
  askPrice : FixedDecimal object ['a'] context.priceScale reading.askPrice
  askQty : FixedDecimal object ['A'] context.quantityScale reading.askQty

/-- **A quote that carries these numbers.** -/
structure QuoteCarries (context : BinanceMappingContext) (reading : QuoteReading) (quote : Quote) :
    Prop where
  sourceId : quote.header.sourceId = context.sourceId
  venueId : quote.header.venueId = context.venueId
  instrumentId : quote.header.instrumentId = context.instrumentId
  exchangeSeq : quote.header.exchangeSeq.toNat = reading.updateId
  bidPrice : (quote.bidPrice.toInt : ℚ) = reading.bidPrice * 10 ^ context.priceScale.toNat
  bidQty : (quote.bidQty.toInt : ℚ) = reading.bidQty * 10 ^ context.quantityScale.toNat
  askPrice : (quote.askPrice.toInt : ℚ) = reading.askPrice * 10 ^ context.priceScale.toNat
  askQty : (quote.askQty.toInt : ℚ) = reading.askQty * 10 ^ context.quantityScale.toNat

/-- A run of a mapper succeeds on the messages alone, and its event carries what the message says. -/
structure Decodes {Reading Event : Type} (run : Bool × Event) (message : Reading → Prop)
    (carries : Reading → Event → Prop) : Prop where
  succeeds : run.1 = true ↔ ∃ reading, message reading
  carried : ∀ reading, message reading → carries reading run.2

/-! ### Members as the readers see them -/

section Members

variable {object : FlatObject} {letter : Char}

theorem string_iff {text : List Char} :
    readJsonString object.text [letter] = some text ↔ object.HasString [letter] text :=
  object.readJsonString_text (List.cons_ne_nil _ _)

theorem word_iff {word : UInt64} :
    readJsonU64 object.text [letter] = some word ↔ object.HasNumber [letter] word.toNat :=
  object.readJsonU64_text (List.cons_ne_nil _ _)

theorem flag_iff {flag : Bool} :
    readJsonBool object.text [letter] = some flag ↔ object.HasFlag [letter] flag :=
  object.readJsonBool_text (List.cons_ne_nil _ _)

theorem FixedDecimal.read {scale : Int} {value : ℚ}
    (decimal : FixedDecimal object [letter] scale value) :
    ∃ text fixed, readJsonString object.text [letter] = some text ∧
      parseDecimalToFixed text scale = some fixed ∧
      (fixed.toInt : ℚ) = value * 10 ^ scale.toNat := by
  obtain ⟨text, has, denotes⟩ := decimal.decimal
  obtain ⟨number, lower, upper, same⟩ := decimal.fits
  have fixed : (Int64.ofInt number).toInt = number := Int64.toInt_ofInt_of_le lower upper
  refine ⟨text, Int64.ofInt number, string_iff.mpr has, ?_, ?_⟩
  · rw [parseDecimalToFixed_eq_some_iff, fixed]
    exact ⟨decimal.range.1, decimal.range.2, value, denotes, same⟩
  · rw [fixed]
    exact same

theorem fixedDecimal_of_read {scale : Int} {text : List Char} {fixed : Int64}
    (string : readJsonString object.text [letter] = some text)
    (parsed : parseDecimalToFixed text scale = some fixed) :
    ∃ value, FixedDecimal object [letter] scale value := by
  obtain ⟨lower, upper, value, denotes, same⟩ := parseDecimalToFixed_eq_some_iff.mp parsed
  exact ⟨value, ⟨lower, upper⟩, ⟨text, string_iff.mp string, denotes⟩, fixed.toInt, fixed.le_toInt,
    fixed.toInt_lt, same⟩

theorem number_read {number : Nat} (has : object.HasNumber [letter] number)
    (fits : number < 2 ^ 64) :
    ∃ word, readJsonU64 object.text [letter] = some word ∧ word.toNat = number := by
  have word : (UInt64.ofNat number).toNat = number := UInt64.toNat_ofNat_of_lt' fits
  refine ⟨UInt64.ofNat number, word_iff.mpr ?_, word⟩
  rw [word]
  exact has

theorem symbol_iff {context : BinanceMappingContext} :
    HasSymbol object context ↔
      ∃ symbol, readJsonString object.text ['s'] = some symbol ∧
        symbolMatches context symbol = true := by
  simp only [HasSymbol, symbolMatches_iff, string_iff]

end Members

/-! ### The mappers -/

/-- A mapper decodes when what it reads is what the messages say. -/
theorem decodes_writeOut {Reading Event : Type} {read : Option Event} {out : Event}
    {message : Reading → Prop} {carries : Reading → Event → Prop}
    (accepted : ∀ reading, message reading → ∃ event, read = some event ∧ carries reading event)
    (only : ∀ event, read = some event → ∃ reading, message reading) :
    Decodes (writeOut out read) message carries := by
  constructor
  · constructor
    · intro ok
      cases found : read with
      | none =>
          rw [found] at ok
          cases ok
      | some event => exact only event found
    · rintro ⟨reading, holds⟩
      obtain ⟨event, found, -⟩ := accepted reading holds
      rw [found]
      rfl
  · intro reading holds
    obtain ⟨event, found, carried⟩ := accepted reading holds
    rw [found]
    exact carried

section Mappers

variable [QuoteCore] {object : FlatObject} {context : BinanceMappingContext}

/-- A trade message is read, and the trade carries its numbers. -/
theorem readTrade_of_message {reading : TradeReading}
    (message : TradeMessage object context reading) :
    ∃ trade, readTrade object.text context = some trade ∧ TradeCarries context reading trade := by
  obtain ⟨symbol, s, matched⟩ := symbol_iff.mp message.symbol
  obtain ⟨tradeId, t, sameId⟩ := number_read message.tradeId message.tradeIdFits
  obtain ⟨priceText, price, p, parsedPrice, samePrice⟩ := message.price.read
  obtain ⟨quantityText, quantity, q, parsedQuantity, sameQuantity⟩ := message.quantity.read
  have fits := message.timeFits
  obtain ⟨timeMs, T, sameTime⟩ := number_read message.timeMs (by omega)
  have m := flag_iff.mpr message.buyerIsMaker
  have word : (UInt64.ofNat (timeMs.toNat * 1000000)).toNat = timeMs.toNat * 1000000 :=
    UInt64.toNat_ofNat_of_lt' (by rw [sameTime]; exact fits)
  refine ⟨_, readTrade_eq_some_iff.mpr ⟨symbol, tradeId, priceText, quantityText, timeMs, _, price,
    quantity, _, s, t, p, q, T, m, matched, parsedPrice, parsedQuantity,
    msToNs_eq_some_iff.mpr word, rfl⟩, ?_⟩
  exact
    { sourceId := rfl, venueId := rfl, instrumentId := rfl
      exchangeSeq := sameId
      exchangeTsNs := word.trans (congrArg (· * 1000000) sameTime)
      tradeId := sameId
      price := samePrice
      quantity := sameQuantity
      aggressorSide := rfl }

/-- What is read as a trade is a trade message. -/
theorem message_of_readTrade {trade : Trade} (read : readTrade object.text context = some trade) :
    ∃ reading, TradeMessage object context reading := by
  obtain ⟨symbol, tradeId, priceText, quantityText, timeMs, maker, _, _, sourceTsNs, s, t, p, q, T,
    m, matched, parsedPrice, parsedQuantity, converted, -⟩ := readTrade_eq_some_iff.mp read
  obtain ⟨price, priceDecimal⟩ := fixedDecimal_of_read p parsedPrice
  obtain ⟨quantity, quantityDecimal⟩ := fixedDecimal_of_read q parsedQuantity
  have nanoseconds := msToNs_eq_some_iff.mp converted
  exact ⟨⟨tradeId.toNat, timeMs.toNat, price, quantity, maker⟩,
    { symbol := symbol_iff.mpr ⟨symbol, s, matched⟩
      tradeId := word_iff.mp t
      tradeIdFits := tradeId.toNat_lt
      timeMs := word_iff.mp T
      timeFits := nanoseconds ▸ sourceTsNs.toNat_lt
      price := priceDecimal
      quantity := quantityDecimal
      buyerIsMaker := flag_iff.mp m }⟩

/-- A message about the best bid and offer is read, and the quote carries its numbers. -/
theorem readQuote_of_message {reading : QuoteReading}
    (message : QuoteMessage object context reading) :
    ∃ quote, readQuote object.text context = some quote ∧ QuoteCarries context reading quote := by
  obtain ⟨symbol, s, matched⟩ := symbol_iff.mp message.symbol
  obtain ⟨updateId, u, sameId⟩ := number_read message.updateId message.updateIdFits
  obtain ⟨bidPriceText, bidPrice, b, parsedBidPrice, sameBidPrice⟩ := message.bidPrice.read
  obtain ⟨bidQuantityText, bidQty, B, parsedBidQty, sameBidQty⟩ := message.bidQty.read
  obtain ⟨askPriceText, askPrice, a, parsedAskPrice, sameAskPrice⟩ := message.askPrice.read
  obtain ⟨askQuantityText, askQty, A, parsedAskQty, sameAskQty⟩ := message.askQty.read
  refine ⟨_, readQuote_eq_some_iff.mpr ⟨symbol, updateId, bidPriceText, bidQuantityText,
    askPriceText, askQuantityText, bidPrice, bidQty, askPrice, askQty, s, u, b, B, a, A, matched,
    parsedBidPrice, parsedBidQty, parsedAskPrice, parsedAskQty, rfl⟩, ?_⟩
  exact
    { sourceId := rfl, venueId := rfl, instrumentId := rfl
      exchangeSeq := sameId
      bidPrice := sameBidPrice
      bidQty := sameBidQty
      askPrice := sameAskPrice
      askQty := sameAskQty }

/-- What is read as a quote is a message about the best bid and offer. -/
theorem message_of_readQuote {quote : Quote} (read : readQuote object.text context = some quote) :
    ∃ reading, QuoteMessage object context reading := by
  obtain ⟨symbol, updateId, _, _, _, _, _, _, _, _, s, u, b, B, a, A, matched, parsedBidPrice,
    parsedBidQty, parsedAskPrice, parsedAskQty, -⟩ := readQuote_eq_some_iff.mp read
  obtain ⟨bidPrice, bidPriceDecimal⟩ := fixedDecimal_of_read b parsedBidPrice
  obtain ⟨bidQty, bidQtyDecimal⟩ := fixedDecimal_of_read B parsedBidQty
  obtain ⟨askPrice, askPriceDecimal⟩ := fixedDecimal_of_read a parsedAskPrice
  obtain ⟨askQty, askQtyDecimal⟩ := fixedDecimal_of_read A parsedAskQty
  exact ⟨⟨updateId.toNat, bidPrice, bidQty, askPrice, askQty⟩,
    { symbol := symbol_iff.mpr ⟨symbol, s, matched⟩
      updateId := word_iff.mp u
      updateIdFits := updateId.toNat_lt
      bidPrice := bidPriceDecimal
      bidQty := bidQtyDecimal
      askPrice := askPriceDecimal
      askQty := askQtyDecimal }⟩

theorem mapTradeToTrade_decodes (object : FlatObject) (context : BinanceMappingContext)
    (out : Trade) :
    Decodes (mapTradeToTrade object.text context out) (TradeMessage object context)
      (TradeCarries context) :=
  decodes_writeOut (fun _ message => readTrade_of_message message)
    fun _ read => message_of_readTrade read

theorem mapBookTickerToQuote_decodes (object : FlatObject) (context : BinanceMappingContext)
    (out : Quote) :
    Decodes (mapBookTickerToQuote object.text context out) (QuoteMessage object context)
      (QuoteCarries context) :=
  decodes_writeOut (fun _ message => readQuote_of_message message)
    fun _ read => message_of_readQuote read

/-- The overload for a message keeps the result, the numbers of the event and the time of a trade. -/
theorem mapTradeMessageToTrade_decodes (object : FlatObject) (context : BinanceMappingContext)
    (message : FeedMessageView) (written : textView message.payload = object.text) (out : Trade) :
    Decodes (mapTradeMessageToTrade message context out) (TradeMessage object context)
      (TradeCarries context) := by
  have payload := mapTradeToTrade_decodes object context out
  unfold mapTradeMessageToTrade
  rw [written]
  generalize mapTradeToTrade object.text context out = run at payload ⊢
  obtain ⟨ok, event⟩ := run
  cases ok with
  | false => exact payload
  | true =>
      refine ⟨payload.succeeds, fun reading holds => ?_⟩
      have carried := payload.carried reading holds
      exact { carried with sourceId := rfl, venueId := rfl, instrumentId := rfl }

theorem mapBookTickerMessageToQuote_decodes (object : FlatObject)
    (context : BinanceMappingContext) (message : FeedMessageView)
    (written : textView message.payload = object.text) (out : Quote) :
    Decodes (mapBookTickerMessageToQuote message context out) (QuoteMessage object context)
      (QuoteCarries context) := by
  have payload := mapBookTickerToQuote_decodes object context out
  unfold mapBookTickerMessageToQuote
  rw [written]
  generalize mapBookTickerToQuote object.text context out = run at payload ⊢
  obtain ⟨ok, event⟩ := run
  cases ok with
  | false => exact payload
  | true =>
      refine ⟨payload.succeeds, fun reading holds => ?_⟩
      have carried := payload.carried reading holds
      exact { carried with sourceId := rfl, venueId := rfl, instrumentId := rfl }

/-- **Binance messages decode exactly**: over the flat objects, each mapper succeeds on its messages
and on nothing else, and then every number of its event is the number that is written. -/
theorem binance_decodes_exactly :
    (∀ (object : FlatObject) (context : BinanceMappingContext) (out : Trade),
      Decodes (mapTradeToTrade object.text context out) (TradeMessage object context)
        (TradeCarries context)) ∧
    (∀ (object : FlatObject) (context : BinanceMappingContext) (out : Quote),
      Decodes (mapBookTickerToQuote object.text context out) (QuoteMessage object context)
        (QuoteCarries context)) ∧
    ∀ (object : FlatObject) (context : BinanceMappingContext) (message : FeedMessageView),
      textView message.payload = object.text →
      (∀ out, Decodes (mapTradeMessageToTrade message context out) (TradeMessage object context)
        (TradeCarries context)) ∧
      ∀ out, Decodes (mapBookTickerMessageToQuote message context out)
        (QuoteMessage object context) (QuoteCarries context) :=
  ⟨mapTradeToTrade_decodes, mapBookTickerToQuote_decodes, fun object context message written =>
    ⟨mapTradeMessageToTrade_decodes object context message written,
      mapBookTickerMessageToQuote_decodes object context message written⟩⟩

end Mappers

/-- A member with a blank in front of its value. -/
def spacedMember (name : String) (value : Scalar)
    (plain : ∀ ch ∈ name.toList, ch ≠ '"' ∧ ch ≠ '\\' := by simp) : Member where
  name := ⟨name.toList, plain⟩
  value := value
  beforeName := .none
  afterName := .none
  beforeValue := ⟨[' '], by simp [isJsonWs]⟩
  afterValue := .none

/-- A trade with a further member, and its own in an unusual order. -/
def tradeObject : FlatObject where
  leading := .none
  inner := .none
  trailing := .none
  members :=
    [spacedMember "e" (.string ⟨"trade".toList, by simp⟩),
      spacedMember "m" (.bare ⟨"true".toList, by decide, by simp [isBare, isJsonWs]⟩),
      spacedMember "T" (.bare ⟨"1672515782135".toList, by decide, by simp [isBare, isJsonWs]⟩),
      spacedMember "p" (.string ⟨"25.35190000".toList, by simp⟩),
      spacedMember "q" (.string ⟨"31.21".toList, by simp⟩),
      spacedMember "t" (.string ⟨"12345".toList, by simp⟩),
      spacedMember "s" (.string ⟨"BNBUSDT".toList, by simp⟩)]
  distinct := by decide

/-- The mapper reads it, so it is a trade message, and the event states its numbers. -/
theorem binance_decodes_exactly_trade :
    ∃ reading, TradeMessage tradeObject { providerSymbol := "bnbusdt".toList } reading ∧
      reading.tradeId = 12345 ∧ reading.timeMs = 1672515782135 ∧
      reading.price * 10 ^ 8 = 2535190000 ∧ reading.buyerIsMaker = true := by
  let core : QuoteCore := QuoteCore.zeroed
  let context : BinanceMappingContext := { providerSymbol := "bnbusdt".toList }
  have run := binance_decodes_exactly.1 tradeObject context QuoteCore.trade
  obtain ⟨reading, message⟩ := run.succeeds.mp (by decide +kernel)
  have carried := run.carried reading message
  have made : (mapTradeToTrade tradeObject.text context QuoteCore.trade).2.tradeId = 12345 ∧
      (mapTradeToTrade tradeObject.text context QuoteCore.trade).2.header.exchangeTsNs =
        1672515782135000000 ∧
      (mapTradeToTrade tradeObject.text context QuoteCore.trade).2.price = 2535190000 ∧
      (mapTradeToTrade tradeObject.text context QuoteCore.trade).2.aggressorSide = .sell := by
    decide +kernel
  refine ⟨reading, message, ?_, ?_, ?_, ?_⟩
  · rw [← carried.tradeId, made.1]
    rfl
  · have time := carried.exchangeTsNs
    rw [made.2.1] at time
    have nanoseconds : (1672515782135000000 : UInt64).toNat = 1672515782135000000 := rfl
    omega
  · have price := carried.price
    rw [made.2.2.1] at price
    exact price.symm
  · have side := carried.aggressorSide
    rw [made.2.2.2] at side
    cases maker : reading.buyerIsMaker with
    | true => rfl
    | false =>
        rw [maker] at side
        cases side

end MarketDataFabric.Providers.Binance
