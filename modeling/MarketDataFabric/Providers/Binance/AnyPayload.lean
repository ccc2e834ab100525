/-
**The Binance mappers on any payload**, whether it is JSON or not.

* `Stands`, `readJsonValue_iff` — what the reader takes for a value behind a colon.
* `Says`, `findJsonValue_iff` — what a text says of a key: the first place that looks like its name
  decides.
* `any_payload_decodes` — **each mapper succeeds on the payloads that say a whole message and on no
  others**, and its event carries what they say.
-/

import MarketDataFabric.Providers.Binance.Decoding

namespace MarketDataFabric.Providers.Binance

open MarketDataFabric.Core Codecs Feed Library.Decimal

/-! ### Values -/

/-- **A string ends at its first quote that no backslash precedes.** -/
theorem quotedText_iff {previous : Option Char} {text inner : List Char} :
    quotedText previous text = some inner ↔
      ∃ tail, text = inner ++ '"' :: tail ∧ inner.getLast?.or previous ≠ some '\\' ∧
        ∀ front back, inner = front ++ '"' :: back → front.getLast?.or previous = some '\\' := by
  induction text generalizing previous inner with
  | nil =>
      constructor
      · nofun
      · rintro ⟨tail, split, -⟩
        cases inner <;> cases split
  | cons ch rest ih =>
      rw [quotedText]
      by_cases ends : ch = '"' ∧ previous ≠ some '\\'
      · rw [if_pos ends, Option.some.injEq]
        constructor
        · rintro rfl
          refine ⟨rest, by rw [ends.1]; rfl, ends.2, fun front back split => ?_⟩
          cases front <;> cases split
        · rintro ⟨tail, split, -, escaped⟩
          cases inner with
          | nil => rfl
          | cons first later =>
              obtain rfl : ch = first := (List.cons.inj split).1
              exact absurd (escaped [] later (by rw [ends.1]; rfl)) ends.2
      · rw [if_neg ends, Option.map_eq_some_iff]
        constructor
        · rintro ⟨later, found, rfl⟩
          obtain ⟨tail, rfl, last, escaped⟩ := ih.mp found
          refine ⟨tail, rfl, by rwa [getLast?_cons_or], fun front back split => ?_⟩
          cases front with
          | nil =>
              obtain rfl : ch = '"' := (List.cons.inj split).1
              by_contra open_
              exact ends ⟨rfl, open_⟩
          | cons first front =>
              obtain ⟨rfl, later⟩ := List.cons.inj split
              rw [getLast?_cons_or]
              exact escaped front back later
        · rintro ⟨tail, split, last, escaped⟩
          cases inner with
          | nil =>
              obtain rfl : ch = '"' := (List.cons.inj split).1
              exact absurd ⟨rfl, last⟩ ends
          | cons first later =>
              obtain ⟨rfl, rfl⟩ := List.cons.inj split
              rw [getLast?_cons_or] at last
              refine ⟨later, ih.mpr ⟨tail, rfl, last, fun front back split => ?_⟩, rfl⟩
              have before := escaped (ch :: front) back (by rw [split]; rfl)
              rwa [getLast?_cons_or] at before

/-- **A value in front of a text**, behind white space: between quotes, the second of which is the first
that no backslash precedes, or up to a comma, a brace, white space or the end. -/
inductive Stands : List Char → Bool → List Char → Prop
  | quoted (blank : Blank) {value : List Char} (tail : List Char) : value.getLast? ≠ some '\\' →
      (∀ front back, value = front ++ '"' :: back → front.getLast? = some '\\') →
      Stands value true (blank.text ++ '"' :: (value ++ '"' :: tail))
  | bare (blank : Blank) {value : List Char} (tail : List Char) : value ≠ [] →
      value.head? ≠ some '"' → (∀ ch ∈ value, isBare ch = true) → tail.takeWhile isBare = [] →
      Stands value false (blank.text ++ (value ++ tail))

/-- **What the reader takes for a value.** -/
theorem readJsonValue_iff {value text : List Char} {isQuoted : Bool} :
    readJsonValue text = some (value, isQuoted) ↔ Stands value isQuoted text := by
  constructor
  · intro read
    cases first : text.dropWhile isJsonWs with
    | nil =>
        rw [readJsonValue, first] at read
        cases read
    | cons ch rest =>
        rw [blankOf_append first]
        by_cases mark : ch = '"'
        · subst mark
          rw [readJsonValue_string first, Option.map_eq_some_iff] at read
          obtain ⟨inner, quote, same⟩ := read
          cases same
          obtain ⟨tail, rfl, last, escaped⟩ := quotedText_iff.mp quote
          simp only [Option.or_none] at last escaped
          exact .quoted _ tail last escaped
        · rw [readJsonValue, first] at read
          simp only [if_neg mark] at read
          split_ifs at read with empty
          cases read
          have parts : (ch :: rest).takeWhile isBare ++ (ch :: rest).dropWhile isBare = ch :: rest :=
            List.takeWhile_append_dropWhile
          have head : ((ch :: rest).takeWhile isBare).head? ≠ some '"' := by
            rw [List.takeWhile_cons] at empty ⊢
            split_ifs at empty ⊢
            · exact fun same => mark (Option.some.inj same)
            · exact absurd rfl empty
          have stands := Stands.bare (blankOf text) ((ch :: rest).dropWhile isBare) empty head
            (fun _ member => List.mem_takeWhile_imp member) (takeWhile_dropWhile_bare _)
          rwa [parts] at stands
  · intro stands
    cases stands with
    | quoted blank tail last escaped =>
        rw [readJsonValue_string (blank.dropWhile rfl _), Option.map_eq_some_iff]
        exact ⟨value, quotedText_iff.mpr ⟨tail, rfl, by rwa [Option.or_none],
          by simpa only [Option.or_none] using escaped⟩, rfl⟩
    | bare blank tail nonempty head inside ends =>
        obtain ⟨ch, rest, rfl⟩ := List.exists_cons_of_ne_nil nonempty
        have first : (blank.text ++ (ch :: rest ++ tail)).dropWhile isJsonWs = ch :: (rest ++ tail) :=
          blank.dropWhile (isJsonWs_of_isBare (inside ch List.mem_cons_self)) _
        have whole : (ch :: (rest ++ tail)).takeWhile isBare = ch :: rest := by
          rw [← List.cons_append, List.takeWhile_append_of_pos inside, ends, List.append_nil]
        exact readJsonValue_bare first (fun mark => head (congrArg some mark)) whole nonempty

/-! ### What a text says -/

/-- **What a text says of a key**: the value behind the first place that looks like the name. -/
def Says (payload key value : List Char) (isQuoted : Bool) : Prop :=
  ∃ before behind, FirstNamed key payload before behind ∧ Stands value isQuoted behind

theorem findJsonValue_iff {payload key value : List Char} {isQuoted : Bool} (plain : '"' ∉ key)
    (nonempty : key ≠ []) :
    findJsonValue payload key = some (value, isQuoted) ↔ Says payload key value isQuoted := by
  rw [findJsonValue, if_neg nonempty, findJsonValueFrom_eq_bind, Option.bind_eq_some_iff]
  constructor
  · rintro ⟨behind, found, read⟩
    obtain ⟨before, first⟩ := (findKeyFrom_eq_some_iff plain).mp found
    exact ⟨before, behind, first, readJsonValue_iff.mp read⟩
  · rintro ⟨before, behind, first, stands⟩
    exact ⟨behind, (findKeyFrom_eq_some_iff plain).mpr ⟨before, first⟩, readJsonValue_iff.mpr stands⟩

/-- The text says a string. -/
def SaysString (payload : List Char) (letter : Char) (text : List Char) : Prop :=
  Says payload [letter] text true

/-- The text says a natural number, in digits, with or without quotes. -/
def SaysNumber (payload : List Char) (letter : Char) (number : Nat) : Prop :=
  ∃ digits isQuoted, Says payload [letter] digits isQuoted ∧ digits ≠ [] ∧
    (∀ ch ∈ digits, ch.isDigit = true) ∧ digitsValue 0 digits = number

/-- The text says a literal. -/
def SaysFlag (payload : List Char) (letter : Char) (flag : Bool) : Prop :=
  Says payload [letter] (if flag then "true".toList else "false".toList) false

/-- The text says a string that is a decimal, and it has an integer of 64 bits at the scale. -/
structure SaysFixed (payload : List Char) (letter : Char) (scale : Int) (value : ℚ) : Prop where
  range : 0 ≤ scale ∧ scale ≤ 18
  decimal : ∃ text, SaysString payload letter text ∧ Denotes text value
  fits : ∃ fixed : Int, -2 ^ 63 ≤ fixed ∧ fixed < 2 ^ 63 ∧ (fixed : ℚ) = value * 10 ^ scale.toNat

/-- The text is about the symbol of the context, up to the case of the letters. -/
def SaysSymbol (payload : List Char) (context : BinanceMappingContext) : Prop :=
  ∃ symbol, SaysString payload 's' symbol ∧ (context.providerSymbol = [] ∨
    symbol.map Char.toLower = context.providerSymbol.map Char.toLower)

section Readers

variable {payload : List Char} {letter : Char}

theorem readJsonString_iff (plain : letter ≠ '"') {text : List Char} :
    readJsonString payload [letter] = some text ↔ SaysString payload letter text := by
  have found := fun isQuoted => @findJsonValue_iff payload [letter] text isQuoted
    (by simpa using plain.symm) (List.cons_ne_nil _ _)
  rw [SaysString, ← found, readJsonString, Option.bind_eq_some_iff]
  constructor
  · rintro ⟨⟨value, isQuoted⟩, search, string⟩
    cases isQuoted with
    | false => cases string
    | true =>
        cases string
        exact search
  · exact fun search => ⟨_, search, rfl⟩

theorem readJsonU64_iff (plain : letter ≠ '"') {word : UInt64} :
    readJsonU64 payload [letter] = some word ↔ SaysNumber payload letter word.toNat := by
  have room : 9 ≤ (18446744073709551615 : UInt64).toNat := by decide
  have most : word.toNat ≤ (18446744073709551615 : UInt64).toNat :=
    Nat.le_of_lt_succ word.toNat_lt
  have found := fun value isQuoted => @findJsonValue_iff payload [letter] value isQuoted
    (by simpa using plain.symm) (List.cons_ne_nil _ _)
  rw [readJsonU64, Option.bind_eq_some_iff]
  constructor
  · rintro ⟨⟨value, isQuoted⟩, search, digits⟩
    dsimp only at digits
    split_ifs at digits with empty
    rw [appendDigits_eq_some_iff room (Nat.zero_le _)] at digits
    exact ⟨value, isQuoted, (found value isQuoted).mp search, empty, digits.1, digits.2.1.symm⟩
  · rintro ⟨digits, isQuoted, said, filled, all, number⟩
    refine ⟨_, (found digits isQuoted).mpr said, ?_⟩
    rw [if_neg filled, appendDigits_eq_some_iff room (Nat.zero_le _)]
    exact ⟨all, number.symm, number.trans_le most⟩

theorem readJsonBool_iff (plain : letter ≠ '"') {flag : Bool} :
    readJsonBool payload [letter] = some flag ↔ SaysFlag payload letter flag := by
  have found := fun value isQuoted => @findJsonValue_iff payload [letter] value isQuoted
    (by simpa using plain.symm) (List.cons_ne_nil _ _)
  rw [SaysFlag, ← found, readJsonBool, Option.bind_eq_some_iff]
  constructor
  · rintro ⟨⟨value, isQuoted⟩, search, literal⟩
    cases isQuoted with
    | true => cases literal
    | false =>
        simp only [Bool.false_eq_true, if_false] at literal
        split_ifs at literal with yes no
        · cases literal
          rw [if_pos rfl, ← yes]
          exact search
        · cases literal
          rw [if_neg Bool.false_ne_true, ← no]
          exact search
  · intro search
    refine ⟨_, search, ?_⟩
    cases flag <;> rfl

theorem SaysFixed.read (plain : letter ≠ '"') {scale : Int} {value : ℚ}
    (said : SaysFixed payload letter scale value) :
    ∃ text fixed, readJsonString payload [letter] = some text ∧
      parseDecimalToFixed text scale = some fixed ∧
      (fixed.toInt : ℚ) = value * 10 ^ scale.toNat := by
  obtain ⟨text, string, denotes⟩ := said.decimal
  obtain ⟨number, lower, upper, same⟩ := said.fits
  have fixed : (Int64.ofInt number).toInt = number := Int64.toInt_ofInt_of_le lower upper
  refine ⟨text, Int64.ofInt number, (readJsonString_iff plain).mpr string, ?_, by rw [fixed, same]⟩
  rw [parseDecimalToFixed_eq_some_iff, fixed]
  exact ⟨said.range.1, said.range.2, value, denotes, same⟩

theorem saysFixed_of_read (plain : letter ≠ '"') {scale : Int} {text : List Char} {fixed : Int64}
    (string : readJsonString payload [letter] = some text)
    (parsed : parseDecimalToFixed text scale = some fixed) :
    ∃ value, SaysFixed payload letter scale value := by
  obtain ⟨lower, upper, value, denotes, same⟩ := parseDecimalToFixed_eq_some_iff.mp parsed
  exact ⟨value, ⟨lower, upper⟩, ⟨text, (readJsonString_iff plain).mp string, denotes⟩, fixed.toInt,
    fixed.le_toInt, fixed.toInt_lt, same⟩

theorem SaysNumber.read (plain : letter ≠ '"') {number : Nat} (said : SaysNumber payload letter number)
    (fits : number < 2 ^ 64) :
    ∃ word, readJsonU64 payload [letter] = some word ∧ word.toNat = number := by
  have word : (UInt64.ofNat number).toNat = number := UInt64.toNat_ofNat_of_lt' fits
  refine ⟨UInt64.ofNat number, (readJsonU64_iff plain).mpr ?_, word⟩
  rwa [word]

theorem saysSymbol_iff {context : BinanceMappingContext} :
    SaysSymbol payload context ↔ ∃ symbol, readJsonString payload ['s'] = some symbol ∧
      symbolMatches context symbol = true := by
  simp only [SaysSymbol, symbolMatches_iff, readJsonString_iff (show 's' ≠ '"' by decide)]

end Readers

/-! ### The messages -/

/-- **The payload says a trade** with these numbers. -/
structure TradeSaid (payload : List Char) (context : BinanceMappingContext)
    (reading : TradeReading) : Prop where
  symbol : SaysSymbol payload context
  tradeId : SaysNumber payload 't' reading.tradeId
  tradeIdFits : reading.tradeId < 2 ^ 64
  timeMs : SaysNumber payload 'T' reading.timeMs
  timeFits : reading.timeMs * 10 ^ 6 < 2 ^ 64
  price : SaysFixed payload 'p' context.priceScale reading.price
  quantity : SaysFixed payload 'q' context.quantityScale reading.quantity
  buyerIsMaker : SaysFlag payload 'm' reading.buyerIsMaker

/-- **The payload says a best bid and offer** with these numbers. -/
structure QuoteSaid (payload : List Char) (context : BinanceMappingContext)
    (reading : QuoteReading) : Prop where
  symbol : SaysSymbol payload context
  updateId : SaysNumber payload 'u' reading.updateId
  updateIdFits : reading.updateId < 2 ^ 64
  bidPrice : SaysFixed payload 'b' context.priceScale reading.bidPrice
  bidQty : SaysFixed payload 'B' context.quantityScale reading.bidQty
  askPrice : SaysFixed payload 'a' context.priceScale reading.askPrice
  askQty : SaysFixed payload 'A' context.quantityScale reading.askQty

/-- A mapper succeeds exactly on the messages, then its event carries what they say, and else the output
is left alone. -/
structure Exact {Reading Event : Type} (run : Event → Bool × Event) (message : Reading → Prop)
    (carries : Reading → Event → Prop) : Prop where
  decodes : ∀ out, Decodes (run out) message carries
  untouched : ∀ out, (run out).1 = false → (run out).2 = out

theorem exact_writeOut {Reading Event : Type} {read : Option Event} {message : Reading → Prop}
    {carries : Reading → Event → Prop}
    (accepted : ∀ reading, message reading → ∃ event, read = some event ∧ carries reading event)
    (only : ∀ event, read = some event → ∃ reading, message reading) :
    Exact (fun out => writeOut out read) message carries where
  decodes _ := decodes_writeOut accepted only
  untouched out failed := by
    cases read with
    | none => rfl
    | some event => cases failed

/-- A mapper that stamps the event of another is as exact as that one. -/
theorem Exact.stamped {Reading Event : Type} {run stamped : Event → Bool × Event}
    {message : Reading → Prop} {carries shows : Reading → Event → Prop} {stamp : Event → Event}
    (exact : Exact run message carries)
    (fails : ∀ out event, run out = (false, event) → stamped out = (false, event))
    (succeeds : ∀ out event, run out = (true, event) → stamped out = (true, stamp event))
    (stamps : ∀ reading event, carries reading event → shows reading (stamp event)) :
    Exact stamped message shows := by
  constructor
  · intro out
    have decodes := exact.decodes out
    cases result : run out with
    | mk ok event =>
        rw [result] at decodes
        cases ok with
        | false =>
            rw [fails out event result]
            refine ⟨decodes.succeeds, fun reading said => ?_⟩
            cases decodes.succeeds.mpr ⟨reading, said⟩
        | true =>
            rw [succeeds out event result]
            exact ⟨decodes.succeeds, fun reading said => stamps _ _ (decodes.carried reading said)⟩
  · intro out failed
    have untouched := exact.untouched out
    cases result : run out with
    | mk ok event =>
        rw [result] at untouched
        cases ok with
        | false =>
            rw [fails out event result]
            exact untouched rfl
        | true =>
            rw [succeeds out event result] at failed
            cases failed

section Mappers

variable [QuoteCore] {payload : List Char} {context : BinanceMappingContext}

theorem readTrade_of_said {reading : TradeReading} (said : TradeSaid payload context reading) :
    ∃ trade, readTrade payload context = some trade ∧ TradeCarries context reading trade := by
  obtain ⟨symbol, s, matched⟩ := saysSymbol_iff.mp said.symbol
  obtain ⟨tradeId, t, sameId⟩ := said.tradeId.read (by decide) said.tradeIdFits
  obtain ⟨priceText, price, p, parsedPrice, samePrice⟩ := said.price.read (by decide)
  obtain ⟨quantityText, quantity, q, parsedQuantity, sameQuantity⟩ := said.quantity.read (by decide)
  have fits := said.timeFits
  obtain ⟨timeMs, T, sameTime⟩ := said.timeMs.read (by decide) (by omega)
  have m := (readJsonBool_iff (by decide)).mpr said.buyerIsMaker
  have word : (UInt64.ofNat (timeMs.toNat * 1000000)).toNat = timeMs.toNat * 1000000 :=
    UInt64.toNat_ofNat_of_lt' (by rw [sameTime]; exact fits)
  refine ⟨_, readTrade_eq_some_iff.mpr ⟨symbol, tradeId, priceText, quantityText, timeMs, _, price,
    quantity, _, s, t, p, q, T, m, matched, parsedPrice, parsedQuantity,
    msToNs_eq_some_iff.mpr word, rfl⟩, ?_⟩
  exact
    { sourceId := rfl, venueId := rfl, instrumentId := rfl
      exchangeSeq := sameId
      exchangeTsNs := word.trans (congrArg (· * 1000000) sameTime)
      tradeId := sameId
      price := samePrice
      quantity := sameQuantity
      aggressorSide := rfl }

theorem said_of_readTrade {trade : Trade} (read : readTrade payload context = some trade) :
    ∃ reading, TradeSaid payload context reading := by
  obtain ⟨symbol, tradeId, priceText, quantityText, timeMs, maker, _, _, sourceTsNs, s, t, p, q, T,
    m, matched, parsedPrice, parsedQuantity, converted, -⟩ := readTrade_eq_some_iff.mp read
  obtain ⟨price, priceFixed⟩ := saysFixed_of_read (by decide) p parsedPrice
  obtain ⟨quantity, quantityFixed⟩ := saysFixed_of_read (by decide) q parsedQuantity
  have nanoseconds := msToNs_eq_some_iff.mp converted
  exact ⟨⟨tradeId.toNat, timeMs.toNat, price, quantity, maker⟩,
    { symbol := saysSymbol_iff.mpr ⟨symbol, s, matched⟩
      tradeId := (readJsonU64_iff (by decide)).mp t
      tradeIdFits := tradeId.toNat_lt
      timeMs := (readJsonU64_iff (by decide)).mp T
      timeFits := nanoseconds ▸ sourceTsNs.toNat_lt
      price := priceFixed
      quantity := quantityFixed
      buyerIsMaker := (readJsonBool_iff (by decide)).mp m }⟩

theorem readQuote_of_said {reading : QuoteReading} (said : QuoteSaid payload context reading) :
    ∃ quote, readQuote payload context = some quote ∧ QuoteCarries context reading quote := by
  obtain ⟨symbol, s, matched⟩ := saysSymbol_iff.mp said.symbol
  obtain ⟨updateId, u, sameId⟩ := said.updateId.read (by decide) said.updateIdFits
  obtain ⟨bidPriceText, bidPrice, b, parsedBidPrice, sameBidPrice⟩ := said.bidPrice.read (by decide)
  obtain ⟨bidQuantityText, bidQty, B, parsedBidQty, sameBidQty⟩ := said.bidQty.read (by decide)
  obtain ⟨askPriceText, askPrice, a, parsedAskPrice, sameAskPrice⟩ := said.askPrice.read (by decide)
  obtain ⟨askQuantityText, askQty, A, parsedAskQty, sameAskQty⟩ := said.askQty.read (by decide)
  refine ⟨_, readQuote_eq_some_iff.mpr ⟨symbol, updateId, bidPriceText, bidQuantityText,
    askPriceText, askQuantityText, bidPrice, bidQty, askPrice, askQty, s, u, b, B, a, A, matched,
    parsedBidPrice, parsedBidQty, parsedAskPrice, parsedAskQty, rfl⟩, ?_⟩
  exact
    { sourceId := rfl, venueId := rfl, instrumentId := rfl
      exchangeSeq := sameId
      bidPrice := sameBidPrice
      bidQty := sameBidQty
      askPrice := sameAskPrice
      askQty := sameAskQty }

theorem said_of_readQuote {quote : Quote} (read : readQuote payload context = some quote) :
    ∃ reading, QuoteSaid payload context reading := by
  obtain ⟨symbol, updateId, _, _, _, _, _, _, _, _, s, u, b, B, a, A, matched, parsedBidPrice,
    parsedBidQty, parsedAskPrice, parsedAskQty, -⟩ := readQuote_eq_some_iff.mp read
  obtain ⟨bidPrice, bidPriceFixed⟩ := saysFixed_of_read (by decide) b parsedBidPrice
  obtain ⟨bidQty, bidQtyFixed⟩ := saysFixed_of_read (by decide) B parsedBidQty
  obtain ⟨askPrice, askPriceFixed⟩ := saysFixed_of_read (by decide) a parsedAskPrice
  obtain ⟨askQty, askQtyFixed⟩ := saysFixed_of_read (by decide) A parsedAskQty
  exact ⟨⟨updateId.toNat, bidPrice, bidQty, askPrice, askQty⟩,
    { symbol := saysSymbol_iff.mpr ⟨symbol, s, matched⟩
      updateId := (readJsonU64_iff (by decide)).mp u
      updateIdFits := updateId.toNat_lt
      bidPrice := bidPriceFixed
      bidQty := bidQtyFixed
      askPrice := askPriceFixed
      askQty := askQtyFixed }⟩

theorem mapTradeToTrade_exact (payload : List Char) (context : BinanceMappingContext) :
    Exact (mapTradeToTrade payload context) (TradeSaid payload context) (TradeCarries context) :=
  exact_writeOut (fun _ said => readTrade_of_said said) fun _ read => said_of_readTrade read

theorem mapBookTickerToQuote_exact (payload : List Char) (context : BinanceMappingContext) :
    Exact (mapBookTickerToQuote payload context) (QuoteSaid payload context)
      (QuoteCarries context) :=
  exact_writeOut (fun _ said => readQuote_of_said said) fun _ read => said_of_readQuote read

/-- The header says where and when a message was captured. -/
structure CapturedFrom (envelope : MessageEnvelope) (kind : EventKind) (header : CapturedHeader) :
    Prop where
  kind : header.kind = kind
  flags : header.flags = envelope.flags
  feedId : header.feedId = envelope.feedId
  connectionId : header.connectionId = envelope.connectionId
  captureSeq : header.captureSeq = envelope.captureSeq
  eventSeq : header.eventSeq = envelope.eventSeq
  recvTsNs : header.recvTsNs = envelope.recvTsNs
  sendTsNs : header.sendTsNs = envelope.publishTsNs

theorem mapTradeMessageToTrade_exact (message : FeedMessageView) (context : BinanceMappingContext) :
    Exact (mapTradeMessageToTrade message context) (TradeSaid (textView message.payload) context)
      (fun reading trade => TradeCarries context reading trade ∧
        CapturedFrom message.envelope QuoteCore.tradeKind trade.header) := by
  refine (mapTradeToTrade_exact (textView message.payload) context).stamped
    (fun out event failed => by rw [mapTradeMessageToTrade, failed])
    (fun out event made => by rw [mapTradeMessageToTrade, made]) ?_
  intro reading trade carried
  exact ⟨{ carried with sourceId := rfl, venueId := rfl, instrumentId := rfl },
    ⟨rfl, rfl, rfl, rfl, rfl, rfl, rfl, rfl⟩⟩

theorem mapBookTickerMessageToQuote_exact (message : FeedMessageView)
    (context : BinanceMappingContext) :
    Exact (mapBookTickerMessageToQuote message context)
      (QuoteSaid (textView message.payload) context)
      (fun reading quote => QuoteCarries context reading quote ∧
        CapturedFrom message.envelope QuoteCore.quoteKind quote.header ∧
        quote.header.exchangeTsNs = message.envelope.sourceTsNs) := by
  refine (mapBookTickerToQuote_exact (textView message.payload) context).stamped
    (fun out event failed => by rw [mapBookTickerMessageToQuote, failed])
    (fun out event made => by rw [mapBookTickerMessageToQuote, made]) ?_
  intro reading quote carried
  exact ⟨{ carried with sourceId := rfl, venueId := rfl, instrumentId := rfl },
    ⟨rfl, rfl, rfl, rfl, rfl, rfl, rfl, rfl⟩, rfl⟩

/-- **The Binance mappers are exact on every payload**, JSON or not, in every context: a mapper succeeds
exactly if the payload says a whole message, whatever else stands in it; then every number of its
event is the number that is said, and else the output is left alone. Given a message, its event also
keeps where and when the message was captured. -/
theorem any_payload_decodes :
    (∀ payload context,
      Exact (mapTradeToTrade payload context) (TradeSaid payload context) (TradeCarries context) ∧
      Exact (mapBookTickerToQuote payload context) (QuoteSaid payload context)
        (QuoteCarries context)) ∧
    ∀ message context,
      Exact (mapTradeMessageToTrade message context) (TradeSaid (textView message.payload) context)
        (fun reading trade => TradeCarries context reading trade ∧
          CapturedFrom message.envelope QuoteCore.tradeKind trade.header) ∧
      Exact (mapBookTickerMessageToQuote message context)
        (QuoteSaid (textView message.payload) context)
        (fun reading quote => QuoteCarries context reading quote ∧
          CapturedFrom message.envelope QuoteCore.quoteKind quote.header ∧
          quote.header.exchangeTsNs = message.envelope.sourceTsNs) :=
  ⟨fun payload context =>
      ⟨mapTradeToTrade_exact payload context, mapBookTickerToQuote_exact payload context⟩,
    fun message context =>
      ⟨mapTradeMessageToTrade_exact message context,
        mapBookTickerMessageToQuote_exact message context⟩⟩

end Mappers

end MarketDataFabric.Providers.Binance
