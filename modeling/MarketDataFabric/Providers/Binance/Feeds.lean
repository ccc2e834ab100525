/-
**Feeds and connections of the provider**, `providers/crypto/binance/feeds.hpp`, `endpoints.hpp` and
`types.hpp`: the feeds a specification asks for, and the URL of the connection that carries them.

* `Resolves`, `resolveFeeds_eq_ok_iff` — **what a specification resolves to**: one feed of all symbols,
  or one feed for each symbol, in order.
* `Site`, `makeEndpointBase_eq_ok_iff` — where a market is served in an environment.
* `makeConnectionSpec_eq_ok_iff` — a specification has a connection exactly when it resolves and its market
  is served; the connection is determined by both.
* `connection_pinned` — **no symbol can change where a connection goes**: host, port and TLS are those
  of the site, and the keys are read back from the target unless one contains a slash.
* `feeds_apart` — feeds of different symbols have different keys.
-/

import Mathlib.Data.List.Forall2
import Mathlib.Data.List.Nodup
import MarketDataFabric.Feed.StableId
import MarketDataFabric.Net.WebSocketEndpoint
import MarketDataFabric.Providers.Binance.FeedKeys
import MarketDataFabric.Providers.Binance.Mappers

namespace MarketDataFabric.Providers.Binance

open MarketDataFabric.Feed MarketDataFabric.Net Library

structure BinanceEnvironment where
  value : UInt8
deriving Repr, DecidableEq

namespace BinanceEnvironment

def production : BinanceEnvironment := ⟨0⟩

def marketDataOnly : BinanceEnvironment := ⟨1⟩

def testnet : BinanceEnvironment := ⟨2⟩

def demo : BinanceEnvironment := ⟨3⟩

end BinanceEnvironment

/-- The members of the source's `BinanceFeedSpec` that a key does not depend on, beside those it does
depend on. -/
structure BinanceSymbolsSpec extends BinanceFeedSpec where
  symbols : List (List Char) := []
  payloadEncoding : PayloadEncoding := .providerJson
deriving Repr, DecidableEq

/-- `ResolvedFeed` with the members that no envelope carries. -/
structure BinanceResolvedFeed extends ResolvedFeed where
  spec : FeedSpec := {}
  providerSymbol : List Char := []
  providerFeedKey : List Char := []
deriving Repr, DecidableEq

structure BinanceConnectionSpec where
  endpoint : List Char := []
  sourceId : UInt32 := 0
  connectionId : UInt32 := 0
  protocol : TransportProtocol := .webSocket
  compression : Compression := .none
  feeds : List BinanceResolvedFeed := []
  startupMessages : List (List Char) := []
deriving Repr, DecidableEq

/-- What the envelopes of a connection carry of it. -/
def BinanceConnectionSpec.toFeedConnectionSpec (connection : BinanceConnectionSpec) :
    FeedConnectionSpec where
  sourceId := connection.sourceId
  connectionId := connection.connectionId
  protocol := connection.protocol
  compression := connection.compression
  feeds := connection.feeds.map BinanceResolvedFeed.toResolvedFeed

/-- The identifier of a text of bytes. -/
def stableIdOf (text : List Char) : UInt32 := stableId32 (text.map Char.toUInt8)

/-! ### Resolution -/

/-- The members that both resolutions fill alike. -/
def fillFeed (spec : BinanceSymbolsSpec) (symbols : List (List Char))
    (providerSymbol providerFeedKey : List Char) : BinanceResolvedFeed where
  spec :=
    { venue := .binance, market := spec.market, symbols, kind := spec.kind, depth := spec.depth,
      speed := spec.speed, payloadEncoding := spec.payloadEncoding }
  providerSymbol
  providerFeedKey
  sourceId := kBinanceSourceId
  feedId := stableIdOf (makeFeedIdSeed spec.market providerFeedKey)
  payloadEncoding := spec.payloadEncoding

def resolveSymbolFeed (spec : BinanceSymbolsSpec) (symbol : List Char) :
    Except String BinanceResolvedFeed := do
  let providerSymbol ← normalizeSymbol symbol
  let providerFeedKey ← makeProviderFeedKey spec.toBinanceFeedSpec symbol
  return fillFeed spec [symbol] providerSymbol providerFeedKey

def resolveAllSymbolsFeed (spec : BinanceSymbolsSpec) : Except String BinanceResolvedFeed := do
  let providerFeedKey ← makeAllSymbolsProviderFeedKey spec.toBinanceFeedSpec
  return fillFeed spec [] [] providerFeedKey

/-- The body of the loop over the symbols. -/
def resolveListedSymbol (spec : BinanceSymbolsSpec) (symbol : List Char) :
    Except String BinanceResolvedFeed :=
  if isAllSymbolToken symbol then .error "Binance ALL symbol token 必须是列表里唯一的 symbol"
  else resolveSymbolFeed spec symbol

def resolveFeeds (spec : BinanceSymbolsSpec) : Except String (List BinanceResolvedFeed) :=
  if isAllSymbols spec.symbols then do
    let feed ← resolveAllSymbolsFeed spec
    return [feed]
  else spec.symbols.mapM (resolveListedSymbol spec)

def resolveFeed (spec : BinanceSymbolsSpec) : Except String BinanceResolvedFeed := do
  match ← resolveFeeds spec with
  | [feed] => return feed
  | [] | _ :: _ :: _ => throw "resolve_feed 要求只有一个已解析的 Binance feed"

/-! ### Connections -/

def makeEndpointBase (market : MarketSegment) (environment : BinanceEnvironment)
    (multiFeed : Bool) : Except String (List Char) := do
  requireSupportedMarket market
  if market = .spot ∧ environment = .production then
    return if multiFeed then "wss://stream.binance.com:9443/stream?streams=".toList
      else "wss://stream.binance.com:9443/ws/".toList
  else if market = .spot ∧ environment = .marketDataOnly then
    return if multiFeed then "wss://data-stream.binance.vision:443/stream?streams=".toList
      else "wss://data-stream.binance.vision:443/ws/".toList
  else if market = .spot ∧ environment = .testnet then
    return if multiFeed then "wss://stream.testnet.binance.vision/stream?streams=".toList
      else "wss://stream.testnet.binance.vision/ws/".toList
  else if market = .spot ∧ environment = .demo then
    return if multiFeed then "wss://demo-stream.binance.com:9443/stream?streams=".toList
      else "wss://demo-stream.binance.com:9443/ws/".toList
  else if environment = .testnet ∨ environment = .demo then
    throw "Binance 非 spot 的非生产 endpoint 尚未配置"
  else if market = .linearDerivative then
    return if multiFeed then "wss://fstream.binance.com/stream?streams=".toList
      else "wss://fstream.binance.com/ws/".toList
  else if market = .inverseDerivative then
    return if multiFeed then "wss://dstream.binance.com/stream?streams=".toList
      else "wss://dstream.binance.com/ws/".toList
  else if market = .option then
    return if multiFeed then "wss://fstream.binance.com/public/stream?streams=".toList
      else "wss://fstream.binance.com/public/ws/".toList
  else throw "不支持的 Binance market endpoint"

/-- The overload for resolved feeds. -/
def makeConnectionOfFeeds (connectionId : UInt32) (environment : BinanceEnvironment)
    (feeds : List BinanceResolvedFeed) : Except String BinanceConnectionSpec :=
  match feeds with
  | [] => .error "Binance feed 列表不能为空"
  | first :: _ =>
      let market := first.spec.market
      if feeds.any fun feed => feed.spec.market ≠ market then
        .error "同一个 Binance connection 内的 feeds 必须使用相同 market segment"
      else do
        let base ← makeEndpointBase market environment (feeds.length ≠ 1)
        return {
          sourceId := kBinanceSourceId
          connectionId
          protocol := .webSocket
          compression := .none
          feeds
          endpoint := base ++ ['/'].intercalate (feeds.map BinanceResolvedFeed.providerFeedKey) }

def makeConnectionSpec (connectionId : UInt32) (environment : BinanceEnvironment)
    (spec : BinanceSymbolsSpec) : Except String BinanceConnectionSpec := do
  let feeds ← resolveFeeds spec
  makeConnectionOfFeeds connectionId environment feeds

/-! ### What a specification resolves to -/

/-- The markets the provider has. -/
def Supported (market : MarketSegment) : Prop :=
  market = .spot ∨ market = .linearDerivative ∨ market = .inverseDerivative ∨ market = .option

theorem requireSupportedMarket_eq_ok_iff {market : MarketSegment} :
    requireSupportedMarket market = .ok () ↔ Supported market := by
  unfold requireSupportedMarket Supported
  split_ifs with unsupported
  · simp only [false_iff, not_or]
    exact unsupported
  · simp only [true_iff]
    by_contra none
    simp only [not_or] at none
    exact unsupported none

theorem requireSupportedMarket_of {market : MarketSegment} {answer : Unit}
    (accepted : requireSupportedMarket market = .ok answer) : Supported market :=
  requireSupportedMarket_eq_ok_iff.mp accepted

theorem speedSuffix_of_mem {speed : FeedSpeed} {pace : Pace} (paced : speed ∈ pace.speeds) :
    speedSuffix speed = .ok pace.code := by
  cases pace with
  | realTime =>
      rcases List.mem_pair.mp paced with rfl | rfl <;> rfl
  | ms100 | ms250 | ms500 =>
      obtain rfl := List.mem_singleton.mp paced
      rfl

theorem normalizeSymbol_of {symbol : List Char} (named : symbol ≠ []) :
    normalizeSymbol symbol = .ok (symbol.map asciiLower) := if_neg named

/-- **A symbol has a key** where the market, the symbol and the stream allow it. -/
theorem makeProviderFeedKey_of_carries {spec : BinanceFeedSpec} {stream : Stream}
    (supported : Supported spec.market) (carried : Carries spec stream) {symbol : List Char}
    (named : symbol ≠ []) :
    makeProviderFeedKey spec symbol = .ok (symbol.map asciiLower ++ stream.code) := by
  have market := requireSupportedMarket_eq_ok_iff.mpr supported
  obtain ⟨segment, kind, depth, speed⟩ := spec
  unfold makeProviderFeedKey
  rw [market, normalizeSymbol_of named]
  cases carried with
  | trade known other =>
      obtain rfl : kind = .trade := known
      show Except.ok (_ ++ if segment = .option then _ else _) = _
      rw [if_neg other]
      rfl
  | optionTrade known option =>
      obtain rfl : kind = .trade := known
      show Except.ok (_ ++ if segment = .option then _ else _) = _
      rw [if_pos option]
      rfl
  | aggregateTrade known =>
      obtain rfl : kind = .aggregateTrade := known
      rfl
  | topOfBook known =>
      obtain rfl : kind = .topOfBook := known
      rfl
  | bookUpdate known paced =>
      obtain rfl : kind = .bookUpdate := known
      have suffix := speedSuffix_of_mem paced
      dsimp only at suffix ⊢
      rw [suffix]
      exact congrArg Except.ok (List.append_assoc _ _ _)
  | @bookSnapshot levels pace known deep paced =>
      obtain rfl : kind = .bookSnapshot := known
      obtain rfl : depth = levels.depth := deep
      have suffix := speedSuffix_of_mem paced
      dsimp only at suffix ⊢
      rw [suffix]
      cases levels with
      | top5 | top10 | top20 =>
          refine congrArg Except.ok ?_
          rw [List.append_assoc, List.append_assoc]
          exact congrArg _ (List.append_assoc _ _ _).symm

/-- A specification asks for one stream. -/
theorem carries_unique {spec : BinanceFeedSpec} (supported : Supported spec.market)
    {one other : Stream} (here : Carries spec one) (there : Carries spec other) : one = other := by
  have first := makeProviderFeedKey_of_carries supported here (List.cons_ne_nil 's' [])
  rw [makeProviderFeedKey_of_carries supported there (List.cons_ne_nil 's' [])] at first
  exact (code_unique (Except.ok.inj first)).2.symm

/-- A list of answers is answered where every member is. -/
theorem mapM_eq_ok_iff {ε α β : Type} {answer : α → Except ε β} {asked : List α} {answers : List β} :
    asked.mapM answer = .ok answers ↔ List.Forall₂ (fun one said => answer one = .ok said) asked
      answers := by
  induction asked generalizing answers with
  | nil =>
      rw [List.mapM_nil, List.forall₂_nil_left_iff]
      exact ⟨fun same => (Except.ok.inj same).symm, fun same => by rw [same]; rfl⟩
  | cons one rest ih =>
      rw [List.mapM_cons]
      constructor
      · intro made
        obtain ⟨said, first, made⟩ := exists_ok_of_bind made
        obtain ⟨others, later, made⟩ := exists_ok_of_bind made
        obtain rfl := Except.ok.inj made
        exact .cons first (ih.mp later)
      · rintro (_ | ⟨first, later⟩)
        rw [first, ih.mpr later]
        rfl

/-- The feed of a symbol that carries a stream. -/
def symbolFeed (spec : BinanceSymbolsSpec) (stream : Stream) (symbol : List Char) :
    BinanceResolvedFeed :=
  fillFeed spec [symbol] (symbol.map asciiLower) (symbol.map asciiLower ++ stream.code)

/-- **What a specification resolves to**, on a supported market: the feed of all symbols, or a feed of
one stream for each symbol. -/
inductive Resolves (spec : BinanceSymbolsSpec) : List BinanceResolvedFeed → Prop
  | all : isAllSymbols spec.symbols = true → spec.kind = .topOfBook →
      Resolves spec [fillFeed spec [] [] "!bookTicker".toList]
  | each {stream : Stream} : isAllSymbols spec.symbols = false →
      (∀ symbol ∈ spec.symbols, symbol ≠ [] ∧ isAllSymbolToken symbol = false) →
      Carries spec.toBinanceFeedSpec stream →
      Resolves spec (spec.symbols.map (symbolFeed spec stream))

theorem Resolves.ne_nil {spec : BinanceSymbolsSpec} {feeds : List BinanceResolvedFeed}
    (resolves : Resolves spec feeds) : feeds ≠ [] := by
  cases resolves with
  | all => exact List.cons_ne_nil _ _
  | each listed =>
      intro nothing
      rw [List.map_eq_nil_iff.mp nothing] at listed
      cases listed

theorem Resolves.market {spec : BinanceSymbolsSpec} {feeds : List BinanceResolvedFeed}
    (resolves : Resolves spec feeds) : ∀ feed ∈ feeds, feed.spec.market = spec.market := by
  intro feed member
  cases resolves with
  | all =>
      obtain rfl := List.mem_singleton.mp member
      rfl
  | each =>
      obtain ⟨symbol, -, rfl⟩ := List.mem_map.mp member
      rfl

theorem resolveListedSymbol_eq_ok {spec : BinanceSymbolsSpec} {symbol : List Char}
    {feed : BinanceResolvedFeed} (made : resolveListedSymbol spec symbol = .ok feed) :
    isAllSymbolToken symbol = false ∧ symbol ≠ [] ∧ Supported spec.market ∧
      ∃ stream, Carries spec.toBinanceFeedSpec stream ∧ feed = symbolFeed spec stream symbol := by
  unfold resolveListedSymbol at made
  split_ifs at made with token
  unfold resolveSymbolFeed at made
  obtain ⟨lower, named, made⟩ := exists_ok_of_bind made
  obtain ⟨key, keyed, made⟩ := exists_ok_of_bind made
  obtain ⟨stream, carried, rfl⟩ := makeProviderFeedKey_eq_ok keyed
  unfold makeProviderFeedKey at keyed
  obtain ⟨_, market, -⟩ := exists_ok_of_bind keyed
  unfold normalizeSymbol at named
  split_ifs at named with nameless
  obtain rfl := Except.ok.inj named
  exact ⟨Bool.not_eq_true _ ▸ token, nameless, requireSupportedMarket_of market, stream, carried,
    (Except.ok.inj made).symm⟩

theorem resolveListedSymbol_of {spec : BinanceSymbolsSpec} {stream : Stream}
    (supported : Supported spec.market) (carried : Carries spec.toBinanceFeedSpec stream)
    {symbol : List Char} (named : symbol ≠ []) (listed : isAllSymbolToken symbol = false) :
    resolveListedSymbol spec symbol = .ok (symbolFeed spec stream symbol) := by
  rw [resolveListedSymbol, if_neg (by rw [listed]; decide), resolveSymbolFeed,
    normalizeSymbol_of named, makeProviderFeedKey_of_carries supported carried named]
  rfl

/-- **The resolution** of a specification: it is made exactly where the market is supported. -/
theorem resolveFeeds_eq_ok_iff {spec : BinanceSymbolsSpec} {feeds : List BinanceResolvedFeed} :
    resolveFeeds spec = .ok feeds ↔ Supported spec.market ∧ Resolves spec feeds := by
  unfold resolveFeeds
  by_cases all : isAllSymbols spec.symbols = true
  · rw [if_pos all]
    constructor
    · intro made
      obtain ⟨feed, resolved, made⟩ := exists_ok_of_bind made
      obtain rfl := Except.ok.inj made
      unfold resolveAllSymbolsFeed makeAllSymbolsProviderFeedKey at resolved
      obtain ⟨key, keyed, resolved⟩ := exists_ok_of_bind resolved
      obtain ⟨_, market, keyed⟩ := exists_ok_of_bind keyed
      obtain rfl := Except.ok.inj resolved
      by_cases top : spec.kind = .topOfBook
      · rw [if_pos top] at keyed
        obtain rfl := Except.ok.inj keyed
        exact ⟨requireSupportedMarket_of market, .all all top⟩
      · rw [if_neg top] at keyed
        cases keyed
    · rintro ⟨supported, resolves⟩
      cases resolves with
      | all _ top =>
          have keyed : makeAllSymbolsProviderFeedKey spec.toBinanceFeedSpec =
              .ok "!bookTicker".toList := by
            rw [makeAllSymbolsProviderFeedKey, requireSupportedMarket_eq_ok_iff.mpr supported]
            exact if_pos top
          rw [resolveAllSymbolsFeed, keyed]
          rfl
      | each listed => exact absurd (all.symm.trans listed) (by decide)
  · rw [if_neg all, mapM_eq_ok_iff]
    constructor
    · intro answered
      have listed : isAllSymbols spec.symbols = false := Bool.not_eq_true _ ▸ all
      obtain ⟨supported, stream, carried⟩ :
          Supported spec.market ∧ ∃ stream, Carries spec.toBinanceFeedSpec stream := by
        cases symbols : spec.symbols with
        | nil => exact absurd (symbols ▸ listed) (by decide)
        | cons symbol rest =>
            rw [symbols, List.forall₂_cons_left_iff] at answered
            obtain ⟨feed, _, made, -, -⟩ := answered
            obtain ⟨-, -, supported, stream, carried, -⟩ := resolveListedSymbol_eq_ok made
            exact ⟨supported, stream, carried⟩
      have each := answered.imp fun symbol feed made =>
        show (symbol ≠ [] ∧ isAllSymbolToken symbol = false) ∧ symbolFeed spec stream symbol = feed by
          obtain ⟨token, named, -, other, same, rfl⟩ := resolveListedSymbol_eq_ok made
          rw [carries_unique supported carried same]
          exact ⟨⟨named, token⟩, rfl⟩
      rw [List.forall₂_and_left, ← List.forall₂_map_left_iff, List.forall₂_eq_eq_eq] at each
      exact ⟨supported, each.2 ▸ .each listed each.1 carried⟩
    · rintro ⟨supported, resolves⟩
      cases resolves with
      | all here => exact absurd here all
      | @each stream _ named carried =>
          rw [List.forall₂_map_right_iff, List.forall₂_same]
          exact fun symbol member =>
            resolveListedSymbol_of supported carried (named symbol member).1 (named symbol member).2

/-! ### Sites -/

/-- Where a market is served: an authority, what it names, and the path in front of the streams. -/
structure Site where
  authority : List Char
  host : List Char
  port : List Char
  root : List Char := []
deriving Repr, DecidableEq

/-- The URL in front of the keys. -/
def Site.base (site : Site) (multiFeed : Bool) : List Char :=
  wssPrefix ++ (site.authority ++ (site.root ++
    if multiFeed then "/stream?streams=".toList else "/ws/".toList))

def siteOf (market : MarketSegment) (environment : BinanceEnvironment) : Option Site :=
  if market = .spot then
    if environment = .production then
      some ⟨"stream.binance.com:9443".toList, "stream.binance.com".toList, "9443".toList, []⟩
    else if environment = .marketDataOnly then
      some ⟨"data-stream.binance.vision:443".toList, "data-stream.binance.vision".toList,
        "443".toList, []⟩
    else if environment = .testnet then
      some ⟨"stream.testnet.binance.vision".toList, "stream.testnet.binance.vision".toList,
        "443".toList, []⟩
    else if environment = .demo then
      some ⟨"demo-stream.binance.com:9443".toList, "demo-stream.binance.com".toList,
        "9443".toList, []⟩
    else none
  else if environment = .testnet ∨ environment = .demo then none
  else if market = .linearDerivative then
    some ⟨"fstream.binance.com".toList, "fstream.binance.com".toList, "443".toList, []⟩
  else if market = .inverseDerivative then
    some ⟨"dstream.binance.com".toList, "dstream.binance.com".toList, "443".toList, []⟩
  else if market = .option then
    some ⟨"fstream.binance.com".toList, "fstream.binance.com".toList, "443".toList,
      "/public".toList⟩
  else none

/-- A site that can be connected to: its authority names its host and port, and its root begins the
path. -/
structure Site.Sound (site : Site) : Prop where
  names : Names true site.authority site.host site.port
  slashless : '/' ∉ site.authority
  rooted : site.root = [] ∨ ∃ rest, site.root = '/' :: rest

theorem site_sound {market : MarketSegment} {environment : BinanceEnvironment} {site : Site}
    (served : siteOf market environment = some site) : site.Sound := by
  have explicit : ∀ (host port root : List Char), ':' ∉ port → host ≠ [] → port ≠ [] →
      '/' ∉ host ++ ':' :: port → (root = [] ∨ ∃ rest, root = '/' :: rest) →
      Site.Sound ⟨host ++ ':' :: port, host, port, root⟩ := fun host port root plain hosted ported
        slashless rooted => ⟨.explicit plain hosted ported, slashless, rooted⟩
  have bare : ∀ (host root : List Char), ':' ∉ host → host ≠ [] → '/' ∉ host →
      (root = [] ∨ ∃ rest, root = '/' :: rest) →
      Site.Sound ⟨host, host, "443".toList, root⟩ := fun host root plain hosted slashless rooted =>
        ⟨.bare plain hosted, slashless, rooted⟩
  unfold siteOf at served
  split_ifs at served
  · obtain rfl := Option.some.inj served
    exact explicit "stream.binance.com".toList "9443".toList [] (by decide) (by decide) (by decide)
      (by decide) (Or.inl rfl)
  · obtain rfl := Option.some.inj served
    exact explicit "data-stream.binance.vision".toList "443".toList [] (by decide) (by decide)
      (by decide) (by decide) (Or.inl rfl)
  · obtain rfl := Option.some.inj served
    exact bare "stream.testnet.binance.vision".toList [] (by decide) (by decide) (by decide)
      (Or.inl rfl)
  · obtain rfl := Option.some.inj served
    exact explicit "demo-stream.binance.com".toList "9443".toList [] (by decide) (by decide)
      (by decide) (by decide) (Or.inl rfl)
  · obtain rfl := Option.some.inj served
    exact bare "fstream.binance.com".toList [] (by decide) (by decide) (by decide) (Or.inl rfl)
  · obtain rfl := Option.some.inj served
    exact bare "dstream.binance.com".toList [] (by decide) (by decide) (by decide) (Or.inl rfl)
  · obtain rfl := Option.some.inj served
    exact bare "fstream.binance.com".toList "/public".toList (by decide) (by decide) (by decide)
      (Or.inr ⟨_, rfl⟩)

/-- The base of an endpoint is that of the site, where there is one. -/
theorem makeEndpointBase_toOption (market : MarketSegment) (environment : BinanceEnvironment)
    (multiFeed : Bool) :
    (makeEndpointBase market environment multiFeed).toOption =
      (siteOf market environment).map fun site => site.base multiFeed := by
  unfold makeEndpointBase siteOf
  by_cases spot : market = .spot
  · subst spot
    have others : MarketSegment.spot ≠ .linearDerivative ∧ MarketSegment.spot ≠ .inverseDerivative ∧
        MarketSegment.spot ≠ .option := by decide
    rw [requireSupportedMarket_eq_ok_iff.mpr (Or.inl rfl)]
    simp only [true_and, if_true, others, if_false, bind, Except.bind]
    cases multiFeed <;> simp only [Bool.false_eq_true, if_false, if_true] <;> split_ifs <;> rfl
  · simp only [spot, false_and, if_false]
    by_cases unset : environment = .testnet ∨ environment = .demo
    · simp only [if_pos unset, bind, Except.bind]
      cases requireSupportedMarket market <;> rfl
    · simp only [if_neg unset]
      by_cases supported : Supported market
      · rw [requireSupportedMarket_eq_ok_iff.mpr supported]
        simp only [bind, Except.bind]
        cases multiFeed <;> simp only [Bool.false_eq_true, if_false, if_true] <;>
          split_ifs <;> rfl
      · obtain ⟨-, linear, inverse, option⟩ := by
          simpa only [Supported, not_or] using supported
        simp only [linear, inverse, option, if_false, bind, Except.bind]
        cases requireSupportedMarket market <;> rfl

theorem Except.ok_of_toOption {ε α : Type} {answer : Except ε α} {value : α} :
    answer.toOption = some value ↔ answer = .ok value := by
  cases answer with
  | error reason => exact ⟨nofun, nofun⟩
  | ok said => exact ⟨fun same => congrArg Except.ok (Option.some.inj same), fun same =>
      congrArg some (Except.ok.inj same)⟩

theorem makeEndpointBase_eq_ok_iff {market : MarketSegment} {environment : BinanceEnvironment}
    {multiFeed : Bool} {base : List Char} :
    makeEndpointBase market environment multiFeed = .ok base ↔
      ∃ site, siteOf market environment = some site ∧ base = site.base multiFeed := by
  rw [← Except.ok_of_toOption, makeEndpointBase_toOption, Option.map_eq_some_iff]
  exact exists_congr fun site => and_congr_right fun _ => eq_comm

/-! ### Connections, exactly -/

/-- The keys of feeds, as the target of a connection lists them. -/
def joinedKeys (feeds : List BinanceResolvedFeed) : List Char :=
  ['/'].intercalate (feeds.map BinanceResolvedFeed.providerFeedKey)

/-- The connection of feeds to a site. -/
def connectionTo (site : Site) (connectionId : UInt32) (feeds : List BinanceResolvedFeed) :
    BinanceConnectionSpec where
  endpoint := site.base (feeds.length ≠ 1) ++ joinedKeys feeds
  sourceId := kBinanceSourceId
  connectionId
  feeds

/-- **Feeds have a connection** where they are of one market and it is served. -/
theorem makeConnectionOfFeeds_eq_ok_iff {connectionId : UInt32} {environment : BinanceEnvironment}
    {feeds : List BinanceResolvedFeed} {connection : BinanceConnectionSpec} :
    makeConnectionOfFeeds connectionId environment feeds = .ok connection ↔
      feeds ≠ [] ∧ ∃ market site, (∀ feed ∈ feeds, feed.spec.market = market) ∧
        siteOf market environment = some site ∧ connection = connectionTo site connectionId feeds := by
  cases feeds with
  | nil => exact ⟨nofun, fun made => absurd rfl made.1⟩
  | cons first rest =>
      simp only [makeConnectionOfFeeds]
      split_ifs with mixed
      · obtain ⟨feed, member, other⟩ := List.any_eq_true.mp mixed
        refine ⟨nofun, ?_⟩
        rintro ⟨-, market, site, same, -, -⟩
        refine absurd ?_ (of_decide_eq_true other)
        rw [same feed member, same first List.mem_cons_self]
      · have same : ∀ feed ∈ first :: rest, feed.spec.market = first.spec.market := by
          intro feed member
          by_contra other
          exact mixed (List.any_eq_true.mpr ⟨feed, member, decide_eq_true other⟩)
        constructor
        · intro made
          obtain ⟨base, based, made⟩ := exists_ok_of_bind made
          obtain ⟨site, served, rfl⟩ := makeEndpointBase_eq_ok_iff.mp based
          exact ⟨List.cons_ne_nil _ _, _, site, same, served, (Except.ok.inj made).symm⟩
        · rintro ⟨-, market, site, all, served, rfl⟩
          obtain rfl : first.spec.market = market := all first List.mem_cons_self
          rw [makeEndpointBase_eq_ok_iff.mpr ⟨site, served, rfl⟩]
          rfl

theorem supported_of_site {market : MarketSegment} {environment : BinanceEnvironment} {site : Site}
    (served : siteOf market environment = some site) : Supported market := by
  unfold siteOf at served
  unfold Supported
  split_ifs at served with spot _ _ _ _ _ linear inverse option
  · exact Or.inl spot
  · exact Or.inl spot
  · exact Or.inl spot
  · exact Or.inl spot
  · exact Or.inr (Or.inl linear)
  · exact Or.inr (Or.inr (Or.inl inverse))
  · exact Or.inr (Or.inr (Or.inr option))

/-- **The connections of specifications.** A specification has a connection exactly when it resolves
to feeds and its market is served in the environment, and the feeds and the site determine the
connection. -/
theorem makeConnectionSpec_eq_ok_iff {connectionId : UInt32} {environment : BinanceEnvironment}
    {spec : BinanceSymbolsSpec} {connection : BinanceConnectionSpec} :
    makeConnectionSpec connectionId environment spec = .ok connection ↔
      ∃ feeds site, Resolves spec feeds ∧ siteOf spec.market environment = some site ∧
        connection = connectionTo site connectionId feeds := by
  constructor
  · intro made
    obtain ⟨feeds, resolved, made⟩ := exists_ok_of_bind made
    obtain ⟨-, resolves⟩ := resolveFeeds_eq_ok_iff.mp resolved
    obtain ⟨nonempty, market, site, same, served, rfl⟩ := makeConnectionOfFeeds_eq_ok_iff.mp made
    obtain ⟨first, rest, rfl⟩ := List.exists_cons_of_ne_nil nonempty
    have first_market := resolves.market first List.mem_cons_self
    rw [same first List.mem_cons_self] at first_market
    exact ⟨_, site, resolves, first_market ▸ served, rfl⟩
  · rintro ⟨feeds, site, resolves, served, rfl⟩
    rw [makeConnectionSpec, resolveFeeds_eq_ok_iff.mpr ⟨supported_of_site served, resolves⟩]
    exact makeConnectionOfFeeds_eq_ok_iff.mpr
      ⟨resolves.ne_nil, spec.market, site, resolves.market, served, rfl⟩

/-- What stands in front of the keys in the target of a connection. -/
def Site.path (site : Site) (feeds : List BinanceResolvedFeed) : List Char :=
  site.root ++ if feeds.length ≠ 1 then "/stream?streams=".toList else "/ws/".toList

/-- **The endpoint of a site**, whatever stands behind its path. -/
theorem Site.Sound.parses {site : Site} (sound : site.Sound) (feeds : List BinanceResolvedFeed)
    (keys : List Char) :
    parseWebsocketEndpoint (site.base (feeds.length ≠ 1) ++ keys) =
      .ok { tls := true, host := site.host, port := site.port, target := site.path feeds ++ keys } := by
  have rooted : ∃ rest, site.path feeds ++ keys = '/' :: rest := by
    unfold path
    rcases sound.rooted with none | ⟨rest, some⟩
    · rw [none]
      split_ifs <;> exact ⟨_, rfl⟩
    · rw [some]
      exact ⟨_, rfl⟩
  obtain ⟨rest, slash⟩ := rooted
  refine parse_eq_ok_iff.mpr ⟨site.authority, site.path feeds ++ keys, ?_, sound.slashless, ?_,
    sound.names⟩
  · simp only [base, path, decide_eq_true_eq, List.append_assoc]
    rfl
  · rw [slash]
    exact .path rest

/-- **No feed can change where its connection goes.** The endpoint of a connection is accepted, with
TLS and with the host and the port of the site that serves the market, whatever the keys are; they
stand behind the path of the site. They are read back from the target unless one contains a slash. -/
theorem connection_pinned {connectionId : UInt32} {environment : BinanceEnvironment}
    {feeds : List BinanceResolvedFeed} {connection : BinanceConnectionSpec}
    (made : makeConnectionOfFeeds connectionId environment feeds = .ok connection) :
    ∃ market site, (∀ feed ∈ feeds, feed.spec.market = market) ∧
      siteOf market environment = some site ∧
      parseWebsocketEndpoint connection.endpoint =
        .ok { tls := true, host := site.host, port := site.port,
              target := site.path feeds ++ joinedKeys feeds } ∧
      ((joinedKeys feeds).splitOn '/' = feeds.map BinanceResolvedFeed.providerFeedKey ↔
        ∀ feed ∈ feeds, '/' ∉ feed.providerFeedKey) := by
  obtain ⟨nonempty, market, site, same, served, rfl⟩ := makeConnectionOfFeeds_eq_ok_iff.mp made
  refine ⟨market, site, same, served, (site_sound served).parses feeds _, ?_⟩
  rw [joinedKeys, Scan.splitOn_intercalate_iff fun none => nonempty (List.map_eq_nil_iff.mp none),
    List.forall_mem_map]

/-- A hostile symbol, with a scheme and an authority of its own: the connection goes to the site. -/
theorem connection_pinned_hostile :
    ∃ feed connection, makeConnectionOfFeeds 1 .marketDataOnly [feed] = .ok connection ∧
      feed.providerFeedKey = "@evil.example:80/x@trade".toList ∧
      parseWebsocketEndpoint connection.endpoint =
        .ok { tls := true, host := "data-stream.binance.vision".toList, port := "443".toList,
              target := "/ws/@evil.example:80/x@trade".toList } := by
  let feed := fillFeed { kind := .trade } ["@evil.example:80/x".toList] "@evil.example:80/x".toList
    "@evil.example:80/x@trade".toList
  have made : makeConnectionOfFeeds 1 .marketDataOnly [feed] =
      .ok (connectionTo ⟨"data-stream.binance.vision:443".toList, "data-stream.binance.vision".toList,
        "443".toList, []⟩ 1 [feed]) := rfl
  obtain ⟨market, site, same, served, parsed, -⟩ := connection_pinned made
  obtain rfl : MarketSegment.spot = market := same feed List.mem_cons_self
  obtain rfl := Option.some.inj served
  exact ⟨feed, _, made, rfl, parsed⟩

/-- **Feeds of different symbols have different keys**: the keys of a connection are distinct exactly
where its symbols are, up to the case of their letters; every identifier is made from the key, and
none is `0`. -/
theorem feeds_apart {connectionId : UInt32} {environment : BinanceEnvironment}
    {spec : BinanceSymbolsSpec} {connection : BinanceConnectionSpec}
    (made : makeConnectionSpec connectionId environment spec = .ok connection) :
    ((connection.feeds.map BinanceResolvedFeed.providerFeedKey).Nodup ↔
      (spec.symbols.map fun symbol => symbol.map asciiLower).Nodup) ∧
    ∀ feed ∈ connection.feeds, feed.feedId ≠ 0 ∧
      feed.feedId = stableIdOf (makeFeedIdSeed spec.market feed.providerFeedKey) := by
  obtain ⟨feeds, site, resolves, -, rfl⟩ := makeConnectionSpec_eq_ok_iff.mp made
  show ((feeds.map _).Nodup ↔ _) ∧ ∀ feed ∈ feeds, _
  cases resolves with
  | all listed top =>
      refine ⟨?_, fun feed member => ?_⟩
      · refine iff_of_true (List.nodup_singleton _) ?_
        match symbols : spec.symbols with
        | [] => exact List.nodup_nil
        | [symbol] => exact List.nodup_singleton _
        | first :: second :: rest =>
            rw [symbols] at listed
            exact absurd listed Bool.false_ne_true
      · obtain rfl := List.mem_singleton.mp member
        exact ⟨stableId32_ne_zero _, rfl⟩
  | @each stream listed named carried =>
      refine ⟨?_, fun feed member => ?_⟩
      · have keys : (spec.symbols.map (symbolFeed spec stream)).map
            BinanceResolvedFeed.providerFeedKey =
            (spec.symbols.map fun symbol => symbol.map asciiLower).map (· ++ stream.code) := by
          rw [List.map_map, List.map_map]
          rfl
        rw [keys]
        exact List.nodup_map_iff fun one other same => List.append_cancel_right same
      · obtain ⟨symbol, -, rfl⟩ := List.mem_map.mp member
        exact ⟨stableId32_ne_zero _, rfl⟩

/-- Two symbols that differ in the case of their letters have one key. -/
theorem feeds_apart_case :
    ∃ connection, makeConnectionSpec 1 .marketDataOnly
        { kind := .trade, symbols := ["BTCUSDT".toList, "btcusdt".toList] } = .ok connection ∧
      ¬ (connection.feeds.map BinanceResolvedFeed.providerFeedKey).Nodup := by
  have made : makeConnectionSpec 1 .marketDataOnly
      { kind := .trade, symbols := ["BTCUSDT".toList, "btcusdt".toList] } = .ok _ :=
    makeConnectionSpec_eq_ok_iff.mpr
      ⟨_, _, .each rfl (by decide) (.trade rfl (by decide)), rfl, rfl⟩
  exact ⟨_, made, fun distinct => absurd ((feeds_apart made).1.mp distinct) (by decide)⟩

end MarketDataFabric.Providers.Binance
