/-
**The feed keys of the provider**, `providers/crypto/binance/feed_keys.hpp`: the name of a stream,
made from a symbol nobody has looked at and the code of the stream.

* `Stream`, `Stream.code`, `code_suffix` — the streams a key can name, and their codes: **no code is
  the end of another one**.
* `makeProviderFeedKey_eq_ok` — a key is the lower-case symbol and the code of the stream.
* `feed_keys_apart` — hence equal keys name the same symbol and the same stream, no key is the key of
  all symbols, and equal seeds are those of one market.
-/

import MarketDataFabric.Feed.Connection
import MarketDataFabric.Providers.Binance.JsonValueReader

namespace MarketDataFabric.Providers.Binance

open Feed Library

/-- The fields that a feed key is made from. -/
structure BinanceFeedSpec where
  market : MarketSegment := .spot
  kind : FeedKind := .trade
  depth : FeedDepth := .unknown
  speed : FeedSpeed := .default
deriving Repr, DecidableEq

def normalizeSymbol (symbol : List Char) : Except String (List Char) :=
  if symbol = [] then .error "Binance symbol 不能为空" else .ok (symbol.map asciiLower)

def makeFeedIdSeed (market : MarketSegment) (providerFeedKey : List Char) : List Char :=
  "binance:".toList ++ (Nat.toDigits 10 market.value.toNat ++ ':' :: providerFeedKey)

def requireSupportedMarket (market : MarketSegment) : Except String Unit :=
  if market ≠ .spot ∧ market ≠ .linearDerivative ∧ market ≠ .inverseDerivative ∧
      market ≠ .option then
    .error "不支持的 Binance market segment"
  else .ok ()

def speedSuffix (speed : FeedSpeed) : Except String (List Char) :=
  if speed = .default ∨ speed = .realTime then .ok []
  else if speed = .ms100 then .ok "@100ms".toList
  else if speed = .ms250 then .ok "@250ms".toList
  else if speed = .ms500 then .ok "@500ms".toList
  else .error "不支持的 Binance feed speed"

def depthLevels (depth : FeedDepth) : Except String UInt16 :=
  if depth = .top5 ∨ depth = .top10 ∨ depth = .top20 then .ok depth.value
  else .error "不支持的 Binance partial book depth"

def makeProviderFeedKey (spec : BinanceFeedSpec) (symbol : List Char) :
    Except String (List Char) := do
  requireSupportedMarket spec.market
  let key ← normalizeSymbol symbol
  if spec.kind = .trade then
    return key ++ if spec.market = .option then "@optionTrade".toList else "@trade".toList
  else if spec.kind = .aggregateTrade then
    return key ++ "@aggTrade".toList
  else if spec.kind = .topOfBook then
    return key ++ "@bookTicker".toList
  else if spec.kind = .bookUpdate then
    let suffix ← speedSuffix spec.speed
    return key ++ "@depth".toList ++ suffix
  else if spec.kind = .bookSnapshot then
    let levels ← depthLevels spec.depth
    let suffix ← speedSuffix spec.speed
    return key ++ "@depth".toList ++ Nat.toDigits 10 levels.toNat ++ suffix
  else throw "不支持的 Binance feed kind"

def makeAllSymbolsProviderFeedKey (spec : BinanceFeedSpec) : Except String (List Char) := do
  requireSupportedMarket spec.market
  if spec.kind = .topOfBook then return "!bookTicker".toList
  else
    throw ("Binance 全市场 feed 当前要求 provider 支持聚合 feed；" ++
      "请使用 TopOfBook，或在解析 feed kind 前展开 universe")

/-! ### The streams -/

/-- The pace of a book stream, by the speed that asks for it. -/
inductive Pace where
  | realTime
  | ms100
  | ms250
  | ms500
deriving Repr, DecidableEq

inductive Levels where
  | top5
  | top10
  | top20
deriving Repr, DecidableEq

/-- **The streams of a symbol.** -/
inductive Stream where
  | trade
  | optionTrade
  | aggregateTrade
  | topOfBook
  | bookUpdate (pace : Pace)
  | bookSnapshot (levels : Levels) (pace : Pace)
deriving Repr, DecidableEq

def Pace.code : Pace → List Char
  | .realTime => []
  | .ms100 => "@100ms".toList
  | .ms250 => "@250ms".toList
  | .ms500 => "@500ms".toList

def Levels.code : Levels → List Char
  | .top5 => "5".toList
  | .top10 => "10".toList
  | .top20 => "20".toList

/-- What a key carries behind its symbol. -/
def Stream.code : Stream → List Char
  | .trade => "@trade".toList
  | .optionTrade => "@optionTrade".toList
  | .aggregateTrade => "@aggTrade".toList
  | .topOfBook => "@bookTicker".toList
  | .bookUpdate pace => "@depth".toList ++ pace.code
  | .bookSnapshot levels pace => "@depth".toList ++ levels.code ++ pace.code

def paces : List Pace := [.realTime, .ms100, .ms250, .ms500]

/-- All streams. -/
def streams : List Stream :=
  [.trade, .optionTrade, .aggregateTrade, .topOfBook] ++ paces.map .bookUpdate ++
    [Levels.top5, .top10, .top20].flatMap fun levels => paces.map (.bookSnapshot levels)

theorem mem_streams (stream : Stream) : stream ∈ streams := by
  cases stream with
  | trade | optionTrade | aggregateTrade | topOfBook => decide
  | bookUpdate pace => cases pace <;> decide
  | bookSnapshot levels pace => cases levels <;> cases pace <;> decide

/-- **No code is the end of another code.** -/
theorem code_suffix {stream other : Stream} (suffix : stream.code <:+ other.code) :
    stream = other := by
  have table : ∀ one ∈ streams, ∀ two ∈ streams, one.code <:+ two.code → one = two := by decide
  exact table stream (mem_streams _) other (mem_streams _) suffix

/-! ### The keys -/

def Pace.speeds : Pace → List FeedSpeed
  | .realTime => [.default, .realTime]
  | .ms100 => [.ms100]
  | .ms250 => [.ms250]
  | .ms500 => [.ms500]

def Levels.depth : Levels → FeedDepth
  | .top5 => .top5
  | .top10 => .top10
  | .top20 => .top20

/-- **The stream a specification asks for.** -/
inductive Carries (spec : BinanceFeedSpec) : Stream → Prop
  | trade : spec.kind = .trade → spec.market ≠ .option → Carries spec .trade
  | optionTrade : spec.kind = .trade → spec.market = .option → Carries spec .optionTrade
  | aggregateTrade : spec.kind = .aggregateTrade → Carries spec .aggregateTrade
  | topOfBook : spec.kind = .topOfBook → Carries spec .topOfBook
  | bookUpdate {pace : Pace} : spec.kind = .bookUpdate → spec.speed ∈ pace.speeds →
      Carries spec (.bookUpdate pace)
  | bookSnapshot {levels : Levels} {pace : Pace} : spec.kind = .bookSnapshot →
      spec.depth = levels.depth → spec.speed ∈ pace.speeds →
      Carries spec (.bookSnapshot levels pace)

theorem speedSuffix_eq_ok {speed : FeedSpeed} {suffix : List Char}
    (made : speedSuffix speed = .ok suffix) : ∃ pace : Pace, speed ∈ pace.speeds ∧
      suffix = pace.code := by
  unfold speedSuffix at made
  split_ifs at made with usual hundred quarter half
  · cases made
    exact ⟨.realTime, by simpa [Pace.speeds] using usual, rfl⟩
  · cases made
    exact ⟨.ms100, List.mem_singleton.mpr hundred, rfl⟩
  · cases made
    exact ⟨.ms250, List.mem_singleton.mpr quarter, rfl⟩
  · cases made
    exact ⟨.ms500, List.mem_singleton.mpr half, rfl⟩

theorem depthLevels_eq_ok {depth : FeedDepth} {count : UInt16}
    (made : depthLevels depth = .ok count) : ∃ levels : Levels, depth = levels.depth ∧
      Nat.toDigits 10 count.toNat = levels.code := by
  unfold depthLevels at made
  split_ifs at made with supported
  cases made
  rcases supported with rfl | rfl | rfl
  · exact ⟨.top5, rfl, rfl⟩
  · exact ⟨.top10, rfl, rfl⟩
  · exact ⟨.top20, rfl, rfl⟩

/-- What a sequence of steps answers, its steps have answered. -/
theorem exists_ok_of_bind {ε α β : Type} {first : Except ε α} {next : α → Except ε β} {answer : β}
    (made : (first >>= next) = .ok answer) : ∃ value, first = .ok value ∧ next value = .ok answer := by
  cases first with
  | error reason => cases made
  | ok value => exact ⟨value, rfl, made⟩

/-- **A key is the lower-case symbol and the code of its stream.** -/
theorem makeProviderFeedKey_eq_ok {spec : BinanceFeedSpec} {symbol key : List Char}
    (made : makeProviderFeedKey spec symbol = .ok key) :
    ∃ stream, Carries spec stream ∧ key = symbol.map asciiLower ++ stream.code := by
  unfold makeProviderFeedKey at made
  obtain ⟨-, -, made⟩ := exists_ok_of_bind made
  obtain ⟨lower, named, made⟩ := exists_ok_of_bind made
  unfold normalizeSymbol at named
  split_ifs at named with nameless
  obtain rfl := Except.ok.inj named
  by_cases trade : spec.kind = .trade
  · rw [if_pos trade] at made
    obtain rfl := Except.ok.inj made
    by_cases option : spec.market = .option
    · exact ⟨.optionTrade, .optionTrade trade option, by rw [if_pos option]; rfl⟩
    · exact ⟨.trade, .trade trade option, by rw [if_neg option]; rfl⟩
  rw [if_neg trade] at made
  by_cases aggregate : spec.kind = .aggregateTrade
  · rw [if_pos aggregate] at made
    exact ⟨.aggregateTrade, .aggregateTrade aggregate, (Except.ok.inj made).symm⟩
  rw [if_neg aggregate] at made
  by_cases top : spec.kind = .topOfBook
  · rw [if_pos top] at made
    exact ⟨.topOfBook, .topOfBook top, (Except.ok.inj made).symm⟩
  rw [if_neg top] at made
  by_cases update : spec.kind = .bookUpdate
  · rw [if_pos update] at made
    obtain ⟨suffix, paced, made⟩ := exists_ok_of_bind made
    obtain ⟨pace, speed, rfl⟩ := speedSuffix_eq_ok paced
    have same : symbol.map asciiLower ++ "@depth".toList ++ pace.code = key := Except.ok.inj made
    refine ⟨.bookUpdate pace, .bookUpdate update speed, ?_⟩
    rw [← same, List.append_assoc]
    rfl
  rw [if_neg update] at made
  by_cases snapshot : spec.kind = .bookSnapshot
  · rw [if_pos snapshot] at made
    obtain ⟨count, counted, made⟩ := exists_ok_of_bind made
    obtain ⟨suffix, paced, made⟩ := exists_ok_of_bind made
    obtain ⟨levels, depth, digits⟩ := depthLevels_eq_ok counted
    obtain ⟨pace, speed, rfl⟩ := speedSuffix_eq_ok paced
    have same : symbol.map asciiLower ++ "@depth".toList ++ Nat.toDigits 10 count.toNat ++
        pace.code = key := Except.ok.inj made
    refine ⟨.bookSnapshot levels pace, .bookSnapshot snapshot depth speed, ?_⟩
    rw [← same, digits, List.append_assoc, List.append_assoc]
    show _ = symbol.map asciiLower ++ ("@depth".toList ++ levels.code ++ pace.code)
    rw [List.append_assoc]
  · rw [if_neg snapshot] at made
    cases made

/-! ### Keys apart -/

/-- Two speeds of one pace. -/
def SamePace (one two : FeedSpeed) : Prop :=
  one = two ∨ (one ∈ [FeedSpeed.default, .realTime] ∧ two ∈ [FeedSpeed.default, .realTime])

/-- **Two specifications ask for the same stream** of a symbol. -/
structure SameStream (first second : BinanceFeedSpec) : Prop where
  kind : first.kind = second.kind
  depth : first.kind = .bookSnapshot → first.depth = second.depth
  speed : first.kind = .bookUpdate ∨ first.kind = .bookSnapshot →
    SamePace first.speed second.speed
  option : first.kind = .trade → (first.market = .option ↔ second.market = .option)

theorem samePace_of_mem {pace : Pace} {one two : FeedSpeed} (here : one ∈ pace.speeds)
    (there : two ∈ pace.speeds) : SamePace one two := by
  cases pace with
  | realTime => exact Or.inr ⟨here, there⟩
  | ms100 | ms250 | ms500 =>
      exact Or.inl ((List.mem_singleton.mp here).trans (List.mem_singleton.mp there).symm)

def Stream.kind : Stream → FeedKind
  | .trade | .optionTrade => .trade
  | .aggregateTrade => .aggregateTrade
  | .topOfBook => .topOfBook
  | .bookUpdate _ => .bookUpdate
  | .bookSnapshot _ _ => .bookSnapshot

theorem Carries.kind {spec : BinanceFeedSpec} {stream : Stream} (carried : Carries spec stream) :
    spec.kind = stream.kind := by
  cases carried <;> assumption

/-- Specifications of one stream. -/
theorem sameStream_of_carries {first second : BinanceFeedSpec} {stream : Stream}
    (here : Carries first stream) (there : Carries second stream) : SameStream first second where
  kind := here.kind.trans there.kind.symm
  depth snapshot := by
    have known := here.kind.symm.trans snapshot
    cases here with
    | bookSnapshot _ depth _ =>
        cases there with
        | bookSnapshot _ otherDepth _ => exact depth.trans otherDepth.symm
    | trade | optionTrade | aggregateTrade | topOfBook => exact absurd known (by decide)
    | bookUpdate => exact absurd known (by decide : FeedKind.bookUpdate ≠ .bookSnapshot)
  speed book := by
    rw [here.kind] at book
    cases here with
    | bookUpdate _ speed =>
        cases there with
        | bookUpdate _ otherSpeed => exact samePace_of_mem speed otherSpeed
    | bookSnapshot _ _ speed =>
        cases there with
        | bookSnapshot _ _ otherSpeed => exact samePace_of_mem speed otherSpeed
    | trade | optionTrade | aggregateTrade | topOfBook => exact absurd book (by decide)
  option trades := by
    have known := here.kind.symm.trans trades
    cases here with
    | trade _ market =>
        cases there with
        | trade _ otherMarket => exact iff_of_false market otherMarket
    | optionTrade _ market =>
        cases there with
        | optionTrade _ otherMarket => exact iff_of_true market otherMarket
    | aggregateTrade | topOfBook => exact absurd known (by decide)
    | bookUpdate => exact absurd known (by decide : FeedKind.bookUpdate ≠ .trade)
    | bookSnapshot => exact absurd known (by decide : FeedKind.bookSnapshot ≠ .trade)

/-- A code is cut off a key in one way. -/
theorem code_unique {front other : List Char} {stream second : Stream}
    (same : front ++ stream.code = other ++ second.code) : front = other ∧ stream = second := by
  have equal : stream = second := by
    rcases List.suffix_or_suffix_of_suffix (List.suffix_append front stream.code)
        (same ▸ List.suffix_append other second.code) with short | long
    · exact code_suffix short
    · exact (code_suffix long).symm
  subst equal
  exact ⟨List.append_cancel_right same, rfl⟩

/-- Every code begins with the separator. -/
theorem at_mem_code (stream : Stream) : '@' ∈ stream.code := by
  cases stream <;> exact List.mem_cons_self

theorem makeAllSymbolsProviderFeedKey_eq_ok {spec : BinanceFeedSpec} {key : List Char}
    (made : makeAllSymbolsProviderFeedKey spec = .ok key) : key = "!bookTicker".toList := by
  unfold makeAllSymbolsProviderFeedKey at made
  obtain ⟨-, -, made⟩ := exists_ok_of_bind made
  by_cases top : spec.kind = .topOfBook
  · rw [if_pos top] at made
    exact (Except.ok.inj made).symm
  · rw [if_neg top] at made
    cases made

/-- **A seed shows its market and its key.** -/
theorem makeFeedIdSeed_injective {market second : MarketSegment} {key other : List Char}
    (same : makeFeedIdSeed market key = makeFeedIdSeed second other) :
    market = second ∧ key = other := by
  have plain : ∀ count : ℕ, ':' ∉ Nat.toDigits 10 count := fun count colon =>
    absurd (Nat.isDigit_of_mem_toDigits (by decide) (by decide) colon) (by decide)
  obtain ⟨digits, keys⟩ :=
    Scan.first_mark_unique (plain _) (plain _) (List.append_cancel_left same)
  have values : market.value.toNat = second.value.toNat := by
    rw [← @Nat.ofDigitChars_ten_toDigits market.value.toNat, digits, Nat.ofDigitChars_ten_toDigits]
  obtain ⟨value⟩ := market
  obtain ⟨otherValue⟩ := second
  exact ⟨congrArg MarketSegment.mk (UInt8.toNat_inj.mp values), keys⟩

/-- **Feed keys do not collide.** For every two specifications and symbols that have a key: equal
keys mean the same symbol up to the case of its letters, and the same stream; neither is the key of
all symbols; and equal seeds mean the same market and the same key. -/
theorem feed_keys_apart {first second : BinanceFeedSpec} {symbol other key otherKey : List Char}
    (here : makeProviderFeedKey first symbol = .ok key)
    (there : makeProviderFeedKey second other = .ok otherKey) :
    (key = otherKey → asciiEqualIgnoreCase symbol other = true ∧ SameStream first second) ∧
    (∀ spec all, makeAllSymbolsProviderFeedKey spec = .ok all → key ≠ all) ∧
    (makeFeedIdSeed first.market key = makeFeedIdSeed second.market otherKey →
      first.market = second.market ∧ key = otherKey) := by
  obtain ⟨stream, carried, rfl⟩ := makeProviderFeedKey_eq_ok here
  obtain ⟨otherStream, otherCarried, rfl⟩ := makeProviderFeedKey_eq_ok there
  refine ⟨fun same => ?_, fun spec all made same => ?_, makeFeedIdSeed_injective⟩
  · obtain ⟨symbols, rfl⟩ := code_unique same
    rw [asciiEqualIgnoreCase_iff]
    have lower : asciiLower = Char.toLower := funext asciiLower_eq_toLower
    rw [lower] at symbols
    exact ⟨symbols, sameStream_of_carries carried otherCarried⟩
  · have mark : '@' ∈ all := same ▸ List.mem_append_right _ (at_mem_code stream)
    rw [makeAllSymbolsProviderFeedKey_eq_ok made] at mark
    exact absurd mark (by decide)

/-- A depth stream and a trade stream of symbols in any case. -/
theorem feed_keys_apart_depth :
    makeFeedIdSeed .spot "ethusdt@depth@100ms".toList ≠ makeFeedIdSeed .spot "ethusdt@trade".toList ∧
      asciiEqualIgnoreCase "ethusdt".toList "ETHUSDT".toList = true := by
  have depth : makeProviderFeedKey { kind := .bookUpdate, speed := .ms100 } "ETHUSDT".toList =
      .ok "ethusdt@depth@100ms".toList := by decide
  have again : makeProviderFeedKey { kind := .bookUpdate, speed := .ms100 } "ethusdt".toList =
      .ok "ethusdt@depth@100ms".toList := by decide
  have trade : makeProviderFeedKey {} "ethusdt".toList = .ok "ethusdt@trade".toList := by decide
  refine ⟨fun same => ?_, ((feed_keys_apart again depth).1 rfl).1⟩
  exact absurd ((feed_keys_apart depth trade).2.2 same).2 (by decide)

end MarketDataFabric.Providers.Binance
