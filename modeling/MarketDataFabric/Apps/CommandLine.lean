/-
**Command lines of the gateway**, `apps/gateway/src/main.cpp` with the commands of
`binance_live_runner.cpp`.

* `Settled`, `settled_parse` — what holds of the arguments of every command line.
* `live_connects_iff` — **the command lines that have a connection**: an exception of the provider leaves
  `main`, so all others end the process.
* `mapped_feed`, `wired_eq` — when a mapper is wired, and to which instrument.
* `command_line_exact` — both for the whole program.
-/

import MarketDataFabric.Apps.GatewayNode

namespace MarketDataFabric.Apps

open MarketDataFabric.Feed Net Library Providers.Binance

/-! ### The program -/

def kFeedSpecPreview : List Char := "--binance-feed-spec-preview".toList

def isBinanceCommand (command : List Char) : Bool :=
  command = kFeedSpecPreview ∨ command = "--binance-live".toList ∨
    command = "--binance-live-preview".toList

/-- What `main` comes to: a connection to preview, a session to run, or its usage. -/
inductive Startup where
  | preview (connection : BinanceConnectionSpec)
  | live (args : BinanceLiveArgs) (connection : BinanceConnectionSpec)
  | usage
  | failed
deriving Repr, DecidableEq

def runBinanceFeedSpecPreview : Except String Startup := do
  let spec : BinanceSymbolsSpec := { market := .spot, symbols := ["BTCUSDT".toList], kind := .trade }
  let connection ← makeConnectionSpec 1 .marketDataOnly spec
  return .preview connection

/-- `run_binance_live`, up to the session. -/
def runBinanceLive (argv : List (List Char)) : Except String Startup := do
  let args := parseBinanceLiveArgs argv
  let connection ← makeConnectionSpec 1 .marketDataOnly (liveSpec args)
  return .live args connection

def runBinanceCommand (command : List Char) (argv : List (List Char)) : Except String Startup :=
  if command = kFeedSpecPreview then runBinanceFeedSpecPreview
  else if command = "--binance-live".toList ∨ command = "--binance-live-preview".toList then
    runBinanceLive argv
  else .ok .failed

/-- `main`, up to the session. The first command counts, and an exception is not caught. -/
def startup (argv : List (List Char)) : Except String Startup :=
  match (argv.drop 1).find? isBinanceCommand with
  | some command => runBinanceCommand command argv
  | none => .ok .usage

/-! ### The arguments of a command line -/

/-- **What a command line leaves in its arguments**: symbols with a name, a feed that the table knows,
and numbers of lines only for what is logged. -/
structure Settled (args : BinanceLiveArgs) : Prop where
  listed : args.symbols ≠ []
  named : ∀ symbol ∈ args.symbols, symbol ≠ []
  known : args.feedKind ∈ kFeedKindCliEntries.map Prod.snd
  normalizes : args.logNormalized = true → args.normalize = true
  payloads : args.logPayload = false → args.logPayloads = 0
  events : args.logNormalized = false → args.logNormalizedEvents = 0

/-- An argument that is recognised as a symbol has its text. -/
def NamesSymbol (argument : Argument) : Prop := ∀ value, argument = .symbol value → value ≠ []

theorem namesSymbol_ite {condition : Prop} [Decidable condition] {one other : Argument}
    (here : condition → NamesSymbol one) (there : NamesSymbol other) :
    NamesSymbol (if condition then one else other) := by
  split_ifs with holds
  · exact here holds
  · exact there

theorem readArgument_symbol (arg : List Char) : NamesSymbol (readArgument arg) := by
  have other {argument : Argument} (different : ∀ value, argument ≠ .symbol value) :
      NamesSymbol argument := fun value same => absurd same (different value)
  unfold readArgument
  refine namesSymbol_ite (fun named value same => Argument.symbol.inj same ▸ named) ?_
  iterate 15 refine namesSymbol_ite (fun _ => other fun _ => by simp) ?_
  exact other fun _ => by simp

theorem settled_apply {args : BinanceLiveArgs} (settled : Settled args) {argument : Argument}
    (named : NamesSymbol argument) :
    Settled (applyArgument args argument) := by
  obtain ⟨listed, symbols, known, normalizes, payloads, events⟩ := settled
  have never {count : UInt64} (off : true = false) : count = 0 := by cases off
  cases argument with
  | symbol value =>
      refine ⟨List.cons_ne_nil _ _, fun symbol member => ?_, known, normalizes, payloads, events⟩
      rw [List.mem_singleton.mp member]
      exact named value rfl
  | symbols value =>
      rw [applyArgument]
      split_ifs with some
      · refine ⟨some, fun symbol member => ?_, known, normalizes, payloads, events⟩
        exact of_decide_eq_true (List.mem_filter.mp member).2
      · exact ⟨listed, symbols, known, normalizes, payloads, events⟩
  | feed value =>
      rw [applyArgument]
      cases found : parseFeedKind value with
      | none => exact ⟨listed, symbols, known, normalizes, payloads, events⟩
      | some kind =>
          obtain ⟨entry, among, rfl⟩ := Option.map_eq_some_iff.mp found
          exact ⟨listed, symbols, List.mem_map_of_mem (List.mem_of_find?_eq_some among), normalizes,
            payloads, events⟩
  | number option value =>
      rw [applyArgument]
      cases parseU64 value with
      | none => exact ⟨listed, symbols, known, normalizes, payloads, events⟩
      | some number =>
          cases option with
          | logPayload => exact ⟨listed, symbols, known, normalizes, never, events⟩
          | logNormalized => exact ⟨listed, symbols, known, fun _ => rfl, payloads, never⟩
          | messages | payloadBytes | maxAttempts | backoffMs | maxBackoffMs | idleTimeoutMs =>
              exact ⟨listed, symbols, known, normalizes, payloads, events⟩
  | normalize => exact ⟨listed, symbols, known, fun _ => rfl, payloads, events⟩
  | logPayload => exact ⟨listed, symbols, known, normalizes, never, events⟩
  | logNormalized => exact ⟨listed, symbols, known, fun _ => rfl, payloads, never⟩
  | reconnect | reconnectCompleted | unknown =>
      exact ⟨listed, symbols, known, normalizes, payloads, events⟩

theorem settled_parse (argv : List (List Char)) : Settled (parseBinanceLiveArgs argv) := by
  have start : Settled {} :=
    ⟨by decide, by decide, by decide, (fun on => by cases on), fun _ => rfl, fun _ => rfl⟩
  unfold parseBinanceLiveArgs
  generalize ({} : BinanceLiveArgs) = args at start
  induction argv.drop 1 generalizing args with
  | nil => exact start
  | cons arg rest ih =>
      rw [List.foldl_cons]
      exact ih _ (settled_apply start (readArgument_symbol arg))

/-! ### The connection of a command line -/

/-- Where the live session connects to. -/
def liveSite : Site :=
  ⟨"data-stream.binance.vision:443".toList, "data-stream.binance.vision".toList, "443".toList, []⟩

/-- All symbols are asked for alone, and of the one feed that has them. -/
def AsksLegally (args : BinanceLiveArgs) : Prop :=
  ∀ symbol ∈ args.symbols, isAllSymbolToken symbol = true →
    args.symbols = [symbol] ∧ args.feedKind = .topOfBook

/-- Every feed of the table is carried for a symbol. -/
theorem exists_carries {args : BinanceLiveArgs} (settled : Settled args) :
    ∃ stream, Carries (liveSpec args).toBinanceFeedSpec stream := by
  have known := settled.known
  have spot : (liveSpec args).market ≠ .option := show MarketSegment.spot ≠ .option by decide
  have usual : (liveSpec args).speed ∈ Pace.realTime.speeds := List.mem_cons_self
  simp only [kFeedKindCliEntries, List.map_cons, List.map_nil, List.mem_cons, List.not_mem_nil,
    or_false] at known
  rcases known with kind | kind | kind | kind | kind
  · exact ⟨_, .trade kind spot⟩
  · exact ⟨_, .aggregateTrade kind⟩
  · exact ⟨_, .topOfBook kind⟩
  · exact ⟨_, .bookUpdate kind usual⟩
  · exact ⟨_, @Carries.bookSnapshot _ .top20 .realTime kind (if_pos kind) usual⟩

theorem isAllSymbols_iff {symbols : List (List Char)} (listed : symbols ≠ []) :
    isAllSymbols symbols = true ↔ ∃ symbol, symbols = [symbol] ∧ isAllSymbolToken symbol = true := by
  match symbols with
  | [] => exact absurd rfl listed
  | [symbol] =>
      exact ⟨fun all => ⟨symbol, rfl, all⟩, fun ⟨_, same, token⟩ => List.cons.inj same |>.1 ▸ token⟩
  | first :: second :: rest => exact ⟨nofun, fun ⟨_, same, _⟩ => by cases same⟩

/-- **What a command line resolves to**: the feed of all symbols, or one feed for each symbol. -/
theorem live_resolves_iff {args : BinanceLiveArgs} (settled : Settled args) :
    (∃ feeds, Resolves (liveSpec args) feeds) ↔ AsksLegally args := by
  constructor
  · rintro ⟨feeds, resolves⟩ symbol member token
    cases resolves with
    | all all top =>
        obtain ⟨other, same, -⟩ := (isAllSymbols_iff settled.listed).mp all
        rw [same] at member
        exact ⟨List.mem_singleton.mp member ▸ same, top⟩
    | each _ named =>
        have other := (named symbol member).2
        rw [token] at other
        cases other
  · intro legally
    by_cases all : isAllSymbols args.symbols = true
    · obtain ⟨symbol, same, token⟩ := (isAllSymbols_iff settled.listed).mp all
      exact ⟨_, .all all (legally symbol (same ▸ List.mem_singleton.mpr rfl) token).2⟩
    · obtain ⟨stream, carried⟩ := exists_carries settled
      refine ⟨_, .each (Bool.not_eq_true _ ▸ all) (fun symbol member =>
        ⟨settled.named symbol member, Bool.eq_false_iff.mpr fun token => all ?_⟩) carried⟩
      exact (isAllSymbols_iff settled.listed).mpr ⟨symbol, (legally symbol member token).1, token⟩

/-- **The command lines that have a connection.** -/
theorem live_connects_iff {args : BinanceLiveArgs} (settled : Settled args) :
    (∃ connection, makeConnectionSpec 1 .marketDataOnly (liveSpec args) = .ok connection) ↔
      AsksLegally args := by
  rw [← live_resolves_iff settled]
  constructor
  · rintro ⟨connection, made⟩
    obtain ⟨feeds, site, resolves, -⟩ := makeConnectionSpec_eq_ok_iff.mp made
    exact ⟨feeds, resolves⟩
  · rintro ⟨feeds, resolves⟩
    exact ⟨_, makeConnectionSpec_eq_ok_iff.mpr ⟨feeds, liveSite, resolves, rfl, rfl⟩⟩

/-! ### The mapper of a command line -/

/-- The only symbol of a command line, where it is one. -/
def loneSymbol (args : BinanceLiveArgs) : Option (List Char) :=
  match args.symbols with
  | [symbol] => if isAllSymbolToken symbol then none else some symbol
  | [] | _ :: _ :: _ => none

/-- The context of a symbol. -/
def contextOf (symbol : List Char) : BinanceMappingContext :=
  makeBinanceMappingContext (symbol.map asciiLower)
    (makeBinanceSpotInstrumentId (symbol.map asciiLower))

/-- The context that a command line wires a mapper of the feed `kind` to. -/
def wiredContext (args : BinanceLiveArgs) (kind : FeedKind) : Option BinanceMappingContext :=
  if args.normalize = true ∧ args.feedKind = kind then (loneSymbol args).map contextOf else none

/-- The mapped feed of a command line, as the wiring sees it. -/
theorem mapped_feed {args : BinanceLiveArgs} (settled : Settled args)
    {feeds : List BinanceResolvedFeed} (resolves : Resolves (liveSpec args) feeds) :
    (∃ symbol feed, loneSymbol args = some symbol ∧ feeds = [feed] ∧
        feed.providerSymbol = symbol.map asciiLower ∧ feed.providerSymbol ≠ []) ∨
      loneSymbol args = none ∧ ∀ feed, feeds = [feed] → feed.providerSymbol = [] := by
  cases resolves with
  | all all =>
      obtain ⟨symbol, same, token⟩ := (isAllSymbols_iff settled.listed).mp all
      refine Or.inr ⟨?_, fun feed lone => by rw [← List.cons.inj lone |>.1]; rfl⟩
      rw [loneSymbol, same]
      exact if_pos token
  | @each stream several named =>
      have symbols : (liveSpec args).symbols = args.symbols := rfl
      rw [symbols] at named ⊢
      match listed : args.symbols with
      | [] => exact absurd listed settled.listed
      | [symbol] =>
          obtain ⟨nonempty, other⟩ := named symbol (listed ▸ List.mem_singleton.mpr rfl)
          refine Or.inl ⟨symbol, _, ?_, rfl, rfl, fun none => nonempty (List.map_eq_nil_iff.mp none)⟩
          rw [loneSymbol, listed]
          exact if_neg (by rw [other]; decide)
      | first :: second :: rest =>
          refine Or.inr ⟨?_, fun feed lone => by cases lone⟩
          rw [loneSymbol, listed]

/-- Without a single named feed no mapper is wired. -/
theorem wireMappers_of_bare {args : BinanceLiveArgs} {connection : BinanceConnectionSpec}
    (bare : ∀ feed, connection.feeds = [feed] → feed.providerSymbol = []) (memory : NodeMemory) :
    wireMappers args connection memory = memory := by
  unfold wireMappers
  rcases feeds : connection.feeds with _ | ⟨feed, _ | ⟨second, rest⟩⟩
  · exact ite_self _
  · dsimp only
    rw [if_pos (bare feed feeds), ite_self]
  · exact ite_self _

/-- With one, the mapper of its feed is. -/
theorem wireMappers_of_feed {args : BinanceLiveArgs} {connection : BinanceConnectionSpec}
    {feed : BinanceResolvedFeed} (lone : connection.feeds = [feed])
    (named : feed.providerSymbol ≠ []) (memory : NodeMemory) :
    let context := makeBinanceMappingContext feed.providerSymbol
      (makeBinanceSpotInstrumentId feed.providerSymbol)
    wireMappers args connection memory =
      if args.normalize = true ∧ args.feedKind = .topOfBook then
        { memory with quoteMapper := wiredMapper args context }
      else if args.normalize = true ∧ args.feedKind = .trade then
        { memory with tradeMapper := wiredMapper args context }
      else memory := by
  unfold wireMappers
  rw [lone]
  dsimp only
  rw [if_neg named]
  by_cases normalizes : args.normalize = true
  · simp only [normalizes, true_and, if_true]
  · simp only [normalizes, Bool.false_eq_true, false_and, if_false]

/-- **What a command line wires**: the mapper of its feed, to its only symbol. -/
theorem wired_eq {args : BinanceLiveArgs} (settled : Settled args)
    {connection : BinanceConnectionSpec}
    (made : makeConnectionSpec 1 .marketDataOnly (liveSpec args) = .ok connection) :
    (liveMemory args connection).quoteMapper.context = wiredContext args .topOfBook ∧
      (liveMemory args connection).tradeMapper.context = wiredContext args .trade := by
  obtain ⟨feeds, site, resolves, -, rfl⟩ := makeConnectionSpec_eq_ok_iff.mp made
  unfold liveMemory wiredContext
  rcases mapped_feed settled resolves with ⟨symbol, feed, lone, rfl, lower, named⟩ | ⟨none, bare⟩
  · rw [wireMappers_of_feed rfl named, lone, lower]
    by_cases top : args.normalize = true ∧ args.feedKind = .topOfBook
    · have other : ¬ (args.normalize = true ∧ args.feedKind = .trade) := fun trade =>
        absurd (top.2.symm.trans trade.2) (by decide)
      rw [if_pos top, if_pos top, if_neg other]
      exact ⟨rfl, rfl⟩
    · rw [if_neg top, if_neg top]
      split_ifs <;> exact ⟨rfl, rfl⟩
  · rw [wireMappers_of_bare bare, none, Option.map_none, ite_self, ite_self]
    exact ⟨rfl, rfl⟩

/-! ### The program, exactly -/

/-- The preview always has its connection. -/
theorem preview_eq_ok : ∃ connection, runBinanceFeedSpecPreview = .ok (.preview connection) := by
  let spec : BinanceSymbolsSpec := { market := .spot, symbols := ["BTCUSDT".toList], kind := .trade }
  have made : ∃ connection, makeConnectionSpec 1 .marketDataOnly spec = .ok connection :=
    ⟨_, makeConnectionSpec_eq_ok_iff.mpr
      ⟨_, liveSite, .each rfl (by decide) (.trade rfl (by decide)), rfl, rfl⟩⟩
  obtain ⟨connection, made⟩ := made
  refine ⟨connection, ?_⟩
  unfold runBinanceFeedSpecPreview
  show (makeConnectionSpec 1 .marketDataOnly spec >>= _) = _
  rw [made]
  rfl

/-- **What the program comes to**: a live command runs its session, if it has a connection. -/
theorem startup_cases (argv : List (List Char)) :
    (((argv.drop 1).find? isBinanceCommand = none ∨
        (argv.drop 1).find? isBinanceCommand = some kFeedSpecPreview) ∧
      ∃ other, startup argv = .ok other ∧ ∀ args connection, other ≠ .live args connection) ∨
    (∃ name, (argv.drop 1).find? isBinanceCommand = some name ∧ name ≠ kFeedSpecPreview) ∧
      startup argv = runBinanceLive argv := by
  unfold startup
  cases found : (argv.drop 1).find? isBinanceCommand with
  | none => exact Or.inl ⟨Or.inl rfl, _, rfl, fun _ _ same => by cases same⟩
  | some name =>
      by_cases preview : name = kFeedSpecPreview
      · obtain ⟨connection, shown⟩ := preview_eq_ok
        subst preview
        exact Or.inl ⟨Or.inr rfl, _, shown, fun _ _ same => by cases same⟩
      · have command : isBinanceCommand name = true := List.find?_some found
        have live := (of_decide_eq_true command).resolve_left preview
        refine Or.inr ⟨⟨name, rfl, preview⟩, ?_⟩
        simp only [runBinanceCommand, if_neg preview, if_pos live]

/-- **Command lines.** For every command line of the gateway:

* it ends with an exception exactly when its first command is a live one and it asks for all symbols
  beside others, or of a feed other than `bookTicker`;
* otherwise a live command connects to the one site, with TLS, whatever the symbols are, and to one
  feed, or to one for each symbol;
* the mapper that it normalizes with is the one of its feed, and maps the messages of its only symbol. -/
theorem command_line_exact (argv : List (List Char)) :
    ((∃ reason, startup argv = .error reason) ↔
      (∃ name, (argv.drop 1).find? isBinanceCommand = some name ∧ name ≠ kFeedSpecPreview) ∧
        ¬ AsksLegally (parseBinanceLiveArgs argv)) ∧
    ∀ args connection, startup argv = .ok (.live args connection) →
      args = parseBinanceLiveArgs argv ∧
      (∃ target, parseWebsocketEndpoint connection.endpoint =
        .ok { tls := true, host := liveSite.host, port := liveSite.port, target }) ∧
      connection.feeds.length = (if isAllSymbols args.symbols then 1 else args.symbols.length) ∧
      (liveMemory args connection).quoteMapper.context = wiredContext args .topOfBook ∧
      (liveMemory args connection).tradeMapper.context = wiredContext args .trade := by
  have settled := settled_parse argv
  rcases startup_cases argv with ⟨quiet, other, comes, never⟩ | ⟨named, comes⟩
  · rw [comes]
    refine ⟨iff_of_false nofun ?_, fun args connection same =>
      absurd (Except.ok.inj same) (never args connection)⟩
    rintro ⟨⟨name, found, different⟩, -⟩
    rcases quiet with none | preview
    · cases found.symm.trans none
    · exact different (Option.some.inj (found.symm.trans preview))
  · rw [comes]
    unfold runBinanceLive
    cases made : makeConnectionSpec 1 .marketDataOnly (liveSpec (parseBinanceLiveArgs argv)) with
    | error reason =>
        dsimp only
        rw [made]
        refine ⟨iff_of_true ⟨reason, rfl⟩ ⟨named, fun legally => ?_⟩, nofun⟩
        obtain ⟨connection, other⟩ := (live_connects_iff settled).mpr legally
        cases made.symm.trans other
    | ok connection =>
        have legally := (live_connects_iff settled).mp ⟨connection, made⟩
        have wired := wired_eq settled made
        obtain ⟨feeds, site, resolves, served, rfl⟩ := makeConnectionSpec_eq_ok_iff.mp made
        obtain rfl : liveSite = site := Option.some.inj served
        dsimp only
        rw [made]
        refine ⟨iff_of_false nofun fun fails => fails.2 legally, fun args connection same => ?_⟩
        obtain ⟨rfl, rfl⟩ := Startup.live.inj (Except.ok.inj same)
        refine ⟨rfl, ⟨_, (site_sound served).parses feeds _⟩, ?_, wired⟩
        show feeds.length = _
        cases resolves with
        | all all => exact (if_pos all).symm
        | each several =>
            rw [List.length_map]
            exact (if_neg fun all => by cases several.symm.trans all).symm

end MarketDataFabric.Apps
