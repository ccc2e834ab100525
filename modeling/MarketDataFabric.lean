import MarketDataFabric.Library.Machine
import MarketDataFabric.Library.Codec
import MarketDataFabric.Library.Stream
import MarketDataFabric.Library.Framing
import MarketDataFabric.Library.Circular
import MarketDataFabric.Library.BoundedFifo
import MarketDataFabric.Core.Events
import MarketDataFabric.Mappers.GateRuns
import MarketDataFabric.Mappers.GateVerdicts
import MarketDataFabric.Markets.Cn
import MarketDataFabric.Markets.Sse
import MarketDataFabric.Markets.Szse
import MarketDataFabric.Markets.TradingPhaseTracker
import MarketDataFabric.Providers.MapOutput
import MarketDataFabric.Providers.Tonglian
import MarketDataFabric.Providers.Csmar
import MarketDataFabric.Providers.CsmarTrades
import MarketDataFabric.Providers.TonglianTags
import MarketDataFabric.Providers.TonglianRuns
import MarketDataFabric.Mappers.MonotonicRuns
import MarketDataFabric.Mappers.ReplayRuns
import MarketDataFabric.Providers.CsmarRuns
import MarketDataFabric.Providers.Agreement
import MarketDataFabric.Providers.ContentIndependence
import MarketDataFabric.Replay.EventJournal
import MarketDataFabric.Replay.JournalFailStop
import MarketDataFabric.Runtime.SpscRing
import MarketDataFabric.Runtime.SpscSystem
import MarketDataFabric.Runtime.SpscMonitor
import MarketDataFabric.Library.Ledger
import MarketDataFabric.Replay.AsyncQueue
import MarketDataFabric.Replay.AsyncSystem
import MarketDataFabric.Replay.AsyncMonitor
import MarketDataFabric.Feed.Message
import MarketDataFabric.Replay.MessageLog
import MarketDataFabric.Replay.MessageLogReplay
import MarketDataFabric.Replay.MessageLogBudget
import MarketDataFabric.Replay.Checkpoint
import MarketDataFabric.Service.FeedSession
import MarketDataFabric.Service.SessionControl
import MarketDataFabric.Service.SessionAccounts
import MarketDataFabric.Service.SessionWords
import MarketDataFabric.Service.Backoff
import MarketDataFabric.Feed.Connection
import MarketDataFabric.Net.WebSocketEndpoint
import MarketDataFabric.Net.WebSocketClient
import MarketDataFabric.Apps.CliOptions
import MarketDataFabric.Apps.BinanceLive
import MarketDataFabric.Library.Restarts
import MarketDataFabric.Apps.CaptureOrder
import MarketDataFabric.Library.Scan
import MarketDataFabric.Library.Positions
import MarketDataFabric.Library.Decimal
import MarketDataFabric.Codecs.FixedPoint
import MarketDataFabric.Providers.Binance.JsonValueReader
import MarketDataFabric.Providers.Binance.FeedKeys
import MarketDataFabric.Providers.Binance.Mappers
import MarketDataFabric.Providers.Binance.KeySearch
import MarketDataFabric.Providers.Binance.EscapedObject
import MarketDataFabric.Providers.Binance.JsonScanner
import MarketDataFabric.Providers.Binance.Legibility
import MarketDataFabric.Providers.Binance.FlatObject
import MarketDataFabric.Providers.Binance.Decoding
import MarketDataFabric.Library.Chain
import MarketDataFabric.Library.Quota
import MarketDataFabric.Service.MessageHandlers
import MarketDataFabric.Apps.MapperHandlers
import MarketDataFabric.Feed.StableId
import MarketDataFabric.Providers.Binance.Feeds
import MarketDataFabric.Apps.LiveAccounts
import MarketDataFabric.Apps.LiveWords
import MarketDataFabric.Apps.CommandLine
import MarketDataFabric.Apps.StopSignal
import MarketDataFabric.Replay.AsyncCrash
import MarketDataFabric.Replay.TypedJournal
import MarketDataFabric.Apps.RawReplay
import MarketDataFabric.Mappers.GateBooks
import MarketDataFabric.Providers.Binance.AnyPayload
import MarketDataFabric.Providers.StreamBooks
import MarketDataFabric.Feed.MessageFrame
import MarketDataFabric.Providers.StreamOrder
import MarketDataFabric.Replay.Recovery
import MarketDataFabric.Runtime.FrameChannel
import MarketDataFabric.Providers.PhaseStream
import MarketDataFabric.Runtime.SpscOwner
