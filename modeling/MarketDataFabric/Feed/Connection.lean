/-
**Feed connections**, `feed/feed.hpp`: what a feed is, the parts of a connection that its messages
carry, and the envelopes made from them.
-/

import MarketDataFabric.Feed.Message

namespace MarketDataFabric.Feed

structure MarketSegment where
  value : UInt8
deriving Repr, DecidableEq

structure FeedKind where
  value : UInt8
deriving Repr, DecidableEq

structure FeedDepth where
  value : UInt16
deriving Repr, DecidableEq

structure FeedSpeed where
  value : UInt16
deriving Repr, DecidableEq

def MarketSegment.spot : MarketSegment := ⟨1⟩

def MarketSegment.linearDerivative : MarketSegment := ⟨2⟩

def MarketSegment.inverseDerivative : MarketSegment := ⟨3⟩

def MarketSegment.option : MarketSegment := ⟨4⟩

def FeedKind.trade : FeedKind := ⟨1⟩

def FeedKind.aggregateTrade : FeedKind := ⟨2⟩

def FeedKind.topOfBook : FeedKind := ⟨3⟩

def FeedKind.bookUpdate : FeedKind := ⟨4⟩

def FeedKind.bookSnapshot : FeedKind := ⟨5⟩

def FeedDepth.unknown : FeedDepth := ⟨0⟩

def FeedDepth.top5 : FeedDepth := ⟨5⟩

def FeedDepth.top10 : FeedDepth := ⟨10⟩

def FeedDepth.top20 : FeedDepth := ⟨20⟩

def FeedSpeed.default : FeedSpeed := ⟨0⟩

def FeedSpeed.realTime : FeedSpeed := ⟨1⟩

def FeedSpeed.ms100 : FeedSpeed := ⟨100⟩

def FeedSpeed.ms250 : FeedSpeed := ⟨250⟩

def FeedSpeed.ms500 : FeedSpeed := ⟨500⟩

structure VenueId where
  value : UInt16
deriving Repr, DecidableEq

def VenueId.unknown : VenueId := ⟨0⟩

def VenueId.binance : VenueId := ⟨1⟩

structure FeedSpec where
  venue : VenueId := .unknown
  market : MarketSegment := ⟨0⟩
  symbols : List (List Char) := []
  kind : FeedKind := ⟨0⟩
  depth : FeedDepth := .unknown
  speed : FeedSpeed := .default
  payloadEncoding : PayloadEncoding := .providerJson
deriving Repr, DecidableEq

def isAllSymbolToken (value : List Char) : Bool :=
  let upper := fun ch : Char => if ch ≥ 'a' ∧ ch ≤ 'z' then Char.ofNat (ch.toNat - 97 + 65) else ch
  value = ['*'] ∨ (value.length = 3 ∧ value.map upper = ['A', 'L', 'L'])

def isAllSymbols (symbols : List (List Char)) : Bool :=
  match symbols with
  | [] => true
  | [symbol] => isAllSymbolToken symbol
  | _ :: _ :: _ => false

structure ResolvedFeed where
  sourceId : UInt32 := 0
  feedId : UInt32 := 0
  payloadEncoding : PayloadEncoding := .providerJson
deriving Repr, DecidableEq

structure FeedConnectionSpec where
  sourceId : UInt32 := 0
  connectionId : UInt32 := 0
  protocol : TransportProtocol := .webSocket
  compression : Compression := .none
  feeds : List ResolvedFeed := []
deriving Repr, DecidableEq

/-- `MessageFlag`, already as bits. -/
def providerTimestampUnknown : UInt32 := (1 : UInt32) <<< 0

def feedKnownWithoutParsing : UInt32 := (1 : UInt32) <<< 1

def binaryPayload : UInt32 := (1 : UInt32) <<< 3

def makeFeedEnvelope (connection : FeedConnectionSpec) (feed : ResolvedFeed)
    (captureSeq recvTsNs : UInt64) (payloadKind : PayloadKind := .rawProviderMessage) :
    MessageEnvelope where
  payloadKind
  payloadEncoding := feed.payloadEncoding
  sourceId := if feed.sourceId = 0 then connection.sourceId else feed.sourceId
  connectionId := connection.connectionId
  feedId := feed.feedId
  captureSeq
  recvTsNs
  protocol := connection.protocol
  compression := connection.compression
  flags := providerTimestampUnknown ||| feedKnownWithoutParsing

def makeConnectionEnvelope (connection : FeedConnectionSpec) (captureSeq recvTsNs : UInt64)
    (payloadKind : PayloadKind := .rawProviderMessage)
    (payloadEncoding : PayloadEncoding := .providerJson) : MessageEnvelope where
  payloadKind
  payloadEncoding
  sourceId := connection.sourceId
  connectionId := connection.connectionId
  captureSeq
  recvTsNs
  protocol := connection.protocol
  compression := connection.compression
  flags := providerTimestampUnknown

end MarketDataFabric.Feed
