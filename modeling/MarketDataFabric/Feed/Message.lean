/-
**Provider messages**, `feed/message.hpp`: the envelope of a message, and a message as a handler sees
it.

An enumeration with a fixed underlying type has every value of that type, named or not.
-/

import Mathlib.Data.List.Basic

namespace MarketDataFabric.Feed

structure PayloadKind where
  value : UInt16
deriving Repr, DecidableEq

structure PayloadEncoding where
  value : UInt8
deriving Repr, DecidableEq

structure TransportProtocol where
  value : UInt8
deriving Repr, DecidableEq

structure Compression where
  value : UInt8
deriving Repr, DecidableEq

def PayloadKind.unknown : PayloadKind := ⟨0⟩

def PayloadKind.rawProviderMessage : PayloadKind := ⟨1⟩

def PayloadEncoding.unknown : PayloadEncoding := ⟨0⟩

def PayloadEncoding.providerJson : PayloadEncoding := ⟨1⟩

def PayloadEncoding.providerBinary : PayloadEncoding := ⟨2⟩

def TransportProtocol.unknown : TransportProtocol := ⟨0⟩

def TransportProtocol.webSocket : TransportProtocol := ⟨1⟩

def Compression.none : Compression := ⟨0⟩

structure MessageEnvelope where
  schemaVersion : UInt16 := 1
  payloadKind : PayloadKind := .unknown
  payloadEncoding : PayloadEncoding := .unknown
  protocol : TransportProtocol := .unknown
  compression : Compression := .none
  sourceId : UInt32 := 0
  venueId : UInt32 := 0
  connectionId : UInt32 := 0
  feedId : UInt32 := 0
  instrumentId : UInt32 := 0
  captureSeq : UInt64 := 0
  eventSeq : UInt64 := 0
  exchangeSeq : UInt64 := 0
  sourceTsNs : UInt64 := 0
  recvTsNs : UInt64 := 0
  publishTsNs : UInt64 := 0
  payloadSize : UInt32 := 0
  flags : UInt32 := 0
deriving Repr, DecidableEq

structure FeedMessageView where
  envelope : MessageEnvelope := {}
  payload : List UInt8 := []
deriving Repr, DecidableEq

end MarketDataFabric.Feed
