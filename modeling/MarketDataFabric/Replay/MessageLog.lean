/-
**The message log**, `replay/message_log.hpp`: its packed headers, the writer with its three limit
policies, and the reader.

* `step_appended` — what one `append` can do to the file; `run_bytes` — what a list of them does.
* `messageFormat` — the frames of a log in the terms of `Library.Framing`; `readNext_spec` — the
  reader takes what is at the front of its bytes.
* `reads_of_scan`, `okRecords_prefix` — what the calls of `read_next` return of bytes that are scanned.
-/

import Mathlib.Algebra.GroupWithZero.Nat
import Mathlib.Order.Basic
import MarketDataFabric.Feed.Message
import MarketDataFabric.Library.Framing
import MarketDataFabric.Library.Machine
import MarketDataFabric.Library.Stream

namespace MarketDataFabric.Replay

open Library MarketDataFabric.Feed

def kMessageLogMagic : Vector UInt8 8 :=
  #v['M', 'D', 'F', 'M', 'S', 'G', '1', '\x00'].map Char.toUInt8

def kMessageFrameMagic : Vector UInt8 4 := #v['M', 'S', 'G', 'F'].map Char.toUInt8

def kMessageLogFormatVersion : UInt16 := 1

def kMessageLogEndianCheck : UInt32 := 0x01020304

def kDefaultMessageLogMaxBytes : UInt64 := 100 * 1024 * 1024

def kDefaultMessageLogMaxPayloadBytes : UInt32 := 100 * 1024 * 1024

structure MessageLogFileHeader where
  magic : Vector UInt8 8 := kMessageLogMagic
  version : UInt16 := kMessageLogFormatVersion
  headerSize : UInt16 := 64
  flags : UInt32 := 0
  endianCheck : UInt32 := kMessageLogEndianCheck
  createdTsNs : UInt64 := 0
  sourceId : UInt32 := 0
  writerId : UInt32 := 0
  maxTotalBytes : UInt64 := 0
  reserved : Vector UInt8 20 := Vector.replicate 20 0
deriving Repr, DecidableEq

structure MessageLogFrameHeader where
  magic : Vector UInt8 4 := kMessageFrameMagic
  version : UInt16 := kMessageLogFormatVersion
  headerSize : UInt16 := 128
  payloadKind : UInt16 := 0
  payloadEncoding : UInt8 := 0
  protocol : UInt8 := 0
  compression : UInt8 := 0
  reserved0 : UInt8 := 0
  payloadSize : UInt32 := 0
  sourceId : UInt32 := 0
  venueId : UInt32 := 0
  connectionId : UInt32 := 0
  feedId : UInt32 := 0
  instrumentId : UInt32 := 0
  captureSeq : UInt64 := 0
  eventSeq : UInt64 := 0
  exchangeSeq : UInt64 := 0
  sourceTsNs : UInt64 := 0
  recvTsNs : UInt64 := 0
  publishTsNs : UInt64 := 0
  flags : UInt32 := 0
  reserved : Vector UInt8 38 := Vector.replicate 38 0
deriving Repr, DecidableEq

open FixedCodec in
/-- The memory image of the packed file header. -/
def MessageLogFileHeader.codec : FixedCodec MessageLogFileHeader :=
  ((byteArray 8).pair (uint16.pair (uint16.pair (uint32.pair (uint32.pair (uint64.pair (uint32.pair
    (uint32.pair (uint64.pair (byteArray 20)))))))))).iso
    (fun (magic, version, headerSize, flags, endianCheck, createdTsNs, sourceId, writerId,
        maxTotalBytes, reserved) =>
      { magic, version, headerSize, flags, endianCheck, createdTsNs, sourceId, writerId,
        maxTotalBytes, reserved })
    (fun header => (header.magic, header.version, header.headerSize, header.flags,
      header.endianCheck, header.createdTsNs, header.sourceId, header.writerId,
      header.maxTotalBytes, header.reserved))
    (fun _ => rfl) (fun _ => rfl)

open FixedCodec in
/-- The memory image of a packed frame header. -/
def MessageLogFrameHeader.codec : FixedCodec MessageLogFrameHeader :=
  ((byteArray 4).pair (uint16.pair (uint16.pair (uint16.pair (uint8.pair (uint8.pair (uint8.pair
    (uint8.pair (uint32.pair (uint32.pair (uint32.pair (uint32.pair (uint32.pair (uint32.pair
    (uint64.pair (uint64.pair (uint64.pair (uint64.pair (uint64.pair (uint64.pair
    (uint32.pair (byteArray 38)))))))))))))))))))))).iso
    (fun (magic, version, headerSize, payloadKind, payloadEncoding, protocol, compression,
        reserved0, payloadSize, sourceId, venueId, connectionId, feedId, instrumentId, captureSeq,
        eventSeq, exchangeSeq, sourceTsNs, recvTsNs, publishTsNs, flags, reserved) =>
      { magic, version, headerSize, payloadKind, payloadEncoding, protocol, compression, reserved0,
        payloadSize, sourceId, venueId, connectionId, feedId, instrumentId, captureSeq, eventSeq,
        exchangeSeq, sourceTsNs, recvTsNs, publishTsNs, flags, reserved })
    (fun header => (header.magic, header.version, header.headerSize, header.payloadKind,
      header.payloadEncoding, header.protocol, header.compression, header.reserved0,
      header.payloadSize, header.sourceId, header.venueId, header.connectionId, header.feedId,
      header.instrumentId, header.captureSeq, header.eventSeq, header.exchangeSeq,
      header.sourceTsNs, header.recvTsNs, header.publishTsNs, header.flags, header.reserved))
    (fun _ => rfl) (fun _ => rfl)

/-- `static_assert(sizeof(MessageLogFileHeader) == 64)`. -/
theorem MessageLogFileHeader.codec_size : MessageLogFileHeader.codec.size = 64 := rfl

/-- `static_assert(sizeof(MessageLogFrameHeader) == 128)`. -/
theorem MessageLogFrameHeader.codec_size : MessageLogFrameHeader.codec.size = 128 := rfl

def makeMessageLogFileHeader (createdTsNs : UInt64) (sourceId writerId : UInt32)
    (maxTotalBytes : UInt64) : MessageLogFileHeader :=
  { createdTsNs, sourceId, writerId, maxTotalBytes }

/-- A size beyond 32 bits is stored as the largest one. -/
def makeMessageLogFrameHeader (envelope : MessageEnvelope) (payloadSize : UInt64) :
    MessageLogFrameHeader :=
  { payloadKind := envelope.payloadKind.value
    payloadEncoding := envelope.payloadEncoding.value
    protocol := envelope.protocol.value
    compression := envelope.compression.value
    payloadSize := if payloadSize > 0xFFFFFFFF then 0xFFFFFFFF else payloadSize.toUInt32
    sourceId := envelope.sourceId
    venueId := envelope.venueId
    connectionId := envelope.connectionId
    feedId := envelope.feedId
    instrumentId := envelope.instrumentId
    captureSeq := envelope.captureSeq
    eventSeq := envelope.eventSeq
    exchangeSeq := envelope.exchangeSeq
    sourceTsNs := envelope.sourceTsNs
    recvTsNs := envelope.recvTsNs
    publishTsNs := envelope.publishTsNs
    flags := envelope.flags }

def toMessageEnvelope (header : MessageLogFrameHeader) : MessageEnvelope :=
  { payloadKind := ⟨header.payloadKind⟩
    payloadEncoding := ⟨header.payloadEncoding⟩
    protocol := ⟨header.protocol⟩
    compression := ⟨header.compression⟩
    payloadSize := header.payloadSize
    sourceId := header.sourceId
    venueId := header.venueId
    connectionId := header.connectionId
    feedId := header.feedId
    instrumentId := header.instrumentId
    captureSeq := header.captureSeq
    eventSeq := header.eventSeq
    exchangeSeq := header.exchangeSeq
    sourceTsNs := header.sourceTsNs
    recvTsNs := header.recvTsNs
    publishTsNs := header.publishTsNs
    flags := header.flags }

/-- **The stored envelope is the given one**, up to the schema version, which is not stored, and the
size. -/
theorem toMessageEnvelope_make (envelope : MessageEnvelope) (payloadSize : UInt64) :
    toMessageEnvelope (makeMessageLogFrameHeader envelope payloadSize) =
      { envelope with
        schemaVersion := 1
        payloadSize := (makeMessageLogFrameHeader envelope payloadSize).payloadSize } := rfl

/-- A size that fits is stored as it is. -/
theorem make_payloadSize (envelope : MessageEnvelope) {size : Nat} (fits : size < 2 ^ 32) :
    (makeMessageLogFrameHeader envelope (UInt64.ofNat size)).payloadSize.toNat = size := by
  have wide : (UInt64.ofNat size).toNat = size :=
    UInt64.toNat_ofNat_of_lt' (Nat.lt_trans fits (by decide))
  have small : ¬ UInt64.ofNat size > 0xFFFFFFFF := by
    rw [gt_iff_lt, UInt64.lt_iff_toNat_lt, wide]
    exact Nat.not_lt.mpr (Nat.le_of_lt_succ fits)
  rw [makeMessageLogFrameHeader]
  dsimp only
  rw [if_neg small, UInt64.toNat_toUInt32, wide, Nat.mod_eq_of_lt fits]

/-! ### The writer -/

/-- `other` is any value that the enumeration does not name. -/
inductive MessageLogLimitPolicy where
  | stopRecording
  | dropNew
  | rotateDeleteOldest
  | other (value : UInt8)
deriving Repr, DecidableEq

inductive MessageLogAppendStatus where
  | written
  | droppedByLimit
  | stoppedByLimit
  | writerClosed
  | payloadTooLarge
  | ioError
  | rotateNotImplemented
deriving Repr, DecidableEq

structure MessageLogWriterOptions where
  maxTotalBytes : UInt64 := kDefaultMessageLogMaxBytes
  limitPolicy : MessageLogLimitPolicy := .stopRecording
  sourceId : UInt32 := 0
  writerId : UInt32 := 0
deriving Repr, DecidableEq

structure MessageLogAppendResult where
  status : MessageLogAppendStatus := .writerClosed
  bytesWritten : UInt64 := 0
  framesWritten : UInt64 := 0
deriving Repr, DecidableEq

structure MessageLogWriter where
  options : MessageLogWriterOptions := {}
  out : OStream := {}
  isOpen : Bool := false
  bytesWritten : UInt64 := 0
  framesWritten : UInt64 := 0
  limited : Bool := false
deriving Repr, DecidableEq

/-- What the stream answers when a log is closed. -/
structure Closing where
  flush : WriteAnswer := .written
  close : WriteAnswer := .written
deriving Repr, DecidableEq

namespace MessageLogWriter

def flush (writer : MessageLogWriter) (answer : WriteAnswer) : MessageLogWriter :=
  if writer.isOpen then { writer with out := writer.out.flush answer } else writer

def close (writer : MessageLogWriter) (closing : Closing := {}) : MessageLogWriter :=
  if writer.isOpen then
    let out := writer.out.flush closing.flush
    { writer with out := out.close closing.close, isOpen := false }
  else writer

/-- `opens`: the file can be opened. The clock is read for the header, and `answer` is the stream's
to its write. The log before is closed, and so is this one if its header cannot be written. -/
def «open» (writer : MessageLogWriter) (options : MessageLogWriterOptions) (opens : Bool)
    (nowEpochNs : UInt64) (answer : WriteAnswer) (before failed : Closing := {}) :
    MessageLogAppendStatus × MessageLogWriter :=
  let writer :=
    { writer.close before with
      options, limited := false, bytesWritten := 0, framesWritten := 0 }
  if opens = false then
    (.ioError, writer)
  else
    let header := makeMessageLogFileHeader nowEpochNs options.sourceId options.writerId
      options.maxTotalBytes
    let out := ({} : OStream).write (MessageLogFileHeader.codec.encode header) answer
    let writer := { writer with out, isOpen := true }
    if out.good = false then
      (.ioError, writer.close failed)
    else
      (.written, { writer with bytesWritten := UInt64.ofNat MessageLogFileHeader.codec.size })

/-- A result with the counters as they are. -/
def result (writer : MessageLogWriter) (status : MessageLogAppendStatus) : MessageLogAppendResult :=
  ⟨status, writer.bytesWritten, writer.framesWritten⟩

def wouldExceedLimit (writer : MessageLogWriter) (nextFrameBytes : UInt64) : Bool :=
  if writer.options.maxTotalBytes = 0 then false
  else if writer.bytesWritten > writer.options.maxTotalBytes then true
  else nextFrameBytes > writer.options.maxTotalBytes - writer.bytesWritten

def handleLimit (writer : MessageLogWriter) : MessageLogAppendResult × MessageLogWriter :=
  match writer.options.limitPolicy with
  | .stopRecording => (writer.result .stoppedByLimit, { writer with limited := true })
  | .dropNew => (writer.result .droppedByLimit, writer)
  | .rotateDeleteOldest => (writer.result .rotateNotImplemented, { writer with limited := true })
  | .other _ => (writer.result .stoppedByLimit, { writer with limited := true })

/-- The answers are those of the stream to the two writes. -/
def append (writer : MessageLogWriter) (envelope : MessageEnvelope) (payload : List UInt8)
    (headerAnswer payloadAnswer : WriteAnswer) : MessageLogAppendResult × MessageLogWriter :=
  if writer.isOpen = false then
    (writer.result .writerClosed, writer)
  else if writer.limited then
    (writer.result .stoppedByLimit, writer)
  else if payload.length > 0xFFFFFFFF then
    (writer.result .payloadTooLarge, writer)
  else
    let frameBytes := UInt64.ofNat (MessageLogFrameHeader.codec.size + payload.length)
    if writer.wouldExceedLimit frameBytes then
      writer.handleLimit
    else
      let header := makeMessageLogFrameHeader envelope (UInt64.ofNat payload.length)
      let out := writer.out.write (MessageLogFrameHeader.codec.encode header) headerAnswer
      let out := if payload.isEmpty then out else out.write payload payloadAnswer
      let writer := { writer with out }
      if out.good = false then
        (writer.result .ioError, writer)
      else
        let writer :=
          { writer with
            bytesWritten := writer.bytesWritten + frameBytes
            framesWritten := writer.framesWritten + 1 }
        (writer.result .written, writer)

end MessageLogWriter

/-! ### The reader -/

inductive MessageLogReadStatus where
  | ok
  | eof
  | invalidHeader
  | payloadTooLarge
  | ioError
deriving Repr, DecidableEq

structure MessageLogReaderOptions where
  maxPayloadBytes : UInt32 := kDefaultMessageLogMaxPayloadBytes
deriving Repr, DecidableEq

structure MessageLogRecord where
  header : MessageLogFrameHeader := {}
  payload : List UInt8 := []
deriving Repr, DecidableEq

def MessageLogRecord.envelope (record : MessageLogRecord) : MessageEnvelope :=
  toMessageEnvelope record.header

structure MessageLogReader where
  input : IStream := { rest := [] }
  isOpen : Bool := false
  fileHeader : MessageLogFileHeader := {}
  options : MessageLogReaderOptions := {}
deriving Repr, DecidableEq

/-- The check of a file header that refuses a log. -/
def MessageLogFileHeader.malformed (header : MessageLogFileHeader) : Bool :=
  header.magic ≠ kMessageLogMagic ∨ header.version ≠ kMessageLogFormatVersion ∨
    header.headerSize.toNat ≠ MessageLogFileHeader.codec.size ∨
    header.endianCheck ≠ kMessageLogEndianCheck

/-- The check of a frame header that does not depend on the options. -/
def MessageLogFrameHeader.malformed (header : MessageLogFrameHeader) : Bool :=
  header.magic ≠ kMessageFrameMagic ∨ header.version ≠ kMessageLogFormatVersion ∨
    header.headerSize.toNat ≠ MessageLogFrameHeader.codec.size

namespace MessageLogReader

def close (reader : MessageLogReader) : MessageLogReader := { reader with isOpen := false }

/-- `file` is what the path names, if it can be opened. -/
def «open» (reader : MessageLogReader) (file : Option (List UInt8))
    (options : MessageLogReaderOptions) : MessageLogReadStatus × MessageLogReader :=
  let reader := { reader.close with options }
  match file with
  | none => (.ioError, reader)
  | some bytes =>
      let (bytes, input) :=
        ({ rest := bytes } : IStream).read MessageLogFileHeader.codec.size
      let fileHeader := MessageLogFileHeader.codec.decodeOver reader.fileHeader bytes
      let reader := { reader with input, isOpen := true, fileHeader }
      if input.gcount ≠ MessageLogFileHeader.codec.size ∨ fileHeader.malformed then
        (.invalidHeader, reader.close)
      else
        (.ok, reader)

/-- `record` is written in place: a torn payload leaves its header and its first bytes behind. -/
def readNext (reader : MessageLogReader) (record : MessageLogRecord) :
    MessageLogReadStatus × MessageLogRecord × MessageLogReader :=
  if reader.isOpen = false then
    (.ioError, record, reader)
  else
    let (bytes, input) := reader.input.read MessageLogFrameHeader.codec.size
    let header := MessageLogFrameHeader.codec.decodeOver {} bytes
    let reader := { reader with input }
    if input.gcount = 0 ∧ input.eof then
      (.eof, record, reader)
    else if input.gcount ≠ MessageLogFrameHeader.codec.size ∨ header.malformed then
      (.invalidHeader, record, reader)
    -- The header has been read: an early return leaves the stream in front of the payload.
    else if header.payloadSize > reader.options.maxPayloadBytes then
      (.payloadTooLarge, record, reader)
    else
      let record : MessageLogRecord := ⟨header, List.replicate header.payloadSize.toNat 0⟩
      if header.payloadSize > 0 then
        let (bytes, input) := input.read header.payloadSize.toNat
        let record := { record with payload := overlay record.payload bytes }
        let reader := { reader with input }
        if input.gcount ≠ header.payloadSize.toNat then
          (.invalidHeader, record, reader)
        else
          (.ok, record, reader)
      else
        (.ok, record, reader)

/-- The answers of `count` calls of `read_next` on one record. -/
def reads : Nat → MessageLogReader → MessageLogRecord →
    List (MessageLogReadStatus × MessageLogRecord)
  | 0, _, _ => []
  | count + 1, reader, record =>
      let (status, record, reader) := reader.readNext record
      (status, record) :: reads count reader record

end MessageLogReader

/-! ### What an append does to the file -/

/-- The frame of a message. -/
def messageFrame (message : FeedMessageView) : MessageLogFrameHeader × List UInt8 :=
  (makeMessageLogFrameHeader message.envelope (UInt64.ofNat message.payload.length),
    message.payload)

/-- The bytes of a run of frames. -/
def frameBytes (frames : List (MessageLogFrameHeader × List UInt8)) : List UInt8 :=
  frames.flatMap fun frame => MessageLogFrameHeader.codec.encode frame.1 ++ frame.2

theorem frameBytes_cons (frame : MessageLogFrameHeader × List UInt8)
    (frames : List (MessageLogFrameHeader × List UInt8)) :
    frameBytes (frame :: frames) = frameBytes [frame] ++ frameBytes frames := by
  unfold frameBytes
  rw [List.flatMap_cons, List.flatMap_singleton]

/-- A call of `append`, with the answers of the stream. -/
structure AppendCall where
  message : FeedMessageView
  headerAnswer : WriteAnswer := .written
  payloadAnswer : WriteAnswer := .written
deriving Repr, DecidableEq

/-- The stream takes both writes. -/
def AppendCall.Taken (call : AppendCall) : Prop :=
  call.headerAnswer = .written ∧ call.payloadAnswer = .written

instance (call : AppendCall) : Decidable call.Taken := inferInstanceAs (Decidable (_ ∧ _))

/-- Nothing that the file has waits to be handed on. -/
def AppendCall.Seamless (call : AppendCall) : Prop :=
  call.headerAnswer.Seamless ∧ call.payloadAnswer.Seamless

instance (call : AppendCall) : Decidable call.Seamless := inferInstanceAs (Decidable (_ ∧ _))

namespace MessageLogWriter

def step (writer : MessageLogWriter) (call : AppendCall) :
    MessageLogWriter × MessageLogAppendResult :=
  let (result, writer) := writer.append call.message.envelope call.message.payload
    call.headerAnswer call.payloadAnswer
  (writer, result)

/-- The writer after a list of appends. -/
abbrev after (writer : MessageLogWriter) (calls : List AppendCall) : MessageLogWriter :=
  Machine.final step writer calls

/-- **What one append does** to an open log on a good stream: nothing, or the stream takes a frame, or
fails over it. -/
inductive Appended (writer : MessageLogWriter) (call : AppendCall) (later : MessageLogWriter) :
    MessageLogAppendStatus → Prop
  | refused {status : MessageLogAppendStatus} : status ≠ .written → status ≠ .ioError →
      later.out = writer.out → Appended writer call later status
  | written : call.message.payload.length < 2 ^ 32 →
      later.out =
        ⟨writer.out.file, writer.out.put ++ frameBytes [messageFrame call.message], true⟩ →
      Appended writer call later .written
  | failed : call.message.payload.length < 2 ^ 32 → ¬ call.Taken →
      writer.out.Failed (frameBytes [messageFrame call.message]) call.Seamless later.out →
      Appended writer call later .ioError

/-- An append does not close the file. -/
theorem append_isOpen (writer : MessageLogWriter) (call : AppendCall) :
    (writer.step call).1.isOpen = writer.isOpen := by
  unfold step append handleLimit
  dsimp only
  split_ifs <;> try rfl
  cases writer.options.limitPolicy <;> rfl

theorem step_appended {writer : MessageLogWriter} (opened : writer.isOpen = true)
    (good : writer.out.good = true) (call : AppendCall) :
    Appended writer call (writer.step call).1 (writer.step call).2.status := by
  unfold step append
  rw [if_neg (by rw [opened]; decide)]
  by_cases limited : writer.limited
  · rw [if_pos limited]
    exact .refused nofun nofun rfl
  rw [if_neg limited]
  by_cases large : call.message.payload.length > 0xFFFFFFFF
  · rw [if_pos large]
    exact .refused nofun nofun rfl
  rw [if_neg large]
  dsimp only
  by_cases exceeds : writer.wouldExceedLimit
      (UInt64.ofNat (MessageLogFrameHeader.codec.size + call.message.payload.length))
  · rw [if_pos exceeds]
    unfold handleLimit
    cases writer.options.limitPolicy <;> exact .refused nofun nofun rfl
  rw [if_neg exceeds]
  have small : call.message.payload.length < 2 ^ 32 := Nat.lt_succ_of_le (Nat.le_of_not_lt large)
  have chunks : frameBytes [messageFrame call.message] =
      MessageLogFrameHeader.codec.encode (messageFrame call.message).1 ++ call.message.payload :=
    List.append_nil _
  rcases OStream.write_both good (MessageLogFrameHeader.codec.encode (messageFrame call.message).1)
      call.message.payload call.headerAnswer call.payloadAnswer with out | ⟨untaken, out⟩
  · rw [← chunks] at out
    simp only [messageFrame] at out
    simp only [out, Bool.true_eq_false, if_false]
    exact .written small rfl
  · rw [← chunks] at out
    simp only [messageFrame] at out
    simp only [out.bad, if_true]
    exact .failed small untaken out

/-- On a stream that is not good an append leaves the file alone and does not answer `Written`. -/
theorem step_of_not_good {writer : MessageLogWriter} (bad : writer.out.good = false)
    (call : AppendCall) :
    (writer.step call).1.out = writer.out ∧ (writer.step call).2.status ≠ .written := by
  unfold step append handleLimit
  simp only [OStream.write_of_not_good bad, ite_self, bad, if_true]
  split_ifs <;> first | exact ⟨rfl, nofun⟩ | skip
  cases writer.options.limitPolicy <;> exact ⟨rfl, nofun⟩

/-- The messages of the calls whose answer counts. -/
def messagesWhere (counts : MessageLogWriter → MessageLogAppendStatus → Bool) :
    MessageLogWriter → List AppendCall → List FeedMessageView
  | _, [] => []
  | writer, call :: rest =>
      let (later, result) := writer.step call
      if counts writer result.status then call.message :: messagesWhere counts later rest
      else messagesWhere counts later rest

/-- **The messages that `append` answered `Written` for**, in order. -/
def written : MessageLogWriter → List AppendCall → List FeedMessageView :=
  messagesWhere fun _ status => status = .written

/-- The messages whose frames were given to the stream: the written ones, and the one at which it
failed. -/
def recorded : MessageLogWriter → List AppendCall → List FeedMessageView :=
  messagesWhere fun writer status => status = .written ∨ status = .ioError ∧ writer.out.good

theorem written_cons (writer : MessageLogWriter) (call : AppendCall) (rest : List AppendCall) :
    writer.written (call :: rest) =
      if (writer.step call).2.status = .written then
        call.message :: (writer.step call).1.written rest
      else (writer.step call).1.written rest := by
  show (if decide _ = true then _ else _) = _
  simp only [decide_eq_true_eq]
  rfl

theorem recorded_cons (writer : MessageLogWriter) (call : AppendCall) (rest : List AppendCall) :
    writer.recorded (call :: rest) =
      if (writer.step call).2.status = .written ∨
          (writer.step call).2.status = .ioError ∧ writer.out.good = true then
        call.message :: (writer.step call).1.recorded rest
      else (writer.step call).1.recorded rest := by
  show (if decide _ = true then _ else _) = _
  simp only [decide_eq_true_eq]
  rfl

theorem recorded_of_not_good {writer : MessageLogWriter} (bad : writer.out.good = false)
    (calls : List AppendCall) :
    writer.recorded calls = [] ∧ (writer.after calls).out = writer.out := by
  induction calls generalizing writer with
  | nil => exact ⟨rfl, rfl⟩
  | cons call rest ih =>
      obtain ⟨same, status⟩ := step_of_not_good bad call
      obtain ⟨nothing, still⟩ := ih (same ▸ bad)
      refine ⟨?_, still.trans same⟩
      rw [recorded_cons, if_neg (by simp only [status, bad, Bool.false_eq_true, and_false, or_self,
        not_false_eq_true])]
      exact nothing

/-- Nor does a list of them. -/
theorem after_isOpen (writer : MessageLogWriter) (calls : List AppendCall) :
    (writer.after calls).isOpen = writer.isOpen :=
  Machine.final_invariant step (fun later => later.isOpen = writer.isOpen) (fun _ => True)
    (fun later call same _ => (append_isOpen later call).trans same) rfl fun _ _ => trivial

/-- **What a list of appends gives the stream**: the recorded frames. -/
theorem run_given {writer : MessageLogWriter} (opened : writer.isOpen = true)
    (good : writer.out.good = true) {seamless : Prop} {all : List UInt8}
    (given : writer.out.Given seamless all) (calls : List AppendCall) :
    (∀ message ∈ writer.recorded calls, message.payload.length < 2 ^ 32) ∧
      (writer.after calls).out.Given (seamless ∧ ∀ call ∈ calls, call.Seamless)
        (all ++ frameBytes ((writer.recorded calls).map messageFrame)) := by
  induction calls generalizing writer seamless all with
  | nil =>
      refine ⟨nofun, ?_⟩
      show writer.out.Given _ (all ++ [])
      rw [List.append_nil]
      exact given.mono And.left
  | cons call rest ih =>
      have appended := step_appended opened good call
      have stillOpen := (append_isOpen writer call).trans opened
      have unfolded := recorded_cons writer call rest
      have later_seamless (holds : seamless ∧ ∀ other ∈ call :: rest, other.Seamless) :
          seamless ∧ ∀ other ∈ rest, other.Seamless :=
        ⟨holds.1, fun other member => holds.2 other (List.mem_cons_of_mem _ member)⟩
      show _ ∧ ((writer.step call).1.after rest).out.Given _ _
      generalize (writer.step call).1 = later at appended stillOpen unfolded
      generalize (writer.step call).2.status = status at appended unfolded
      cases appended with
      | refused other intact same =>
          rw [if_neg (by simp [other, intact])] at unfolded
          rw [unfolded]
          obtain ⟨sizes, whole⟩ := ih stillOpen (same ▸ good) (same ▸ given)
          exact ⟨sizes, whole.mono later_seamless⟩
      | written small out =>
          have taken : later.out.Given seamless
              (all ++ frameBytes [messageFrame call.message]) := by
            refine .of_good ?_
            rw [out, OStream.bytes_append, ← given.whole good]
            rfl
          obtain ⟨sizes, whole⟩ := ih stillOpen (by rw [out]) taken
          have front := frameBytes_cons (messageFrame call.message)
            ((later.recorded rest).map messageFrame)
          rw [if_pos (Or.inl rfl)] at unfolded
          rw [unfolded, List.map_cons, front, ← List.append_assoc]
          refine ⟨fun message member => ?_, whole.mono later_seamless⟩
          rcases List.mem_cons.mp member with rfl | member
          · exact small
          · exact sizes message member
      | failed small untaken out =>
          obtain ⟨nothing, still⟩ := recorded_of_not_good out.bad rest
          rw [if_pos (Or.inr ⟨rfl, good⟩), nothing] at unfolded
          rw [unfolded, still]
          refine ⟨fun message member => ?_, (out.given given).mono fun holds =>
            ⟨holds.1, holds.2 call List.mem_cons_self⟩⟩
          rw [List.mem_singleton.mp member]
          exact small

/-- **While the stream takes every write**, the log grows by the frames of the written messages. -/
theorem run_written {writer : MessageLogWriter} (opened : writer.isOpen = true)
    (good : writer.out.good = true) (calls : List AppendCall) (taken : ∀ call ∈ calls, call.Taken) :
    (∀ message ∈ writer.written calls, message.payload.length < 2 ^ 32) ∧
      (writer.after calls).out.bytes =
        writer.out.bytes ++ frameBytes ((writer.written calls).map messageFrame) := by
  induction calls generalizing writer with
  | nil => exact ⟨nofun, (List.append_nil _).symm⟩
  | cons call rest ih =>
      have appended := step_appended opened good call
      have stillOpen := (append_isOpen writer call).trans opened
      have others : ∀ other ∈ rest, other.Taken := fun other member =>
        taken other (List.mem_cons_of_mem _ member)
      have unfolded := written_cons writer call rest
      show _ ∧ ((writer.step call).1.after rest).out.bytes = _
      generalize (writer.step call).1 = later at appended stillOpen unfolded
      generalize (writer.step call).2.status = status at appended unfolded
      cases appended with
      | refused other intact same =>
          rw [if_neg other] at unfolded
          rw [unfolded, ← same]
          exact ih stillOpen (same ▸ good) others
      | written small out =>
          obtain ⟨sizes, bytes⟩ := ih stillOpen (by rw [out]) others
          rw [if_pos rfl] at unfolded
          rw [unfolded]
          refine ⟨fun message member => ?_, ?_⟩
          · rcases List.mem_cons.mp member with rfl | member
            · exact small
            · exact sizes message member
          · have front := frameBytes_cons (messageFrame call.message)
              ((later.written rest).map messageFrame)
            rw [bytes, out, OStream.bytes_append, List.map_cons, front, ← List.append_assoc]
            rfl
      | failed small untaken => exact absurd (taken call List.mem_cons_self) untaken

end MessageLogWriter

/-! ### What a call of `read_next` takes -/

/-- The frames of a log. A malformed header is refused, and one that announces too much. -/
def messageFormat (maxPayloadBytes : UInt32) :
    FrameFormat MessageLogFrameHeader MessageLogReadStatus where
  codec := MessageLogFrameHeader.codec
  nonempty := by decide
  payloadSize header := header.payloadSize.toNat
  refusal header :=
    if header.malformed then some .invalidHeader
    else if header.payloadSize > maxPayloadBytes then some .payloadTooLarge
    else none

/-- How the reader reports that there is no frame. -/
def readStatusOf : FrameFormat.Stop MessageLogReadStatus → MessageLogReadStatus
  | .clean => .eof
  | .torn => .invalidHeader
  | .refused reason => reason

theorem messageFormat_refusal_eq_none_iff {maxPayloadBytes : UInt32}
    {header : MessageLogFrameHeader} :
    (messageFormat maxPayloadBytes).refusal header = none ↔
      header.malformed = false ∧ ¬ header.payloadSize > maxPayloadBytes := by
  cases malformed : header.malformed <;> simp [messageFormat, malformed]

/-- A refusal reports a malformed header, or else the announced size. -/
theorem messageFormat_refusal_eq_some_iff {maxPayloadBytes : UInt32}
    {header : MessageLogFrameHeader} {reason : MessageLogReadStatus} :
    (messageFormat maxPayloadBytes).refusal header = some reason ↔
      if header.malformed then reason = .invalidHeader
      else header.payloadSize > maxPayloadBytes ∧ reason = .payloadTooLarge := by
  cases malformed : header.malformed with
  | true =>
      simp only [messageFormat, malformed, if_true, Option.some.injEq]
      exact eq_comm
  | false =>
      simp only [messageFormat, malformed, Bool.false_eq_true, if_false]
      split_ifs with large
      · simp only [Option.some.injEq, large, true_and]
        exact eq_comm
      · simp only [large, false_and]

namespace MessageLogReader

/-- An open reader on a good stream, over the bytes that are left. -/
structure At (reader : MessageLogReader) (maxPayloadBytes : UInt32) (rest : List UInt8) : Prop where
  isOpen : reader.isOpen = true
  good : reader.input.good = true
  rest : reader.input.rest = rest
  options : reader.options.maxPayloadBytes = maxPayloadBytes

/-- An open reader that has run into the end of its file. -/
structure Ended (reader : MessageLogReader) : Prop where
  isOpen : reader.isOpen = true
  eof : reader.input.eof = true

/-- Behind the end there is only `Eof`. -/
theorem readNext_ended {reader : MessageLogReader} (ended : reader.Ended)
    (record : MessageLogRecord) :
    (reader.readNext record).1 = .eof ∧ (reader.readNext record).2.1 = record ∧
      (reader.readNext record).2.2.Ended := by
  obtain ⟨isOpen, eof⟩ := ended
  have bad : reader.input.good = false := by rw [IStream.good, eof]; rfl
  have nothing : reader.input.read MessageLogFrameHeader.codec.size =
      ([], { reader.input with fail := true, gcount := 0 }) := by
    rw [IStream.read, if_neg (by rw [bad]; decide)]
  unfold readNext
  rw [if_neg (by rw [isOpen]; decide), nothing]
  dsimp only
  rw [if_pos ⟨rfl, eof⟩]
  exact ⟨rfl, rfl, isOpen, eof⟩

/-- `read_next` past a whole frame header. -/
theorem readNext_header {reader : MessageLogReader} (isOpen : reader.isOpen = true)
    (good : reader.input.good = true)
    (whole : MessageLogFrameHeader.codec.size ≤ reader.input.rest.length)
    (record : MessageLogRecord) :
    reader.readNext record =
      let header := MessageLogFrameHeader.codec.decode
        (reader.input.rest.take MessageLogFrameHeader.codec.size)
      let body : IStream :=
        { rest := reader.input.rest.drop MessageLogFrameHeader.codec.size
          gcount := MessageLogFrameHeader.codec.size }
      let reader := { reader with input := body }
      if header.malformed then (.invalidHeader, record, reader)
      else if header.payloadSize > reader.options.maxPayloadBytes then
        (.payloadTooLarge, record, reader)
      else
        let record : MessageLogRecord := ⟨header, List.replicate header.payloadSize.toNat 0⟩
        if header.payloadSize > 0 then
          let (bytes, input) := body.read header.payloadSize.toNat
          let record := { record with payload := overlay record.payload bytes }
          let reader := { reader with input }
          if input.gcount ≠ header.payloadSize.toNat then (.invalidHeader, record, reader)
          else (.ok, record, reader)
        else (.ok, record, reader) := by
  have positive : ¬ MessageLogFrameHeader.codec.size = 0 := by decide
  have decoded : MessageLogFrameHeader.codec.decodeOver {}
      (reader.input.rest.take MessageLogFrameHeader.codec.size) =
        MessageLogFrameHeader.codec.decode
          (reader.input.rest.take MessageLogFrameHeader.codec.size) :=
    FixedCodec.decodeOver_of_length _ (List.length_take_of_le whole)
  unfold readNext
  rw [if_neg (by rw [isOpen]; decide)]
  simp only [IStream.read_of_le good whole, decoded, positive, false_and, if_false, ne_eq,
    not_true_eq_false, false_or]

/-- A header that announces too much is taken off the stream, and nothing else. -/
theorem readNext_payloadTooLarge {reader : MessageLogReader} {maxPayloadBytes : UInt32}
    {header : MessageLogFrameHeader} {rest : List UInt8} (head : header.malformed = false)
    (large : header.payloadSize > maxPayloadBytes)
    (here : reader.At maxPayloadBytes (MessageLogFrameHeader.codec.encode header ++ rest))
    (record : MessageLogRecord) :
    (reader.readNext record).1 = .payloadTooLarge ∧ (reader.readNext record).2.1 = record ∧
      (reader.readNext record).2.2.At maxPayloadBytes rest := by
  obtain ⟨isOpen, good, bytes, rfl⟩ := here
  have long := MessageLogFrameHeader.codec.length_encode header
  have whole : MessageLogFrameHeader.codec.size ≤ reader.input.rest.length := by
    rw [bytes, List.length_append, long]
    exact Nat.le_add_right _ _
  rw [readNext_header isOpen good whole, bytes]
  simp only [List.take_left' long, List.drop_left' long, MessageLogFrameHeader.codec.decode_encode,
    head, Bool.false_eq_true, if_false, large, if_true]
  exact ⟨trivial, trivial, isOpen, rfl, rfl, rfl⟩

/-- **What `read_next` does on a good stream** is what the front of its bytes says. -/
theorem readNext_spec {reader : MessageLogReader} {maxPayloadBytes : UInt32} {bytes : List UInt8}
    (here : reader.At maxPayloadBytes bytes) (record : MessageLogRecord) :
    match (messageFormat maxPayloadBytes).cut bytes with
    | .frame header payload rest =>
        (reader.readNext record).1 = .ok ∧ (reader.readNext record).2.1 = ⟨header, payload⟩ ∧
          (reader.readNext record).2.2.At maxPayloadBytes rest
    | .stop reason =>
        (reader.readNext record).1 = readStatusOf reason ∧
          (reason = .clean ∨ reason = .torn → (reader.readNext record).2.2.Ended) := by
  obtain ⟨isOpen, good, rfl, rfl⟩ := here
  have codec : (messageFormat reader.options.maxPayloadBytes).codec =
    MessageLogFrameHeader.codec := rfl
  have payloadSize (header : MessageLogFrameHeader) :
      (messageFormat reader.options.maxPayloadBytes).payloadSize header =
        header.payloadSize.toNat := rfl
  have front := (messageFormat reader.options.maxPayloadBytes).cut_front reader.input.rest
  generalize (messageFormat reader.options.maxPayloadBytes).cut reader.input.rest = cut at front
  cases front with
  | ended empty =>
      have short : reader.input.rest.length < MessageLogFrameHeader.codec.size := by
        rw [empty]
        decide
      simp only [readNext, isOpen, Bool.true_eq_false, if_false, IStream.read_of_lt good short,
        empty, and_self, if_true]
      exact ⟨rfl, fun _ => ⟨rfl, rfl⟩⟩
  | shortHeader some short =>
      have short : reader.input.rest.length < MessageLogFrameHeader.codec.size := short
      have other : ¬ reader.input.rest.length = MessageLogFrameHeader.codec.size :=
        Nat.ne_of_lt short
      simp only [readNext, isOpen, Bool.true_eq_false, if_false, IStream.read_of_lt good short,
        some, other, false_and, ne_eq, not_false_eq_true, true_or, if_true]
      exact ⟨rfl, fun _ => ⟨rfl, rfl⟩⟩
  | refused reason whole refused =>
      rw [readNext_header isOpen good whole]
      have refused := messageFormat_refusal_eq_some_iff.mp refused
      refine ⟨?_, fun other => by rcases other with impossible | impossible <;> cases impossible⟩
      show _ = reason
      simp only [codec] at refused
      generalize MessageLogFrameHeader.codec.decode
        (reader.input.rest.take MessageLogFrameHeader.codec.size) = header at refused
      dsimp only
      split_ifs at refused with malformed
      · rw [if_pos malformed, refused]
      · rw [if_neg malformed, if_pos refused.1, refused.2]
  | shortPayload whole taken missing =>
      rw [readNext_header isOpen good whole]
      have taken := messageFormat_refusal_eq_none_iff.mp taken
      simp only [codec, payloadSize] at taken missing
      generalize MessageLogFrameHeader.codec.decode
        (reader.input.rest.take MessageLogFrameHeader.codec.size) = header at taken missing
      have some : header.payloadSize > 0 := by
        rw [gt_iff_lt, UInt32.lt_iff_toNat_lt]
        exact Nat.lt_of_le_of_lt (Nat.zero_le _) missing
      have torn := Nat.ne_of_lt missing
      simp only [taken.1, Bool.false_eq_true, if_false, taken.2, some, if_true]
      rw [IStream.read_of_lt rfl missing]
      simp only [torn, ne_eq, not_false_eq_true, if_true, readStatusOf]
      exact ⟨trivial, fun _ => ⟨isOpen, rfl⟩⟩
  | frame header whole decoded taken inside =>
      rw [readNext_header isOpen good whole]
      have taken := messageFormat_refusal_eq_none_iff.mp taken
      simp only [codec, payloadSize] at decoded inside
      simp only [codec, payloadSize, ← decoded, taken.1, Bool.false_eq_true, if_false, taken.2]
      by_cases some : header.payloadSize > 0
      · have long : ((reader.input.rest.drop MessageLogFrameHeader.codec.size).take
            header.payloadSize.toNat).length = header.payloadSize.toNat :=
          List.length_take_of_le inside
        rw [if_pos some, IStream.read_of_le rfl inside,
          overlay_of_length (by rw [List.length_replicate, long])]
        simp only [ne_eq, not_true_eq_false, if_false]
        exact ⟨trivial, trivial, isOpen, rfl, rfl, rfl⟩
      · have none : header.payloadSize.toNat = 0 := by
          rw [gt_iff_lt, UInt32.lt_iff_toNat_lt] at some
          exact Nat.eq_zero_of_not_pos some
        rw [if_neg some, none, List.take_zero, List.drop_zero]
        exact ⟨rfl, rfl, isOpen, rfl, rfl, rfl⟩

theorem reads_succ (count : Nat) (reader : MessageLogReader) (record : MessageLogRecord) :
    reader.reads (count + 1) record =
      ((reader.readNext record).1, (reader.readNext record).2.1) ::
        (reader.readNext record).2.2.reads count (reader.readNext record).2.1 := rfl

/-- **`read_next` repeated** yields the scan of the bytes and reports why it ended. -/
theorem reads_of_scan {maxPayloadBytes : UInt32} {bytes : List UInt8}
    {frames : List (MessageLogFrameHeader × List UInt8)}
    {reason : FrameFormat.Stop MessageLogReadStatus}
    (scan : (messageFormat maxPayloadBytes).Scan bytes frames reason) :
    ∀ (reader : MessageLogReader) (record : MessageLogRecord), reader.At maxPayloadBytes bytes →
      ∃ last, reader.reads (frames.length + 1) record =
        frames.map (fun frame => (.ok, ⟨frame.1, frame.2⟩)) ++ [(readStatusOf reason, last)] := by
  induction scan with
  | stop front =>
      intro reader record here
      have step := readNext_spec here record
      rw [front] at step
      refine ⟨(reader.readNext record).2.1, ?_⟩
      rw [List.length_nil, reads_succ, step.1]
      rfl
  | frame front _ ih =>
      intro reader record here
      have step := readNext_spec here record
      rw [front] at step
      obtain ⟨status, found, moved⟩ := step
      obtain ⟨last, later⟩ := ih (reader.readNext record).2.2 (reader.readNext record).2.1 moved
      refine ⟨last, ?_⟩
      rw [List.length_cons, reads_succ, later, status, found]
      rfl

/-- The records that were returned with `Ok`. -/
def okRecords (answers : List (MessageLogReadStatus × MessageLogRecord)) : List MessageLogRecord :=
  answers.filterMap fun answer => if answer.1 = .ok then some answer.2 else none

theorem okRecords_succ_of_ok {reader : MessageLogReader} {record : MessageLogRecord}
    (ok : (reader.readNext record).1 = .ok) (count : Nat) :
    okRecords (reader.reads (count + 1) record) =
      (reader.readNext record).2.1 ::
        okRecords ((reader.readNext record).2.2.reads count (reader.readNext record).2.1) := by
  rw [reads_succ, okRecords, List.filterMap_cons, if_pos ok]
  rfl

theorem okRecords_succ_of_ne {reader : MessageLogReader} {record : MessageLogRecord}
    (other : (reader.readNext record).1 ≠ .ok) (count : Nat) :
    okRecords (reader.reads (count + 1) record) =
      okRecords ((reader.readNext record).2.2.reads count (reader.readNext record).2.1) := by
  rw [reads_succ, okRecords, List.filterMap_cons, if_neg other]
  rfl

theorem okRecords_ended {reader : MessageLogReader} (ended : reader.Ended) (count : Nat)
    (record : MessageLogRecord) : okRecords (reader.reads count record) = [] := by
  induction count generalizing reader record with
  | zero => rfl
  | succ count ih =>
      obtain ⟨status, -, still⟩ := readNext_ended ended record
      rw [okRecords_succ_of_ne (by rw [status]; decide)]
      exact ih still _

theorem okRecords_closed {reader : MessageLogReader} (closed : reader.isOpen = false) (count : Nat)
    (record : MessageLogRecord) : okRecords (reader.reads count record) = [] := by
  induction count generalizing record with
  | zero => rfl
  | succ count ih =>
      have step : reader.readNext record = (.ioError, record, reader) := by
        rw [readNext, if_pos closed]
      rw [okRecords_succ_of_ne (by rw [step]; exact nofun), step]
      exact ih record

/-- A front without a frame is not reported as `Ok`. -/
theorem readStatusOf_ne_ok {maxPayloadBytes : UInt32} {bytes : List UInt8}
    {stop : FrameFormat.Stop MessageLogReadStatus}
    (front : (messageFormat maxPayloadBytes).cut bytes = .stop stop) : readStatusOf stop ≠ .ok := by
  have branch := (messageFormat maxPayloadBytes).cut_front bytes
  rw [front] at branch
  cases branch with
  | ended | shortHeader | shortPayload => exact nofun
  | refused reason _ refused =>
      have cause := messageFormat_refusal_eq_some_iff.mp refused
      intro same
      have same : reason = .ok := same
      split_ifs at cause with malformed
      · rw [same] at cause
        cases cause
      · rw [same] at cause
        cases cause.2

/-- A frame with a standard head that announces its payload. -/
def Sound (frame : MessageLogFrameHeader × List UInt8) : Prop :=
  frame.1.malformed = false ∧ frame.2.length = frame.1.payloadSize.toNat

/-- It can be read back where its payload is within the limit. -/
theorem Sound.wellFormed {frame : MessageLogFrameHeader × List UInt8} (sound : Sound frame)
    {maxPayloadBytes : UInt32} (small : frame.2.length ≤ maxPayloadBytes.toNat) :
    (messageFormat maxPayloadBytes).WellFormed frame := by
  obtain ⟨head, sized⟩ := sound
  refine ⟨sized, messageFormat_refusal_eq_none_iff.mpr ⟨head, ?_⟩⟩
  rw [gt_iff_lt, UInt32.lt_iff_toNat_lt, ← sized]
  exact Nat.not_lt.mpr small

/-- **Only frames of the file come back**, in order, as long as no call follows one that has met a
frame with too large a payload. -/
theorem okRecords_prefix {maxPayloadBytes : UInt32}
    {frames : List (MessageLogFrameHeader × List UInt8)} (sound : ∀ frame ∈ frames, Sound frame)
    {count size : Nat} {reader : MessageLogReader}
    (here : reader.At maxPayloadBytes ((frameBytes frames).take size)) (record : MessageLogRecord)
    (fits : ∀ frame ∈ frames.take (count - 1), frame.2.length ≤ maxPayloadBytes.toNat) :
    okRecords (reader.reads count record) <+: frames.map fun frame => ⟨frame.1, frame.2⟩ := by
  induction count generalizing frames size reader record with
  | zero => exact List.nil_prefix
  | succ count ih =>
      have step := readNext_spec here record
      -- A front that ends the file leaves nothing to later calls; any other one must be the last.
      have stops {stop : FrameFormat.Stop MessageLogReadStatus}
          (front : (messageFormat maxPayloadBytes).cut ((frameBytes frames).take size) = .stop stop)
          (final : (stop = .clean ∨ stop = .torn) ∨ count = 0) :
          okRecords (reader.reads (count + 1) record) = [] := by
        rw [front] at step
        rw [okRecords_succ_of_ne (by rw [step.1]; exact readStatusOf_ne_ok front)]
        rcases final with atEnd | rfl
        · exact okRecords_ended (step.2 atEnd) count _
        · rfl
      cases frames with
      | nil =>
          have front : (messageFormat maxPayloadBytes).cut ((frameBytes []).take size) =
              .stop .clean := by
            rw [frameBytes, List.flatMap_nil, List.take_nil]
            rfl
          rw [stops front (Or.inl (Or.inl rfl))]
          exact List.nil_prefix
      | cons frame frames =>
          obtain ⟨head, sized⟩ := sound frame List.mem_cons_self
          have split := frameBytes_cons frame frames
          have single : frameBytes [frame] = (messageFormat maxPayloadBytes).bytes frame :=
            List.append_nil _
          by_cases small : frame.2.length ≤ maxPayloadBytes.toNat
          · have wellFormed := (sound frame List.mem_cons_self).wellFormed small
            by_cases inside : ((messageFormat maxPayloadBytes).bytes frame).length ≤ size
            · have front : (messageFormat maxPayloadBytes).cut ((frameBytes (frame :: frames)).take
                  size) = .frame frame.1 frame.2 ((frameBytes frames).take
                    (size - ((messageFormat maxPayloadBytes).bytes frame).length)) := by
                rw [split, single, List.take_append, List.take_of_length_le inside]
                exact FrameFormat.cut_bytes wellFormed _
              rw [front] at step
              obtain ⟨ok, found, moved⟩ := step
              rw [okRecords_succ_of_ok ok, found]
              refine List.cons_prefix_cons.mpr ⟨rfl, ih
                (fun other member => sound other (List.mem_cons_of_mem _ member)) moved _ ?_⟩
              intro other member
              cases count with
              | zero => cases member
              | succ count => exact fits other (List.mem_cons_of_mem _ member)
            · have short := Nat.lt_of_not_le inside
              have front : (messageFormat maxPayloadBytes).cut ((frameBytes (frame :: frames)).take
                  size) = .stop (if size = 0 then .clean else .torn) := by
                rw [split, single, List.take_append_of_le_length (Nat.le_of_lt short)]
                exact FrameFormat.cut_take wellFormed short
              rw [stops front (Or.inl (by split_ifs <;> simp))]
              exact List.nil_prefix
          · have refused : (messageFormat maxPayloadBytes).refusal frame.1 =
                some .payloadTooLarge := by
              rw [messageFormat_refusal_eq_some_iff, if_neg (by rw [head]; decide), gt_iff_lt,
                UInt32.lt_iff_toNat_lt, ← sized]
              exact ⟨Nat.lt_of_not_le small, rfl⟩
            obtain ⟨stop, front⟩ :=
              FrameFormat.cut_take_of_refused refused (frame.2 ++ frameBytes frames) size
            have whole : frameBytes (frame :: frames) =
                (messageFormat maxPayloadBytes).codec.encode frame.1 ++
                  (frame.2 ++ frameBytes frames) := by
              rw [split, single, FrameFormat.bytes, List.append_assoc]
            rw [← whole] at front
            have last : count = 0 := by
              cases count with
              | zero => rfl
              | succ count => exact absurd (fits frame List.mem_cons_self) small
            rw [stops front (Or.inr last)]
            exact List.nil_prefix

end MessageLogReader

end MarketDataFabric.Replay
