/-
**The event journal**, `replay/event_journal.hpp`: its packed headers, the writer and the reader.

A header is written and read as its memory image (`EventJournalHeader.codec`,
`EventFrameHeader.codec`). The reader is translated call by call, with the stream bits that decide
between a clean end and a torn one.

* `journalFormat` — the frames of a journal in the terms of `Library.Framing`, and `next_spec`,
  `readAll_of_scan`: **the reader computes the scan of its bytes.**
* `truncated_replay` — a journal cut anywhere replays to exactly its whole frames.
* `any_bytes_replay` — what the reader makes of any byte string.
* `accepted_readable_iff` — which accepted frames the reader takes.
-/

import Mathlib.Algebra.GroupWithZero.Nat
import Mathlib.Order.Basic
import MarketDataFabric.Library.Framing
import MarketDataFabric.Library.Stream

namespace MarketDataFabric.Replay

open Library

def kEventJournalMagic : Vector UInt8 8 :=
  #v['M', 'D', 'E', 'V', 'T', '0', '1', '\x00'].map Char.toUInt8

def kEventFrameMagic : Vector UInt8 4 := #v['E', 'V', 'T', 'F'].map Char.toUInt8

def kEventJournalVersion : UInt16 := 1

def kMaxJournalPayloadSize : Nat := 512

structure EventJournalHeader where
  magic : Vector UInt8 8 := kEventJournalMagic
  version : UInt16 := kEventJournalVersion
  headerSize : UInt16 := 64
  sourceId : UInt32 := 0
  tradingDay : UInt32 := 0
  reserved : Vector UInt8 44 := Vector.replicate 44 0
deriving Repr, DecidableEq

structure EventFrameHeader where
  magic : Vector UInt8 4 := kEventFrameMagic
  version : UInt16 := kEventJournalVersion
  headerSize : UInt16 := 40
  eventKind : UInt16 := 0
  schemaVersion : UInt16 := 0
  payloadSize : UInt32 := 0
  partitionId : UInt64 := 0
  exchangeSeq : UInt64 := 0
  eventSeq : UInt64 := 0
deriving Repr, DecidableEq

open FixedCodec in
/-- The memory image of the packed file header. -/
def EventJournalHeader.codec : FixedCodec EventJournalHeader :=
  ((byteArray 8).pair (uint16.pair (uint16.pair (uint32.pair (uint32.pair (byteArray 44)))))).iso
    (fun (magic, version, headerSize, sourceId, tradingDay, reserved) =>
      { magic, version, headerSize, sourceId, tradingDay, reserved })
    (fun header => (header.magic, header.version, header.headerSize, header.sourceId,
      header.tradingDay, header.reserved))
    (fun _ => rfl) (fun _ => rfl)

open FixedCodec in
/-- The memory image of a packed frame header. -/
def EventFrameHeader.codec : FixedCodec EventFrameHeader :=
  ((byteArray 4).pair (uint16.pair (uint16.pair (uint16.pair (uint16.pair (uint32.pair
    (uint64.pair (uint64.pair uint64)))))))).iso
    (fun (magic, version, headerSize, eventKind, schemaVersion, payloadSize, partitionId,
        exchangeSeq, eventSeq) =>
      { magic, version, headerSize, eventKind, schemaVersion, payloadSize, partitionId,
        exchangeSeq, eventSeq })
    (fun header => (header.magic, header.version, header.headerSize, header.eventKind,
      header.schemaVersion, header.payloadSize, header.partitionId, header.exchangeSeq,
      header.eventSeq))
    (fun _ => rfl) (fun _ => rfl)

/-- `static_assert(sizeof(EventJournalHeader) == 64)`. -/
theorem EventJournalHeader.codec_size : EventJournalHeader.codec.size = 64 := rfl

/-- `static_assert(sizeof(EventFrameHeader) == 40)`. -/
theorem EventFrameHeader.codec_size : EventFrameHeader.codec.size = 40 := rfl

/-! ### The writer -/

/-- An event object, as the journal sees it: the members of its header that a frame copies, and its
object representation. -/
structure JournalEvent where
  kind : UInt16
  schemaVersion : UInt16
  exchangeSeq : UInt64
  eventSeq : UInt64
  bytes : List UInt8
deriving Repr, DecidableEq

structure EventJournalWriter where
  output : OStream
deriving Repr, DecidableEq

namespace EventJournalWriter

/-- The constructor: write a file header to the opened stream. -/
def construct (output : OStream) (sourceId tradingDay : UInt32) (answer : WriteAnswer) :
    EventJournalWriter :=
  ⟨output.write (EventJournalHeader.codec.encode { sourceId, tradingDay }) answer⟩

/-- The answers are those of the stream to the two writes. -/
def appendFrame (writer : EventJournalWriter) (frame : EventFrameHeader) (payload : List UInt8)
    (headerAnswer payloadAnswer : WriteAnswer) : Bool × EventJournalWriter :=
  if payload.length ≠ frame.payloadSize.toNat then
    (false, writer)
  else
    let output := writer.output.write (EventFrameHeader.codec.encode frame) headerAnswer
    let output := output.write payload payloadAnswer
    (output.good, { writer with output })

/-- The frame header of an event. `sizeof(Event)` is cast to 32 bits. -/
def frameOf (event : JournalEvent) (partitionId : UInt64) : EventFrameHeader :=
  { eventKind := event.kind
    schemaVersion := event.schemaVersion
    payloadSize := UInt32.ofNat event.bytes.length
    partitionId
    exchangeSeq := event.exchangeSeq
    eventSeq := event.eventSeq }

def append (writer : EventJournalWriter) (event : JournalEvent) (partitionId : UInt64)
    (headerAnswer payloadAnswer : WriteAnswer) : Bool × EventJournalWriter :=
  writer.appendFrame (frameOf event partitionId) event.bytes headerAnswer payloadAnswer

def good (writer : EventJournalWriter) : Bool := writer.output.good

def flush (writer : EventJournalWriter) (answer : WriteAnswer) : EventJournalWriter :=
  ⟨writer.output.flush answer⟩

/-- The file that the destructor of the stream leaves. -/
def closedFile (writer : EventJournalWriter) (answer : WriteAnswer) : List UInt8 :=
  (writer.output.close answer).file

end EventJournalWriter

/-! ### The reader -/

structure EventJournalRecord where
  header : EventFrameHeader := {}
  payload : List UInt8 := []
deriving Repr, DecidableEq

inductive EventJournalReadStatus where
  | record
  | endOfFile
  | truncatedTail
  | corrupt
  | invalidFile
deriving Repr, DecidableEq

structure EventJournalReader where
  input : IStream
  fileHeader : EventJournalHeader := {}
  valid : Bool := false
  lastStatus : EventJournalReadStatus := .invalidFile
deriving Repr, DecidableEq

/-- The check of a frame header that makes a journal corrupt. -/
def EventFrameHeader.malformed (frame : EventFrameHeader) : Bool :=
  frame.magic ≠ kEventFrameMagic ∨ frame.version ≠ kEventJournalVersion ∨
    frame.headerSize.toNat ≠ EventFrameHeader.codec.size ∨
    frame.payloadSize.toNat > kMaxJournalPayloadSize

/-- A frame header with the standard magic, version and size. -/
structure EventFrameHeader.Standard (frame : EventFrameHeader) : Prop where
  magic : frame.magic = kEventFrameMagic
  version : frame.version = kEventJournalVersion
  headerSize : frame.headerSize = 40

/-- A standard header is malformed exactly if it announces too much. -/
theorem EventFrameHeader.Standard.malformed_eq {frame : EventFrameHeader}
    (standard : frame.Standard) :
    frame.malformed = decide (frame.payloadSize.toNat > kMaxJournalPayloadSize) := by
  have size : (40 : UInt16).toNat = EventFrameHeader.codec.size := rfl
  simp only [EventFrameHeader.malformed, standard.magic, standard.version, standard.headerSize, size,
    ne_eq, not_true_eq_false, false_or]

/-- `std::vector::resize` of a byte vector. -/
def resize (payload : List UInt8) (size : Nat) : List UInt8 :=
  payload.take size ++ List.replicate (size - payload.length) 0

@[simp] theorem resize_length (payload : List UInt8) (size : Nat) :
    (resize payload size).length = size := by
  rw [resize, List.length_append, List.length_take, List.length_replicate]
  omega

namespace EventJournalReader

/-- The constructor: read the file header from the opened stream. -/
def construct (input : IStream) : EventJournalReader :=
  let (bytes, input) := input.read EventJournalHeader.codec.size
  let fileHeader := EventJournalHeader.codec.decodeOver {} bytes
  { input
    fileHeader
    valid := input.good ∧ fileHeader.magic = kEventJournalMagic ∧
      fileHeader.version = kEventJournalVersion ∧
      fileHeader.headerSize.toNat = EventJournalHeader.codec.size }

/-- `record` is written in place: a torn payload leaves its header and its first bytes behind. -/
def next (reader : EventJournalReader) (record : EventJournalRecord) :
    Bool × EventJournalRecord × EventJournalReader :=
  if reader.valid = false then
    (false, record, { reader with lastStatus := .invalidFile })
  else
    let (bytes, input) := reader.input.read EventFrameHeader.codec.size
    let frame := EventFrameHeader.codec.decodeOver {} bytes
    let headerBytes := input.gcount
    if headerBytes = 0 ∧ input.eof then
      (false, record, { reader with input, lastStatus := .endOfFile })
    else if headerBytes ≠ EventFrameHeader.codec.size then
      (false, record, { reader with input, lastStatus := .truncatedTail })
    else if frame.malformed then
      (false, record, { reader with input, lastStatus := .corrupt })
    else
      let payload := resize record.payload frame.payloadSize.toNat
      let (bytes, input) := input.read payload.length
      let record : EventJournalRecord := ⟨frame, overlay payload bytes⟩
      if input.gcount ≠ record.payload.length then
        (false, record, { reader with input, lastStatus := .truncatedTail })
      else
        (true, record, { reader with input, lastStatus := .record })

/-- Call `next` until it returns false, at most `fuel` times: the records, and the reader at the
end. -/
def readAll : Nat → EventJournalReader → EventJournalRecord →
    List EventJournalRecord × EventJournalReader
  | 0, reader, _ => ([], reader)
  | fuel + 1, reader, record =>
      let (found, record, reader) := reader.next record
      if found then
        let (records, reader) := readAll fuel reader record
        (record :: records, reader)
      else ([], reader)

end EventJournalReader

/-! ### The reader computes the scan of its bytes -/

/-- The frames of a journal. A malformed header is refused. -/
def journalFormat : FrameFormat EventFrameHeader Unit where
  codec := EventFrameHeader.codec
  nonempty := by decide
  payloadSize header := header.payloadSize.toNat
  refusal header := if header.malformed then some () else none

/-- How the reader reports the end of a reading. -/
def statusOf : FrameFormat.Stop Unit → EventJournalReadStatus
  | .clean => .endOfFile
  | .torn => .truncatedTail
  | .refused _ => .corrupt

/-- A reader with a valid header and a good stream, over the bytes that are left. -/
structure EventJournalReader.At (reader : EventJournalReader) (rest : List UInt8) : Prop where
  valid : reader.valid = true
  good : reader.input.good = true
  rest : reader.input.rest = rest

/-- A reader whose stream ran out of bytes. -/
structure EventJournalReader.Drained (reader : EventJournalReader) : Prop where
  valid : reader.valid = true
  eof : reader.input.eof = true

/-- What a failed `next` leaves behind: a drained stream, or after a corrupt frame header a good one,
forty bytes further on. -/
def EventJournalReader.Left (reader : EventJournalReader) (bytes : List UInt8) :
    FrameFormat.Stop Unit → Prop
  | .clean | .torn => reader.Drained
  | .refused _ => reader.At (bytes.drop EventFrameHeader.codec.size) ∧
      EventFrameHeader.codec.size ≤ bytes.length

theorem refusal_eq_none_iff {header : EventFrameHeader} :
    journalFormat.refusal header = none ↔ header.malformed = false := by
  cases malformed : header.malformed <;> simp [journalFormat, malformed]

theorem refusal_eq_some {header : EventFrameHeader} {reason : Unit}
    (refused : journalFormat.refusal header = some reason) : header.malformed = true := by
  cases malformed : header.malformed with
  | true => rfl
  | false => rw [refusal_eq_none_iff.mpr malformed] at refused; cases refused

/-- A whole frame header is read as it is. -/
theorem decodeOver_take {bytes : List UInt8} (whole : EventFrameHeader.codec.size ≤ bytes.length) :
    EventFrameHeader.codec.decodeOver {} (bytes.take EventFrameHeader.codec.size) =
      EventFrameHeader.codec.decode (bytes.take EventFrameHeader.codec.size) :=
  FixedCodec.decodeOver_of_length _ (List.length_take_of_le whole)

/-- `next` past a whole frame header. -/
theorem next_header {reader : EventJournalReader} (valid : reader.valid = true)
    (good : reader.input.good = true)
    (whole : EventFrameHeader.codec.size ≤ reader.input.rest.length)
    (record : EventJournalRecord) :
    reader.next record =
      let frame := EventFrameHeader.codec.decode
        (reader.input.rest.take EventFrameHeader.codec.size)
      let body : IStream :=
        { rest := reader.input.rest.drop EventFrameHeader.codec.size
          gcount := EventFrameHeader.codec.size }
      if frame.malformed then
        (false, record, { reader with input := body, lastStatus := .corrupt })
      else
        let payload := resize record.payload frame.payloadSize.toNat
        let (bytes, input) := body.read payload.length
        let record : EventJournalRecord := ⟨frame, overlay payload bytes⟩
        if input.gcount ≠ record.payload.length then
          (false, record, { reader with input, lastStatus := .truncatedTail })
        else (true, record, { reader with input, lastStatus := .record }) := by
  have positive : ¬ EventFrameHeader.codec.size = 0 := by decide
  unfold EventJournalReader.next
  rw [if_neg (by rw [valid]; decide)]
  simp only [IStream.read_of_le good whole, decodeOver_take whole, positive, false_and, if_false,
    ne_eq, not_true_eq_false]

/-- **What `next` does on a good stream** is what the front of its bytes says. -/
theorem next_spec {reader : EventJournalReader} {bytes : List UInt8} (here : reader.At bytes)
    (record : EventJournalRecord) :
    match journalFormat.cut bytes with
    | .frame header payload rest =>
        reader.next record = (true, ⟨header, payload⟩,
          { reader with input := { rest, gcount := payload.length }, lastStatus := .record })
    | .stop reason =>
        (reader.next record).1 = false ∧
          (reader.next record).2.2.lastStatus = statusOf reason ∧
            (reader.next record).2.2.Left bytes reason := by
  obtain ⟨valid, good, rfl⟩ := here
  have front := journalFormat.cut_front reader.input.rest
  generalize journalFormat.cut reader.input.rest = cut at front
  cases front with
  | ended empty =>
      have short : reader.input.rest.length < EventFrameHeader.codec.size := by
        rw [empty]
        decide
      simp only [EventJournalReader.next, valid, Bool.true_eq_false, IStream.read_of_lt good short,
        empty, and_self, if_true, if_false, statusOf, true_and]
      exact ⟨rfl, rfl⟩
  | shortHeader some short =>
      have short : reader.input.rest.length < EventFrameHeader.codec.size := short
      have other : ¬ reader.input.rest.length = EventFrameHeader.codec.size := Nat.ne_of_lt short
      simp only [EventJournalReader.next, valid, Bool.true_eq_false, IStream.read_of_lt good short,
        some, other, false_and, if_false, ne_eq, not_false_eq_true, if_true, statusOf, true_and]
      exact ⟨rfl, rfl⟩
  | refused reason whole refused =>
      have malformed : (EventFrameHeader.codec.decode
          (reader.input.rest.take EventFrameHeader.codec.size)).malformed = true :=
        refusal_eq_some refused
      rw [next_header valid good whole]
      simp only [malformed, if_true, statusOf, true_and]
      exact ⟨⟨valid, rfl, rfl⟩, whole⟩
  | shortPayload whole taken missing =>
      rw [next_header valid good whole]
      have wellFormed := refusal_eq_none_iff.mp taken
      change (EventFrameHeader.codec.decode
        (reader.input.rest.take EventFrameHeader.codec.size)).malformed = false at wellFormed
      have missing : (reader.input.rest.drop EventFrameHeader.codec.size).length <
          (EventFrameHeader.codec.decode
            (reader.input.rest.take EventFrameHeader.codec.size)).payloadSize.toNat := missing
      generalize EventFrameHeader.codec.decode
        (reader.input.rest.take EventFrameHeader.codec.size) = header at wellFormed missing
      have torn := Nat.ne_of_lt missing
      have partly : (overlay (resize record.payload header.payloadSize.toNat)
          (reader.input.rest.drop EventFrameHeader.codec.size)).length =
            header.payloadSize.toNat := by
        rw [overlay_length (by rw [resize_length]; exact Nat.le_of_lt missing), resize_length]
      simp only [wellFormed, Bool.false_eq_true, if_false, resize_length]
      rw [IStream.read_of_lt rfl missing]
      simp only [partly, torn, ne_eq, not_false_eq_true, if_true, statusOf, true_and]
      exact ⟨valid, rfl⟩
  | frame header whole decoded taken inside =>
      rw [next_header valid good whole]
      have decoded : EventFrameHeader.codec.decode
          (reader.input.rest.take EventFrameHeader.codec.size) = header := decoded.symm
      have wellFormed := refusal_eq_none_iff.mp taken
      have inside : header.payloadSize.toNat ≤
          (reader.input.rest.drop EventFrameHeader.codec.size).length := inside
      have long : ((reader.input.rest.drop EventFrameHeader.codec.size).take
          header.payloadSize.toNat).length = header.payloadSize.toNat :=
        List.length_take_of_le inside
      simp only [decoded, wellFormed, Bool.false_eq_true, if_false, resize_length]
      rw [IStream.read_of_le rfl inside, overlay_of_length (by rw [resize_length, long])]
      simp only [long, ne_eq, not_true_eq_false, if_false]
      rw [show journalFormat.payloadSize header = header.payloadSize.toNat from rfl,
        show journalFormat.codec = EventFrameHeader.codec from rfl, long]

/-- **`next` repeated** yields the scan of the bytes and reports why it ended. -/
theorem readAll_of_scan {bytes : List UInt8} {frames : List (EventFrameHeader × List UInt8)}
    {reason : FrameFormat.Stop Unit} (scan : journalFormat.Scan bytes frames reason) :
    ∀ (reader : EventJournalReader) (fuel : Nat) (record : EventJournalRecord), reader.At bytes →
      frames.length < fuel →
        (reader.readAll fuel record).1 = frames.map (fun frame => ⟨frame.1, frame.2⟩) ∧
          (reader.readAll fuel record).2.lastStatus = statusOf reason := by
  induction scan with
  | stop front =>
      intro reader fuel record here enough
      obtain ⟨fuel, rfl⟩ := Nat.exists_eq_add_of_lt enough
      have step := next_spec here record
      rw [front] at step
      simp only [EventJournalReader.readAll, step.1, step.2.1, Bool.false_eq_true, if_false,
        List.map_nil, and_self]
  | frame front _ ih =>
      intro reader fuel record here enough
      obtain ⟨fuel, rfl⟩ : ∃ less, fuel = less + 1 := Nat.exists_eq_succ_of_ne_zero (by omega)
      have step := next_spec here record
      rw [front] at step
      obtain ⟨records, status⟩ := ih (reader.next record).2.2 fuel (reader.next record).2.1
        (by rw [step]; exact ⟨here.valid, rfl, rfl⟩) (Nat.lt_of_succ_lt_succ enough)
      rw [step] at records status
      simp only [EventJournalReader.readAll, step, if_true, records, status, List.map_cons, and_self]

/-! ### A journal cut anywhere -/

/-- A frame with the standard head, whose payload has the size it announces and fits a record. -/
structure StandardFrame where
  header : EventFrameHeader
  payload : List UInt8
  standard : header.Standard
  sized : payload.length = header.payloadSize.toNat
  bounded : payload.length ≤ kMaxJournalPayloadSize

namespace StandardFrame

def pair (frame : StandardFrame) : EventFrameHeader × List UInt8 := (frame.header, frame.payload)

/-- The record a reader makes of a frame. -/
def record (frame : StandardFrame) : EventJournalRecord := ⟨frame.header, frame.payload⟩

theorem wellFormed (frame : StandardFrame) : journalFormat.WellFormed frame.pair where
  sized := frame.sized
  taken := by
    rw [refusal_eq_none_iff, pair, frame.standard.malformed_eq, ← frame.sized]
    exact decide_eq_false (Nat.not_lt.mpr frame.bounded)

end StandardFrame

/-- An accepted frame is written behind what was there. -/
theorem appendFrame_written {writer : EventJournalWriter} (good : writer.output.good = true)
    {frame : EventFrameHeader} {payload : List UInt8}
    (sized : payload.length = frame.payloadSize.toNat) :
    writer.appendFrame frame payload .written .written =
      (true, ⟨⟨writer.output.file, writer.output.put ++ journalFormat.bytes (frame, payload),
        true⟩⟩) := by
  have refused : ¬ payload.length ≠ frame.payloadSize.toNat := not_not.mpr sized
  rw [EventJournalWriter.appendFrame, if_neg refused, OStream.write_written good,
    FrameFormat.bytes, ← List.append_assoc]
  exact congrArg (fun output : OStream => (output.good, EventJournalWriter.mk output))
    (OStream.write_written rfl payload)

/-- **The bytes of a journal**: a new file, its header, and the frames appended one by one while
every write succeeds, and so does closing. -/
def journalBytes (sourceId tradingDay : UInt32) (frames : List StandardFrame) : List UInt8 :=
  (frames.foldl
    (fun writer frame => (writer.appendFrame frame.header frame.payload .written .written).2)
    (EventJournalWriter.construct {} sourceId tradingDay .written)).closedFile .written

theorem journalBytes_eq (sourceId tradingDay : UInt32) (frames : List StandardFrame) :
    journalBytes sourceId tradingDay frames =
      EventJournalHeader.codec.encode { sourceId, tradingDay } ++
        journalFormat.concat (frames.map StandardFrame.pair) := by
  have step (writer : EventJournalWriter) (good : writer.output.good = true) :
      (frames.foldl
        (fun writer frame => (writer.appendFrame frame.header frame.payload .written .written).2)
        writer).output.bytes =
      writer.output.bytes ++ journalFormat.concat (frames.map StandardFrame.pair) := by
    induction frames generalizing writer with
    | nil => exact (List.append_nil _).symm
    | cons frame frames ih =>
        rw [List.foldl_cons, appendFrame_written good frame.sized, ih _ rfl, OStream.bytes_append,
          List.append_assoc]
        rfl
  exact step _ rfl

/-- The constructor of the reader over a journal cut after `size` bytes. -/
theorem construct_take (sourceId tradingDay : UInt32) (body : List UInt8) (size : Nat) :
    let reader := EventJournalReader.construct
      { rest := (EventJournalHeader.codec.encode { sourceId, tradingDay } ++ body).take size }
    (reader.valid = true ↔ 64 ≤ size) ∧ (64 ≤ size → reader.At (body.take (size - 64))) := by
  intro reader
  have headerLong := EventJournalHeader.codec.length_encode { sourceId, tradingDay }
  rw [EventJournalHeader.codec_size] at headerLong
  by_cases inside : 64 ≤ size
  · have split : (EventJournalHeader.codec.encode { sourceId, tradingDay } ++ body).take size =
        EventJournalHeader.codec.encode { sourceId, tradingDay } ++ body.take (size - 64) := by
      rw [List.take_append, headerLong, List.take_of_length_le (by omega)]
    have opened : reader =
        { input := { rest := body.take (size - 64), gcount := 64 }
          fileHeader := { sourceId, tradingDay }
          valid := true } := by
      show EventJournalReader.construct _ = _
      rw [split, EventJournalReader.construct, EventJournalHeader.codec_size,
        IStream.read_of_le rfl (by rw [List.length_append]; omega)]
      simp only [List.take_left' headerLong, List.drop_left' headerLong]
      rw [EventJournalHeader.codec.decodeOver_of_length headerLong,
        EventJournalHeader.codec.decode_encode]
      exact congrArg (EventJournalReader.mk _ _ · _) (decide_eq_true ⟨rfl, rfl, rfl, rfl⟩)
    rw [opened]
    exact ⟨⟨fun _ => inside, fun _ => rfl⟩, fun _ => ⟨rfl, rfl, rfl⟩⟩
  · refine ⟨⟨fun valid => ?_, fun long => absurd long inside⟩, fun long => absurd long inside⟩
    have short : ((EventJournalHeader.codec.encode { sourceId, tradingDay } ++ body).take
        size).length < EventJournalHeader.codec.size := by
      rw [List.length_take, EventJournalHeader.codec_size]
      omega
    have refused : reader.valid = false := by
      show (EventJournalReader.construct _).valid = _
      rw [EventJournalReader.construct, IStream.read_of_lt rfl short]
      rfl
    rw [refused] at valid
    cases valid

/-- Where the first `count` frames of a journal end: after the file header, 40 bytes and a payload
for each. -/
def boundary (frames : List StandardFrame) (count : Nat) : Nat :=
  64 + ((frames.take count).map fun frame => 40 + frame.payload.length).sum

theorem boundary_eq (frames : List StandardFrame) (count : Nat) :
    boundary frames count = 64 + journalFormat.extent (frames.map StandardFrame.pair) count := by
  unfold boundary FrameFormat.extent FrameFormat.concat
  rw [List.length_flatMap, ← List.map_take, List.map_map]
  refine congrArg (fun sizes => 64 + List.sum sizes) (List.map_congr_left fun frame _ => ?_)
  exact (journalFormat.bytes_length frame.pair).symm

/-- A journal ends where its last frame does. -/
theorem journalBytes_length (sourceId tradingDay : UInt32) (frames : List StandardFrame) :
    (journalBytes sourceId tradingDay frames).length = boundary frames frames.length := by
  rw [journalBytes_eq, List.length_append, EventJournalHeader.codec.length_encode, boundary_eq,
    FrameFormat.extent, List.take_of_length_le (List.length_map _).le]
  rfl

/-- **Every crash-truncated journal replays to exactly its whole frames.** The reader is valid if the
file header is there. It then returns, in order and bit for bit, the frames that end inside the
first `size` bytes, and stops: with `endOfFile` if `size` is a frame boundary, else with
`truncatedTail`. `fuel` only bounds the number of calls. -/
theorem truncated_replay (sourceId tradingDay : UInt32) (frames : List StandardFrame) (size : Nat)
    (inside : size ≤ (journalBytes sourceId tradingDay frames).length) :
    let reader := EventJournalReader.construct
      { rest := (journalBytes sourceId tradingDay frames).take size }
    (reader.valid = true ↔ 64 ≤ size) ∧
      (64 ≤ size → ∃ count ≤ frames.length,
        (∀ index < frames.length, index < count ↔ boundary frames (index + 1) ≤ size) ∧
        ∀ fuel record, count < fuel →
          (reader.readAll fuel record).1 = (frames.take count).map StandardFrame.record ∧
          ((∃ ends ≤ frames.length, boundary frames ends = size) →
            (reader.readAll fuel record).2.lastStatus = .endOfFile) ∧
          ((¬ ∃ ends ≤ frames.length, boundary frames ends = size) →
            (reader.readAll fuel record).2.lastStatus = .truncatedTail)) := by
  intro reader
  obtain ⟨valid, opened⟩ := construct_take sourceId tradingDay
    (journalFormat.concat (frames.map StandardFrame.pair)) size
  rw [← journalBytes_eq] at valid opened
  refine ⟨valid, fun long => ?_⟩
  have here := opened long
  have wellFormed : ∀ frame ∈ frames.map StandardFrame.pair, journalFormat.WellFormed frame := by
    intro frame member
    obtain ⟨standard, -, rfl⟩ := List.mem_map.mp member
    exact standard.wellFormed
  have body : size - 64 ≤ (journalFormat.concat (frames.map StandardFrame.pair)).length := by
    rw [journalBytes_length, boundary_eq, FrameFormat.extent,
      List.take_of_length_le (List.length_map _).le] at inside
    omega
  have scan := FrameFormat.scan_take wellFormed body
  have counted : ∀ index < frames.length,
      index < journalFormat.whole (frames.map StandardFrame.pair) (size - 64) ↔
        boundary frames (index + 1) ≤ size := by
    intro index bound
    rw [FrameFormat.lt_whole_iff, List.length_map, boundary_eq]
    omega
  have reached : (∃ ends ≤ frames.length, boundary frames ends = size) ↔
      journalFormat.extent (frames.map StandardFrame.pair)
        (journalFormat.whole (frames.map StandardFrame.pair) (size - 64)) = size - 64 := by
    rw [FrameFormat.extent_whole_iff, List.length_map]
    refine exists_congr fun ends => and_congr_right fun _ => ?_
    rw [boundary_eq]
    omega
  refine ⟨journalFormat.whole (frames.map StandardFrame.pair) (size - 64), ?_, counted, ?_⟩
  · exact (FrameFormat.whole_le_length _ _).trans (List.length_map _).le
  · intro fuel record enough
    have short : ((frames.map StandardFrame.pair).take
        (journalFormat.whole (frames.map StandardFrame.pair) (size - 64))).length < fuel :=
      lt_of_le_of_lt (List.length_take_le _ _) enough
    obtain ⟨records, status⟩ := readAll_of_scan scan reader fuel record here short
    refine ⟨?_, fun boundary => ?_, fun torn => ?_⟩
    · rw [records, ← List.map_take, List.map_map]
      rfl
    · rw [status, if_pos (reached.mp boundary)]
      rfl
    · rw [status, if_neg (mt reached.mpr torn)]
      rfl

/-- Two frames of three bytes, cut inside the second: the first one replays, and the tail is torn. -/
theorem truncated_replay_in_second_frame :
    let frame : StandardFrame :=
      { header := { eventKind := 2, payloadSize := 3, partitionId := 3, exchangeSeq := 10 }
        payload := [1, 2, 3]
        standard := ⟨rfl, rfl, rfl⟩
        sized := rfl
        bounded := by decide }
    let reader := EventJournalReader.construct
      { rest := (journalBytes 1001 20260417 [frame, frame]).take 145 }
    (reader.readAll 5 {}).1 = [frame.record] ∧
      (reader.readAll 5 {}).2.lastStatus = .truncatedTail := by
  intro frame reader
  have inside : 145 ≤ (journalBytes 1001 20260417 [frame, frame]).length := by
    rw [journalBytes_length]
    decide
  obtain ⟨count, -, counted, replay⟩ :=
    (truncated_replay 1001 20260417 [frame, frame] 145 inside).2 (by decide)
  have first : 0 < count := (counted 0 (by decide)).mpr (by decide)
  have second : ¬ 1 < count := fun more => absurd ((counted 1 (by decide)).mp more) (by decide)
  obtain rfl : count = 1 := by omega
  obtain ⟨records, -, torn⟩ := replay 5 {} (by decide)
  exact ⟨records, torn (by decide)⟩

/-! ### Any byte string -/

/-- The constructor takes a file that starts with an acceptable header, which is then its first 64
bytes. -/
theorem construct_valid {file : List UInt8}
    (accepted : (EventJournalReader.construct { rest := file }).valid = true) :
    let reader := EventJournalReader.construct { rest := file }
    64 ≤ file.length ∧ EventJournalHeader.codec.encode reader.fileHeader = file.take 64 ∧
      reader.At (file.drop 64) := by
  intro reader
  by_cases whole : EventJournalHeader.codec.size ≤ file.length
  · have long : (file.take 64).length = EventJournalHeader.codec.size :=
      List.length_take_of_le whole
    have opened := @IStream.read_of_le { rest := file } _ rfl whole
    have input : reader.input = { rest := file.drop 64, gcount := 64 } := by
      show (EventJournalReader.construct _).input = _
      rw [EventJournalReader.construct, opened]
      rfl
    have header : reader.fileHeader = EventJournalHeader.codec.decode (file.take 64) := by
      show (EventJournalReader.construct _).fileHeader = _
      rw [EventJournalReader.construct, opened]
      exact EventJournalHeader.codec.decodeOver_of_length long
    refine ⟨whole, ?_, accepted, ?_, ?_⟩
    · rw [header]
      exact EventJournalHeader.codec.encode_decode _ long
    · rw [input]
      rfl
    · rw [input]
  · have short := Nat.lt_of_not_le whole
    rw [EventJournalReader.construct, IStream.read_of_lt rfl short] at accepted
    cases accepted

/-- The bytes of the records of a reading: for each its header and its payload. -/
def recordBytes (records : List EventJournalRecord) : List UInt8 :=
  records.flatMap fun record => EventFrameHeader.codec.encode record.header ++ record.payload

theorem recordBytes_map (frames : List (EventFrameHeader × List UInt8)) :
    recordBytes (frames.map fun frame => ⟨frame.1, frame.2⟩) = journalFormat.concat frames := by
  rw [recordBytes, List.flatMap_map]
  rfl

theorem statusOf_eq_endOfFile_iff {reason : FrameFormat.Stop Unit} :
    statusOf reason = .endOfFile ↔ reason = .clean := by
  cases reason <;> simp [statusOf]

theorem statusOf_eq_corrupt_iff {reason : FrameFormat.Stop Unit} :
    statusOf reason = .corrupt ↔ ∃ refused, reason = .refused refused := by
  cases reason <;> simp [statusOf]

theorem statusOf_eq_truncatedTail_iff {reason : FrameFormat.Stop Unit} :
    statusOf reason = .truncatedTail ↔
      ¬ (reason = .clean ∨ ∃ refused, reason = .refused refused) := by
  cases reason <;> simp [statusOf]

/-- **Decoding inverts encoding on any byte string.** A file that the reader takes for a journal is
its header, the encodings of the records that `next` returns before it first returns false, and a
remainder. There are at most `(|file| - 64) / 40` of them, so that many calls and one more find the
end. The last status says what the remainder is: nothing, or 40 bytes and more that start with no
acceptable frame header, or anything else. -/
theorem any_bytes_replay (file : List UInt8)
    (accepted : (EventJournalReader.construct { rest := file }).valid = true) :
    let reader := EventJournalReader.construct { rest := file }
    ∃ records remainder,
      file = EventJournalHeader.codec.encode reader.fileHeader ++ recordBytes records ++
        remainder ∧
      (EventJournalHeader.codec.encode reader.fileHeader).length = 64 ∧
      records.length ≤ (file.length - 64) / 40 ∧
      ∀ fuel record, records.length < fuel →
        (reader.readAll fuel record).1 = records ∧
        ((reader.readAll fuel record).2.lastStatus = .endOfFile ↔ remainder = []) ∧
        ((reader.readAll fuel record).2.lastStatus = .corrupt ↔
          40 ≤ remainder.length ∧
            (EventFrameHeader.codec.decode (remainder.take 40)).malformed = true) ∧
        ((reader.readAll fuel record).2.lastStatus = .truncatedTail ↔
          ¬ (remainder = [] ∨ 40 ≤ remainder.length ∧
            (EventFrameHeader.codec.decode (remainder.take 40)).malformed = true)) := by
  intro reader
  obtain ⟨long, header, here⟩ := construct_valid accepted
  obtain ⟨frames, remainder, reason, scan, parts, ends⟩ :=
    journalFormat.scan_split (file.drop 64)
  have stops := FrameFormat.stop_iff ends
  have corrupt : (∃ refused, reason = .refused refused) ↔ 40 ≤ remainder.length ∧
      (EventFrameHeader.codec.decode (remainder.take 40)).malformed = true := by
    refine stops.2.trans (and_congr_right fun _ => ?_)
    rw [ne_eq, refusal_eq_none_iff, Bool.not_eq_false]
    rfl
  refine ⟨frames.map fun frame => ⟨frame.1, frame.2⟩, remainder, ?_,
    EventJournalHeader.codec.length_encode _, ?_, fun fuel record enough => ?_⟩
  · rw [recordBytes_map, header, List.append_assoc, ← parts]
    exact (List.take_append_drop 64 file).symm
  · have frameSize : 40 * frames.length ≤ (journalFormat.concat frames).length :=
      journalFormat.size_mul_length_le frames
    have total := congrArg List.length parts
    rw [List.length_drop, List.length_append] at total
    rw [List.length_map]
    omega
  · rw [List.length_map] at enough
    obtain ⟨records, status⟩ := readAll_of_scan scan reader fuel record here enough
    rw [status, statusOf_eq_endOfFile_iff, statusOf_eq_corrupt_iff, statusOf_eq_truncatedTail_iff,
      corrupt, stops.1]
    exact ⟨records, Iff.rfl, Iff.rfl, Iff.rfl⟩

/-- A header, a frame without payload, and forty zero bytes: one record, and the rest is corrupt. -/
theorem any_bytes_replay_zero_tail :
    let frame : EventFrameHeader := { eventKind := 2, partitionId := 3 }
    let file := EventJournalHeader.codec.encode { sourceId := 1001, tradingDay := 20260417 } ++
      recordBytes [⟨frame, []⟩] ++ List.replicate 40 0
    let reader := EventJournalReader.construct { rest := file }
    (reader.readAll 3 {}).1 = [⟨frame, []⟩] ∧
      (reader.readAll 3 {}).2.lastStatus = .corrupt := by
  intro frame file reader
  have accepted : reader.valid = true := by decide +kernel
  obtain ⟨records, remainder, parts, -, bound, reading⟩ := any_bytes_replay file accepted
  have enough : records.length < 3 := Nat.lt_of_le_of_lt bound (by decide +kernel)
  obtain ⟨found, -, corrupt, -⟩ := reading 3 {} enough
  have replayed : (reader.readAll 3 {}).1 = [⟨frame, []⟩] := by decide +kernel
  have zeros : remainder = List.replicate 40 0 := by
    have header : reader.fileHeader = { sourceId := 1001, tradingDay := 20260417 } := by
      decide +kernel
    rw [← found, replayed, header] at parts
    exact (List.append_cancel_left parts).symm
  refine ⟨replayed, corrupt.mpr ?_⟩
  rw [zeros]
  decide +kernel

/-! ### What the writer accepts and the reader takes -/

/-- A frame of the size it announces is accepted if the stream is good and takes both writes. -/
theorem appendFrame_accepts_iff (writer : EventJournalWriter) {frame : EventFrameHeader}
    {payload : List UInt8} (sized : payload.length = frame.payloadSize.toNat)
    (headerAnswer payloadAnswer : WriteAnswer) :
    (writer.appendFrame frame payload headerAnswer payloadAnswer).1 = true ↔
      writer.good = true ∧ headerAnswer = .written ∧ payloadAnswer = .written := by
  rw [EventJournalWriter.appendFrame, if_neg (not_not.mpr sized)]
  show ((writer.output.write _ headerAnswer).write payload payloadAnswer).good = true ↔ _
  rw [OStream.write_good_iff, OStream.write_good_iff, and_assoc]
  rfl

/-- The stream is good afterwards exactly if the frame was accepted. -/
theorem appendFrame_good {writer : EventJournalWriter} {frame : EventFrameHeader}
    {payload : List UInt8} (sized : payload.length = frame.payloadSize.toNat)
    (headerAnswer payloadAnswer : WriteAnswer) :
    (writer.appendFrame frame payload headerAnswer payloadAnswer).2.good =
      (writer.appendFrame frame payload headerAnswer payloadAnswer).1 := by
  rw [EventJournalWriter.appendFrame, if_neg (not_not.mpr sized)]
  rfl

/-- An accepted frame had the size it announces, and the stream has taken it as it was given. -/
theorem appendFrame_accepted {writer : EventJournalWriter} {frame : EventFrameHeader}
    {payload : List UInt8} {headerAnswer payloadAnswer : WriteAnswer}
    (accepted : (writer.appendFrame frame payload headerAnswer payloadAnswer).1 = true) :
    payload.length = frame.payloadSize.toNat ∧
      (writer.appendFrame frame payload headerAnswer payloadAnswer).2.output.bytes =
        writer.output.bytes ++ journalFormat.bytes (frame, payload) := by
  by_cases sized : payload.length = frame.payloadSize.toNat
  · obtain ⟨good, rfl, rfl⟩ := (appendFrame_accepts_iff writer sized _ _).mp accepted
    rw [appendFrame_written good sized]
    exact ⟨sized, OStream.bytes_append _ _ _ _⟩
  · rw [EventJournalWriter.appendFrame, if_pos sized] at accepted
    cases accepted

/-- **On a standard frame of the announced size, `next` returns it or reports corruption**, and the
size decides. -/
theorem next_standard {reader : EventJournalReader} {frame : EventFrameHeader}
    {payload later : List UInt8} (standard : frame.Standard)
    (sized : payload.length = frame.payloadSize.toNat)
    (here : reader.At (journalFormat.bytes (frame, payload) ++ later))
    (record : EventJournalRecord) :
    if payload.length ≤ kMaxJournalPayloadSize then
      (reader.next record).1 = true ∧ (reader.next record).2.1 = ⟨frame, payload⟩ ∧
        (reader.next record).2.2.lastStatus = .record
    else
      (reader.next record).1 = false ∧ (reader.next record).2.2.lastStatus = .corrupt := by
  have step := next_spec here record
  have malformed := standard.malformed_eq
  rw [← sized] at malformed
  split_ifs with fits
  · rw [FrameFormat.cut_bytes ⟨sized, refusal_eq_none_iff.mpr
      (malformed.trans (decide_eq_false (Nat.not_lt.mpr fits)))⟩] at step
    rw [step]
    exact ⟨rfl, rfl, rfl⟩
  · have refused : journalFormat.refusal frame = some () :=
      if_pos (malformed.trans (decide_eq_true (Nat.lt_of_not_le fits)))
    rw [FrameFormat.bytes, List.append_assoc, FrameFormat.cut_header, refused] at step
    exact ⟨step.1, step.2.1⟩

/-- A fresh journal with one event, and the reader that opens it. -/
theorem construct_append (sourceId tradingDay : UInt32) (event : JournalEvent)
    (partitionId : UInt64) (small : event.bytes.length < 2 ^ 32) :
    let writer := EventJournalWriter.construct {} sourceId tradingDay .written
    let appended := writer.append event partitionId .written .written
    appended.1 = true ∧
      event.bytes.length = (EventJournalWriter.frameOf event partitionId).payloadSize.toNat ∧
      appended.2.output.bytes = writer.output.bytes ++
        journalFormat.bytes (EventJournalWriter.frameOf event partitionId, event.bytes) ∧
      (EventJournalReader.construct { rest := appended.2.output.bytes }).At
        (journalFormat.bytes (EventJournalWriter.frameOf event partitionId, event.bytes)) := by
  intro writer appended
  have sized : event.bytes.length =
      (EventJournalWriter.frameOf event partitionId).payloadSize.toNat :=
    (UInt32.toNat_ofNat_of_lt' small).symm
  have written : appended = (true, ⟨⟨[], writer.output.bytes ++ _, true⟩⟩) :=
    appendFrame_written rfl sized
  rw [written]
  refine ⟨rfl, sized, rfl, ?_⟩
  generalize journalFormat.bytes (EventJournalWriter.frameOf event partitionId, event.bytes) = body
  have opened := (construct_take sourceId tradingDay body (64 + body.length)).2 (by omega)
  have long : (EventJournalHeader.codec.encode { sourceId, tradingDay } ++ body).length =
      64 + body.length := by
    rw [List.length_append, EventJournalHeader.codec.length_encode]
    rfl
  rw [List.take_of_length_le long.le, List.take_of_length_le (by omega)] at opened
  exact opened

/-- **Which accepted frames the reader takes.** A frame with the standard head, or an event, that the
writer accepted, and a reader that reaches it in the closed file, whatever was written before and after:
the reader returns it as a record exactly if its payload has at most `kMaxJournalPayloadSize` bytes. -/
theorem accepted_readable_iff (writer : EventJournalWriter) (headerAnswer payloadAnswer : WriteAnswer)
    (later : List UInt8) (reader : EventJournalReader) (record : EventJournalRecord) :
    (∀ (frame : EventFrameHeader) (payload : List UInt8),
      let appended := writer.appendFrame frame payload headerAnswer payloadAnswer
      frame.Standard → appended.1 = true →
      reader.At ((appended.2.output.bytes ++ later).drop writer.output.bytes.length) →
        ((reader.next record).1 = true ∧ (reader.next record).2.1 = ⟨frame, payload⟩ ∧
            (reader.next record).2.2.lastStatus = .record ↔
          payload.length ≤ kMaxJournalPayloadSize)) ∧
    ∀ (event : JournalEvent) (partitionId : UInt64),
      let appended := writer.append event partitionId headerAnswer payloadAnswer
      appended.1 = true →
      reader.At ((appended.2.output.bytes ++ later).drop writer.output.bytes.length) →
        ((reader.next record).1 = true ∧
            (reader.next record).2.1 =
              ⟨EventJournalWriter.frameOf event partitionId, event.bytes⟩ ∧
            (reader.next record).2.2.lastStatus = .record ↔
          event.bytes.length ≤ kMaxJournalPayloadSize) := by
  have frames : ∀ (frame : EventFrameHeader) (payload : List UInt8),
      let appended := writer.appendFrame frame payload headerAnswer payloadAnswer
      frame.Standard → appended.1 = true →
      reader.At ((appended.2.output.bytes ++ later).drop writer.output.bytes.length) →
        ((reader.next record).1 = true ∧ (reader.next record).2.1 = ⟨frame, payload⟩ ∧
            (reader.next record).2.2.lastStatus = .record ↔
          payload.length ≤ kMaxJournalPayloadSize) := by
    intro frame payload appended standard accepted here
    obtain ⟨sized, written⟩ := appendFrame_accepted accepted
    rw [written, List.append_assoc, List.drop_left] at here
    have step := next_standard standard sized here record
    split_ifs at step with fits
    · exact iff_of_true step fits
    · refine iff_of_false (fun found => ?_) fits
      rw [step.1] at found
      cases found.1
  exact ⟨frames, fun event partitionId =>
    frames (EventJournalWriter.frameOf event partitionId) event.bytes ⟨rfl, rfl, rfl⟩⟩

/-- An event of three bytes comes back. -/
theorem accepted_readable_small :
    let event : JournalEvent := ⟨2, 1, 10, 20, [1, 2, 3]⟩
    let written :=
      (EventJournalWriter.construct {} 1001 20260417 .written).append event 3 .written .written
    let reader := EventJournalReader.construct { rest := written.2.output.bytes }
    (reader.next {}).1 = true ∧
      (reader.next {}).2.1 = ⟨EventJournalWriter.frameOf event 3, [1, 2, 3]⟩ ∧
      (reader.next {}).2.2.lastStatus = .record := by
  intro event written reader
  obtain ⟨accepted, -, bytes, here⟩ := construct_append 1001 20260417 event 3 (by decide)
  refine ((accepted_readable_iff _ .written .written [] reader {}).2 event 3 accepted ?_).mpr
    (by decide)
  rw [List.append_nil, bytes, List.drop_left]
  exact here

/-- An event of 513 bytes is accepted, and the reader reports it as corrupt. -/
theorem accepted_unreadable_large :
    let event : JournalEvent := ⟨0, 0, 0, 0, List.replicate 513 0⟩
    let written :=
      (EventJournalWriter.construct {} 1001 20260417 .written).append event 3 .written .written
    let reader := EventJournalReader.construct { rest := written.2.output.bytes }
    written.1 = true ∧ (reader.next {}).1 = false ∧
      (reader.next {}).2.2.lastStatus = .corrupt := by
  intro event written reader
  have long : event.bytes.length = 513 := List.length_replicate
  clear_value event
  obtain ⟨accepted, sized, -, here⟩ := construct_append 1001 20260417 event 3 (by rw [long]; decide)
  rw [← List.append_nil (journalFormat.bytes _)] at here
  have step := next_standard ⟨rfl, rfl, rfl⟩ sized here {}
  rw [long, if_neg (by decide)] at step
  exact ⟨accepted, step⟩

end MarketDataFabric.Replay
