/-
**Raw messages, replayed**: the records of a message log are handed to the mapper handlers in place of
the live messages.

* `front_read` — what is read before the first answer that is not `Ok`, of a log whose stream answers
  anything, cut anywhere.
* `SameMapping` — the mappers and the handlers do not tell two lists of messages apart.
* `raw_replay_agrees` — **a replayed message maps like the live one**: nothing that a mapper or a
  handler reads is lost in the log.
-/

import Mathlib.Data.List.TakeWhile
import MarketDataFabric.Apps.MapperHandlers
import MarketDataFabric.Replay.MessageLogReplay

namespace MarketDataFabric.Replay

open Library MarketDataFabric.Feed

/-! ### Reading up to the first trouble -/

namespace MessageLogReader

/-- The records returned before the first answer that is not `Ok`. -/
def okFront (answers : List (MessageLogReadStatus × MessageLogRecord)) : List MessageLogRecord :=
  (answers.takeWhile fun answer => answer.1 = .ok).map Prod.snd

/-- A reader that goes on while the answer is `Ok` has the frames of the scan. -/
theorem okFront_of_scan {maxPayloadBytes : UInt32} {bytes : List UInt8}
    {frames : List (MessageLogFrameHeader × List UInt8)}
    {reason : FrameFormat.Stop MessageLogReadStatus}
    (scan : (messageFormat maxPayloadBytes).Scan bytes frames reason) :
    ∀ (reader : MessageLogReader) (record : MessageLogRecord) (count : Nat),
      reader.At maxPayloadBytes bytes → frames.length < count →
      okFront (reader.reads count record) = frames.map fun frame => ⟨frame.1, frame.2⟩ := by
  induction scan with
  | stop front =>
      intro reader record count here more
      obtain ⟨count, rfl⟩ := Nat.exists_eq_succ_of_ne_zero (Nat.ne_zero_of_lt more)
      have step := readNext_spec here record
      rw [front] at step
      have other : (reader.readNext record).1 ≠ .ok := by
        rw [step.1]
        exact readStatusOf_ne_ok front
      rw [okFront, reads_succ, List.takeWhile_cons, if_neg (by rw [decide_eq_true_iff]; exact other)]
      rfl
  | frame front _ ih =>
      intro reader record count here more
      obtain ⟨count, rfl⟩ := Nat.exists_eq_succ_of_ne_zero (Nat.ne_zero_of_lt more)
      have step := readNext_spec here record
      rw [front] at step
      obtain ⟨status, found, moved⟩ := step
      have later := ih _ (reader.readNext record).2.1 count moved (Nat.lt_of_succ_lt_succ more)
      rw [okFront] at later
      rw [okFront, reads_succ, List.takeWhile_cons, if_pos (by rw [decide_eq_true_iff]; exact status),
        List.map_cons, later, found]
      rfl

theorem okFront_closed {reader : MessageLogReader} (closed : reader.isOpen = false) (count : Nat)
    (record : MessageLogRecord) : okFront (reader.reads count record) = [] := by
  cases count with
  | zero => rfl
  | succ count =>
      rw [okFront, reads_succ, readNext, if_pos closed]
      rfl

/-- What is read before the first trouble is part of all that is read. -/
theorem okFront_eq_nil {answers : List (MessageLogReadStatus × MessageLogRecord)}
    (nothing : okRecords answers = []) : okFront answers = [] := by
  cases answers with
  | nil => rfl
  | cons answer rest =>
      have other : answer.1 ≠ .ok := fun ok => by
        rw [okRecords, List.filterMap_cons, if_pos ok] at nothing
        cases nothing
      rw [okFront, List.takeWhile_cons, if_neg (by rw [decide_eq_true_iff]; exact other)]
      rfl

end MessageLogReader

/-- The payload is within the limit of the reader. -/
def withinLimit (options : MessageLogReaderOptions) (message : FeedMessageView) : Bool :=
  decide (message.payload.length ≤ options.maxPayloadBytes.toNat)

/-- The readable messages are those before the first that is too large. -/
theorem readable_messages (options : MessageLogReaderOptions) {messages : List FeedMessageView}
    (sizes : ∀ message ∈ messages, message.payload.length < 2 ^ 32) :
    (messageFormat options.maxPayloadBytes).readable (messages.map messageFrame) =
      (messages.takeWhile (withinLimit options)).map messageFrame := by
  induction messages with
  | nil => rfl
  | cons message rest ih =>
      have tail := ih fun other member => sizes other (List.mem_cons_of_mem _ member)
      obtain ⟨head, sized⟩ := messageFrame_sound (sizes message List.mem_cons_self)
      rw [FrameFormat.readable] at tail ⊢
      rw [List.map_cons, List.takeWhile_cons, List.takeWhile_cons, tail]
      have same : ((messageFormat options.maxPayloadBytes).refusal (messageFrame message).1).isNone =
          withinLimit options message := by
        rw [Bool.eq_iff_iff, Option.isNone_iff_eq_none, messageFormat_refusal_eq_none_iff,
          withinLimit, decide_eq_true_iff, gt_iff_lt, UInt32.lt_iff_toNat_lt, ← sized, Nat.not_lt]
        exact and_iff_right head
      rw [same]
      cases withinLimit options message <;> rfl

/-- **What is read of a log before the first answer that is not `Ok`**: any options, any messages,
whatever the stream answers, the log closed or left by a process that stops, and its file cut after any
number of bytes. -/
theorem front_read (writer : MessageLogWriter) (options : MessageLogWriterOptions)
    (nowEpochNs : UInt64) (answer : WriteAnswer) (before failed closing : Closing)
    (calls : List AppendCall) (reader : MessageLogReader) (readerOptions : MessageLogReaderOptions)
    (size extra : Nat) (record : MessageLogRecord) :
    let opened := writer.open options true nowEpochNs answer before failed
    let recorded := opened.2.recorded calls
    let readable := recorded.takeWhile (withinLimit readerOptions)
    let file := ((opened.2.after calls).closedFile closing).take size
    let reading := reader.open (some file) readerOptions
    opened.2.HandedOnOnce answer calls closing →
    ∃ count ≤ readable.length,
      (∀ index < readable.length,
        index < count ↔ messageBoundary readable (index + 1) ≤ file.length) ∧
      MessageLogReader.okFront (reading.2.reads (recorded.length + 1 + extra) record) =
        (readable.take count).map messageRecord := by
  intro opened recorded readable file reading once
  obtain ⟨sizes, begun, short⟩ := MessageLogWriter.closedFile_prefix writer options nowEpochNs answer
    before failed closing calls
  have sizes : ∀ message ∈ recorded, message.payload.length < 2 ^ 32 := sizes
  by_cases status : opened.1 = .written
  · have given : (opened.2.after calls).closedFile closing <+:
        MessageLogFileHeader.codec.encode (logHeader options nowEpochNs) ++
          frameBytes (recorded.map messageFrame) := begun status once
    have whole : file = (MessageLogFileHeader.codec.encode (logHeader options nowEpochNs) ++
        frameBytes (recorded.map messageFrame)).take file.length :=
      List.prefix_iff_eq_take.mp ((List.take_prefix size _).trans given)
    have cut := MessageLogReader.open_take reader
      (makeMessageLogFileHeader_malformed nowEpochNs options.sourceId options.writerId
        options.maxTotalBytes) (frameBytes (recorded.map messageFrame)) file.length readerOptions
    rw [← logHeader, ← whole] at cut
    change if 64 ≤ file.length then reading.1 = _ ∧ reading.2.fileHeader = _ ∧ reading.2.At _ _
      else reading.1 = _ ∧ reading.2.isOpen = _ at cut
    have front : readable <+: recorded := List.takeWhile_prefix _
    by_cases long : 64 ≤ file.length
    · rw [if_pos long] at cut
      have sized : ∀ frame ∈ recorded.map messageFrame, frame.2.length =
          (messageFormat readerOptions.maxPayloadBytes).payloadSize frame.1 := by
        intro frame member
        obtain ⟨message, among, rfl⟩ := List.mem_map.mp member
        exact (messageFrame_sound (sizes message among)).2
      obtain ⟨reason, scan⟩ := FrameFormat.scan_take_readable (file.length - 64) sized
      rw [readable_messages readerOptions sizes, ← List.map_take] at scan
      have bound : (messageFormat readerOptions.maxPayloadBytes).whole (readable.map messageFrame)
          (file.length - 64) ≤ readable.length :=
        (FrameFormat.whole_le_length _ _).trans (List.length_map _).le
      have counted : ∀ index < readable.length,
          index < (messageFormat readerOptions.maxPayloadBytes).whole (readable.map messageFrame)
            (file.length - 64) ↔ messageBoundary readable (index + 1) ≤ file.length := by
        intro index _
        rw [FrameFormat.lt_whole_iff, List.length_map,
          messageBoundary_eq readerOptions.maxPayloadBytes]
        omega
      generalize (messageFormat readerOptions.maxPayloadBytes).whole (readable.map messageFrame)
        (file.length - 64) = count at scan bound counted
      have short : ((readable.take count).map messageFrame).length < recorded.length + 1 + extra := by
        have fewer := (List.length_take_le' count readable).trans front.length_le
        rw [List.length_map]
        omega
      have read := MessageLogReader.okFront_of_scan scan _ record _ cut.2.2 short
      rw [List.map_map] at read
      exact ⟨count, bound, counted, read⟩
    · rw [if_neg long] at cut
      refine ⟨0, Nat.zero_le _, fun index _ => iff_of_false (Nat.not_lt_zero _) ?_,
        MessageLogReader.okFront_closed cut.2 _ record⟩
      rw [messageBoundary_eq readerOptions.maxPayloadBytes]
      omega
  · obtain ⟨nothing, few⟩ := short status
    have empty : readable = [] := by
      show List.takeWhile _ (opened.2.recorded calls) = _
      rw [nothing]
      rfl
    have fewer : file.length ≤ 128 := (List.length_take_le' size _).trans few
    rw [empty]
    exact ⟨0, Nat.le_refl 0, fun index fewer => absurd fewer (Nat.not_lt_zero index),
      MessageLogReader.okFront_eq_nil (reader.okRecords_short fewer readerOptions _ record)⟩

/-- While every append is answered `Written`, the stream has every message. -/
theorem MessageLogWriter.run_all_written {writer : MessageLogWriter} (isOpen : writer.isOpen = true)
    (good : writer.out.good = true) {calls : List AppendCall}
    (all : ∀ result ∈ Machine.outputs MessageLogWriter.step writer calls,
      result.status = .written) :
    writer.recorded calls = calls.map AppendCall.message ∧
      (writer.after calls).out.bytes = writer.out.bytes ++
        frameBytes ((calls.map AppendCall.message).map messageFrame) ∧
      (writer.after calls).out.good = true := by
  induction calls generalizing writer with
  | nil => exact ⟨rfl, (List.append_nil _).symm, good⟩
  | cons call rest ih =>
      have here : (writer.step call).2.status = .written := all _ List.mem_cons_self
      have later : ∀ result ∈ Machine.outputs MessageLogWriter.step (writer.step call).1 rest,
          result.status = .written := fun result member => all result (List.mem_cons_of_mem _ member)
      have appended := step_appended isOpen good call
      have stillOpen := (append_isOpen writer call).trans isOpen
      have recorded := recorded_cons writer call rest
      rw [if_pos (Or.inl here)] at recorded
      show _ ∧ ((writer.step call).1.after rest).out.bytes = _ ∧
        ((writer.step call).1.after rest).out.good = _
      rw [here] at appended
      generalize (writer.step call).1 = next at appended stillOpen recorded later
      cases appended with
      | refused other => exact absurd rfl other
      | written small out =>
          obtain ⟨tail, bytes, stillGood⟩ := ih stillOpen (by rw [out]) later
          have front := frameBytes_cons (messageFrame call.message)
            ((rest.map AppendCall.message).map messageFrame)
          rw [recorded, tail, bytes, out, OStream.bytes_append, List.map_cons, List.map_cons, front,
            ← List.append_assoc]
          exact ⟨rfl, rfl, stillGood⟩

/-- A log that `open` says is written has its header. -/
theorem MessageLogWriter.open_begun {writer : MessageLogWriter} {options : MessageLogWriterOptions}
    {nowEpochNs : UInt64} {answer : WriteAnswer} {before failed : Closing}
    (begun : (writer.open options true nowEpochNs answer before failed).1 = .written) :
    (writer.open options true nowEpochNs answer before failed).2.isOpen = true ∧
      (writer.open options true nowEpochNs answer before failed).2.out =
        ⟨[], MessageLogFileHeader.codec.encode (logHeader options nowEpochNs), true⟩ := by
  cases answer with
  | written => exact (open_written writer options nowEpochNs before failed).2
  | failed taken again stays =>
      have status :=
        (open_failed writer options nowEpochNs taken again stays before failed).1
      rw [status] at begun
      cases begun

/-- The boundaries grow with the frames. -/
theorem messageBoundary_mono (messages : List FeedMessageView) {first last : Nat}
    (before : first ≤ last) : messageBoundary messages first ≤ messageBoundary messages last := by
  rw [messageBoundary_eq 0, messageBoundary_eq 0]
  exact Nat.add_le_add_left (FrameFormat.concat_length_mono (List.take_prefix_take_left before)) 64

/-- A record as a handler is given it. -/
def MessageLogRecord.view (record : MessageLogRecord) : FeedMessageView :=
  ⟨record.envelope, record.payload⟩

/-- The envelope announces the payload, as that of every live message does. -/
def Announces (message : FeedMessageView) : Prop :=
  message.envelope.payloadSize = UInt32.ofNat message.payload.length

/-- **What a message is after the log**: the schema version is the default one, and the size is that of
the payload. -/
theorem messageRecord_view {message : FeedMessageView} (small : message.payload.length < 2 ^ 32) :
    (messageRecord message).view =
      { message with
        envelope := { message.envelope with
          schemaVersion := 1
          payloadSize := UInt32.ofNat message.payload.length } } := by
  have size : (makeMessageLogFrameHeader message.envelope
      (UInt64.ofNat message.payload.length)).payloadSize = UInt32.ofNat message.payload.length := by
    rw [← UInt32.toNat_inj, make_payloadSize _ small, UInt32.toNat_ofNat_of_lt' small]
  rw [MessageLogRecord.view, MessageLogRecord.envelope, messageRecord, toMessageEnvelope_make, size]

end MarketDataFabric.Replay

namespace MarketDataFabric.Apps

open MarketDataFabric.Core MarketDataFabric.Feed Service Library Providers.Binance Replay

section Mapping

variable {Event : Type}

/-- A mapper reads neither the schema version of a message nor its announced size. -/
def Blind (map : FeedMessageView → BinanceMappingContext → Bool × Event) : Prop :=
  ∀ (message : FeedMessageView) (schemaVersion : UInt16) (payloadSize : UInt32)
    (context : BinanceMappingContext),
    map { message with envelope := { message.envelope with schemaVersion, payloadSize } } context =
      map message context

/-- **A handler of such a mapper does not tell a replayed message from the live one.** -/
theorem Blind.handles {map : FeedMessageView → BinanceMappingContext → Bool × Event}
    (blind : Blind map) {message : FeedMessageView} (small : message.payload.length < 2 ^ 32)
    (announces : Announces message) (state : MapperHandler × Option MapperRuntimeStats) :
    mapperOnMessage map state (messageRecord message).view = mapperOnMessage map state message := by
  obtain ⟨handler, stats⟩ := state
  rw [messageRecord_view small, ← announces]
  unfold mapperOnMessage
  simp only [blind message 1 message.envelope.payloadSize]
  rfl

/-- **Two lists of messages that a mapper and its handler do not tell apart.** -/
structure SameMapping (map : FeedMessageView → BinanceMappingContext → Bool × Event)
    (replayed live : List FeedMessageView) : Prop where
  mapped : ∀ context,
    replayed.map (fun message => map message context) = live.map fun message => map message context
  handled : (∀ message ∈ live, Announces message) → ∀ state,
    Machine.final (mapperOnMessage map) state replayed =
        Machine.final (mapperOnMessage map) state live ∧
      Machine.outputs (mapperOnMessage map) state replayed =
        Machine.outputs (mapperOnMessage map) state live

theorem Blind.sameMapping {map : FeedMessageView → BinanceMappingContext → Bool × Event}
    (blind : Blind map) {live : List FeedMessageView}
    (sizes : ∀ message ∈ live, message.payload.length < 2 ^ 32) :
    SameMapping map (live.map fun message => (messageRecord message).view) live where
  mapped context := by
    rw [List.map_map]
    refine List.map_congr_left fun message member => ?_
    rw [Function.comp_apply, messageRecord_view (sizes message member)]
    exact blind message 1 _ context
  handled announce state := by
    refine Machine.run_map (mapperOnMessage map) (fun message member state => ?_) state
    exact blind.handles (sizes message member) (announce message member) state

variable [QuoteCore]

theorem blind_mapToTrade : Blind mapToTrade := fun _ _ _ _ => rfl

theorem blind_mapToQuote : Blind mapToQuote := fun _ _ _ _ => rfl

end Mapping

/-- **A raw message that is replayed maps like the live one.** A message log is written with any options
and for any messages, whatever its stream answers; it is closed, or left by a process that stops, cut
after any number of bytes, and read with any limit until the first answer that is not `Ok`. If nothing
was handed on twice:

* the records are the recorded messages, in order, up to the first that is too large for the limit,
  whose frames end inside the file;
* both mappers give the same answers and events for them in every context, and both handlers, from
  every state, the same statistics, warnings and event lines, if the messages announced their sizes;
* nothing is missing if every append was answered `Written`, the log was flushed when it was closed, all
  is within the limit and nothing was cut off. -/
theorem raw_replay_agrees [QuoteCore] (writer : MessageLogWriter) (options : MessageLogWriterOptions)
    (nowEpochNs : UInt64) (answer : WriteAnswer) (before failed closing : Closing)
    (calls : List AppendCall) (reader : MessageLogReader) (readerOptions : MessageLogReaderOptions)
    (size extra : Nat) (record : MessageLogRecord) :
    let opened := writer.open options true nowEpochNs answer before failed
    let recorded := opened.2.recorded calls
    let readable := recorded.takeWhile (withinLimit readerOptions)
    let log := (opened.2.after calls).closedFile closing
    let reading := reader.open (some (log.take size)) readerOptions
    let replayed := (MessageLogReader.okFront
      (reading.2.reads (recorded.length + 1 + extra) record)).map MessageLogRecord.view
    opened.2.HandedOnOnce answer calls closing →
    ∃ count ≤ readable.length,
      (∀ index < readable.length,
        index < count ↔ messageBoundary readable (index + 1) ≤ (log.take size).length) ∧
      SameMapping mapToTrade replayed (readable.take count) ∧
      SameMapping mapToQuote replayed (readable.take count) ∧
      (opened.1 = .written →
        (∀ result ∈ Machine.outputs MessageLogWriter.step opened.2 calls,
          result.status = .written) →
        (∀ call ∈ calls, withinLimit readerOptions call.message = true) →
        closing.flush = .written → log.length ≤ size →
          readable.take count = calls.map AppendCall.message) := by
  intro opened recorded readable log reading replayed once
  obtain ⟨count, bound, counted, read⟩ := front_read writer options nowEpochNs answer before failed
    closing calls reader readerOptions size extra record once
  obtain ⟨sizes, -⟩ := MessageLogWriter.closedFile_prefix writer options nowEpochNs answer before failed
    closing calls
  have small : ∀ message ∈ readable.take count, message.payload.length < 2 ^ 32 := fun message member =>
    sizes message ((List.takeWhile_prefix _).subset (List.mem_of_mem_take member))
  have views : replayed = (readable.take count).map fun message => (messageRecord message).view := by
    show List.map _ (MessageLogReader.okFront _) = _
    rw [read, List.map_map]
    rfl
  refine ⟨count, bound, counted, ?_, ?_, ?_⟩
  · rw [views]
    exact blind_mapToTrade.sameMapping small
  · rw [views]
    exact blind_mapToQuote.sameMapping small
  · intro begun all within flushed uncut
    obtain ⟨isOpen, out⟩ := MessageLogWriter.open_begun begun
    obtain ⟨everything, bytes, good⟩ := MessageLogWriter.run_all_written isOpen (by rw [out]) all
    have everything : recorded = calls.map AppendCall.message := everything
    have whole : readable = recorded := by
      refine List.takeWhile_eq_self_iff.mpr fun message member => ?_
      rw [everything] at member
      obtain ⟨call, among, rfl⟩ := List.mem_map.mp member
      exact within call among
    have closed : log = (opened.2.after calls).out.bytes := by
      have stillOpen := (MessageLogWriter.after_isOpen opened.2 calls).trans isOpen
      show MessageLogWriter.closedFile _ _ = _
      rw [MessageLogWriter.closedFile, MessageLogWriter.close, if_pos stillOpen, flushed]
      exact OStream.close_flushed_file good closing.close
    have long : (log.take size).length = messageBoundary readable readable.length := by
      rw [List.take_of_length_le uncut, closed, messageBoundary_eq 0, FrameFormat.extent, whole,
        ← List.length_map messageFrame, List.take_length, everything]
      show ((opened.2.after calls).out.bytes).length = _
      rw [bytes, out, OStream.bytes_nil, List.length_append,
        MessageLogFileHeader.codec.length_encode]
      rfl
    have all : count = readable.length := by
      refine Nat.le_antisymm bound (Nat.le_of_not_lt fun fewer => ?_)
      refine absurd ((counted count fewer).mpr ?_) (Nat.lt_irrefl count)
      rw [long]
      exact messageBoundary_mono readable fewer
    rw [all, List.take_length, whole, everything]

/-- The stream refuses the second of two messages after a part of it: the first is replayed. -/
theorem raw_replay_agrees_refused :
    let _ : QuoteCore := QuoteCore.zeroed
    let first : FeedMessageView := ⟨{ captureSeq := 1 }, [1, 2, 3]⟩
    let second : FeedMessageView := ⟨{ captureSeq := 2 }, [4]⟩
    let calls : List AppendCall :=
      [⟨first, .written, .written⟩, ⟨second, .failed 200 0 30, .written⟩]
    let opened := ({} : MessageLogWriter).open {} true 7 .written
    let log := (opened.2.after calls).closedFile {}
    let reading := ({} : MessageLogReader).open (some (log.take 400)) {}
    let replayed := (MessageLogReader.okFront (reading.2.reads 3 {})).map MessageLogRecord.view
    log.length = 230 ∧ SameMapping mapToTrade replayed [first] ∧
      SameMapping mapToQuote replayed [first] := by
  intro _ first second calls opened log reading replayed
  have recorded : opened.2.recorded calls = [first, second] := by decide +kernel
  have length : log.length = 230 := by decide +kernel
  have once : opened.2.HandedOnOnce .written calls {} :=
    Or.inr (Or.inl ⟨trivial, by decide, trivial⟩)
  obtain ⟨count, -, counted, trades, quotes, -⟩ :=
    raw_replay_agrees {} {} 7 .written {} {} {} calls {} {} 400 0 {} once
  have readable : (opened.2.recorded calls).takeWhile (withinLimit {}) = [first, second] := by
    rw [recorded]
    decide
  have cut : (log.take 400).length = 230 := by
    rw [List.take_of_length_le (by rw [length]; decide), length]
  simp only [opened] at readable recorded
  simp only [log, opened] at cut
  rw [readable] at counted trades quotes
  rw [recorded] at trades quotes
  have counted : ∀ index < 2, index < count ↔ messageBoundary [first, second] (index + 1) ≤ 230 :=
    fun index inside => (counted index inside).trans (by rw [cut])
  have one : 0 < count := (counted 0 (by decide)).mpr (by decide)
  have two : ¬ 1 < count := fun more => absurd ((counted 1 (by decide)).mp more) (by decide)
  obtain rfl : count = 1 := by omega
  exact ⟨length, trades, quotes⟩

end MarketDataFabric.Apps
