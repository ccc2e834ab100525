/-
**Replaying a message log**: what a reader gives back of what a writer was given.

* `envelope_kept_iff` — **an envelope is stored whole except for its schema version**, which comes
  back as 1.
* `open_take` — opening a log that was cut.
* `message_log_round_trip` — **a log cut anywhere gives back its whole frames**, and ends with `Eof`
  exactly on a boundary.
* `closedFile_prefix`, `flushed_log` — what a log leaves of the messages given to its stream, and what it
  leaves in any case.
* `only_written_records` — a reader gives back nothing but what was written, as long as nothing was handed
  on twice (`repeated_record_in_log`) and it is not called again after a payload that was too large for
  it; `forged_record` is what happens then.
-/

import MarketDataFabric.Replay.MessageLog

namespace MarketDataFabric.Replay

open Library MarketDataFabric.Feed

/-! ### The stored envelope -/

/-- The size of an envelope is stored as it is. -/
theorem make_envelope_payloadSize (envelope : MessageEnvelope) :
    (makeMessageLogFrameHeader envelope envelope.payloadSize.toUInt64).payloadSize =
      envelope.payloadSize := by
  have wide : UInt64.ofNat envelope.payloadSize.toNat = envelope.payloadSize.toUInt64 := by
    rw [← UInt32.toNat_toUInt64, UInt64.ofNat_toNat]
  have kept := make_payloadSize envelope envelope.payloadSize.toNat_lt
  rw [wide] at kept
  exact UInt32.toNat_inj.mp kept

/-- **What comes back of an envelope** that announces its own payload: every member but the schema
version. The frame header has no member for it, unlike the one of the event journal, and a decoded
envelope has the default one. So an envelope survives exactly if it had the default one. -/
theorem envelope_kept_iff (envelope : MessageEnvelope) :
    let stored := toMessageEnvelope
      (makeMessageLogFrameHeader envelope envelope.payloadSize.toUInt64)
    stored = { envelope with schemaVersion := 1 } ∧
      (stored = envelope ↔ envelope.schemaVersion = 1) := by
  intro stored
  have others : stored = { envelope with schemaVersion := 1 } := by
    show toMessageEnvelope _ = _
    rw [toMessageEnvelope_make, make_envelope_payloadSize]
  refine ⟨others, ?_⟩
  rw [others]
  constructor
  · intro same
    rw [← same]
  · intro one
    rw [← one]

/-- An envelope of the second schema comes back as one of the first. -/
theorem envelope_schema_lost :
    let envelope : MessageEnvelope :=
      { schemaVersion := 2, payloadKind := .rawProviderMessage, captureSeq := 1, payloadSize := 3 }
    let stored := toMessageEnvelope
      (makeMessageLogFrameHeader envelope envelope.payloadSize.toUInt64)
    stored ≠ envelope ∧ stored.schemaVersion = 1 := by
  decide

theorem makeMessageLogFileHeader_malformed (createdTsNs : UInt64) (sourceId writerId : UInt32)
    (maxTotalBytes : UInt64) :
    (makeMessageLogFileHeader createdTsNs sourceId writerId maxTotalBytes).malformed = false := by
  apply decide_eq_false
  rintro (other | other | other | other) <;> exact other rfl

theorem messageFrame_sound {message : FeedMessageView} (small : message.payload.length < 2 ^ 32) :
    MessageLogReader.Sound (messageFrame message) := by
  refine ⟨?_, (make_payloadSize message.envelope small).symm⟩
  apply decide_eq_false
  rintro (other | other | other) <;> exact other rfl

/-- The record a reader makes of a message. -/
def messageRecord (message : FeedMessageView) : MessageLogRecord :=
  ⟨makeMessageLogFrameHeader message.envelope (UInt64.ofNat message.payload.length),
    message.payload⟩

/-- **Opening a log that was cut after `size` bytes.** -/
theorem MessageLogReader.open_take (reader : MessageLogReader) {header : MessageLogFileHeader}
    (sound : header.malformed = false) (body : List UInt8) (size : Nat)
    (options : MessageLogReaderOptions) :
    let opened := reader.open
      (some ((MessageLogFileHeader.codec.encode header ++ body).take size)) options
    if 64 ≤ size then
      opened.1 = .ok ∧ opened.2.fileHeader = header ∧
        opened.2.At options.maxPayloadBytes (body.take (size - 64))
    else opened.1 = .invalidHeader ∧ opened.2.isOpen = false := by
  intro opened
  have headerLong := MessageLogFileHeader.codec.length_encode header
  rw [MessageLogFileHeader.codec_size] at headerLong
  split_ifs with inside
  · have split : (MessageLogFileHeader.codec.encode header ++ body).take size =
        MessageLogFileHeader.codec.encode header ++ body.take (size - 64) := by
      rw [List.take_append, headerLong, List.take_of_length_le (by omega)]
    have done : opened = (.ok,
        { input := { rest := body.take (size - 64), gcount := 64 }
          isOpen := true
          fileHeader := header
          options }) := by
      show MessageLogReader.open _ _ _ = _
      rw [split, MessageLogReader.open, MessageLogFileHeader.codec_size]
      dsimp only
      rw [IStream.read_of_le rfl (by rw [List.length_append]; omega)]
      simp only [List.take_left' headerLong, List.drop_left' headerLong]
      rw [MessageLogFileHeader.codec.decodeOver_of_length headerLong,
        MessageLogFileHeader.codec.decode_encode, sound]
      rfl
    rw [done]
    exact ⟨rfl, rfl, rfl, rfl, rfl, rfl⟩
  · have short : ((MessageLogFileHeader.codec.encode header ++ body).take size).length <
        MessageLogFileHeader.codec.size := by
      rw [List.length_take, MessageLogFileHeader.codec_size]
      omega
    have other := Nat.ne_of_lt short
    have done : opened.1 = .invalidHeader ∧ opened.2.isOpen = false := by
      show (MessageLogReader.open _ _ _).1 = _ ∧ (MessageLogReader.open _ _ _).2.isOpen = _
      rw [MessageLogReader.open]
      dsimp only
      rw [IStream.read_of_lt rfl short]
      simp only [ne_eq, other, not_false_eq_true, true_or, if_true]
      exact ⟨trivial, rfl⟩
    exact done

/-! ### A log cut anywhere -/

/-- Where the first `count` frames of a log end: after the file header, 128 bytes and a payload for
each. -/
def messageBoundary (messages : List FeedMessageView) (count : Nat) : Nat :=
  64 + ((messages.take count).map fun message => 128 + message.payload.length).sum

theorem messageBoundary_eq (maxPayloadBytes : UInt32) (messages : List FeedMessageView)
    (count : Nat) :
    messageBoundary messages count =
      64 + (messageFormat maxPayloadBytes).extent (messages.map messageFrame) count := by
  unfold messageBoundary FrameFormat.extent FrameFormat.concat
  rw [List.length_flatMap, ← List.map_take, List.map_map]
  refine congrArg (fun sizes => 64 + List.sum sizes) (List.map_congr_left fun message _ => ?_)
  exact ((messageFormat maxPayloadBytes).bytes_length (messageFrame message)).symm

/-- The file header of a writer. -/
def logHeader (options : MessageLogWriterOptions) (nowEpochNs : UInt64) : MessageLogFileHeader :=
  makeMessageLogFileHeader nowEpochNs options.sourceId options.writerId options.maxTotalBytes

/-- Opening a file when the stream takes the header. -/
theorem open_written (writer : MessageLogWriter) (options : MessageLogWriterOptions)
    (nowEpochNs : UInt64) (before failed : Closing) :
    let opened := writer.open options true nowEpochNs .written before failed
    opened.1 = .written ∧ opened.2.isOpen = true ∧
      opened.2.out = ⟨[], MessageLogFileHeader.codec.encode (logHeader options nowEpochNs), true⟩ := by
  intro opened
  have header : ({} : OStream).write (MessageLogFileHeader.codec.encode
      (logHeader options nowEpochNs)) .written =
        ⟨[], MessageLogFileHeader.codec.encode (logHeader options nowEpochNs), true⟩ := by
    rw [OStream.write_written rfl, List.nil_append]
  show (MessageLogWriter.open _ _ _ _ _ _ _).1 = _ ∧
    (MessageLogWriter.open _ _ _ _ _ _ _).2.isOpen = _ ∧
    (MessageLogWriter.open _ _ _ _ _ _ _).2.out = _
  rw [logHeader] at header ⊢
  simp only [MessageLogWriter.open, Bool.true_eq_false, if_false, header, and_self]

/-- The log of an opened writer, while the stream takes every write. -/
theorem written_log (writer : MessageLogWriter) (options : MessageLogWriterOptions)
    (nowEpochNs : UInt64) (before failed : Closing) (calls : List AppendCall)
    (taken : ∀ call ∈ calls, call.Taken) :
    let opened := writer.open options true nowEpochNs .written before failed
    (∀ message ∈ opened.2.written calls, message.payload.length < 2 ^ 32) ∧
      (opened.2.after calls).out.bytes =
        MessageLogFileHeader.codec.encode (logHeader options nowEpochNs) ++
          frameBytes ((opened.2.written calls).map messageFrame) := by
  intro opened
  obtain ⟨-, isOpen, out⟩ := open_written writer options nowEpochNs before failed
  obtain ⟨sizes, bytes⟩ := MessageLogWriter.run_written isOpen (by rw [out]) calls taken
  rw [out, OStream.bytes_nil] at bytes
  exact ⟨sizes, bytes⟩

/-- **Round trip of a message log, cut anywhere.** A writer is opened with any options and given any
messages while the stream takes every write; the file is cut after `size` bytes, and a reader whose
limit no written payload exceeds opens it. With fewer than 64 bytes it says `InvalidHeader`.
Otherwise `read_next` returns the messages that were answered `Written` and whose frame ends inside,
in order, and then `Eof` if `size` is a frame boundary and `InvalidHeader` if it is not. A record
has the given payload, its size, and every other member of the envelope that is stored. -/
theorem message_log_round_trip (writer : MessageLogWriter) (options : MessageLogWriterOptions)
    (nowEpochNs : UInt64) (before failed : Closing) (calls : List AppendCall)
    (taken : ∀ call ∈ calls, call.Taken) (reader : MessageLogReader)
    (readerOptions : MessageLogReaderOptions) (size : Nat) :
    let opened := writer.open options true nowEpochNs .written before failed
    let log := (opened.2.after calls).out.bytes
    let written := opened.2.written calls
    let reading := reader.open (some (log.take size)) readerOptions
    (∀ message ∈ written, message.payload.length ≤ readerOptions.maxPayloadBytes.toNat) →
    size ≤ log.length →
      opened.1 = .written ∧
      (size < 64 → reading.1 = .invalidHeader) ∧
      (64 ≤ size → reading.1 = .ok ∧
        ∃ count ≤ written.length,
          (∀ index < written.length,
            index < count ↔ messageBoundary written (index + 1) ≤ size) ∧
          ∀ record, ∃ last,
            reading.2.reads (count + 1) record =
              (written.take count).map (fun message => (.ok, messageRecord message)) ++
                [(if ∃ ends ≤ written.length, messageBoundary written ends = size then .eof
                  else .invalidHeader, last)]) ∧
      ∀ message ∈ written,
        (messageRecord message).payload = message.payload ∧
        (messageRecord message).header.payloadSize.toNat = message.payload.length ∧
        (messageRecord message).envelope =
          { message.envelope with
            schemaVersion := 1
            payloadSize := (messageRecord message).header.payloadSize } := by
  intro opened log written reading fits inside
  obtain ⟨sizes, bytes⟩ := written_log writer options nowEpochNs before failed calls taken
  have bytes : log = MessageLogFileHeader.codec.encode (logHeader options nowEpochNs) ++
    frameBytes (written.map messageFrame) := bytes
  have sizes : ∀ message ∈ written, message.payload.length < 2 ^ 32 := sizes
  have cut := MessageLogReader.open_take reader
    (makeMessageLogFileHeader_malformed nowEpochNs options.sourceId options.writerId
      options.maxTotalBytes) (frameBytes (written.map messageFrame)) size readerOptions
  rw [← logHeader, ← bytes] at cut
  change if 64 ≤ size then reading.1 = _ ∧ reading.2.fileHeader = _ ∧ reading.2.At _ _
    else reading.1 = _ ∧ reading.2.isOpen = _ at cut
  refine ⟨(open_written writer options nowEpochNs before failed).1, fun short => ?_, fun long => ?_,
    fun message member => ⟨rfl, make_payloadSize message.envelope (sizes message member), rfl⟩⟩
  · rw [if_neg (Nat.not_le.mpr short)] at cut
    exact cut.1
  rw [if_pos long] at cut
  obtain ⟨ok, -, here⟩ := cut
  refine ⟨ok, ?_⟩
  generalize readerOptions.maxPayloadBytes = maxPayloadBytes at fits here
  have wellFormed : ∀ frame ∈ written.map messageFrame,
      (messageFormat maxPayloadBytes).WellFormed frame := by
    intro frame member
    obtain ⟨message, among, rfl⟩ := List.mem_map.mp member
    exact (messageFrame_sound (sizes message among)).wellFormed (fits message among)
  have body : size - 64 ≤ ((messageFormat maxPayloadBytes).concat
      (written.map messageFrame)).length := by
    have headerLong := MessageLogFileHeader.codec.length_encode (logHeader options nowEpochNs)
    rw [MessageLogFileHeader.codec_size] at headerLong
    rw [bytes, List.length_append, headerLong] at inside
    exact Nat.sub_le_of_le_add (by rw [Nat.add_comm]; exact inside)
  have scan := FrameFormat.scan_take wellFormed body
  have counted : ∀ index < written.length,
      index < (messageFormat maxPayloadBytes).whole (written.map messageFrame) (size - 64) ↔
        messageBoundary written (index + 1) ≤ size := by
    intro index bound
    rw [FrameFormat.lt_whole_iff, List.length_map, messageBoundary_eq maxPayloadBytes]
    omega
  have reached : (∃ ends ≤ written.length, messageBoundary written ends = size) ↔
      (messageFormat maxPayloadBytes).extent (written.map messageFrame)
        ((messageFormat maxPayloadBytes).whole (written.map messageFrame) (size - 64)) =
          size - 64 := by
    rw [FrameFormat.extent_whole_iff, List.length_map]
    refine exists_congr fun ends => and_congr_right fun _ => ?_
    rw [messageBoundary_eq maxPayloadBytes]
    omega
  have bound : (messageFormat maxPayloadBytes).whole (written.map messageFrame) (size - 64) ≤
      written.length := (FrameFormat.whole_le_length _ _).trans (List.length_map _).le
  refine ⟨(messageFormat maxPayloadBytes).whole (written.map messageFrame) (size - 64), bound,
    counted, fun record => ?_⟩
  obtain ⟨last, answers⟩ := MessageLogReader.reads_of_scan scan reading.2 record here
  refine ⟨last, ?_⟩
  have ending : readStatusOf (if (messageFormat maxPayloadBytes).extent (written.map messageFrame)
      ((messageFormat maxPayloadBytes).whole (written.map messageFrame) (size - 64)) = size - 64
        then .clean else .torn) =
      if ∃ ends ≤ written.length, messageBoundary written ends = size then .eof
        else .invalidHeader := by
    rw [if_congr reached rfl rfl]
    split_ifs <;> rfl
  rw [← List.map_take, List.map_map, List.length_map, List.length_take_of_le bound, ending]
    at answers
  exact answers

/-- A writer that drops what does not fit: of three messages the second is too long for the limit.
The log, cut inside the last frame, gives back the first. -/
theorem message_log_round_trip_in_second_frame :
    let options : MessageLogWriterOptions := { maxTotalBytes := 400, limitPolicy := .dropNew }
    let first : FeedMessageView := ⟨{ captureSeq := 1, recvTsNs := 5 }, [1, 2, 3]⟩
    let long : FeedMessageView := ⟨{ captureSeq := 2 }, List.replicate 100 0⟩
    let last : FeedMessageView := ⟨{ captureSeq := 3 }, [4]⟩
    let calls : List AppendCall := [⟨first, .written, .written⟩, ⟨long, .written, .written⟩,
      ⟨last, .written, .written⟩]
    let opened := ({} : MessageLogWriter).open options true 7 .written
    let reading := ({} : MessageLogReader).open (some ((opened.2.after calls).out.bytes.take 300)) {}
    ∃ torn, reading.2.reads 2 {} = [(.ok, messageRecord first), (.invalidHeader, torn)] := by
  intro options first long last calls opened reading
  have written : opened.2.written calls = [first, last] := by decide +kernel
  have taken : ∀ call ∈ calls, call.Taken := by decide
  have fits : ∀ message ∈ opened.2.written calls, message.payload.length ≤
      kDefaultMessageLogMaxPayloadBytes.toNat := by
    rw [written]
    decide
  obtain ⟨-, -, replay, -⟩ :=
    message_log_round_trip {} options 7 {} {} calls taken {} {} 300 fits (by decide +kernel)
  obtain ⟨-, count, -, counted, answers⟩ := replay (by decide)
  simp only [opened] at written
  rw [written] at counted answers
  have one : 0 < count := (counted 0 (by decide)).mpr (by decide)
  have two : ¬ 1 < count := fun more => absurd ((counted 1 (by decide)).mp more) (by decide)
  obtain rfl : count = 1 := by omega
  obtain ⟨torn, same⟩ := answers {}
  have inside : ¬ ∃ ends ≤ [first, last].length, messageBoundary [first, last] ends = 300 := by
    decide
  rw [if_neg inside] at same
  simp only [reading, opened]
  exact ⟨torn, same⟩

/-! ### Nothing but what was written -/

/-- A writer whose file is not open records nothing. -/
theorem recorded_of_closed {writer : MessageLogWriter} (closed : writer.isOpen = false)
    (calls : List AppendCall) :
    writer.recorded calls = [] ∧ writer.after calls = writer := by
  induction calls with
  | nil => exact ⟨rfl, rfl⟩
  | cons call rest ih =>
      have refused : writer.step call = (writer, writer.result .writerClosed) := by
        rw [MessageLogWriter.step, MessageLogWriter.append, if_pos closed]
      constructor
      · rw [MessageLogWriter.recorded_cons, refused,
          if_neg (by rintro (same | ⟨same, -⟩) <;> cases same)]
        exact ih.1
      · show (writer.step call).1.after rest = writer
        rw [refused]
        exact ih.2

namespace MessageLogWriter

/-- The file that a log leaves when it is closed, or the process stops: then its flush fails. -/
def closedFile (writer : MessageLogWriter) (closing : Closing) : List UInt8 :=
  (writer.close closing).out.file

/-- **What the stream of an opened log was given**: the header and the recorded frames. -/
theorem opened_given (writer : MessageLogWriter) (options : MessageLogWriterOptions)
    (nowEpochNs : UInt64) (before failed : Closing) (calls : List AppendCall) :
    let opened := writer.open options true nowEpochNs .written before failed
    (opened.2.after calls).isOpen = true ∧
      (∀ message ∈ opened.2.recorded calls, message.payload.length < 2 ^ 32) ∧
      (opened.2.after calls).out.Given (∀ call ∈ calls, call.Seamless)
        (MessageLogFileHeader.codec.encode (logHeader options nowEpochNs) ++
          frameBytes ((opened.2.recorded calls).map messageFrame)) := by
  intro opened
  obtain ⟨-, isOpen, out⟩ := open_written writer options nowEpochNs before failed
  have fresh : opened.2.out.Given True
      (MessageLogFileHeader.codec.encode (logHeader options nowEpochNs)) := by
    refine .of_good ?_
    rw [out, OStream.bytes_nil]
  obtain ⟨sizes, given⟩ := run_given isOpen (by rw [out]) fresh calls
  exact ⟨(after_isOpen opened.2 calls).trans isOpen, sizes, given.mono fun seamless =>
    ⟨trivial, seamless⟩⟩

theorem file_prefix_close (writer : MessageLogWriter) (closing : Closing) :
    writer.out.file <+: writer.closedFile closing := by
  unfold closedFile close
  split_ifs
  · exact (writer.out.file_prefix_flush closing.flush).trans (OStream.file_prefix_close _ closing.close)
  · exact List.prefix_rfl

theorem file_prefix_step {writer : MessageLogWriter} (opened : writer.isOpen = true)
    (call : AppendCall) : writer.out.file <+: (writer.step call).1.out.file := by
  cases good : writer.out.good with
  | false => exact (step_of_not_good good call).1 ▸ List.prefix_rfl
  | true =>
      have appended := step_appended opened good call
      generalize (writer.step call).1 = later at appended ⊢
      generalize (writer.step call).2.status = status at appended
      cases appended with
      | refused _ _ same => exact same ▸ List.prefix_rfl
      | written _ out => exact out ▸ List.prefix_rfl
      | failed _ _ out => exact out.grows

/-- **What was flushed stays in the log**: the header and the frames recorded so far, whatever the stream
answers afterwards. -/
theorem flushed_log (writer : MessageLogWriter) (options : MessageLogWriterOptions) (nowEpochNs : UInt64)
    (before failed closing : Closing) (calls later : List AppendCall) :
    let opened := writer.open options true nowEpochNs .written before failed
    (opened.2.after calls).out.good = true →
      MessageLogFileHeader.codec.encode (logHeader options nowEpochNs) ++
          frameBytes ((opened.2.recorded calls).map messageFrame) <+:
        (((opened.2.after calls).flush .written).after later).closedFile closing := by
  intro opened good
  obtain ⟨stillOpen, -, given⟩ := opened_given writer options nowEpochNs before failed calls
  have whole := given.whole good
  generalize opened.2.after calls = filled at good whole stillOpen
  have flushed : filled.flush .written = { filled with out := filled.out.flush .written } :=
    if_pos stillOpen
  have kept : (filled.flush .written).out.file <+: ((filled.flush .written).after later).out.file ∧
      ((filled.flush .written).after later).isOpen = true := by
    refine Machine.final_invariant step
      (fun writer => (filled.flush .written).out.file <+: writer.out.file ∧ writer.isOpen = true)
      (fun _ => True) (fun writer call here _ => ?_) ⟨List.prefix_rfl, ?_⟩ fun _ _ => trivial
    · exact ⟨here.1.trans (file_prefix_step here.2 call), (append_isOpen writer call).trans here.2⟩
    · rw [flushed]
      exact stillOpen
  rw [← whole, ← OStream.flush_written_file good]
  rw [flushed] at kept ⊢
  exact kept.1.trans (file_prefix_close _ closing)

/-- **Nothing is handed on twice**: the stream is good when it is closed, or every call was seamless, or
closing hands on nothing. -/
def HandedOnOnce (writer : MessageLogWriter) (answer : WriteAnswer) (calls : List AppendCall)
    (closing : Closing) : Prop :=
  ((writer.after calls).out.flush closing.flush).good = true ∨
    (answer.Seamless ∧ (∀ call ∈ calls, call.Seamless) ∧ closing.flush.Seamless) ∨
      closing.close.Still

/-- A writer that could not write its header closes the log, which has at most 128 bytes. -/
theorem open_failed (writer : MessageLogWriter) (options : MessageLogWriterOptions)
    (nowEpochNs : UInt64) (taken again stays : Nat) (before failed : Closing) :
    let opened := writer.open options true nowEpochNs (.failed taken again stays) before failed
    opened.1 = .ioError ∧ opened.2.isOpen = false ∧ opened.2.out.file.length ≤ 128 := by
  intro opened
  have long := MessageLogFileHeader.codec.length_encode (logHeader options nowEpochNs)
  rw [MessageLogFileHeader.codec_size] at long
  have refused := OStream.write_failed (rfl : ({} : OStream).good = true)
    (MessageLogFileHeader.codec.encode (logHeader options nowEpochNs)) taken again stays
  have parts := OStream.refuse_bytes_length_le {}
    (MessageLogFileHeader.codec.encode (logHeader options nowEpochNs)) taken again stays
  rw [List.nil_append, long] at parts
  have bad : (OStream.refuse {} (MessageLogFileHeader.codec.encode (logHeader options nowEpochNs))
    taken again stays).good = false := rfl
  generalize OStream.refuse {} (MessageLogFileHeader.codec.encode (logHeader options nowEpochNs))
    taken again stays = stream at refused parts bad
  have done : opened = (.ioError,
      { writer.close before with
        options, limited := false, bytesWritten := 0, framesWritten := 0
        out := stream.close failed.close, isOpen := false }) := by
    have still : stream.flush failed.flush = stream := if_neg (by rw [bad]; exact Bool.false_ne_true)
    show MessageLogWriter.open _ _ _ _ _ _ _ = _
    rw [logHeader] at refused
    simp only [MessageLogWriter.open, Bool.true_eq_false, if_false, refused, bad, if_true,
      MessageLogWriter.close, still]
  rw [done]
  exact ⟨rfl, rfl, (stream.close_file_prefix failed.close).length_le.trans parts⟩

/-- **What a log leaves**: a beginning of its header and of the recorded frames, if the header was
written and nothing is handed on twice. -/
theorem closedFile_prefix (writer : MessageLogWriter) (options : MessageLogWriterOptions)
    (nowEpochNs : UInt64) (answer : WriteAnswer) (before failed closing : Closing)
    (calls : List AppendCall) :
    let opened := writer.open options true nowEpochNs answer before failed
    (∀ message ∈ opened.2.recorded calls, message.payload.length < 2 ^ 32) ∧
      (opened.1 = .written → opened.2.HandedOnOnce answer calls closing →
        (opened.2.after calls).closedFile closing <+:
          MessageLogFileHeader.codec.encode (logHeader options nowEpochNs) ++
            frameBytes ((opened.2.recorded calls).map messageFrame)) ∧
      (opened.1 ≠ .written → opened.2.recorded calls = [] ∧
        ((opened.2.after calls).closedFile closing).length ≤ 128) := by
  intro opened
  cases answer with
  | written =>
      have status := (open_written writer options nowEpochNs before failed).1
      obtain ⟨stillOpen, sizes, given⟩ := opened_given writer options nowEpochNs before failed calls
      refine ⟨sizes, fun _ once => ?_, fun other => absurd status other⟩
      rw [closedFile, close, if_pos stillOpen]
      refine (given.flush closing.flush).close ?_
      rcases once with good | ⟨-, seamless, flushed⟩ | still
      · exact Or.inl good
      · exact Or.inr (Or.inl ⟨seamless, flushed⟩)
      · exact Or.inr (Or.inr still)
  | failed taken again stays =>
      obtain ⟨status, closed, short⟩ :=
        open_failed writer options nowEpochNs taken again stays before failed
      obtain ⟨nothing, still⟩ := recorded_of_closed closed calls
      have other : opened.1 ≠ .written := by
        rw [status]
        exact nofun
      refine ⟨?_, fun done => absurd done other, fun _ => ⟨nothing, ?_⟩⟩
      · rw [nothing]
        exact nofun
      · rw [still, closedFile, close, if_neg (by rw [closed]; exact Bool.false_ne_true)]
        exact short

end MessageLogWriter

namespace MessageLogReader

/-- **Opening any file**: the reader stands behind a file header, or is closed. -/
theorem open_any (reader : MessageLogReader) (bytes : List UInt8) (options : MessageLogReaderOptions) :
    let opened := (reader.open (some bytes) options).2
    opened.isOpen = false ∨ opened.At options.maxPayloadBytes (bytes.drop 64) := by
  intro opened
  by_cases whole : 64 ≤ bytes.length
  · have read := @IStream.read_of_le { rest := bytes } 64 rfl whole
    show (MessageLogReader.open _ _ _).2.isOpen = _ ∨ (MessageLogReader.open _ _ _).2.At _ _
    rw [MessageLogReader.open, MessageLogFileHeader.codec_size]
    dsimp only
    rw [read]
    dsimp only
    split_ifs
    · exact Or.inl rfl
    · exact Or.inr ⟨rfl, rfl, rfl, rfl⟩
  · have read := @IStream.read_of_lt { rest := bytes } 64 rfl (Nat.lt_of_not_le whole)
    left
    show (MessageLogReader.open _ _ _).2.isOpen = _
    rw [MessageLogReader.open, MessageLogFileHeader.codec_size]
    dsimp only
    rw [read]
    dsimp only
    rw [if_pos (Or.inl (Nat.ne_of_lt (Nat.lt_of_not_le whole)))]
    rfl

/-- A file without room for a frame yields nothing. -/
theorem okRecords_short (reader : MessageLogReader) {bytes : List UInt8} (short : bytes.length ≤ 128)
    (options : MessageLogReaderOptions) (count : Nat) (record : MessageLogRecord) :
    okRecords ((reader.open (some bytes) options).2.reads count record) = [] := by
  rcases reader.open_any bytes options with closed | here
  · exact okRecords_closed closed count record
  · cases count with
    | zero => rfl
    | succ count =>
        have few : (bytes.drop 64).length < MessageLogFrameHeader.codec.size := by
          rw [List.length_drop, MessageLogFrameHeader.codec_size]
          omega
        have step := readNext_spec here record
        have front := (messageFormat options.maxPayloadBytes).cut_front (bytes.drop 64)
        generalize (messageFormat options.maxPayloadBytes).cut (bytes.drop 64) = cut at step front
        have ends (stop : FrameFormat.Stop MessageLogReadStatus)
            (reached : stop = .clean ∨ stop = .torn) (same : cut = .stop stop) :
            okRecords ((reader.open (some bytes) options).2.reads (count + 1) record) = [] := by
          rw [same] at step
          rw [okRecords_succ_of_ne, okRecords_ended (step.2 reached)]
          rw [step.1]
          rcases reached with rfl | rfl <;> exact nofun
        cases front with
        | ended => exact ends .clean (Or.inl rfl) rfl
        | shortHeader => exact ends .torn (Or.inr rfl) rfl
        | refused _ whole | shortPayload whole | frame _ whole =>
            exact absurd whole (Nat.not_le.mpr few)

end MessageLogReader

/-- **A log yields only what was written.** Any options, any messages, whatever the stream answers, and
the log closed or left by a process that stops; any reader, any limit and any number of calls: if
nothing was handed on twice, and none of the calls follows one that met too large a payload, the records
returned with `Ok` are records that were written, in order. -/
theorem only_written_records (writer : MessageLogWriter) (options : MessageLogWriterOptions)
    (nowEpochNs : UInt64) (answer : WriteAnswer) (before failed closing : Closing)
    (calls : List AppendCall) (reader : MessageLogReader) (readerOptions : MessageLogReaderOptions)
    (count : Nat) (record : MessageLogRecord) :
    let opened := writer.open options true nowEpochNs answer before failed
    let recorded := opened.2.recorded calls
    let file := (opened.2.after calls).closedFile closing
    let reading := reader.open (some file) readerOptions
    opened.2.HandedOnOnce answer calls closing →
    (∀ message ∈ recorded.take (count - 1),
      message.payload.length ≤ readerOptions.maxPayloadBytes.toNat) →
    (MessageLogReader.okRecords (reading.2.reads count record)).Sublist
      (recorded.map messageRecord) := by
  intro opened recorded file reading once fits
  obtain ⟨sizes, begun, short⟩ := MessageLogWriter.closedFile_prefix writer options nowEpochNs answer
    before failed closing calls
  by_cases status : opened.1 = .written
  · have whole : file <+: MessageLogFileHeader.codec.encode (logHeader options nowEpochNs) ++
        frameBytes (recorded.map messageFrame) := begun status once
    have sizes : ∀ message ∈ recorded, message.payload.length < 2 ^ 32 := sizes
    have cut := MessageLogReader.open_take reader
      (makeMessageLogFileHeader_malformed nowEpochNs options.sourceId options.writerId
        options.maxTotalBytes) (frameBytes (recorded.map messageFrame)) file.length readerOptions
    rw [← logHeader, ← List.prefix_iff_eq_take.mp whole] at cut
    change if 64 ≤ file.length then reading.1 = _ ∧ reading.2.fileHeader = _ ∧ reading.2.At _ _
      else reading.1 = _ ∧ reading.2.isOpen = _ at cut
    by_cases long : 64 ≤ file.length
    · rw [if_pos long] at cut
      have sound : ∀ frame ∈ recorded.map messageFrame, MessageLogReader.Sound frame := by
        intro frame member
        obtain ⟨message, among, rfl⟩ := List.mem_map.mp member
        exact messageFrame_sound (sizes message among)
      have small : ∀ frame ∈ (recorded.map messageFrame).take (count - 1),
          frame.2.length ≤ readerOptions.maxPayloadBytes.toNat := by
        intro frame member
        rw [← List.map_take] at member
        obtain ⟨message, among, rfl⟩ := List.mem_map.mp member
        exact fits message among
      have found := MessageLogReader.okRecords_prefix sound cut.2.2 record small
      rw [List.map_map] at found
      exact found.sublist
    · rw [if_neg long] at cut
      rw [MessageLogReader.okRecords_closed cut.2]
      exact List.nil_sublist _
  · rw [MessageLogReader.okRecords_short reader (short status).2]
    exact List.nil_sublist _

/-- Two messages, two calls: both come back. -/
theorem only_written_records_two :
    let first : FeedMessageView := ⟨{ captureSeq := 1 }, [1, 2, 3]⟩
    let second : FeedMessageView := ⟨{ captureSeq := 2 }, [4]⟩
    let calls : List AppendCall := [⟨first, .written, .written⟩, ⟨second, .written, .written⟩]
    let opened := ({} : MessageLogWriter).open {} true 7 .written
    let reading := ({} : MessageLogReader).open (some ((opened.2.after calls).closedFile {})) {}
    (MessageLogReader.okRecords (reading.2.reads 2 {})).Sublist
      [messageRecord first, messageRecord second] := by
  intro first second calls opened reading
  have recorded : opened.2.recorded calls = [first, second] := by decide +kernel
  have fits : ∀ message ∈ (opened.2.recorded calls).take (2 - 1),
      message.payload.length ≤ kDefaultMessageLogMaxPayloadBytes.toNat := by
    rw [recorded]
    decide
  have found := only_written_records {} {} 7 .written {} {} {} calls {} {} 2 {}
    (Or.inl (by decide +kernel)) fits
  simp only [opened] at recorded
  rw [recorded] at found
  simp only [reading, opened]
  exact found

/-- **The header of a frame that is too large is consumed, its payload is not**: the next call reads
the payload as a frame header. -/
theorem forged_record {reader : MessageLogReader} {maxPayloadBytes : UInt32}
    {message : FeedMessageView} (small : message.payload.length < 2 ^ 32)
    (large : maxPayloadBytes.toNat < message.payload.length)
    {forged : MessageLogFrameHeader × List UInt8}
    (wellFormed : (messageFormat maxPayloadBytes).WellFormed forged)
    (embedded : (messageFormat maxPayloadBytes).bytes forged <+: message.payload)
    (later : List UInt8)
    (here : reader.At maxPayloadBytes (frameBytes [messageFrame message] ++ later))
    (record : MessageLogRecord) :
    let first := reader.readNext record
    let second := first.2.2.readNext first.2.1
    first.1 = .payloadTooLarge ∧ second.1 = .ok ∧ second.2.1 = ⟨forged.1, forged.2⟩ := by
  intro first second
  obtain ⟨tail, payload⟩ := embedded
  have sized := make_payloadSize message.envelope small
  have announced : (messageFrame message).1.payloadSize > maxPayloadBytes := by
    rw [gt_iff_lt, UInt32.lt_iff_toNat_lt]
    exact large.trans_eq sized.symm
  have split : frameBytes [messageFrame message] ++ later =
      MessageLogFrameHeader.codec.encode (messageFrame message).1 ++
        ((messageFormat maxPayloadBytes).bytes forged ++ (tail ++ later)) := by
    rw [← List.append_assoc _ tail, payload, ← List.append_assoc]
    exact congrArg (· ++ later) (List.append_nil _)
  rw [split] at here
  obtain ⟨status, -, moved⟩ := MessageLogReader.readNext_payloadTooLarge
    (messageFrame_sound small).1 announced here record
  have step := MessageLogReader.readNext_spec moved first.2.1
  rw [FrameFormat.cut_bytes wellFormed] at step
  exact ⟨status, step.1, step.2.1⟩

/-- **A log that yields what was not written.** The payload of its one message is the header of an
empty frame; the limit of the reader is one byte short of it. The second call returns that frame. -/
theorem forged_record_in_log :
    let forged : FeedMessageView := ⟨{ captureSeq := 99, sourceId := 7 }, []⟩
    let message : FeedMessageView := ⟨{ captureSeq := 1 }, frameBytes [messageFrame forged]⟩
    let calls : List AppendCall := [⟨message, .written, .written⟩]
    let opened := ({} : MessageLogWriter).open {} true 7 .written
    let log := (opened.2.after calls).closedFile {}
    let reading := ({} : MessageLogReader).open (some log) ⟨127⟩
    opened.2.written calls = [message] ∧ opened.2.recorded calls = [message] ∧
      (reading.2.reads 2 {}).map Prod.fst = [.payloadTooLarge, .ok] ∧
      MessageLogReader.okRecords (reading.2.reads 2 {}) = [messageRecord forged] ∧
      ¬ (MessageLogReader.okRecords (reading.2.reads 2 {})).Sublist [messageRecord message] := by
  decide +kernel

/-- **A log that yields a record twice.** The file header was handed on. A payload that does not fit the
put area has the stream hand on all that waits: the first frame is taken, the rest is refused. All of it
still waits then, and the first frame goes to the file again when the log is closed. -/
theorem repeated_record_in_log :
    let first : FeedMessageView := ⟨{ captureSeq := 1 }, [1, 2, 3]⟩
    let second : FeedMessageView := ⟨{ captureSeq := 2 }, List.replicate 1024 0⟩
    let calls : List AppendCall := [⟨first, .written, .written⟩, ⟨second, .written, .failed 195 131 259⟩]
    let opened := ({} : MessageLogWriter).open {} true 7 .written
    let log := (opened.2.after calls).closedFile {}
    let reading := ({} : MessageLogReader).open (some log) {}
    opened.2.recorded calls = [first, second] ∧
      MessageLogReader.okRecords (reading.2.reads 3 {}) = [messageRecord first, messageRecord first] ∧
      ¬ (MessageLogReader.okRecords (reading.2.reads 3 {})).Sublist
        [messageRecord first, messageRecord second] := by
  decide +kernel

end MarketDataFabric.Replay
