/-
**The size budget of a message log**, `replay/message_log.hpp`: what the counters of a writer say
about its file, and what each limit policy does once a frame does not fit.

* `Budgeted` — what holds between the counters and the file; `wouldExceedLimit_iff` — the check is
  then the one over the natural numbers, although it subtracts 64-bit numbers.
* `step_answered` — what one `append` can do while the stream takes every write.
* `run_budgeted`, `written_prefix` — what a list of appends preserves.
* `size_budget` — **the budget is kept, and the policy decides what is lost**.
-/

import MarketDataFabric.Replay.MessageLogReplay

namespace MarketDataFabric.Replay

open Library MarketDataFabric.Feed

/-- The bytes that the frames of some messages take. -/
def framedSize (messages : List FeedMessageView) : Nat :=
  (messages.map fun message => 128 + message.payload.length).sum

theorem framedSize_cons (message : FeedMessageView) (rest : List FeedMessageView) :
    framedSize (message :: rest) = (128 + message.payload.length) + framedSize rest := by
  rw [framedSize, List.map_cons, List.sum_cons]
  rfl

theorem framedSize_length (messages : List FeedMessageView) :
    messages.length ≤ framedSize messages := by
  induction messages with
  | nil => exact Nat.le_refl 0
  | cons message rest ih =>
      rw [framedSize_cons, List.length_cons]
      omega

/-- The frame of a message, in bytes. -/
theorem frameBytes_length (message : FeedMessageView) :
    (frameBytes [messageFrame message]).length = 128 + message.payload.length := by
  have long := MessageLogFrameHeader.codec.length_encode (messageFrame message).1
  rw [MessageLogFrameHeader.codec_size] at long
  rw [frameBytes, List.flatMap_singleton, List.length_append, long]
  rfl

/-- The answers that tell of the limit. -/
def MessageLogAppendStatus.HitsLimit (status : MessageLogAppendStatus) : Prop :=
  status = .stoppedByLimit ∨ status = .droppedByLimit ∨ status = .rotateNotImplemented

namespace MessageLogWriter

/-- **The counters and the file** of an open writer after `count` frames. The bytes are counted
modulo `2 ^ 64`, which only a log without a limit can reach. -/
structure Budgeted (options : MessageLogWriterOptions) (count : Nat) (writer : MessageLogWriter) :
    Prop where
  isOpen : writer.isOpen = true
  good : writer.out.good = true
  configured : writer.options = options
  bytes : writer.bytesWritten = UInt64.ofNat writer.out.bytes.length
  frames : writer.framesWritten = UInt64.ofNat count
  bounded : options.maxTotalBytes ≠ 0 →
    writer.out.bytes.length ≤ max 64 options.maxTotalBytes.toNat
  sticky : writer.limited = true → options.limitPolicy ≠ .dropNew

/-- The frame of a payload of this size would take the file beyond the limit. -/
def Exceeds (writer : MessageLogWriter) (size : Nat) : Prop :=
  writer.options.maxTotalBytes ≠ 0 ∧
    writer.options.maxTotalBytes.toNat < writer.out.bytes.length + (128 + size)

/-- With a limit the counter is the length of the file. -/
theorem Budgeted.bytes_toNat {options : MessageLogWriterOptions} {count : Nat}
    {writer : MessageLogWriter} (budgeted : Budgeted options count writer)
    (exact : options.maxTotalBytes ≠ 0 ∨ writer.out.bytes.length < 2 ^ 64) :
    writer.bytesWritten.toNat = writer.out.bytes.length := by
  rw [budgeted.bytes]
  apply UInt64.toNat_ofNat_of_lt'
  show _ < 2 ^ 64
  rcases exact with limited | short
  · have below := options.maxTotalBytes.toNat_lt
    exact Nat.lt_of_le_of_lt (budgeted.bounded limited) (Nat.max_lt.mpr ⟨by decide, below⟩)
  · exact short

/-- **The check does not wrap**: it compares the length of the file and the frame with the limit. -/
theorem wouldExceedLimit_iff {options : MessageLogWriterOptions} {count : Nat}
    {writer : MessageLogWriter} (budgeted : Budgeted options count writer) {size : Nat}
    (fits : size < 2 ^ 32) :
    writer.wouldExceedLimit (UInt64.ofNat (128 + size)) = true ↔ writer.Exceeds size := by
  have frame : (UInt64.ofNat (128 + size)).toNat = 128 + size := by
    apply UInt64.toNat_ofNat_of_lt'
    show _ < 2 ^ 64
    omega
  unfold wouldExceedLimit Exceeds
  by_cases unlimited : writer.options.maxTotalBytes = 0
  · rw [if_pos unlimited]
    exact ⟨nofun, fun exceeds => absurd unlimited exceeds.1⟩
  rw [if_neg unlimited]
  have count := budgeted.bytes_toNat (Or.inl (budgeted.configured ▸ unlimited))
  by_cases beyond : writer.bytesWritten > writer.options.maxTotalBytes
  · rw [if_pos beyond]
    rw [gt_iff_lt, UInt64.lt_iff_toNat_lt, count] at beyond
    exact ⟨fun _ => ⟨unlimited, by omega⟩, fun _ => rfl⟩
  · have inside : writer.bytesWritten ≤ writer.options.maxTotalBytes := UInt64.not_lt.mp beyond
    have room := UInt64.toNat_sub_of_le _ _ inside
    rw [if_neg beyond, decide_eq_true_iff, gt_iff_lt, UInt64.lt_iff_toNat_lt, frame, room, count]
    rw [UInt64.le_iff_toNat_le, count] at inside
    exact ⟨fun large => ⟨unlimited, by omega⟩, fun exceeds => by omega⟩

/-! ### What one append does -/

/-- **What one append does** to an open writer while the stream takes every write. -/
inductive Answered (writer : MessageLogWriter) (call : AppendCall) :
    MessageLogWriter → MessageLogAppendStatus → Prop
  | stopped : writer.limited = true → Answered writer call writer .stoppedByLimit
  | tooLarge : writer.limited = false → ¬ call.message.payload.length < 2 ^ 32 →
      Answered writer call writer .payloadTooLarge
  | dropped : writer.limited = false → call.message.payload.length < 2 ^ 32 →
      writer.Exceeds call.message.payload.length → writer.options.limitPolicy = .dropNew →
      Answered writer call writer .droppedByLimit
  | halted {status : MessageLogAppendStatus} : writer.limited = false →
      call.message.payload.length < 2 ^ 32 → writer.Exceeds call.message.payload.length →
      writer.options.limitPolicy ≠ .dropNew →
      status = .stoppedByLimit ∨ status = .rotateNotImplemented →
      Answered writer call { writer with limited := true } status
  | written : writer.limited = false → call.message.payload.length < 2 ^ 32 →
      ¬ writer.Exceeds call.message.payload.length →
      Answered writer call
        { writer with
          out := ⟨writer.out.file, writer.out.put ++ frameBytes [messageFrame call.message], true⟩
          bytesWritten :=
            writer.bytesWritten + UInt64.ofNat (128 + call.message.payload.length)
          framesWritten := writer.framesWritten + 1 } .written

theorem step_answered {options : MessageLogWriterOptions} {count : Nat} {writer : MessageLogWriter}
    (budgeted : Budgeted options count writer) {call : AppendCall} (taken : call.Taken) :
    Answered writer call (writer.step call).1 (writer.step call).2.status := by
  unfold step append
  rw [if_neg (by rw [budgeted.isOpen]; decide)]
  by_cases limited : writer.limited = true
  · rw [if_pos limited]
    exact .stopped limited
  rw [if_neg limited]
  have limited := eq_false_of_ne_true limited
  by_cases large : call.message.payload.length > 0xFFFFFFFF
  · rw [if_pos large]
    exact .tooLarge limited (Nat.not_lt.mpr large)
  rw [if_neg large]
  dsimp only
  have small : call.message.payload.length < 2 ^ 32 := Nat.lt_succ_of_le (Nat.le_of_not_lt large)
  have check : writer.wouldExceedLimit (UInt64.ofNat
      (MessageLogFrameHeader.codec.size + call.message.payload.length)) = true ↔ _ :=
    wouldExceedLimit_iff budgeted small
  by_cases exceeds : writer.Exceeds call.message.payload.length
  · rw [if_pos (check.mpr exceeds)]
    unfold handleLimit
    cases policy : writer.options.limitPolicy with
    | dropNew => exact .dropped limited small exceeds policy
    | stopRecording =>
        exact .halted limited small exceeds (by rw [policy]; exact nofun) (Or.inl rfl)
    | rotateDeleteOldest =>
        exact .halted limited small exceeds (by rw [policy]; exact nofun) (Or.inr rfl)
    | other value =>
        exact .halted limited small exceeds (by rw [policy]; exact nofun) (Or.inl rfl)
  rw [if_neg (fun beyond => exceeds (check.mp beyond))]
  have chunks : frameBytes [messageFrame call.message] =
      MessageLogFrameHeader.codec.encode (messageFrame call.message).1 ++ call.message.payload :=
    List.append_nil _
  rcases OStream.write_both budgeted.good
      (MessageLogFrameHeader.codec.encode (messageFrame call.message).1)
      call.message.payload call.headerAnswer call.payloadAnswer with out | ⟨untaken, -⟩
  · rw [← chunks] at out
    simp only [messageFrame] at out
    simp only [out, Bool.true_eq_false, if_false]
    exact .written limited small exceeds
  · exact absurd taken untaken

/-- **What one append preserves.** The file grows by the frame that was written, if one was. -/
theorem step_budgeted {options : MessageLogWriterOptions} {count : Nat} {writer : MessageLogWriter}
    (budgeted : Budgeted options count writer) {call : AppendCall} (taken : call.Taken) :
    if (writer.step call).2.status = .written then
      Budgeted options (count + 1) (writer.step call).1 ∧
        (writer.step call).1.out.bytes.length =
          writer.out.bytes.length + (128 + call.message.payload.length)
    else
      Budgeted options count (writer.step call).1 ∧ (writer.step call).1.out = writer.out := by
  have answered := step_answered budgeted taken
  generalize (writer.step call).1 = later at answered ⊢
  generalize (writer.step call).2.status = status at answered ⊢
  cases answered with
  | stopped => exact ⟨budgeted, rfl⟩
  | tooLarge => exact ⟨budgeted, rfl⟩
  | dropped => exact ⟨budgeted, rfl⟩
  | halted _ _ _ policy status =>
      have policy := budgeted.configured ▸ policy
      have kept : Budgeted options count { writer with limited := true } :=
        { budgeted with sticky := fun _ => policy }
      rcases status with rfl | rfl <;> exact ⟨kept, rfl⟩
  | written _ _ room =>
      have length : (⟨writer.out.file, writer.out.put ++ frameBytes [messageFrame call.message],
          true⟩ : OStream).bytes.length =
            writer.out.bytes.length + (128 + call.message.payload.length) := by
        rw [OStream.bytes_append, List.length_append, frameBytes_length]
        rfl
      refine ⟨{ budgeted with good := rfl, bytes := ?_, frames := ?_, bounded := ?_ }, length⟩
      · show writer.bytesWritten + _ = UInt64.ofNat (OStream.bytes _).length
        rw [length, UInt64.ofNat_add writer.out.bytes.length, budgeted.bytes]
      · show writer.framesWritten + 1 = _
        rw [UInt64.ofNat_add, budgeted.frames]
        rfl
      · intro limited
        have within : ¬ options.maxTotalBytes.toNat <
            writer.out.bytes.length + (128 + call.message.payload.length) := fun beyond =>
          room ⟨budgeted.configured ▸ limited, budgeted.configured ▸ beyond⟩
        show (OStream.bytes _).length ≤ _
        rw [length]
        exact Nat.le_trans (Nat.le_of_not_lt within) (Nat.le_max_right _ _)

/-! ### What a list of appends does -/

theorem run_budgeted {options : MessageLogWriterOptions} {calls : List AppendCall}
    (taken : ∀ call ∈ calls, call.Taken) :
    ∀ {count : Nat} {writer : MessageLogWriter}, Budgeted options count writer →
      Budgeted options (count + (writer.written calls).length) (writer.after calls) ∧
        (writer.after calls).out.bytes.length =
          writer.out.bytes.length + framedSize (writer.written calls) := by
  induction calls with
  | nil => exact fun budgeted => ⟨budgeted, rfl⟩
  | cons call rest ih =>
      intro count writer budgeted
      have others : ∀ other ∈ rest, other.Taken := fun other member =>
        taken other (List.mem_cons_of_mem _ member)
      have step := step_budgeted budgeted (taken call List.mem_cons_self)
      rw [written_cons]
      show Budgeted _ _ ((writer.step call).1.after rest) ∧
        ((writer.step call).1.after rest).out.bytes.length = _
      split_ifs at step ⊢
      · obtain ⟨kept, length⟩ := ih others step.1
        refine ⟨?_, ?_⟩
        · rwa [List.length_cons, Nat.add_comm _ 1, ← Nat.add_assoc]
        · rw [length, step.2, framedSize_cons, Nat.add_assoc]
      · obtain ⟨kept, length⟩ := ih others step.1
        exact ⟨kept, by rw [length, step.2]⟩

theorem written_append (writer : MessageLogWriter) (front back : List AppendCall) :
    writer.written (front ++ back) = writer.written front ++ (writer.after front).written back := by
  induction front generalizing writer with
  | nil => rfl
  | cons call rest ih =>
      rw [List.cons_append, written_cons, written_cons, ih]
      show _ = _ ++ ((writer.step call).1.after rest).written back
      split_ifs
      · rfl
      · rfl

/-- **The flag is sticky**: nothing is written once it is set. -/
theorem stopped_run {writer : MessageLogWriter} (limited : writer.limited = true)
    (calls : List AppendCall) : writer.written calls = [] ∧ writer.after calls = writer := by
  induction calls with
  | nil => exact ⟨rfl, rfl⟩
  | cons call rest ih =>
      have step : (writer.step call).1 = writer ∧ (writer.step call).2.status ≠ .written := by
        unfold step append
        split_ifs
        · exact ⟨rfl, nofun⟩
        · exact ⟨rfl, nofun⟩
      rw [written_cons, if_neg step.2]
      show _ ∧ (writer.step call).1.after rest = writer
      rw [step.1]
      exact ih

/-- **Under a policy that stops, the written messages are a beginning** of those that fit in a
frame. -/
theorem written_prefix {options : MessageLogWriterOptions} (stops : options.limitPolicy ≠ .dropNew)
    {calls : List AppendCall} (taken : ∀ call ∈ calls, call.Taken) :
    ∀ {count : Nat} {writer : MessageLogWriter}, Budgeted options count writer →
      writer.written calls <+:
        (calls.map AppendCall.message).filter fun message => message.payload.length < 2 ^ 32 := by
  induction calls with
  | nil => exact fun _ => List.nil_prefix
  | cons call rest ih =>
      intro count writer budgeted
      have others : ∀ other ∈ rest, other.Taken := fun other member =>
        taken other (List.mem_cons_of_mem _ member)
      have answered := step_answered budgeted (taken call List.mem_cons_self)
      have kept := step_budgeted budgeted (taken call List.mem_cons_self)
      rw [written_cons]
      generalize (writer.step call).1 = later at answered kept ⊢
      generalize (writer.step call).2.status = status at answered kept ⊢
      cases answered with
      | stopped limited =>
          rw [if_neg nofun, (stopped_run limited rest).1]
          exact List.nil_prefix
      | tooLarge _ large =>
          rw [if_neg nofun, List.map_cons, List.filter_cons_of_neg (by simpa using large)]
          exact ih others budgeted
      | dropped _ _ _ policy => exact absurd (budgeted.configured ▸ policy) stops
      | halted _ _ _ _ halted =>
          have other : status ≠ .written := by rcases halted with rfl | rfl <;> exact nofun
          rw [if_neg other, (stopped_run rfl rest).1]
          exact List.nil_prefix
      | written _ small =>
          rw [if_pos rfl] at kept ⊢
          rw [List.map_cons, List.filter_cons_of_pos (by simpa using small)]
          exact List.cons_prefix_cons.mpr ⟨rfl, ih others kept.1⟩

/-- A limit that was hit under such a policy leaves the flag set. -/
theorem limited_of_hit {options : MessageLogWriterOptions} (stops : options.limitPolicy ≠ .dropNew)
    {count : Nat} {writer : MessageLogWriter} (budgeted : Budgeted options count writer)
    {call : AppendCall} (taken : call.Taken) (hit : (writer.step call).2.status.HitsLimit) :
    (writer.step call).1.limited = true ∧ (writer.step call).1.out = writer.out ∧
      (writer.step call).2.status ≠ .written := by
  have answered := step_answered budgeted taken
  generalize (writer.step call).1 = later at answered ⊢
  generalize (writer.step call).2.status = status at answered hit ⊢
  cases answered with
  | stopped limited => exact ⟨limited, rfl, nofun⟩
  | tooLarge => rcases hit with hit | hit | hit <;> cases hit
  | dropped _ _ _ policy => exact absurd (budgeted.configured ▸ policy) stops
  | halted _ _ _ _ halted => exact ⟨rfl, rfl, by rcases halted with rfl | rfl <;> exact nofun⟩
  | written => rcases hit with hit | hit | hit <;> cases hit

/-- **Dropping.** An append is answered `DroppedByLimit` exactly if its frame does not fit, and then
nothing changes. -/
theorem step_dropped {options : MessageLogWriterOptions} (drops : options.limitPolicy = .dropNew)
    {count : Nat} {writer : MessageLogWriter} (budgeted : Budgeted options count writer)
    {call : AppendCall} (taken : call.Taken) :
    ((writer.step call).2.status = .droppedByLimit ↔
        call.message.payload.length < 2 ^ 32 ∧ writer.Exceeds call.message.payload.length) ∧
      ((writer.step call).2.status = .droppedByLimit → (writer.step call).1 = writer) := by
  have answered := step_answered budgeted taken
  generalize (writer.step call).1 = later at answered ⊢
  generalize (writer.step call).2.status = status at answered ⊢
  cases answered with
  | stopped limited => exact absurd drops (budgeted.sticky limited)
  | tooLarge _ large => exact ⟨⟨nofun, fun fits => absurd fits.1 large⟩, nofun⟩
  | dropped _ small exceeds => exact ⟨⟨fun _ => ⟨small, exceeds⟩, fun _ => rfl⟩, fun _ => rfl⟩
  | halted _ _ _ policy => exact absurd drops (budgeted.configured ▸ policy)
  | written _ _ room => exact ⟨⟨nofun, fun exceeds => absurd exceeds.2 room⟩, nofun⟩

/-! ### The budget -/

/-- A successful open leaves a file of 64 bytes, and the counters say so. -/
theorem open_budgeted {previous : MessageLogWriter} {options : MessageLogWriterOptions}
    {opens : Bool} {nowEpochNs : UInt64} {answer : WriteAnswer} {closing failed : Closing}
    (opened : (previous.open options opens nowEpochNs answer closing failed).1 = .written) :
    Budgeted options 0 (previous.open options opens nowEpochNs answer closing failed).2 ∧
      (previous.open options opens nowEpochNs answer closing failed).2.out.bytes.length = 64 := by
  have answers : opens = true ∧ answer = .written := by
    unfold MessageLogWriter.open at opened
    cases opens with
    | false => cases opened
    | true =>
        cases answer with
        | written => exact ⟨rfl, rfl⟩
        | failed => cases opened
  obtain ⟨rfl, rfl⟩ := answers
  obtain ⟨-, isOpen, out⟩ := open_written previous options nowEpochNs closing failed
  have long := MessageLogFileHeader.codec.length_encode (logHeader options nowEpochNs)
  rw [MessageLogFileHeader.codec_size] at long
  have length :
      (previous.open options true nowEpochNs .written closing failed).2.out.bytes.length = 64 := by
    rw [out, OStream.bytes_nil, long]
  refine ⟨⟨isOpen, by rw [out], rfl, ?_, rfl, fun _ => ?_, nofun⟩, length⟩
  · rw [length]
    rfl
  · rw [length]
    exact Nat.le_max_left _ _

end MessageLogWriter

/-- **The size budget.** A writer was opened with any options, and the stream takes every write of
any list of appends. Once all is handed on, the file is the header and the frames of the messages that
were answered `Written`; the counters are its length and their number, as 64-bit numbers, and exactly so
with a limit. With a limit the file stays within it, or within its header if that is larger, and the
check is the one over the natural numbers.

Under any policy but `DropNew` the written messages are a beginning of those that fit in a frame, and
once an append was answered by the limit the file does not change any more. Under `DropNew` an append
is dropped exactly if it has a frame that does not fit in what is left, and then nothing changes. -/
theorem size_budget (previous : MessageLogWriter) (options : MessageLogWriterOptions) (opens : Bool)
    (nowEpochNs : UInt64) (answer : WriteAnswer) (closing failed : Closing)
    (opened : (previous.open options opens nowEpochNs answer closing failed).1 = .written)
    (calls : List AppendCall) (taken : ∀ call ∈ calls, call.Taken) :
    let start := (previous.open options opens nowEpochNs answer closing failed).2
    let writer := start.after calls
    let written := start.written calls
    let length := writer.out.bytes.length
    let limit := options.maxTotalBytes.toNat
    length = 64 + framedSize written ∧
      writer.bytesWritten = UInt64.ofNat length ∧
      writer.framesWritten = UInt64.ofNat written.length ∧
      (limit ≠ 0 ∨ length < 2 ^ 64 →
        writer.bytesWritten.toNat = length ∧ writer.framesWritten.toNat = written.length) ∧
      (limit ≠ 0 → writer.bytesWritten.toNat ≤ max 64 limit) ∧
      (∀ size < 2 ^ 32, writer.wouldExceedLimit (UInt64.ofNat (128 + size)) = true ↔
        limit ≠ 0 ∧ limit < length + (128 + size)) ∧
      (options.limitPolicy ≠ .dropNew →
        written <+: ((calls.map AppendCall.message).filter
          fun message => message.payload.length < 2 ^ 32) ∧
        ∀ before call later, calls = before ++ call :: later →
          ((start.after before).step call).2.status.HitsLimit →
            written = start.written before ∧ writer.out = (start.after before).out) ∧
      (options.limitPolicy = .dropNew → ∀ call : AppendCall, call.Taken →
        ((writer.step call).2.status = .droppedByLimit ↔
          call.message.payload.length < 2 ^ 32 ∧ limit ≠ 0 ∧
            limit < length + (128 + call.message.payload.length)) ∧
        ((writer.step call).2.status = .droppedByLimit → (writer.step call).1 = writer)) := by
  intro start writer written length limit
  obtain ⟨fresh, header⟩ := MessageLogWriter.open_budgeted opened
  have fresh : MessageLogWriter.Budgeted options 0 start := fresh
  obtain ⟨budgeted, extent⟩ := MessageLogWriter.run_budgeted taken fresh
  have budgeted : MessageLogWriter.Budgeted options (0 + written.length) writer := budgeted
  have extent : length = 64 + framedSize written := by
    rw [← header]
    exact extent
  rw [Nat.zero_add] at budgeted
  have limited : limit ≠ 0 ↔ options.maxTotalBytes ≠ 0 := by
    rw [ne_eq, ne_eq, ← UInt64.toNat_inj]
    rfl
  have exceeds (size : Nat) :
      writer.Exceeds size ↔ limit ≠ 0 ∧ limit < length + (128 + size) := by
    rw [limited]
    show writer.options.maxTotalBytes ≠ 0 ∧ _ < _ ↔ _
    rw [budgeted.configured]
  refine ⟨extent, budgeted.bytes, budgeted.frames, fun exact => ?_, fun some => ?_,
    fun size fits => ?_, fun stops => ⟨?_, ?_⟩, fun drops call callTaken => ?_⟩
  · have count := budgeted.bytes_toNat (exact.imp limited.mp id)
    refine ⟨count, ?_⟩
    have below := writer.bytesWritten.toNat_lt
    rw [count] at below
    have below : length < 2 ^ 64 := below
    have few : written.length ≤ framedSize written := framedSize_length written
    rw [budgeted.frames]
    apply UInt64.toNat_ofNat_of_lt'
    show _ < 2 ^ 64
    omega
  · rw [budgeted.bytes_toNat (Or.inl (limited.mp some))]
    exact budgeted.bounded (limited.mp some)
  · rw [MessageLogWriter.wouldExceedLimit_iff budgeted fits]
    exact exceeds size
  · exact MessageLogWriter.written_prefix stops taken fresh
  · rintro before call later rfl hit
    have beforeTaken : ∀ other ∈ before, other.Taken := fun other member =>
      taken other (List.mem_append_left _ member)
    have callTaken := taken call (List.mem_append_right _ List.mem_cons_self)
    obtain ⟨here, -⟩ := MessageLogWriter.run_budgeted beforeTaken fresh
    obtain ⟨flag, same, other⟩ := MessageLogWriter.limited_of_hit stops here callTaken hit
    obtain ⟨nothing, still⟩ := MessageLogWriter.stopped_run flag later
    refine ⟨?_, ?_⟩
    · show start.written (before ++ call :: later) = _
      rw [MessageLogWriter.written_append, MessageLogWriter.written_cons, if_neg other, nothing,
        List.append_nil]
    · show (start.after (before ++ call :: later)).out = _
      rw [MessageLogWriter.after, Machine.final_append, Machine.final_cons, ← same]
      exact congrArg MessageLogWriter.out still
  · rw [← exceeds]
    exact MessageLogWriter.step_dropped drops budgeted callTaken

/-- A limit of 300 bytes: the second frame does not fit, and the third one is not tried. -/
theorem size_budget_stopped :
    let options : MessageLogWriterOptions := { maxTotalBytes := 300 }
    let first : AppendCall := ⟨⟨{ captureSeq := 1 }, [1, 2, 3]⟩, .written, .written⟩
    let long : AppendCall := ⟨⟨{ captureSeq := 2 }, List.replicate 128 0⟩, .written, .written⟩
    let last : AppendCall := ⟨⟨{ captureSeq := 3 }, [4]⟩, .written, .written⟩
    let start := (({} : MessageLogWriter).open options true 7 .written).2
    let writer := start.after [first, long, last]
    start.written [first, long, last] = [first.message] ∧
      writer.bytesWritten.toNat = 195 ∧ writer.framesWritten.toNat = 1 ∧
      writer.out = (start.after [first]).out := by
  intro options first long last start writer
  have taken : ∀ call ∈ [first, long, last], call.Taken := by decide
  obtain ⟨length, -, -, counters, -, -, stopped, -⟩ :=
    size_budget {} options true 7 .written {} {} (by decide) [first, long, last] taken
  have hit : ((start.after [first]).step long).2.status.HitsLimit := Or.inl (by decide +kernel)
  obtain ⟨same, still⟩ := (stopped nofun).2 [first] long [last] rfl hit
  have one : start.written [first] = [first.message] := by decide +kernel
  have written : start.written [first, long, last] = [first.message] := same.trans one
  obtain ⟨bytes, frames⟩ := counters (Or.inl (by decide))
  refine ⟨written, bytes.trans (length.trans ?_), frames.trans ?_, still⟩
  · show 64 + framedSize (start.written [first, long, last]) = 195
    rw [written]
    rfl
  · show (start.written [first, long, last]).length = 1
    rw [written]
    rfl

end MarketDataFabric.Replay
