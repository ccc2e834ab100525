/-
**Typed events in a journal whose stream may fail**, `append`, `flush` and `decode` in
`replay/event_journal.hpp`.

An event type is any trivially copyable structure of `trading-core` with the common head; a journal
takes events of several types. Any call of the stream may fail, the process may stop, and the file may
be cut anywhere.

* `EventType`, `TypedAppend`, `JournalCall` — an event type as the journal sees it, and the calls.
* `AppendStep`, `step_stepped` — what one call does to the stream.
* `accepted_recorded`, `given_after` — over a run the stream is given the recorded events: the accepted
  ones, and the one at which it failed.
* `flushed_journal` — what was flushed stays in the file.
* `read_typed` — a reader of the cut file returns the recorded events that end inside the cut.
* `decode_record` — as which types a record decodes, and to what.
* `typed_journal` — **what was accepted comes back as it was appended**.
-/

import MarketDataFabric.Library.Machine
import MarketDataFabric.Replay.JournalCut

namespace MarketDataFabric.Replay

open Library

/-! ### Event types -/

/-- **A trivially copyable event type**: its object representation, the members of its head that a
frame copies, and `Event{}`. Copying a representation into an object gives the event back. -/
structure EventType where
  Event : Type
  sizeof : Nat
  image : Event → List UInt8
  object : List UInt8 → Event
  image_length : ∀ event, (image event).length = sizeof
  object_image : ∀ event, object (image event) = event
  kind : Event → UInt16
  schemaVersion : Event → UInt16
  exchangeSeq : Event → UInt64
  eventSeq : Event → UInt64
  initial : Event

/-- Events of one byte, which is their number. -/
abbrev EventType.byte : EventType where
  Event := UInt8
  sizeof := 1
  image event := [event]
  object bytes := bytes.headD 0
  image_length _ := rfl
  object_image _ := rfl
  kind _ := 1
  schemaVersion _ := 1
  exchangeSeq event := event.toUInt64
  eventSeq _ := 0
  initial := 0

/-- An event as `append` takes it. -/
def EventType.journalEvent (type : EventType) (event : type.Event) : JournalEvent where
  kind := type.kind event
  schemaVersion := type.schemaVersion event
  exchangeSeq := type.exchangeSeq event
  eventSeq := type.eventSeq event
  bytes := type.image event

/-- `EventJournalRecord::decode`. `out` is left alone where it returns false. -/
def EventJournalRecord.decode (kSchemaVersion : UInt16) (type : EventType)
    (record : EventJournalRecord) (out : type.Event) : Bool × type.Event :=
  if record.header.schemaVersion ≠ kSchemaVersion ∨ record.payload.length ≠ type.sizeof ∨
      record.header.eventKind ≠ type.kind type.initial then
    (false, out)
  else
    (true, type.object record.payload)

variable {T : Type} {types : T → EventType}

/-- A call of `append`, with the answers of the stream to its two writes. -/
structure TypedAppend (types : T → EventType) where
  type : T
  event : (types type).Event
  partitionId : UInt64
  headerAnswer : WriteAnswer := .written
  payloadAnswer : WriteAnswer := .written

namespace TypedAppend

/-- The frame that a call writes. -/
def frame (call : TypedAppend types) : EventFrameHeader × List UInt8 :=
  (EventJournalWriter.frameOf ((types call.type).journalEvent call.event) call.partitionId,
    (types call.type).image call.event)

/-- The record that a reader makes of it. -/
def record (call : TypedAppend types) : EventJournalRecord := ⟨call.frame.1, call.frame.2⟩

/-- The event fits a record. -/
def Fits (call : TypedAppend types) : Prop := (types call.type).sizeof ≤ kMaxJournalPayloadSize

instance (call : TypedAppend types) : Decidable call.Fits := inferInstanceAs (Decidable (_ ≤ _))

/-- The event has the current schema and the kind of its type. -/
def Current (kSchemaVersion : UInt16) (call : TypedAppend types) : Prop :=
  (types call.type).schemaVersion call.event = kSchemaVersion ∧
    (types call.type).kind call.event = (types call.type).kind (types call.type).initial

instance (kSchemaVersion : UInt16) (call : TypedAppend types) :
    Decidable (call.Current kSchemaVersion) := inferInstanceAs (Decidable (_ ∧ _))

theorem frame_length (call : TypedAppend types) :
    call.frame.2.length = (types call.type).sizeof := (types call.type).image_length call.event

end TypedAppend

/-! ### One call -/

/-- A call of the writer, with the answers of its stream. -/
inductive JournalCall (types : T → EventType) where
  | append (call : TypedAppend types)
  | flush (answer : WriteAnswer)

/-- Nothing that the file has waits to be handed on. -/
def JournalCall.Seamless : JournalCall types → Prop
  | .append call => call.headerAnswer.Seamless ∧ call.payloadAnswer.Seamless
  | .flush answer => answer.Seamless

namespace EventJournalWriter

/-- A call as a step of the writer. Only `append` returns something. -/
def typedStep (writer : EventJournalWriter) :
    JournalCall types → EventJournalWriter × Option Bool
  | .append call =>
      let (accepted, writer) := writer.append ((types call.type).journalEvent call.event)
        call.partitionId call.headerAnswer call.payloadAnswer
      (writer, some accepted)
  | .flush answer => (writer.flush answer, none)

/-- The writer after a list of calls. -/
abbrev afterTyped (writer : EventJournalWriter) (calls : List (JournalCall types)) :
    EventJournalWriter :=
  Machine.final typedStep writer calls

/-- **What `append` does**: nothing, or the stream takes a frame, or fails over it. -/
inductive AppendStep (writer : EventJournalWriter) (call : TypedAppend types) :
    EventJournalWriter → Bool → Prop
  | refused : call.frame.2.length ≠ call.frame.1.payloadSize.toNat ∨ writer.output.good = false →
      AppendStep writer call writer false
  | written : writer.output.good = true →
      call.frame.2.length = call.frame.1.payloadSize.toNat →
      AppendStep writer call
        ⟨⟨writer.output.file, writer.output.put ++ journalFormat.bytes call.frame, true⟩⟩ true
  | failed (later : EventJournalWriter) : writer.output.good = true →
      call.frame.2.length = call.frame.1.payloadSize.toNat →
      writer.output.Failed (journalFormat.bytes call.frame)
        (call.headerAnswer.Seamless ∧ call.payloadAnswer.Seamless) later.output →
      AppendStep writer call later false

/-- A frame of the size it announces is written in two writes. -/
theorem appendFrame_eq (writer : EventJournalWriter) {frame : EventFrameHeader}
    {payload : List UInt8} (sized : payload.length = frame.payloadSize.toNat)
    (headerAnswer payloadAnswer : WriteAnswer) :
    let output := (writer.output.write (EventFrameHeader.codec.encode frame) headerAnswer).write payload
      payloadAnswer
    writer.appendFrame frame payload headerAnswer payloadAnswer = (output.good, ⟨output⟩) := by
  intro output
  rw [appendFrame, if_neg (not_not.mpr sized)]

theorem append_step (writer : EventJournalWriter) (call : TypedAppend types) :
    ∃ later done, writer.typedStep (.append call) = (later, some done) ∧
      AppendStep writer call later done := by
  let appended :=
    writer.appendFrame call.frame.1 call.frame.2 call.headerAnswer call.payloadAnswer
  refine ⟨appended.2, appended.1, rfl, ?_⟩
  show AppendStep writer call (appendFrame _ _ _ _ _).2 (appendFrame _ _ _ _ _).1
  by_cases sized : call.frame.2.length = call.frame.1.payloadSize.toNat
  · rw [appendFrame_eq writer sized]
    cases good : writer.output.good with
    | false =>
        rw [OStream.write_of_not_good good, OStream.write_of_not_good good, good]
        exact .refused (Or.inr good)
    | true =>
        rcases OStream.write_pair good (EventFrameHeader.codec.encode call.frame.1) call.frame.2
          call.headerAnswer call.payloadAnswer with ⟨-, -, whole⟩ | ⟨-, failed⟩
        · rw [whole]
          exact .written good sized
        · rw [failed.bad]
          exact .failed _ good sized failed
  · rw [appendFrame, if_pos sized]
    exact .refused (Or.inl sized)

/-! ### The calls on record -/

/-- The event that a call has accepted. -/
def accepts (writer : EventJournalWriter) : JournalCall types → List (TypedAppend types)
  | .append call => if (writer.typedStep (.append call)).2 = some true then [call] else []
  | .flush _ => []

/-- The event that a call gives to the stream, which is good, and of the size announced. -/
def records (writer : EventJournalWriter) : JournalCall types → List (TypedAppend types)
  | .append call =>
      if writer.good ∧ call.frame.2.length = call.frame.1.payloadSize.toNat then [call] else []
  | .flush _ => []

/-- **The events that were accepted**, in order. -/
abbrev accepted (writer : EventJournalWriter) (calls : List (JournalCall types)) :
    List (TypedAppend types) :=
  Machine.requests typedStep accepts writer calls

/-- The events that were given to the stream, in order. -/
abbrev recorded (writer : EventJournalWriter) (calls : List (JournalCall types)) :
    List (TypedAppend types) :=
  Machine.requests typedStep records writer calls

theorem accepted_cons (writer : EventJournalWriter) (call : JournalCall types)
    (rest : List (JournalCall types)) :
    writer.accepted (call :: rest) =
      writer.accepts call ++ (writer.typedStep call).1.accepted rest := rfl

theorem recorded_cons (writer : EventJournalWriter) (call : JournalCall types)
    (rest : List (JournalCall types)) :
    writer.recorded (call :: rest) =
      writer.records call ++ (writer.typedStep call).1.recorded rest := rfl

/-- **What a step does**: it keeps what the stream was given, gives it an event at most, and accepts
that exactly if the stream stays good. -/
structure Stepped (writer : EventJournalWriter) (call : JournalCall types)
    (later : EventJournalWriter) : Prop where
  given : ∀ {seamless : Prop} {all : List UInt8}, writer.output.Given seamless all →
    later.output.Given (seamless ∧ call.Seamless)
      (all ++ journalFormat.concat ((writer.records call).map TypedAppend.frame))
  grows : writer.output.file <+: later.output.file
  accepts : writer.accepts call = if later.good then writer.records call else []
  bad : writer.good = false → later = writer ∧ writer.records call = []
  sized : ∀ event ∈ writer.records call, event.frame.2.length = event.frame.1.payloadSize.toNat
  one : (writer.records call).length ≤ 1

theorem append_stepped {writer later : EventJournalWriter} {call : TypedAppend types} {done : Bool}
    (returned : writer.typedStep (.append call) = (later, some done))
    (step : AppendStep writer call later done) : Stepped writer (.append call) later := by
  have accepts : writer.accepts (.append call) = if done then [call] else [] := by
    rw [EventJournalWriter.accepts, returned]
    cases done <;> rfl
  have recording (good : writer.output.good = true)
      (sized : call.frame.2.length = call.frame.1.payloadSize.toNat) :
      writer.records (.append call) = [call] := if_pos ⟨good, sized⟩
  have single (sized : call.frame.2.length = call.frame.1.payloadSize.toNat) :
      ∀ event ∈ [call], event.frame.2.length = event.frame.1.payloadSize.toNat := by
    intro event member
    rw [List.mem_singleton.mp member]
    exact sized
  cases step with
  | refused cause =>
      have none : writer.records (.append call) = [] := by
        refine if_neg fun both => ?_
        rcases cause with other | bad
        · exact other both.2
        · exact absurd (bad.symm.trans both.1) (by decide)
      refine ⟨fun given => ?_, List.prefix_rfl, ?_, fun _ => ⟨rfl, none⟩, ?_, ?_⟩
      · rw [none, List.map_nil, FrameFormat.concat, List.flatMap_nil, List.append_nil]
        exact given.mono And.left
      · rw [accepts, none, ite_self]
        rfl
      · rw [none]
        exact fun _ member => absurd member List.not_mem_nil
      · rw [none]
        exact Nat.zero_le 1
  | written good sized =>
      have one := recording good sized
      refine ⟨fun given => ?_, List.prefix_rfl, ?_, fun bad => absurd (good.symm.trans bad) (by decide),
        ?_, ?_⟩
      · refine .of_good ?_
        rw [one, List.map_singleton, FrameFormat.concat, List.flatMap_singleton, OStream.bytes_append,
          ← given.whole good]
        rfl
      · rw [accepts, one]
        rfl
      · rw [one]
        exact single sized
      · rw [one]
        exact Nat.le_refl 1
  | failed later good sized failed =>
      have one := recording good sized
      refine ⟨fun given => ?_, failed.grows, ?_, fun bad => absurd (good.symm.trans bad) (by decide),
        ?_, ?_⟩
      · rw [one, List.map_singleton, FrameFormat.concat, List.flatMap_singleton]
        exact failed.given given
      · rw [accepts, if_neg Bool.false_ne_true, if_neg]
        rw [EventJournalWriter.good, failed.bad]
        exact Bool.false_ne_true
      · rw [one]
        exact single sized
      · rw [one]
        exact Nat.le_refl 1

theorem step_stepped (writer : EventJournalWriter) (call : JournalCall types) :
    Stepped writer call (writer.typedStep call).1 := by
  cases call with
  | append call =>
      obtain ⟨later, done, returned, step⟩ := writer.append_step call
      rw [returned]
      exact append_stepped returned step
  | flush answer =>
      refine ⟨fun given => ?_, writer.output.file_prefix_flush answer, (ite_self _).symm,
        fun bad => ⟨?_, rfl⟩, nofun, Nat.zero_le 1⟩
      · rw [show writer.records (.flush answer) = ([] : List (TypedAppend types)) from rfl,
          List.map_nil, FrameFormat.concat, List.flatMap_nil, List.append_nil]
        exact given.flush answer
      · have still : writer.output.flush answer = writer.output := if_neg (by
          rw [show writer.output.good = false from bad]
          exact Bool.false_ne_true)
        exact congrArg EventJournalWriter.mk still

/-! ### Runs -/

/-- **A bad stream stays as it is.** -/
theorem typed_of_not_good {writer : EventJournalWriter} (bad : writer.good = false)
    (calls : List (JournalCall types)) :
    writer.recorded calls = [] ∧ writer.accepted calls = [] ∧ writer.afterTyped calls = writer := by
  induction calls with
  | nil => exact ⟨rfl, rfl, rfl⟩
  | cons call rest ih =>
      have step := writer.step_stepped call
      obtain ⟨still, none⟩ := step.bad bad
      have unaccepted : writer.accepts call = [] := by rw [step.accepts, none, ite_self]
      rw [recorded_cons, accepted_cons, afterTyped, Machine.final_cons, still, none, unaccepted]
      exact ih

/-- **What a run gives the stream**: the recorded events. -/
theorem given_after {writer : EventJournalWriter} {seamless : Prop} {all : List UInt8}
    (given : writer.output.Given seamless all) (calls : List (JournalCall types)) :
    (writer.afterTyped calls).output.Given (seamless ∧ ∀ call ∈ calls, call.Seamless)
      (all ++ journalFormat.concat ((writer.recorded calls).map TypedAppend.frame)) := by
  induction calls generalizing writer seamless all with
  | nil =>
      rw [recorded, Machine.requests, List.map_nil, FrameFormat.concat, List.flatMap_nil,
        List.append_nil]
      exact given.mono And.left
  | cons call rest ih =>
      have later := ih ((writer.step_stepped call).given given)
      rw [List.append_assoc] at later
      rw [recorded_cons, List.map_append, FrameFormat.concat, List.flatMap_append, afterTyped,
        Machine.final_cons]
      refine later.mono fun holds => ⟨⟨holds.1, holds.2 call List.mem_cons_self⟩, fun other member =>
        holds.2 other (List.mem_cons_of_mem _ member)⟩

/-- What the file has for certain stays there. -/
theorem file_prefix_after (writer : EventJournalWriter) (calls : List (JournalCall types)) :
    writer.output.file <+: (writer.afterTyped calls).output.file :=
  Machine.final_invariant typedStep (fun later => writer.output.file <+: later.output.file)
    (fun _ => True) (fun later call before _ => before.trans (later.step_stepped call).grows)
    List.prefix_rfl fun _ _ => trivial

/-- **Which events were accepted**: the recorded ones, but possibly for the one at which the stream
failed. -/
theorem accepted_recorded (writer : EventJournalWriter) (calls : List (JournalCall types)) :
    writer.accepted calls <+: writer.recorded calls ∧
      (writer.recorded calls).length ≤ (writer.accepted calls).length + 1 ∧
      ((writer.afterTyped calls).good = true → writer.accepted calls = writer.recorded calls) := by
  induction calls generalizing writer with
  | nil => exact ⟨List.prefix_rfl, Nat.zero_le _, fun _ => rfl⟩
  | cons call rest ih =>
      have step := writer.step_stepped call
      have accepts := step.accepts
      rw [recorded_cons, accepted_cons, afterTyped, Machine.final_cons]
      generalize (writer.typedStep call).1 = later at step accepts ⊢
      cases good : later.good with
      | true =>
          rw [good, if_pos rfl] at accepts
          rw [accepts]
          obtain ⟨front, few, same⟩ := ih later
          refine ⟨(List.prefix_append_right_inj _).mpr front, ?_, fun still => ?_⟩
          · rw [List.length_append, List.length_append]
            omega
          · exact congrArg _ (same still)
      | false =>
          rw [good, if_neg Bool.false_ne_true] at accepts
          obtain ⟨nothing, noneAccepted, still⟩ := typed_of_not_good good rest
          rw [afterTyped] at still
          rw [accepts, nothing, noneAccepted, still, good, List.append_nil, List.append_nil]
          exact ⟨List.nil_prefix, step.one, fun same => by cases same⟩

theorem recorded_sublist (writer : EventJournalWriter) (calls : List (JournalCall types)) :
    ((writer.recorded calls).map JournalCall.append).Sublist calls := by
  induction calls generalizing writer with
  | nil => exact .slnil
  | cons call rest ih =>
      rw [recorded_cons, List.map_append]
      have here : ((writer.records call).map JournalCall.append).Sublist [call] := by
        cases call with
        | append call =>
            unfold records
            dsimp only
            split_ifs
            · exact List.Sublist.refl _
            · exact List.nil_sublist _
        | flush => exact List.nil_sublist _
      exact here.append (ih _)

theorem recorded_sized (writer : EventJournalWriter) (calls : List (JournalCall types)) :
    ∀ event ∈ writer.recorded calls, event.frame.2.length = event.frame.1.payloadSize.toNat := by
  induction calls generalizing writer with
  | nil => exact nofun
  | cons call rest ih =>
      intro event member
      rcases List.mem_append.mp member with here | later
      · exact (writer.step_stepped call).sized event here
      · exact ih _ event later

end EventJournalWriter

/-! ### Reading -/

/-- **As which types a record decodes**: those of its size and kind, if it has the current schema. As
its own type it decodes to the event. -/
theorem decode_record (kSchemaVersion : UInt16) (call : TypedAppend types) :
    (∀ out, call.record.decode kSchemaVersion (types call.type) out =
      if call.Current kSchemaVersion then (true, call.event) else (false, out)) ∧
    ∀ (type : T) (out : (types type).Event),
      ((call.record.decode kSchemaVersion (types type) out).1 = true ↔
        (types call.type).schemaVersion call.event = kSchemaVersion ∧
          (types call.type).sizeof = (types type).sizeof ∧
          (types call.type).kind call.event = (types type).kind (types type).initial) ∧
      ((call.record.decode kSchemaVersion (types type) out).1 = false →
        (call.record.decode kSchemaVersion (types type) out).2 = out) := by
  have size : call.record.payload.length = (types call.type).sizeof := call.frame_length
  constructor
  · intro out
    have object : (types call.type).object call.record.payload = call.event :=
      (types call.type).object_image call.event
    unfold EventJournalRecord.decode
    by_cases current : call.Current kSchemaVersion
    · rw [if_pos current, if_neg, object]
      rintro (other | other | other)
      · exact other current.1
      · exact other size
      · exact other current.2
    · rw [if_neg current, if_pos]
      by_contra none
      obtain ⟨schema, kind⟩ := not_or.mp none
      exact current ⟨not_not.mp schema, not_not.mp (not_or.mp kind).2⟩
  · intro type out
    unfold EventJournalRecord.decode
    rw [size]
    split_ifs with differs
    · refine ⟨iff_of_false (fun refused => by cases refused) ?_, fun _ => rfl⟩
      rintro ⟨schema, same, kind⟩
      rcases differs with other | other | other
      · exact other schema
      · exact other same
      · exact other kind
    · obtain ⟨schema, rest⟩ := not_or.mp differs
      obtain ⟨same, kind⟩ := not_or.mp rest
      exact ⟨iff_of_true rfl ⟨not_not.mp schema, not_not.mp same, not_not.mp kind⟩,
        fun refused => by cases refused⟩

/-- An accepted or recorded frame has the standard head. -/
theorem announced_frames {calls : List (TypedAppend types)}
    (sized : ∀ call ∈ calls, call.frame.2.length = call.frame.1.payloadSize.toNat) :
    ∀ frame ∈ calls.map TypedAppend.frame, Announced frame := by
  intro frame member
  obtain ⟨call, inside, rfl⟩ := List.mem_map.mp member
  exact ⟨⟨rfl, rfl, rfl⟩, sized call inside⟩

theorem fits_frame (call : TypedAppend types) : fitsRecord call.frame = decide call.Fits := by
  rw [fitsRecord, call.frame_length]
  rfl

theorem takeWhile_fits (calls : List (TypedAppend types)) :
    (calls.map TypedAppend.frame).takeWhile fitsRecord =
      (calls.takeWhile fun call => decide call.Fits).map TypedAppend.frame := by
  rw [List.takeWhile_map]
  exact congrArg (fun test => (calls.takeWhile test).map TypedAppend.frame) (funext fits_frame)

/-- Where the first `count` events end in a journal: after the file header, 40 bytes and an event for
each. -/
def typedEnd (calls : List (TypedAppend types)) (count : Nat) : Nat :=
  64 + ((calls.take count).map fun call => 40 + (types call.type).sizeof).sum

theorem frameEnd_map (calls : List (TypedAppend types)) (count : Nat) :
    frameEnd (calls.map TypedAppend.frame) count = typedEnd calls count := by
  unfold frameEnd typedEnd
  rw [← List.map_take, List.map_map]
  refine congrArg (fun sizes => 64 + List.sum sizes) (List.map_congr_left fun call _ => ?_)
  rw [Function.comp_apply, call.frame_length]

/-- **What the stream of a new journal was given**: its header and the recorded frames. -/
theorem given_journal (sourceId tradingDay : UInt32) (answer : WriteAnswer)
    (calls : List (JournalCall types)) :
    let opened := EventJournalWriter.construct {} sourceId tradingDay answer
    (opened.afterTyped calls).output.Given (answer.Seamless ∧ ∀ call ∈ calls, call.Seamless)
      (EventJournalHeader.codec.encode { sourceId, tradingDay } ++
        journalFormat.concat ((opened.recorded calls).map TypedAppend.frame)) := by
  intro opened
  have empty : ({} : OStream).Given True [] := .of_good rfl
  have header := empty.write rfl (EventJournalHeader.codec.encode { sourceId, tradingDay }) answer
  exact (EventJournalWriter.given_after header calls).mono fun holds => ⟨⟨trivial, holds.1⟩, holds.2⟩

/-- **What a good stream has taken** of a new journal has every accepted event. -/
theorem taken_journal (sourceId tradingDay : UInt32) (answer : WriteAnswer)
    (calls : List (JournalCall types)) :
    let opened := EventJournalWriter.construct {} sourceId tradingDay answer
    (opened.afterTyped calls).good = true → ∀ index < (opened.accepted calls).length,
      typedEnd (opened.accepted calls) (index + 1) ≤ (opened.afterTyped calls).output.bytes.length := by
  intro opened good index _
  have part : journalFormat.extent ((opened.accepted calls).map TypedAppend.frame) (index + 1) ≤
      (journalFormat.concat ((opened.accepted calls).map TypedAppend.frame)).length :=
    FrameFormat.concat_length_mono (List.take_prefix _ _)
  have whole : (opened.afterTyped calls).output.bytes =
      EventJournalHeader.codec.encode { sourceId, tradingDay } ++
        journalFormat.concat ((opened.recorded calls).map TypedAppend.frame) :=
    (given_journal sourceId tradingDay answer calls).whole good
  rw [← (opened.accepted_recorded calls).2.2 good] at whole
  rw [← frameEnd_map, frameEnd_eq, whole, List.length_append,
    EventJournalHeader.codec.length_encode]
  exact Nat.add_le_add_left part _

/-- **What was flushed stays in the file**, whatever happens afterwards. -/
theorem flushed_journal (sourceId tradingDay : UInt32) (answer : WriteAnswer)
    (before after : List (JournalCall types)) (closing : WriteAnswer) :
    let opened := EventJournalWriter.construct {} sourceId tradingDay answer
    let ended := opened.afterTyped (before ++ .flush .written :: after)
    (opened.afterTyped before).good = true → ∀ index < (opened.accepted before).length,
      typedEnd (opened.accepted before) (index + 1) ≤ (ended.closedFile closing).length := by
  intro opened ended good index inside
  have flushed : ((opened.afterTyped before).flush .written).output.file =
      (opened.afterTyped before).output.bytes := OStream.flush_written_file good
  have split : ended = EventJournalWriter.afterTyped ((opened.afterTyped before).flush .written) after :=
    Machine.final_append EventJournalWriter.typedStep opened before _
  have kept : (opened.afterTyped before).output.bytes <+: ended.closedFile closing := by
    rw [← flushed, split]
    exact (EventJournalWriter.file_prefix_after _ after).trans (OStream.file_prefix_close _ closing)
  exact (taken_journal sourceId tradingDay answer before good index inside).trans kept.length_le

/-- **Nothing is handed on twice**: the stream is good when it is closed, or every call was seamless, or
closing hands on nothing. -/
def HandedOnOnce (writer : EventJournalWriter) (answer : WriteAnswer)
    (calls : List (JournalCall types)) (closing : WriteAnswer) : Prop :=
  (writer.afterTyped calls).good = true ∨
    (answer.Seamless ∧ ∀ call ∈ calls, call.Seamless) ∨ closing.Still

/-- **A reader of a new journal that was cut** returns the recorded events that end inside the cut, up to
the first that is too large for a record. -/
theorem read_typed (sourceId tradingDay : UInt32) (answer : WriteAnswer)
    (calls : List (JournalCall types)) (closing : WriteAnswer) (size extra : Nat)
    (record : EventJournalRecord) :
    let opened := EventJournalWriter.construct {} sourceId tradingDay answer
    let file := ((opened.afterTyped calls).closedFile closing).take size
    let readable := (opened.recorded calls).takeWhile fun call => decide call.Fits
    HandedOnOnce opened answer calls closing →
    ∃ count ≤ readable.length,
      (∀ index < readable.length,
        index < count ↔ typedEnd readable (index + 1) ≤ file.length) ∧
      ((EventJournalReader.construct { rest := file }).readAll (calls.length + 1 + extra) record).1 =
        (readable.take count).map TypedAppend.record := by
  intro opened file readable once
  have sized := opened.recorded_sized calls
  have part : file <+: EventJournalHeader.codec.encode { sourceId, tradingDay } ++
      journalFormat.concat ((opened.recorded calls).map TypedAppend.frame) :=
    (List.take_prefix _ _).trans ((given_journal sourceId tradingDay answer calls).close once)
  have inside := (opened.recorded_sublist calls).length_le
  rw [List.length_map] at inside
  obtain ⟨count, bound, counted, records⟩ := read_cut sourceId tradingDay (announced_frames sized)
    part (calls.length + 1 + extra) record (by rw [List.length_map]; omega)
  rw [takeWhile_fits] at bound counted records
  rw [List.length_map] at bound counted
  refine ⟨count, bound, fun index inside => ?_, ?_⟩
  · rw [counted index inside, frameEnd_map]
  · rw [records, ← List.map_take, List.map_map]
    rfl

end MarketDataFabric.Replay
