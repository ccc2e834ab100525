/-
**A crash of the asynchronous journal**: the process stops between any two steps of the producer and
the consumer, and the file has any beginning of what the stream was given.

* `inOrder_after` — after every schedule the queued calls are in the journal, on their way to it, or in
  the ring, in order.
* `async_crash_replay` — **what is read back is a beginning of what was queued**: a crash loses what the
  ring holds, the frame on its way, and what the stream has not handed on.
-/

import Mathlib.Data.List.TakeWhile
import MarketDataFabric.Replay.AsyncSystem
import MarketDataFabric.Replay.JournalCut

namespace MarketDataFabric.Replay

open Library MarketDataFabric.Runtime BoundedFifo

variable {capacity : RingCapacity}

/-- **The queued calls after a schedule.** -/
theorem inOrder_after (buffer : Fin capacity.value → QueuedEventFrame) (index : UInt64)
    (writer : EventJournalWriter) (good : writer.good = true) (moves : List AsyncMove) :
    ∃ written held, InOrder writer.output
      (queuedCalls ((AsyncSystem.start buffer index writer).answers moves))
      ((AsyncSystem.start buffer index writer).after moves) written held := by
  have fresh : InOrder writer.output [] (AsyncSystem.start buffer index writer) [] [] :=
    { represents := represents_start buffer index
      pushing := rfl
      order := rfl
      writer := by
        rw [FrameFormat.concat, List.flatMap_nil, List.append_nil]
        exact congrArg (fun good => EventJournalWriter.mk ⟨writer.output.file, writer.output.put, good⟩)
          good
      fits := fun _ member => by cases member
      enqueueing := fun _ member => by cases member }
  have reached : ∃ queued,
      Machine.Trace _ [] ((AsyncSystem.start buffer index writer).answers moves) queued ∧
      ∃ written held, InOrder writer.output queued
        ((AsyncSystem.start buffer index writer).after moves) written held :=
    records_queued.trace ⟨[], [], fresh⟩
  obtain ⟨queued, run, inOrder⟩ := reached
  have recorded : queued = queuedCalls ((AsyncSystem.start buffer index writer).answers moves) := by
    rw [run.appended, List.nil_append]
    simp only [queuedCalls, List.flatMap_singleton]
  rwa [recorded] at inOrder

/-- A queued call has an announced frame that fits. -/
theorem EnqueueCall.Fits.frame {call : EnqueueCall} (fits : call.Fits) :
    Announced call.pair ∧ fitsRecord call.pair = true :=
  ⟨⟨⟨rfl, rfl, rfl⟩, (QueuedEventFrame.frameOf_payloadSize fits call.2).symm⟩, decide_eq_true fits⟩

/-- The consumer carries at most one frame. -/
theorem Drainer.frames_length (drainer : Drainer) : drainer.frames.length ≤ 1 := by
  cases drainer with
  | popping => exact Nat.zero_le 1
  | writing => exact Nat.le_refl 1

/-- **What a beginning of a journal lacks.** A frame that does not end inside it is the one that is cut, or
has all its 40 bytes and more behind the cut. -/
theorem frames_lost {frames : List (EventFrameHeader × List UInt8)} {count present : Nat}
    (counted : ∀ place < frames.length, place < count ↔ frameEnd frames (place + 1) ≤ present) :
    frames.length ≤ count + (frameEnd frames frames.length - present + 39) / 40 := by
  rcases Nat.lt_or_ge count frames.length with cut | all
  · have torn : present < frameEnd frames (count + 1) :=
      Nat.lt_of_not_le fun whole => Nat.lt_irrefl _ ((counted count cut).mpr whole)
    have behind : frameEnd frames frames.length = frameEnd frames (count + 1) +
        ((frames.drop (count + 1)).map fun frame => 40 + frame.2.length).sum := by
      rw [frameEnd, frameEnd, List.take_length, Nat.add_assoc, ← List.sum_append_nat, ← List.map_append,
        List.take_append_drop]
    have each : 40 * (frames.drop (count + 1)).length ≤
        ((frames.drop (count + 1)).map fun frame => 40 + frame.2.length).sum := by
      generalize frames.drop (count + 1) = rest
      induction rest with
      | nil => exact Nat.le_refl 0
      | cons frame rest ih =>
          rw [List.map_cons, List.sum_cons, List.length_cons]
          omega
    rw [List.length_drop] at each
    omega
  · exact all.trans (Nat.le_add_right _ _)

/-- **A crash of the asynchronous journal.** For every capacity, every start of the ring and every
schedule of the two sides, and for the file of a new journal, closed or left by a process that stops,
and cut anywhere:

* the journal was given the frames of the queued events, in order, but for the last ones: no more than
  the ring holds and one on its way, and none once the queue is drained. All it was given is in the file
  once it is closed;
* a reader returns the frames that end inside the cut, bit for bit as they were queued: never an event
  that was not queued, and none in another order;
* so an event that does not come back is in the ring, on its way, or ends in what the file `lacks` of
  what the stream was given: a put area, if nothing was cut off. -/
theorem async_crash_replay (buffer : Fin capacity.value → QueuedEventFrame) (index : UInt64)
    (sourceId tradingDay : UInt32) (moves : List AsyncMove) (closing : WriteAnswer) (size extra : Nat)
    (record : EventJournalRecord) :
    let system := AsyncSystem.start buffer index
      (EventJournalWriter.construct {} sourceId tradingDay .written)
    let queued := (queuedCalls (system.answers moves)).map EnqueueCall.pair
    let writer := (system.after moves).writer
    let file := (writer.closedFile closing).take size
    let lacks := writer.output.bytes.length - file.length
    let reader := EventJournalReader.construct { rest := file }
    ∃ written, writer.output.bytes.length = frameEnd queued written ∧
      written ≤ queued.length ∧ queued.length ≤ written + capacity.value + 1 ∧
      ((system.after moves).Drained → written = queued.length) ∧
      (closing = .written → writer.output.bytes.length ≤ size → lacks = 0) ∧
      ∃ count ≤ written,
        (∀ place < written, place < count ↔ frameEnd queued (place + 1) ≤ file.length) ∧
        (reader.readAll (queued.length + 1 + extra) record).1 =
          (queued.take count).map frameRecord ∧
        queued.length ≤ count + (lacks + 39) / 40 + capacity.value + 1 := by
  intro system queued writer file lacks reader
  obtain ⟨frames, held, inOrder⟩ := inOrder_after buffer index
    (EventJournalWriter.construct {} sourceId tradingDay .written) rfl moves
  have order : queued = frames ++
      ((system.after moves).drainer.frames ++ held).map QueuedEventFrame.pair := inOrder.order
  have output : writer = ⟨⟨[], EventJournalHeader.codec.encode { sourceId, tradingDay } ++
      journalFormat.concat frames, true⟩⟩ := inOrder.writer
  have bytes : writer.output.bytes = EventJournalHeader.codec.encode { sourceId, tradingDay } ++
      journalFormat.concat frames := by
    rw [output]
    rfl
  have front : frames <+: queued := ⟨_, order.symm⟩
  have same : queued.take frames.length = frames := by rw [order, List.take_left]
  have sound : ∀ frame ∈ frames, Announced frame ∧ fitsRecord frame = true := by
    intro frame member
    obtain ⟨call, inside, rfl⟩ := List.mem_map.mp (front.subset member)
    exact (inOrder.fits call inside).frame
  have readable : frames.takeWhile fitsRecord = frames :=
    List.takeWhile_eq_self_iff.mpr fun frame member => (sound frame member).2
  have rest : queued.length =
      frames.length + ((system.after moves).drainer.frames.length + held.length) := by
    rw [order, List.length_append, List.length_map, List.length_append]
  have ends (count : Nat) (inside : count ≤ frames.length) :
      frameEnd queued count = frameEnd frames count := by
    have part : queued.take count = frames.take count := by
      rw [order, List.take_append_of_le_length inside]
    rw [frameEnd, part, frameEnd]
  have given : writer.output.bytes.length = frameEnd frames frames.length := by
    rw [frameEnd_eq, FrameFormat.extent, List.take_length, bytes, List.length_append,
      EventJournalHeader.codec.length_encode]
    rfl
  have carried := (system.after moves).drainer.frames_length
  have bounded : held.length ≤ capacity.value := inOrder.represents.holds.bounded
  have closed : writer.closedFile closing <+: writer.output.bytes :=
    (OStream.Given.of_good rfl : writer.output.Given True _).close (Or.inr (Or.inl trivial))
  have part : file <+: writer.output.bytes := (List.take_prefix _ _).trans closed
  obtain ⟨count, bound, counted, records⟩ := read_cut sourceId tradingDay
    (fun frame member => (sound frame member).1) (bytes ▸ part) (queued.length + 1 + extra) record
    (by have shorter := front.length_le; omega)
  rw [readable] at bound counted records
  refine ⟨frames.length, given.trans (ends _ (Nat.le_refl _)).symm, front.length_le, by omega, ?_, ?_,
    count, bound, fun place inside => ?_, ?_, ?_⟩
  · rintro ⟨empty, popping⟩
    obtain rfl : held = [] := inOrder.represents.holds.empty_iff.mp empty
    rw [rest, popping]
    rfl
  · rintro rfl uncut
    have whole : file = writer.output.bytes := List.take_of_length_le uncut
    show writer.output.bytes.length - file.length = 0
    rw [whole, Nat.sub_self]
  · rw [counted place inside, ends _ inside]
  · rw [records, ← same, List.take_take, Nat.min_eq_left bound]
  · have lost := frames_lost counted
    rw [← given] at lost
    rw [rest]
    omega

end MarketDataFabric.Replay
