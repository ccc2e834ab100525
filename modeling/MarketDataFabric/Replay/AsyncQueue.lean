/-
**The asynchronous journal queue**, `AsyncEventJournalQueue` in `replay/event_journal.hpp`: the market
data thread copies an event into a ring, and the consumer drains the ring into the writer.

* `Holding.tryEnqueue`, `Holding.drainOne` — what the two operations do to a queue that holds some
  frames.
* `Session` — a fresh queue and a writer under a list of calls, with the frames that were queued and
  the frames that were written on record. `step_ledger`: **it is an outbox**, which loses a frame when
  a drain pops one and the writer does not take it.
* `nothing_lost_iff` — when nothing is lost.
-/

import MarketDataFabric.Library.Ledger
import MarketDataFabric.Replay.EventJournal
import MarketDataFabric.Runtime.SpscRing

namespace MarketDataFabric.Replay

open Library MarketDataFabric.Runtime

inductive JournalEnqueueStatus where
  | queued
  | full
  | payloadTooLarge
deriving Repr, DecidableEq

/-- A frame in the ring. `bounded` keeps the span that `drain_one` makes inside the array. -/
structure QueuedEventFrame where
  header : EventFrameHeader := {}
  payload : Vector UInt8 kMaxJournalPayloadSize := Vector.replicate kMaxJournalPayloadSize 0
  bounded : header.payloadSize.toNat ≤ kMaxJournalPayloadSize := by decide
deriving Repr, DecidableEq

instance : Inhabited QueuedEventFrame := ⟨{}⟩

namespace QueuedEventFrame

/-- The first `payload_size` bytes of the array. -/
def span (frame : QueuedEventFrame) : List UInt8 :=
  frame.payload.toList.take frame.header.payloadSize.toNat

/-- What the frame says to a journal. -/
def pair (frame : QueuedEventFrame) : EventFrameHeader × List UInt8 := (frame.header, frame.span)

theorem span_length (frame : QueuedEventFrame) :
    frame.span.length = frame.header.payloadSize.toNat :=
  List.length_take_of_le (by rw [Vector.length_toList]; exact frame.bounded)

theorem frameOf_payloadSize {event : JournalEvent}
    (fits : event.bytes.length ≤ kMaxJournalPayloadSize) (partitionId : UInt64) :
    (EventJournalWriter.frameOf event partitionId).payloadSize.toNat = event.bytes.length :=
  UInt32.toNat_ofNat_of_lt' (Nat.lt_of_le_of_lt fits (by decide))

/-- The frame of an event that fits: its header, and its bytes at the front of a zeroed array. -/
def ofEvent (event : JournalEvent) (partitionId : UInt64)
    (fits : event.bytes.length ≤ kMaxJournalPayloadSize) : QueuedEventFrame where
  header := EventJournalWriter.frameOf event partitionId
  payload := (FixedCodec.byteArray kMaxJournalPayloadSize).decodeOver
    (Vector.replicate kMaxJournalPayloadSize 0) event.bytes
  bounded := by rwa [frameOf_payloadSize fits]

/-- **It says what `append` would write.** -/
theorem ofEvent_pair (event : JournalEvent) (partitionId : UInt64)
    (fits : event.bytes.length ≤ kMaxJournalPayloadSize) :
    (ofEvent event partitionId fits).pair =
      (EventJournalWriter.frameOf event partitionId, event.bytes) := by
  show (_, List.take (EventJournalWriter.frameOf event partitionId).payloadSize.toNat _) = _
  rw [frameOf_payloadSize fits]
  exact congrArg _ (FixedCodec.byteArray_decodeOver_take _ fits)

end QueuedEventFrame

structure AsyncEventJournalQueue (capacity : RingCapacity) where
  queue : SpscRing capacity QueuedEventFrame := { buffer := fun _ => default }

namespace AsyncEventJournalQueue

variable {capacity : RingCapacity}

def tryEnqueue (queue : AsyncEventJournalQueue capacity) (event : JournalEvent)
    (partitionId : UInt64) : JournalEnqueueStatus × AsyncEventJournalQueue capacity :=
  if large : event.bytes.length > kMaxJournalPayloadSize then
    (.payloadTooLarge, queue)
  else
    let frame := QueuedEventFrame.ofEvent event partitionId (Nat.le_of_not_lt large)
    let (pushed, ring) := queue.queue.tryPush frame
    (if pushed then .queued else .full, { queue := ring })

/-- The frame is out of the ring before the writer is asked. An empty queue and a failed write give
the same answer. -/
def drainOne (queue : AsyncEventJournalQueue capacity) (writer : EventJournalWriter)
    (headerAnswer payloadAnswer : WriteAnswer) :
    Bool × AsyncEventJournalQueue capacity × EventJournalWriter :=
  let (popped, frame, ring) := queue.queue.tryPop {}
  if popped = false then
    (false, { queue := ring }, writer)
  else
    let (written, writer) :=
      writer.appendFrame frame.header frame.span headerAnswer payloadAnswer
    (written, { queue := ring }, writer)

/-- The frames in the queue. -/
def pending (queue : AsyncEventJournalQueue capacity) : List (EventFrameHeader × List UInt8) :=
  queue.queue.contents.map QueuedEventFrame.pair

/-- **The queue holds these frames**, in order. -/
def Holding (queue : AsyncEventJournalQueue capacity)
    (frames : List (EventFrameHeader × List UInt8)) : Prop :=
  ∃ held, queue.queue.Holds held false ∧ held.map QueuedEventFrame.pair = frames

variable {queue : AsyncEventJournalQueue capacity} {frames : List (EventFrameHeader × List UInt8)}

theorem Holding.pending_eq (holding : queue.Holding frames) : queue.pending = frames := by
  obtain ⟨held, holds, rfl⟩ := holding
  rw [pending, holds.contents_eq]

theorem holding_fresh : ({} : AsyncEventJournalQueue capacity).Holding [] :=
  ⟨[], ⟨rfl, Nat.zero_le _, fun _ inside => by cases inside⟩, rfl⟩

/-- An event that fits is queued if there is room. -/
theorem Holding.tryEnqueue (holding : queue.Holding frames) (event : JournalEvent)
    (partitionId : UInt64) :
    if event.bytes.length > kMaxJournalPayloadSize then
      queue.tryEnqueue event partitionId = (.payloadTooLarge, queue)
    else if frames.length < capacity.value then
      (queue.tryEnqueue event partitionId).1 = .queued ∧
        (queue.tryEnqueue event partitionId).2.Holding
          (frames ++ [(EventJournalWriter.frameOf event partitionId, event.bytes)])
    else queue.tryEnqueue event partitionId = (.full, queue) := by
  obtain ⟨held, holds, rfl⟩ := holding
  rw [List.length_map]
  unfold AsyncEventJournalQueue.tryEnqueue
  by_cases large : event.bytes.length > kMaxJournalPayloadSize
  · rw [if_pos large, dif_pos large]
  · have fits := Nat.le_of_not_lt large
    have push := SpscRing.tryPush_holds holds (QueuedEventFrame.ofEvent event partitionId fits)
    rw [if_neg large, dif_neg large]
    by_cases room : held.length < capacity.value
    · rw [if_pos room] at push
      rw [if_pos room]
      refine ⟨by simp only [push.1, if_true], _, push.2, ?_⟩
      rw [List.map_append, List.map_singleton, QueuedEventFrame.ofEvent_pair]
    · rw [if_neg room] at push
      rw [if_neg room]
      simp only [push, Bool.false_eq_true, if_false]

/-- A drain pops the first frame, which has the size it announces, and passes on what the writer
answers for it. -/
theorem Holding.drainOne (holding : queue.Holding frames) (writer : EventJournalWriter)
    (headerAnswer payloadAnswer : WriteAnswer) :
    match frames with
    | [] => queue.drainOne writer headerAnswer payloadAnswer = (false, queue, writer)
    | frame :: later =>
        let drained := queue.drainOne writer headerAnswer payloadAnswer
        let appended := writer.appendFrame frame.1 frame.2 headerAnswer payloadAnswer
        frame.2.length = frame.1.payloadSize.toNat ∧ drained.1 = appended.1 ∧
          drained.2.2 = appended.2 ∧ drained.2.1.Holding later := by
  obtain ⟨held, holds, rfl⟩ := holding
  have pop := SpscRing.tryPop_holds holds {}
  unfold AsyncEventJournalQueue.drainOne
  cases held with
  | nil =>
      rw [pop]
      rfl
  | cons frame later =>
      obtain ⟨popped, head, rest⟩ := pop
      simp only [popped, head, Bool.true_eq_false, if_false]
      exact ⟨frame.span_length, rfl, rfl, later, rest, rfl⟩

end AsyncEventJournalQueue

/-! ### Runs -/

/-- A call of one of the two operations. The answers of the stream to the two writes are part of a
drain. -/
inductive QueueCall where
  | tryEnqueue (event : JournalEvent) (partitionId : UInt64)
  | drainOne (headerAnswer payloadAnswer : WriteAnswer)
deriving Repr, DecidableEq

inductive QueueAnswer where
  | enqueued (status : JournalEnqueueStatus)
  | drained (written : Bool)
deriving Repr, DecidableEq

/-- A queue and its writer. The two lists are no part of the program: `queued` records the frame of
every event that `try_enqueue` answered `Queued`, and `written` every frame that `drain_one` answered
true for. -/
structure Session (capacity : RingCapacity) where
  queue : AsyncEventJournalQueue capacity := {}
  writer : EventJournalWriter
  queued : List (EventFrameHeader × List UInt8) := []
  written : List (EventFrameHeader × List UInt8) := []

namespace Session

variable {capacity : RingCapacity}

def step (session : Session capacity) : QueueCall → Session capacity × QueueAnswer
  | .tryEnqueue event partitionId =>
      let (status, queue) := session.queue.tryEnqueue event partitionId
      let frame := (EventJournalWriter.frameOf event partitionId, event.bytes)
      ({ session with
          queue
          queued := if status = .queued then session.queued ++ [frame] else session.queued },
        .enqueued status)
  | .drainOne headerAnswer payloadAnswer =>
      let (written, queue, writer) :=
        session.queue.drainOne session.writer headerAnswer payloadAnswer
      -- What a drain writes is the first of the pending frames.
      let frame := session.queue.pending.take 1
      ({ session with
          queue
          writer
          written := if written then session.written ++ frame else session.written },
        .drained written)

/-- The session after a list of calls. -/
abbrev after (session : Session capacity) (calls : List QueueCall) : Session capacity :=
  Machine.final step session calls

/-- The session as the ledger of an outbox. -/
def ledger (session : Session capacity) : Ledger (EventFrameHeader × List UInt8) where
  accepted := session.queued
  pending := session.queue.pending
  delivered := session.written

/-- The queue is in order. -/
def Sound (session : Session capacity) : Prop := ∃ frames, session.queue.Holding frames

/-- The call drains a frame that the writer cannot take. -/
def Loses (session : Session capacity) : QueueCall → Prop
  | .tryEnqueue _ _ => False
  | .drainOne headerAnswer payloadAnswer =>
      session.queue.pending ≠ [] ∧
        ¬ (session.writer.good = true ∧ headerAnswer = .written ∧ payloadAnswer = .written)

theorem sound_start (writer : EventJournalWriter) : ({ writer } : Session capacity).Sound :=
  ⟨[], AsyncEventJournalQueue.holding_fresh⟩

theorem ledger_start (writer : EventJournalWriter) :
    ({ writer } : Session capacity).ledger = {} := by
  unfold ledger
  rw [AsyncEventJournalQueue.holding_fresh.pending_eq]

theorem tryEnqueue_ledger {session : Session capacity} (sound : session.Sound)
    (event : JournalEvent) (partitionId : UInt64) :
    (session.step (.tryEnqueue event partitionId)).1.Sound ∧
      Ledger.Step False session.ledger (session.step (.tryEnqueue event partitionId)).1.ledger := by
  obtain ⟨frames, holding⟩ := sound
  have enqueue := holding.tryEnqueue event partitionId
  unfold ledger step
  split_ifs at enqueue with large room
  · simp only [enqueue, reduceCtorEq, if_false]
    exact ⟨⟨frames, holding⟩, .stay _ id⟩
  · obtain ⟨queued, later⟩ := enqueue
    refine ⟨⟨_, later⟩, ?_⟩
    simp only [queued, if_true, holding.pending_eq, later.pending_eq]
    exact .accept _ _ _ _ id
  · simp only [enqueue, reduceCtorEq, if_false]
    exact ⟨⟨frames, holding⟩, .stay _ id⟩

theorem drainOne_ledger {session : Session capacity} (sound : session.Sound)
    (headerAnswer payloadAnswer : WriteAnswer) :
    (session.step (.drainOne headerAnswer payloadAnswer)).1.Sound ∧
      Ledger.Step (session.Loses (.drainOne headerAnswer payloadAnswer)) session.ledger
        (session.step (.drainOne headerAnswer payloadAnswer)).1.ledger := by
  obtain ⟨frames, holding⟩ := sound
  have drain := holding.drainOne session.writer headerAnswer payloadAnswer
  have pending := holding.pending_eq
  unfold ledger step
  cases frames with
  | nil =>
      simp only [drain, Bool.false_eq_true, if_false]
      exact ⟨⟨[], holding⟩, .stay _ fun lost => lost.1 pending⟩
  | cons frame later =>
      obtain ⟨sized, answer, -, rest⟩ := drain
      have accepts := appendFrame_accepts_iff session.writer sized headerAnswer payloadAnswer
      refine ⟨⟨later, rest⟩, ?_⟩
      by_cases written :
          (session.writer.appendFrame frame.1 frame.2 headerAnswer payloadAnswer).1 = true
      · simp only [answer, written, if_true, pending, rest.pending_eq, List.take_succ_cons,
          List.take_zero]
        exact .deliver _ _ _ _ fun lost => lost.2 (accepts.mp written)
      · simp only [answer, written, pending, rest.pending_eq]
        refine .lose _ _ _ _ ⟨?_, mt accepts.mpr written⟩
        rw [pending]
        exact List.cons_ne_nil _ _

/-- **A session is an outbox.** -/
theorem step_ledger {session : Session capacity} (sound : session.Sound) (call : QueueCall) :
    (session.step call).1.Sound ∧
      Ledger.Step (session.Loses call) session.ledger (session.step call).1.ledger := by
  cases call with
  | tryEnqueue event partitionId => exact tryEnqueue_ledger sound event partitionId
  | drainOne headerAnswer payloadAnswer => exact drainOne_ledger sound headerAnswer payloadAnswer

/-- Every session is in order. -/
theorem sound_after (writer : EventJournalWriter) (calls : List QueueCall) :
    (({ writer } : Session capacity).after calls).Sound :=
  Machine.final_invariant step Sound (fun _ => True)
    (fun _ call sound _ => (step_ledger sound call).1) (sound_start writer) fun _ _ => trivial

/-- While its writer is good, the journal would close to these bytes and the written frames. -/
def Grown (bytes : List UInt8) (session : Session capacity) : Prop :=
  session.writer.good = true →
    session.writer.closedFile .written = bytes ++ journalFormat.concat session.written

theorem step_grown {bytes : List UInt8} {session : Session capacity} (sound : session.Sound)
    (grown : session.Grown bytes) (call : QueueCall) : (session.step call).1.Grown bytes := by
  obtain ⟨frames, holding⟩ := sound
  cases call with
  | tryEnqueue event partitionId => exact grown
  | drainOne headerAnswer payloadAnswer =>
      have drain := holding.drainOne session.writer headerAnswer payloadAnswer
      intro good
      unfold step at good ⊢
      cases frames with
      | nil =>
          simp only [drain, Bool.false_eq_true, if_false] at good ⊢
          exact grown good
      | cons frame later =>
          obtain ⟨sized, answer, writer, -⟩ := drain
          have taken : (session.writer.appendFrame frame.1 frame.2 headerAnswer
              payloadAnswer).1 = true := by
            rw [← appendFrame_good sized, ← writer]
            exact good
          have before := grown ((appendFrame_accepts_iff _ sized _ _).mp taken).1
          have written := (appendFrame_accepted taken).2
          rw [EventJournalWriter.closedFile, OStream.close_written_file] at before ⊢
          simp only [answer, taken, if_true, writer, written, before,
            holding.pending_eq, List.take_succ_cons, List.take_zero, FrameFormat.concat,
            List.flatMap_append, List.flatMap_singleton, List.append_assoc]

/-- **The journal has the written frames**, once it is closed. -/
theorem written_in_journal (writer : EventJournalWriter) (calls : List QueueCall) :
    (({ writer } : Session capacity).after calls).Grown (writer.closedFile .written) := by
  have run := Machine.final_invariant step
    (fun session : Session capacity => session.Sound ∧ session.Grown (writer.closedFile .written))
    (fun _ => True)
    (fun _ call before _ =>
      ⟨(step_ledger before.1 call).1, step_grown before.1 before.2 call⟩)
    ⟨sound_start writer, fun _ => (List.append_nil _).symm⟩
    (fun (call : QueueCall) (_ : call ∈ calls) => trivial)
  exact run.2

/-- A drain that returns false and loses nothing found the queue empty. -/
theorem drainOne_unchanged {session : Session capacity} (sound : session.Sound)
    {headerAnswer payloadAnswer : WriteAnswer}
    (kept : session.queue.pending = [] ∨
      session.writer.good = true ∧ headerAnswer = .written ∧ payloadAnswer = .written)
    (refused : (session.queue.drainOne session.writer headerAnswer payloadAnswer).1 = false) :
    (session.queue.drainOne session.writer headerAnswer payloadAnswer).2.1 = session.queue := by
  obtain ⟨frames, holding⟩ := sound
  have drain := holding.drainOne session.writer headerAnswer payloadAnswer
  rw [holding.pending_eq] at kept
  cases frames with
  | nil => rw [drain]
  | cons frame later =>
      rcases kept with empty | taken
      · cases empty
      · obtain ⟨sized, answer, -, -⟩ := drain
        rw [answer, (appendFrame_accepts_iff _ sized _ _).mpr taken] at refused
        cases refused

end Session

/-- **No queued event is lost**, at any point of a list of calls on a fresh queue: the queued frames
are the written ones and then those in the queue, and a drain that returns false leaves the queue as
it was. -/
structure NothingLost (capacity : RingCapacity) (writer : EventJournalWriter)
    (calls : List QueueCall) : Prop where
  accounted : ∀ front back, calls = front ++ back →
    let session := ({ writer } : Session capacity).after front
    session.queued = session.written ++ session.queue.pending
  kept : ∀ front headerAnswer payloadAnswer back,
    calls = front ++ .drainOne headerAnswer payloadAnswer :: back →
    let session := ({ writer } : Session capacity).after front
    let drained := session.queue.drainOne session.writer headerAnswer payloadAnswer
    drained.1 = false → drained.2.1.queue.contents = session.queue.queue.contents

/-- **When nothing is lost**: every drain finds the queue empty, or a good writer whose stream takes both
writes. -/
theorem nothing_lost_iff (capacity : RingCapacity) (writer : EventJournalWriter)
    (calls : List QueueCall) :
    NothingLost capacity writer calls ↔
      ∀ front headerAnswer payloadAnswer back,
        calls = front ++ .drainOne headerAnswer payloadAnswer :: back →
        let session := ({ writer } : Session capacity).after front
        session.queue.pending = [] ∨
          session.writer.good = true ∧ headerAnswer = .written ∧ payloadAnswer = .written := by
  have balance := Ledger.always_balanced_iff Session.step Session.ledger Session.Sound Session.Loses
    (fun _ call sound => (Session.step_ledger sound call).1)
    (fun _ call sound => (Session.step_ledger sound call).2)
    (Session.sound_start writer) (Session.ledger_start writer : (_ : Session capacity).ledger = _)
    calls
  constructor
  · intro nothing front headerAnswer payloadAnswer back split session
    have kept := balance.mp nothing.accounted front _ back split
    exact or_iff_not_imp_left.mpr fun some => not_not.mp fun refused => kept ⟨some, refused⟩
  · intro drains
    refine ⟨balance.mpr fun front call back split lost => ?_,
      fun front headerAnswer payloadAnswer back split refused => ?_⟩
    · cases call with
      | tryEnqueue => exact lost
      | drainOne headerAnswer payloadAnswer =>
          exact (drains front headerAnswer payloadAnswer back split).elim lost.1 lost.2
    · have same := Session.drainOne_unchanged (Session.sound_after writer front)
        (drains front headerAnswer payloadAnswer back split) refused
      exact congrArg (fun queue => queue.queue.contents) same

/-- A journal whose path cannot be opened, and one queued event: the drain answers false, and the event
is in neither place any more. -/
theorem failed_write_loses_event :
    let capacity : RingCapacity := ⟨2, by decide, by decide, by decide⟩
    let event : JournalEvent := ⟨0, 0, 0, 0, List.replicate 64 0⟩
    let writer := EventJournalWriter.construct { good := false } 1001 20260417 .written
    let calls : List QueueCall := [.tryEnqueue event 3, .drainOne .written .written]
    let session := ({ writer } : Session capacity).after calls
    Machine.outputs Session.step ({ writer } : Session capacity) calls =
        [.enqueued .queued, .drained false] ∧
      session.queued = [(EventJournalWriter.frameOf event 3, event.bytes)] ∧
      session.written = [] ∧ session.queue.pending = [] ∧ ¬ NothingLost capacity writer calls := by
  intro capacity event writer calls session
  have enqueue := (AsyncEventJournalQueue.holding_fresh :
    (_ : AsyncEventJournalQueue capacity).Holding []).tryEnqueue event 3
  rw [if_neg (by decide), if_pos (by decide)] at enqueue
  obtain ⟨queued, holding⟩ := enqueue
  rw [List.nil_append] at holding
  obtain ⟨sized, answer, -, rest⟩ := holding.drainOne writer .written .written
  have refused := Bool.eq_false_iff.mpr fun taken => by
    cases ((appendFrame_accepts_iff _ sized _ _).mp (answer.symm.trans taken)).1
  have empty := rest.pending_eq
  have records : session.queued = [(EventJournalWriter.frameOf event 3, event.bytes)] ∧
      session.written = [] ∧ session.queue.pending = [] := by
    show Session.queued (Session.step (Session.step _ _).1 _).1 = _ ∧
      Session.written (Session.step (Session.step _ _).1 _).1 = _ ∧
      (Session.step (Session.step _ _).1 _).1.queue.pending = _
    simp only [Session.step, queued, if_true, refused, Bool.false_eq_true, if_false, empty,
      List.nil_append, and_self]
  refine ⟨?_, records.1, records.2.1, records.2.2, fun nothing => ?_⟩
  · show [(Session.step _ _).2, (Session.step (Session.step _ _).1 _).2] = _
    simp only [Session.step, queued, refused]
  · have accounted : session.queued = session.written ++ session.queue.pending :=
      nothing.accounted calls [] (List.append_nil _).symm
    rw [records.1, records.2.1, records.2.2] at accounted
    cases accounted

end MarketDataFabric.Replay
