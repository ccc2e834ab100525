/-
**The asynchronous journal under every interleaving.**

`try_enqueue` and `drain_one` are two program counters over one ring and one writer: every atomic
step of a push or a pop is a step of the system (`Runtime.System`), and the write of a popped frame
is one more. Every write succeeds.

* `InOrder` — what the journal has, the consumer carries and the ring holds is what was queued, in order.
* `records_queued` — **every step keeps it**, and records what it answers `Queued` for.
* `async_equals_sync` — hence a drained queue has written what `append` writes.
-/

import MarketDataFabric.Replay.AsyncQueue
import MarketDataFabric.Runtime.SpscSystem

namespace MarketDataFabric.Replay

open Library MarketDataFabric.Runtime BoundedFifo

/-- The frame that `try_enqueue` fills in, member by member. -/
def QueuedEventFrame.fill (event : JournalEvent) (partitionId : UInt64)
    (fits : event.bytes.length ≤ kMaxJournalPayloadSize) : QueuedEventFrame :=
  let header : EventFrameHeader := {}
  let header := { header with eventKind := event.kind }
  let header := { header with schemaVersion := event.schemaVersion }
  let header := { header with payloadSize := UInt32.ofNat event.bytes.length }
  let header := { header with partitionId }
  let header := { header with exchangeSeq := event.exchangeSeq }
  let header := { header with eventSeq := event.eventSeq }
  { header
    payload := (FixedCodec.byteArray kMaxJournalPayloadSize).decodeOver
      (Vector.replicate kMaxJournalPayloadSize 0) event.bytes
    bounded := (QueuedEventFrame.ofEvent event partitionId fits).bounded }

/-- The arguments of a call of `try_enqueue`. -/
abbrev EnqueueCall : Type := JournalEvent × UInt64

/-- What `append` writes for them. -/
def EnqueueCall.pair (call : EnqueueCall) : EventFrameHeader × List UInt8 :=
  (EventJournalWriter.frameOf call.1 call.2, call.1.bytes)

/-- **Both encoders write the same frame.** -/
theorem QueuedEventFrame.fill_pair (call : EnqueueCall)
    (fits : call.1.bytes.length ≤ kMaxJournalPayloadSize) :
    (QueuedEventFrame.fill call.1 call.2 fits).pair = call.pair :=
  QueuedEventFrame.ofEvent_pair call.1 call.2 fits

/-- The consumer pops, or has a frame to write. -/
inductive Drainer where
  | popping
  | writing (frame : QueuedEventFrame)
deriving Repr, DecidableEq

/-- The frames between the ring and the file. -/
def Drainer.frames : Drainer → List QueuedEventFrame
  | .popping => []
  | .writing frame => [frame]

/-- `enqueueing` is the call the producer is in. -/
structure AsyncSystem (capacity : RingCapacity) where
  ring : System capacity QueuedEventFrame
  enqueueing : Option EnqueueCall := none
  drainer : Drainer := .popping
  writer : EventJournalWriter

/-- One side takes its next step. A producer in no call starts one with these arguments; elsewhere
they are not looked at. -/
inductive AsyncMove where
  | producer (call : EnqueueCall)
  | consumer (left : QueuedEventFrame)
deriving Repr, DecidableEq

/-- The answer of a call that a step finishes. -/
inductive AsyncAnswer where
  | enqueued (call : EnqueueCall) (status : JournalEnqueueStatus)
  | drained (written : Bool)
deriving Repr, DecidableEq

namespace AsyncSystem

variable {capacity : RingCapacity}

/-- The steps of `try_enqueue`. -/
def stepProducer (system : AsyncSystem capacity) (call : EnqueueCall) :
    AsyncSystem capacity × Option AsyncAnswer :=
  match system.enqueueing with
  | none =>
      if large : call.1.bytes.length > kMaxJournalPayloadSize then
        (system, some (.enqueued call .payloadTooLarge))
      else
        let frame := QueuedEventFrame.fill call.1 call.2 (Nat.le_of_not_lt large)
        ({ system with ring := (system.ring.stepProducer frame).1, enqueueing := some call }, none)
  | some call =>
      let (ring, answer) := system.ring.stepProducer default
      match answer with
      | some .full => ({ system with ring, enqueueing := none }, some (.enqueued call .full))
      | some (.pushed _) => ({ system with ring, enqueueing := none }, some (.enqueued call .queued))
      | _ => ({ system with ring }, none)

/-- The steps of `drain_one`. -/
def stepConsumer (system : AsyncSystem capacity) (left : QueuedEventFrame) :
    AsyncSystem capacity × Option AsyncAnswer :=
  match system.drainer with
  | .popping =>
      let (ring, answer) := system.ring.stepConsumer left
      match answer with
      | some .empty => ({ system with ring }, some (.drained false))
      | some (.popped frame) => ({ system with ring, drainer := .writing frame }, none)
      | _ => ({ system with ring }, none)
  | .writing frame =>
      let (written, writer) :=
        system.writer.appendFrame frame.header frame.span .written .written
      ({ system with drainer := .popping, writer }, some (.drained written))

def step (system : AsyncSystem capacity) : AsyncMove →
    AsyncSystem capacity × Option AsyncAnswer
  | .producer call => system.stepProducer call
  | .consumer left => system.stepConsumer left

/-- An empty queue and a writer. -/
def start (buffer : Fin capacity.value → QueuedEventFrame) (index : UInt64)
    (writer : EventJournalWriter) : AsyncSystem capacity :=
  { ring := System.start buffer index, writer }

/-- The system after a schedule. -/
abbrev after (system : AsyncSystem capacity) (moves : List AsyncMove) : AsyncSystem capacity :=
  Machine.final step system moves

/-- The answers along a schedule. -/
abbrev answers (system : AsyncSystem capacity) (moves : List AsyncMove) :
    List (Option AsyncAnswer) := Machine.outputs step system moves

/-- The queue is empty, and no frame is on its way to the file. -/
def Drained (system : AsyncSystem capacity) : Prop :=
  system.ring.ring.readIndex = system.ring.ring.writeIndex ∧ system.drainer = .popping

instance (system : AsyncSystem capacity) : Decidable system.Drained :=
  inferInstanceAs (Decidable (_ ∧ _))

end AsyncSystem

/-- The call that an answer reports as `Queued`. -/
def AsyncAnswer.queuedCall : AsyncAnswer → Option EnqueueCall
  | .enqueued call .queued => some call
  | .enqueued _ .full | .enqueued _ .payloadTooLarge | .drained _ => none

/-- **The calls that returned `Queued`**, in order. -/
def queuedCalls (answers : List (Option AsyncAnswer)) : List EnqueueCall :=
  answers.flatMap fun answer => (answer.bind AsyncAnswer.queuedCall).toList

@[simp] theorem queuedCalls_none : queuedCalls [none] = [] := rfl

@[simp] theorem queuedCalls_queued (call : EnqueueCall) :
    queuedCalls [some (.enqueued call .queued)] = [call] := rfl

@[simp] theorem queuedCalls_full (call : EnqueueCall) :
    queuedCalls [some (.enqueued call .full)] = [] := rfl

@[simp] theorem queuedCalls_payloadTooLarge (call : EnqueueCall) :
    queuedCalls [some (.enqueued call .payloadTooLarge)] = [] := rfl

@[simp] theorem queuedCalls_drained (written : Bool) :
    queuedCalls [some (.drained written)] = [] := rfl

/-! ### What the journal, the consumer and the ring hold -/

/-- The arguments fit a frame. -/
def EnqueueCall.Fits (call : EnqueueCall) : Prop :=
  call.1.bytes.length ≤ kMaxJournalPayloadSize

/-- **The queued calls, in order**: in the journal, behind what the stream was `opened` with, then with
the consumer, then in the ring. The producer pushes the frame of the call it is in. -/
structure InOrder {capacity : RingCapacity} (opened : OStream) (queued : List EnqueueCall)
    (system : AsyncSystem capacity) (written : List (EventFrameHeader × List UInt8))
    (held : List QueuedEventFrame) : Prop where
  represents : Represents held system.ring
  pushing : system.ring.producer.pushing.map QueuedEventFrame.pair =
    system.enqueueing.map EnqueueCall.pair
  order : queued.map EnqueueCall.pair =
    written ++ (system.drainer.frames ++ held).map QueuedEventFrame.pair
  writer : system.writer = ⟨⟨opened.file, opened.put ++ journalFormat.concat written, true⟩⟩
  fits : ∀ call ∈ queued, call.Fits
  enqueueing : ∀ call ∈ system.enqueueing, call.Fits

section Steps

variable {capacity : RingCapacity} {opened : OStream} {queued : List EnqueueCall}
  {system : AsyncSystem capacity} {written : List (EventFrameHeader × List UInt8)}
  {held : List QueuedEventFrame}

/-- A producer in no call is idle. -/
theorem InOrder.idle (inOrder : InOrder opened queued system written held)
    (free : system.enqueueing = none) : system.ring.producer = .idle := by
  have pushing := inOrder.pushing
  rw [free] at pushing
  cases stage : system.ring.producer with
  | idle => rfl
  | loadedWrite | loadedRead | wroteSlot =>
      rw [stage] at pushing
      cases pushing

theorem InOrder.stepProducer (inOrder : InOrder opened queued system written held)
    (call : EnqueueCall) :
    ∃ later, InOrder opened (queued ++ queuedCalls [(system.stepProducer call).2])
      (system.stepProducer call).1 written later := by
  unfold AsyncSystem.stepProducer
  cases about : system.enqueueing with
  | none =>
      dsimp only
      split_ifs with large
      · rw [queuedCalls_payloadTooLarge, List.append_nil]
        exact ⟨held, inOrder⟩
      · have fits := Nat.le_of_not_lt large
        have idle := inOrder.idle about
        have loads : system.ring.stepProducer (QueuedEventFrame.fill call.1 call.2 fits) =
            ({ system.ring with
                producer := .loadedWrite (QueuedEventFrame.fill call.1 call.2 fits)
                  system.ring.ring.writeIndex }, none) := by
          rw [System.stepProducer, idle]
        obtain ⟨represents, -, order, writer, earlier, -⟩ := inOrder
        rw [loads, queuedCalls_none, List.append_nil]
        refine ⟨held, ⟨represents.holds, rfl, represents.consumer⟩, ?_, order, writer, earlier, ?_⟩
        · exact congrArg some (QueuedEventFrame.fill_pair call fits)
        · intro other member
          rw [← Option.some.inj member]
          exact fits
  | some current =>
      obtain ⟨represents, pushing, order, writer, fits, enqueueing⟩ := inOrder
      rw [about] at pushing enqueueing
      obtain ⟨later, fifo, represented⟩ := stepProducer_simulates represents default
      have keeps := system.ring.stepProducer_pushing default
      obtain ⟨frame, carried, same⟩ := Option.map_eq_some_iff.mp pushing
      rw [carried] at keeps
      cases answer : (system.ring.stepProducer default).2 with
      | none =>
          rw [answer] at keeps fifo
          cases fifo
          simp only [answer, queuedCalls_none, List.append_nil]
          refine ⟨held, represented, ?_, order, writer, fits, enqueueing⟩
          rw [keeps]
          exact congrArg some same
      | some event =>
          rw [answer] at keeps fifo
          obtain ⟨kind, done⟩ := keeps
          rcases kind with rfl | pushed
          · cases fifo
            simp only [answer, queuedCalls_full, List.append_nil]
            refine ⟨held, represented, ?_, order, writer, fits, fun _ member => by cases member⟩
            rw [done]
            rfl
          · obtain rfl := Option.some.inj pushed
            cases fifo
            simp only [answer, queuedCalls_queued]
            refine ⟨held ++ [frame], represented, ?_, ?_, writer, ?_,
              fun _ member => by cases member⟩
            · rw [done]
              rfl
            · have behind : (system.drainer.frames ++ (held ++ [frame])).map QueuedEventFrame.pair =
                  (system.drainer.frames ++ held).map QueuedEventFrame.pair ++ [current.pair] := by
                rw [← List.append_assoc, List.map_append, ← same]
                rfl
              rw [List.map_append, order, behind, List.append_assoc]
              rfl
            · intro other member
              rcases List.mem_append.mp member with earlier | last
              · exact fits other earlier
              · rw [List.mem_singleton.mp last]
                exact enqueueing current rfl

theorem InOrder.stepConsumer (inOrder : InOrder opened queued system written held)
    (left : QueuedEventFrame) :
    ∃ file later, InOrder opened (queued ++ queuedCalls [(system.stepConsumer left).2])
      (system.stepConsumer left).1 file later := by
  obtain ⟨represents, pushing, order, writer, fits, enqueueing⟩ := inOrder
  unfold AsyncSystem.stepConsumer
  cases stage : system.drainer with
  | popping =>
      obtain ⟨later, fifo, represented⟩ := stepConsumer_simulates represents left
      rw [← system.ring.stepConsumer_producer left] at pushing
      rw [stage] at order
      rcases system.ring.stepConsumer_answer left with silent | empty | ⟨frame, popped⟩
      · rw [silent] at fifo
        cases fifo
        simp only [silent, queuedCalls_none, List.append_nil]
        exact ⟨written, held, represented, pushing, order, writer, fits, enqueueing⟩
      · rw [empty] at fifo
        cases fifo
        simp only [empty, queuedCalls_drained, List.append_nil]
        exact ⟨written, [], represented, pushing, order, writer, fits, enqueueing⟩
      · rw [popped] at fifo
        cases fifo
        simp only [popped, queuedCalls_none, List.append_nil]
        exact ⟨written, later, represented, pushing, order, writer, fits, enqueueing⟩
  | writing frame =>
      have good : system.writer.output.good = true := by rw [writer]
      rw [stage] at order
      simp only [appendFrame_written good frame.span_length, queuedCalls_drained, List.append_nil]
      refine ⟨written ++ [frame.pair], held, represents, pushing, ?_, ?_, fits, enqueueing⟩
      · rw [order, List.append_assoc]
        rfl
      · rw [writer]
        show EventJournalWriter.mk (OStream.mk _ (_ ++ _ ++ _) true) = _
        rw [List.append_assoc, FrameFormat.concat, FrameFormat.concat, List.flatMap_append,
          List.flatMap_singleton]
        rfl

/-- **Every step keeps the order**, and what it answers `Queued` for is queued. -/
theorem records_queued :
    Machine.Simulates AsyncSystem.step
      (fun queued answer later => later = queued ++ queuedCalls [answer])
      (fun queued (system : AsyncSystem capacity) =>
        ∃ written held, InOrder opened queued system written held) := by
  rintro queued system move ⟨written, held, inOrder⟩
  refine ⟨_, rfl, ?_⟩
  cases move with
  | producer call =>
      obtain ⟨later, kept⟩ := inOrder.stepProducer call
      exact ⟨written, later, kept⟩
  | consumer left => exact inOrder.stepConsumer left

end Steps

/-! ### Every schedule -/

/-- Appending calls that fit to a good journal writes their frames. -/
theorem foldl_append (calls : List EnqueueCall) (fits : ∀ call ∈ calls, call.Fits)
    (file put : List UInt8) :
    calls.foldl (fun writer call => (writer.append call.1 call.2 .written .written).2)
        (⟨⟨file, put, true⟩⟩ : EventJournalWriter) =
      ⟨⟨file, put ++ journalFormat.concat (calls.map EnqueueCall.pair), true⟩⟩ := by
  induction calls generalizing put with
  | nil => rw [List.foldl_nil, List.map_nil, FrameFormat.concat, List.flatMap_nil, List.append_nil]
  | cons call calls ih =>
      have here : call.Fits := fits call List.mem_cons_self
      have others : ∀ other ∈ calls, other.Fits := fun other member =>
        fits other (List.mem_cons_of_mem _ member)
      have sized : call.1.bytes.length =
          (EventJournalWriter.frameOf call.1 call.2).payloadSize.toNat :=
        (QueuedEventFrame.frameOf_payloadSize here call.2).symm
      rw [List.foldl_cons, EventJournalWriter.append, appendFrame_written rfl sized, ih others,
        List.append_assoc]
      rfl

/-- **The asynchronous journal equals the synchronous one.** For every capacity, every start of the
ring, every good writer and every schedule: once the queue is drained, the writer is what `append`
makes of it from exactly the calls that returned `Queued`, in order. A call that returned `Full` or
`PayloadTooLarge` is not among them. -/
theorem async_equals_sync {capacity : RingCapacity}
    (buffer : Fin capacity.value → QueuedEventFrame) (index : UInt64) (writer : EventJournalWriter)
    (good : writer.good = true) (moves : List AsyncMove) :
    let system := AsyncSystem.start buffer index writer
    (system.after moves).Drained →
      (system.after moves).writer = (queuedCalls (system.answers moves)).foldl
        (fun writer call => (writer.append call.1 call.2 .written .written).2) writer := by
  rintro system ⟨empty, popping⟩
  have fresh : InOrder writer.output [] system [] [] :=
    { represents := represents_start buffer index
      pushing := rfl
      order := rfl
      writer := by
        rw [FrameFormat.concat, List.flatMap_nil, List.append_nil]
        exact congrArg (fun good => EventJournalWriter.mk ⟨writer.output.file, writer.output.put, good⟩)
          good
      fits := fun _ member => by cases member
      enqueueing := fun _ member => by cases member }
  have reached : ∃ queued, Machine.Trace _ [] (system.answers moves) queued ∧
      ∃ written held, InOrder writer.output queued (system.after moves) written held :=
    records_queued.trace ⟨[], [], fresh⟩
  obtain ⟨queued, run, written, held, inOrder⟩ := reached
  have recorded : queued = queuedCalls (system.answers moves) := by
    rw [run.appended, List.nil_append]
    simp only [queuedCalls, List.flatMap_singleton]
  obtain rfl : held = [] := inOrder.represents.holds.empty_iff.mp empty
  have order : queued.map EnqueueCall.pair = written := by
    rw [inOrder.order, popping]
    exact List.append_nil written
  rw [inOrder.writer, ← recorded, ← order, ← foldl_append queued inOrder.fits]
  exact congrArg (fun good => queued.foldl _
    (EventJournalWriter.mk ⟨writer.output.file, writer.output.put, good⟩)) good.symm

/-- Two slots, three calls: the second does not fit a frame, the third finds room for one more. Drained,
the journal has the first and the third event. -/
theorem async_equals_sync_two_events :
    let small : JournalEvent := ⟨2, 1, 10, 20, [1, 2, 3]⟩
    let large : JournalEvent := ⟨2, 1, 11, 21, List.replicate 513 0⟩
    let last : JournalEvent := ⟨3, 1, 12, 22, [4]⟩
    let writer := EventJournalWriter.construct {} 1001 20260417 .written
    let moves := List.replicate 4 (.producer (small, 3)) ++ [.producer (large, 3)] ++
      List.replicate 4 (.producer (last, 5)) ++ List.replicate 12 (.consumer default)
    let system : AsyncSystem ⟨2, by decide, by decide, by decide⟩ :=
      AsyncSystem.start (fun _ => default) 0 writer
    (system.after moves).writer =
      (((writer.append small 3 .written .written).2).append last 5 .written .written).2 := by
  intro small large last writer moves system
  have drained : (system.after moves).Drained := by decide +kernel
  have calls : queuedCalls (system.answers moves) = [(small, 3), (last, 5)] := by decide +kernel
  have same := async_equals_sync (fun _ => default) 0 writer (by decide +kernel) moves drained
  rw [calls] at same
  exact same

end MarketDataFabric.Replay
