/-
**The observer of the asynchronous queue.** `AsyncEventJournalQueue::size_estimate()` asks the ring of
the queue while `try_enqueue` and `drain_one` go on.

* `ring_after` — a run of the two is a schedule of their ring.
* `monitoring_true_iff` — when the answers of the ring and the queue are true.
-/

import MarketDataFabric.Replay.AsyncSystem
import MarketDataFabric.Runtime.SpscMonitor

namespace MarketDataFabric.Replay

open Library MarketDataFabric.Runtime

def AsyncEventJournalQueue.sizeEstimate {capacity : RingCapacity}
    (first last : AsyncEventJournalQueue capacity) : UInt64 :=
  first.queue.sizeEstimate last.queue

namespace AsyncSystem

variable {capacity : RingCapacity}

/-- A payload that is not too large fits a frame. -/
theorem length_le_of_accepted (call : EnqueueCall)
    (accepted : ¬ call.1.bytes.length > kMaxJournalPayloadSize) :
    call.1.bytes.length ≤ kMaxJournalPayloadSize := Nat.le_of_not_lt accepted

/-- The queue that the two sides work on. -/
def queue (system : AsyncSystem capacity) : AsyncEventJournalQueue capacity := ⟨system.ring.ring⟩

/-- The steps of the ring in a step of the queue: none when a payload is too large, and none when the
consumer writes. -/
def asks (system : AsyncSystem capacity) : AsyncMove → List (Move QueuedEventFrame)
  | .producer call =>
      match system.enqueueing with
      | none =>
          if large : call.1.bytes.length > kMaxJournalPayloadSize then []
          else [.producer (QueuedEventFrame.fill call.1 call.2 (length_le_of_accepted call large))]
      | some _ => [.producer default]
  | .consumer left =>
      match system.drainer with
      | .popping => [.consumer left]
      | .writing _ => []

theorem step_ring (system : AsyncSystem capacity) (move : AsyncMove) :
    (system.step move).1.ring = system.ring.after (system.asks move) := by
  cases move with
  | producer call =>
      show (system.stepProducer call).1.ring = _
      unfold stepProducer asks
      cases system.enqueueing with
      | none =>
          dsimp only
          split_ifs <;> rfl
      | some current =>
          dsimp only
          split <;> rfl
  | consumer left =>
      show (system.stepConsumer left).1.ring = _
      unfold stepConsumer asks
      cases system.drainer with
      | popping =>
          dsimp only
          split <;> rfl
      | writing frame => rfl

/-- The schedule of the ring along a run of the queue. -/
abbrev ringMoves (system : AsyncSystem capacity) (moves : List AsyncMove) :
    List (Move QueuedEventFrame) := Machine.requests step asks system moves

/-- **A run of the queue is a schedule of its ring.** -/
theorem ring_after (system : AsyncSystem capacity) (moves : List AsyncMove) :
    (system.after moves).ring = system.ring.after (system.ringMoves moves) :=
  Machine.final_requests step ring asks step_ring system moves

end AsyncSystem

/-! ### When the answers are true -/

/-- The queue's own answer, along a run of its two sides. -/
theorem queue_sizeEstimate_le_iff {capacity : RingCapacity}
    (buffer : Fin capacity.value → QueuedEventFrame) (index : UInt64) (writer : EventJournalWriter)
    (before during : List AsyncMove) :
    let system := AsyncSystem.start buffer index writer
    let pushed := system.ring.pushedCount (system.ringMoves before)
    let popped := system.ring.poppedCount (system.ringMoves (before ++ during))
    AsyncEventJournalQueue.sizeEstimate (system.after before).queue
        (system.after (before ++ during)).queue ≤ UInt64.ofNat capacity.value ↔
      Circular.WholeRounds (capacity.value + 1) (popped - pushed) := by
  intro system pushed popped
  have first := system.ring_after before
  have last := system.ring_after (before ++ during)
  have cut : system.ringMoves (before ++ during) =
      system.ringMoves before ++ (system.after before).ringMoves during :=
    Machine.requests_append AsyncSystem.step AsyncSystem.asks system before during
  have answered := sizeEstimate_le_iff buffer index (system.ringMoves before)
    ((system.after before).ringMoves during)
  rw [← cut] at answered
  rw [AsyncEventJournalQueue.sizeEstimate, AsyncSystem.queue, AsyncSystem.queue, first, last]
  exact answered

/-- **When monitoring is true.** A call loads the write index after the schedule `before`, and the read
index after `during` as well. For every capacity, every type of values, every start of the two counters
and every schedule:

* `size_estimate()` is at most the capacity exactly when no more values are popped before the second
  load than were pushed before the first, but for whole rounds of `2 ^ 64`, less at most the capacity;
* `full()` is true only of a ring that holds `capacity` values at some moment of the call exactly
  when the same is so, less fewer than the capacity, or when the ring is full at such a moment anyway;
* the queue's `size_estimate()` is the ring's, under every schedule of the ring and along every run
  of `try_enqueue` and `drain_one`. -/
theorem monitoring_true_iff (capacity : RingCapacity) :
    (∀ {α : Type} [Inhabited α] (buffer : Fin capacity.value → α) (index : UInt64)
      (before during : List (Move α)),
      let system := System.start buffer index
      let first := (system.after before).ring
      let last := (system.after (before ++ during)).ring
      let overtaken := system.poppedCount (before ++ during) - system.pushedCount before
      (first.sizeEstimate last ≤ UInt64.ofNat capacity.value ↔
        Circular.WholeRounds (capacity.value + 1) overtaken) ∧
      ((first.full last = true → system.FullDuring before during) ↔
        Circular.WholeRounds capacity.value overtaken ∨ system.FullDuring before during)) ∧
    (∀ (buffer : Fin capacity.value → QueuedEventFrame) (index : UInt64)
      (before during : List (Move QueuedEventFrame)),
      let system := System.start buffer index
      let first : AsyncEventJournalQueue capacity := ⟨(system.after before).ring⟩
      let last : AsyncEventJournalQueue capacity := ⟨(system.after (before ++ during)).ring⟩
      first.sizeEstimate last ≤ UInt64.ofNat capacity.value ↔
        Circular.WholeRounds (capacity.value + 1)
          (system.poppedCount (before ++ during) - system.pushedCount before)) ∧
    ∀ (buffer : Fin capacity.value → QueuedEventFrame) (index : UInt64)
      (writer : EventJournalWriter) (before during : List AsyncMove),
      let system := AsyncSystem.start buffer index writer
      let pushed := system.ring.pushedCount (system.ringMoves before)
      let popped := system.ring.poppedCount (system.ringMoves (before ++ during))
      (system.after before).queue.sizeEstimate (system.after (before ++ during)).queue ≤
          UInt64.ofNat capacity.value ↔
        Circular.WholeRounds (capacity.value + 1) (popped - pushed) := by
  refine ⟨fun buffer index before during => ⟨?_, ?_⟩, fun buffer index before during => ?_,
    fun buffer index writer before during => ?_⟩
  · exact sizeEstimate_le_iff buffer index before during
  · exact full_honest_iff buffer index before during
  · exact sizeEstimate_le_iff buffer index before during
  · exact queue_sizeEstimate_le_iff buffer index writer before during

/-- **The consumer overtakes the first load**: the observer finds an empty ring, then one value is
pushed and popped, and the second load makes the ring look fuller than it can be. -/
theorem monitoring_overtaken :
    let two : RingCapacity := ⟨2, by decide, by decide, by decide⟩
    let system : System two QueuedEventFrame := System.start (fun _ => default) 0
    let during : List (Move QueuedEventFrame) :=
      List.replicate 4 (.producer default) ++ List.replicate 5 (.consumer default)
    let first := system.ring
    let last := (system.after during).ring
    first.sizeEstimate last = 0xFFFFFFFFFFFFFFFF ∧
      ¬ first.sizeEstimate last ≤ UInt64.ofNat two.value ∧
      ¬ AsyncEventJournalQueue.sizeEstimate ⟨first⟩ ⟨last⟩ ≤ UInt64.ofNat two.value ∧
      ¬ (first.full last = true → system.FullDuring [] during) := by
  intro two system during first last
  have never : ∀ front ∈ during.inits,
      system.pushedCount front ≠ system.poppedCount front + two.value := by decide +kernel
  refine ⟨by decide +kernel, by decide +kernel, by decide +kernel, fun honest => ?_⟩
  obtain ⟨front, back, split, full⟩ := honest (by decide +kernel)
  exact never front ((List.mem_inits front during).mpr ⟨back, split.symm⟩) full

end MarketDataFabric.Replay
