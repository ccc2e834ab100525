/-
**The ring under every interleaving.**

Producer and consumer are program counters over one ring; every atomic load and store and every slot
access of `push_impl` and `try_pop` is a step of its own, and the local test after a load belongs to
the load. A schedule is a list of moves, each of which lets one side take its next step.

* `Represents` — what the ring holds, and what each side may rely on in spite of its stale copy of
  the other's counter.
* `simulates_fifo` — **every step is a step of a bounded FIFO**, with the answer it gives.
* `linear_bounded_fifo` — what follows for every schedule from any start index.
-/

import MarketDataFabric.Runtime.SpscRing

namespace MarketDataFabric.Runtime

open Library BoundedFifo

/-- Where `push_impl` is: the local copies it has made, and what it does next. -/
inductive Producer (α : Type) where
  | idle
  | loadedWrite (value : α) (write : UInt64)
  | loadedRead (value : α) (write : UInt64)
  | wroteSlot (value : α) (write : UInt64)
deriving Repr, DecidableEq

/-- Where `try_pop` is. -/
inductive Consumer (α : Type) where
  | idle
  | loadedRead (read : UInt64)
  | loadedWrite (read : UInt64)
  | movedOut (read : UInt64) (out : α)
  | cleared (read : UInt64) (out : α)
deriving Repr, DecidableEq

structure System (capacity : RingCapacity) (α : Type) where
  ring : SpscRing capacity α
  producer : Producer α := .idle
  consumer : Consumer α := .idle

/-- One side takes its next step. An idle producer starts to push `value`; a consumer that moves a
slot out leaves `left` behind in it. Elsewhere the argument is not looked at. -/
inductive Move (α : Type) where
  | producer (value : α)
  | consumer (left : α)
deriving Repr, DecidableEq

/-- The value of the push in progress. -/
def Producer.pushing {α : Type} : Producer α → Option α
  | .idle => none
  | .loadedWrite value _ | .loadedRead value _ | .wroteSlot value _ => some value

namespace Consumer

variable {α : Type}

/-- The first slot no longer contains the head. -/
def taken : Consumer α → Bool
  | .movedOut _ _ | .cleared _ _ => true
  | .idle | .loadedRead _ | .loadedWrite _ => false

/-- The index whose slot a pop has still to move out or to clear. -/
def claims : Consumer α → Option UInt64
  | .loadedWrite read | .movedOut read _ => some read
  | .idle | .loadedRead _ | .cleared _ _ => none

end Consumer

namespace System

variable {capacity : RingCapacity} {α : Type}

/-- The steps of `push_impl`. -/
def stepProducer (system : System capacity α) (value : α) :
    System capacity α × Option (Event α) :=
  match system.producer with
  | .idle => ({ system with producer := .loadedWrite value system.ring.writeIndex }, none)
  | .loadedWrite value write =>
      if write - system.ring.readIndex ≥ UInt64.ofNat capacity.value then
        ({ system with producer := .idle }, some .full)
      else ({ system with producer := .loadedRead value write }, none)
  | .loadedRead value write =>
      ({ system with ring := system.ring.put write value, producer := .wroteSlot value write }, none)
  | .wroteSlot value write =>
      ({ system with ring := { system.ring with writeIndex := write + 1 }, producer := .idle },
        some (.pushed value))

/-- The steps of `try_pop`. -/
def stepConsumer [Inhabited α] (system : System capacity α) (left : α) :
    System capacity α × Option (Event α) :=
  match system.consumer with
  | .idle => ({ system with consumer := .loadedRead system.ring.readIndex }, none)
  | .loadedRead read =>
      if read = system.ring.writeIndex then ({ system with consumer := .idle }, some .empty)
      else ({ system with consumer := .loadedWrite read }, none)
  | .loadedWrite read =>
      ({ system with
          ring := system.ring.put read left
          consumer := .movedOut read (system.ring.get read) }, none)
  | .movedOut read out =>
      ({ system with ring := system.ring.put read default, consumer := .cleared read out }, none)
  | .cleared read out =>
      ({ system with ring := { system.ring with readIndex := read + 1 }, consumer := .idle },
        some (.popped out))

def step [Inhabited α] (system : System capacity α) : Move α →
    System capacity α × Option (Event α)
  | .producer value => system.stepProducer value
  | .consumer left => system.stepConsumer left

/-- A push in progress keeps its value until it answers. -/
theorem stepProducer_pushing (system : System capacity α) (value : α) :
    match (system.stepProducer value).2 with
    | none => (system.stepProducer value).1.producer.pushing =
        some (system.producer.pushing.getD value)
    | some answer => (answer = .full ∨ some answer = system.producer.pushing.map .pushed) ∧
        (system.stepProducer value).1.producer.pushing = none := by
  unfold stepProducer
  cases system.producer with
  | idle | loadedRead => rfl
  | loadedWrite pushing write =>
      dsimp only
      split_ifs
      · exact ⟨Or.inl rfl, rfl⟩
      · rfl
  | wroteSlot pushing write => exact ⟨Or.inr rfl, rfl⟩

/-- The consumer leaves the producer where it is. -/
theorem stepConsumer_producer [Inhabited α] (system : System capacity α) (left : α) :
    (system.stepConsumer left).1.producer = system.producer := by
  unfold stepConsumer
  cases system.consumer with
  | loadedRead read =>
      dsimp only
      split_ifs <;> rfl
  | idle | loadedWrite | movedOut | cleared => rfl

/-- Only a pop answers the consumer. -/
theorem stepConsumer_answer [Inhabited α] (system : System capacity α) (left : α) :
    (system.stepConsumer left).2 = none ∨ (system.stepConsumer left).2 = some .empty ∨
      ∃ value, (system.stepConsumer left).2 = some (.popped value) := by
  unfold stepConsumer
  cases system.consumer with
  | loadedRead read =>
      dsimp only
      split_ifs
      · exact Or.inr (Or.inl rfl)
      · exact Or.inl rfl
  | idle | loadedWrite | movedOut => exact Or.inl rfl
  | cleared read out => exact Or.inr (Or.inr ⟨out, rfl⟩)

/-- An empty ring whose counters start anywhere, and two idle sides. -/
def start (buffer : Fin capacity.value → α) (index : UInt64) : System capacity α :=
  { ring := { buffer, writeIndex := index, readIndex := index } }

/-- The system after a schedule. -/
abbrev after [Inhabited α] (system : System capacity α) (moves : List (Move α)) :
    System capacity α := Machine.final step system moves

/-- The answers along a schedule. -/
abbrev answers [Inhabited α] (system : System capacity α) (moves : List (Move α)) :
    List (Option (Event α)) := Machine.outputs step system moves

end System

/-! ### What each side may rely on -/

section Fits

variable {capacity : RingCapacity} {α : Type}

/-- Its own counter is as the producer loaded it; once it has seen room there is room, and the slot
keeps what it wrote. -/
def Producer.Fits (ring : SpscRing capacity α) (held : List α) : Producer α → Prop
  | .idle => True
  | .loadedWrite _ write => write = ring.writeIndex
  | .loadedRead _ write => write = ring.writeIndex ∧ held.length < capacity.value
  | .wroteSlot value write =>
      write = ring.writeIndex ∧ held.length < capacity.value ∧ ring.get write = value

/-- Its own counter is as the consumer loaded it; once it has seen a value there is one, and what it
moved out was the head. -/
def Consumer.Fits (ring : SpscRing capacity α) (held : List α) : Consumer α → Prop
  | .idle => True
  | .loadedRead read => read = ring.readIndex
  | .loadedWrite read => read = ring.readIndex ∧ held ≠ []
  | .movedOut read out | .cleared read out => read = ring.readIndex ∧ held.head? = some out

/-- **The system represents a FIFO that holds `held`.** -/
structure Represents (held : List α) (system : System capacity α) : Prop where
  holds : system.ring.Holds held system.consumer.taken
  producer : system.producer.Fits system.ring held
  consumer : system.consumer.Fits system.ring held

variable {ring : SpscRing capacity α} {held : List α}

/-- A side that has taken the head has not dropped it yet. -/
theorem Consumer.Fits.ne_nil {consumer : Consumer α} (fits : consumer.Fits ring held)
    (claimed : consumer.taken = true ∨ consumer.claims.isSome = true) : held ≠ [] := by
  cases consumer with
  | idle | loadedRead => rcases claimed with impossible | impossible <;> cases impossible
  | loadedWrite => exact fits.2
  | movedOut | cleared =>
      intro empty
      rw [Consumer.Fits, empty] at fits
      cases fits.2

/-- The consumer does not rely on anything a push changes before its store. -/
theorem Consumer.Fits.of_put {consumer : Consumer α} (fits : consumer.Fits ring held)
    (index : UInt64) (value : α) : consumer.Fits (ring.put index value) held := by
  cases consumer <;> exact fits

/-- Nor on how much is behind the head. -/
theorem Consumer.Fits.append {consumer : Consumer α} (fits : consumer.Fits ring held) (value : α)
    (write : UInt64) : consumer.Fits { ring with writeIndex := write } (held ++ [value]) := by
  cases consumer with
  | idle | loadedRead => exact fits
  | loadedWrite => exact ⟨fits.1, List.append_ne_nil_of_left_ne_nil fits.2 _⟩
  | movedOut | cleared => exact ⟨fits.1, by rw [List.head?_append, fits.2]; rfl⟩

/-- The producer keeps what it relies on while the consumer works on its own slot. -/
theorem Producer.Fits.of_put_read {producer : Producer α} {taken : Bool}
    (fits : producer.Fits ring held) (holds : ring.Holds held taken) (some : held ≠ []) (value : α) :
    producer.Fits (ring.put ring.readIndex value) held := by
  cases producer with
  | idle | loadedWrite | loadedRead => exact fits
  | wroteSlot written write =>
      obtain ⟨rfl, room, wrote⟩ := fits
      refine ⟨rfl, room, ?_⟩
      rw [SpscRing.get_put_of_ne _ _ _ (holds.slot_read_ne room some).symm]
      exact wrote

/-- And it keeps it when the head is dropped. -/
theorem Producer.Fits.tail {producer : Producer α} {value : α}
    (fits : producer.Fits ring (value :: held)) (read : UInt64) :
    producer.Fits { ring with readIndex := read } held := by
  cases producer with
  | idle | loadedWrite => exact fits
  | loadedRead => exact ⟨fits.1, Nat.lt_of_succ_lt fits.2⟩
  | wroteSlot => exact ⟨fits.1, Nat.lt_of_succ_lt fits.2.1, fits.2.2⟩

end Fits

/-! ### The simulation -/

section Simulation

variable {capacity : RingCapacity} {α : Type}

theorem stepProducer_simulates {held : List α} {system : System capacity α}
    (represents : Represents held system) (value : α) :
    ∃ later, Step capacity.value held (system.stepProducer value).2 later ∧
      Represents later (system.stepProducer value).1 := by
  obtain ⟨holds, producer, consumer⟩ := represents
  unfold System.stepProducer
  cases here : system.producer with
  | idle => exact ⟨held, .silent held, holds, rfl, consumer⟩
  | loadedWrite pushing write =>
      rw [here] at producer
      obtain rfl : write = system.ring.writeIndex := producer
      dsimp only
      split_ifs with full
      · exact ⟨held, .full held (holds.full_iff.mp full), holds, trivial, consumer⟩
      · have room : held.length < capacity.value :=
          Nat.lt_of_le_of_ne holds.bounded (mt holds.full_iff.mpr full)
        exact ⟨held, .silent held, holds, ⟨rfl, room⟩, consumer⟩
  | loadedRead pushing write =>
      rw [here] at producer
      obtain ⟨rfl, room⟩ := producer
      exact ⟨held, .silent held, holds.put_write room pushing,
        ⟨rfl, room, SpscRing.get_put_self ..⟩, consumer.of_put _ _⟩
  | wroteSlot pushing write =>
      rw [here] at producer
      obtain ⟨rfl, room, wrote⟩ := producer
      exact ⟨held ++ [pushing], .pushed held pushing room, holds.advance_write room wrote, trivial,
        consumer.append _ _⟩

theorem stepConsumer_simulates [Inhabited α] {held : List α} {system : System capacity α}
    (represents : Represents held system) (left : α) :
    ∃ later, Step capacity.value held (system.stepConsumer left).2 later ∧
      Represents later (system.stepConsumer left).1 := by
  obtain ⟨holds, producer, consumer⟩ := represents
  unfold System.stepConsumer
  cases here : system.consumer with
  | idle =>
      rw [here] at holds
      exact ⟨held, .silent held, holds, producer, rfl⟩
  | loadedRead read =>
      rw [here] at holds consumer
      obtain rfl : read = system.ring.readIndex := consumer
      dsimp only
      split_ifs with empty
      · obtain rfl := holds.empty_iff.mp empty
        exact ⟨[], .empty, holds, producer, trivial⟩
      · exact ⟨held, .silent held, holds, producer, rfl, mt holds.empty_iff.mpr empty⟩
  | loadedWrite read =>
      rw [here] at holds consumer
      obtain ⟨rfl, some⟩ := consumer
      obtain ⟨value, later, rfl⟩ := List.exists_cons_of_ne_nil some
      exact ⟨value :: later, .silent _, holds.put_read left, producer.of_put_read holds some left,
        rfl, congrArg Option.some holds.get_read.symm⟩
  | movedOut read out =>
      rw [here] at holds
      have some : held ≠ [] := consumer.ne_nil (Or.inl (by rw [here]; rfl))
      rw [here] at consumer
      obtain ⟨rfl, head⟩ := consumer
      exact ⟨held, .silent held, holds.put_read default, producer.of_put_read holds some default,
        rfl, head⟩
  | cleared read out =>
      rw [here] at holds consumer
      obtain ⟨rfl, head⟩ := consumer
      obtain ⟨later, rfl⟩ := List.head?_eq_some_iff.mp head
      exact ⟨later, .popped later out, holds.advance_read, producer.tail _, trivial⟩

/-- **Every step of the system is a step of a bounded FIFO**, with the answer it gives. -/
theorem simulates_fifo [Inhabited α] :
    Machine.Simulates System.step (Step capacity.value)
      (Represents : List α → System capacity α → Prop) := by
  intro held system move represents
  cases move with
  | producer value => exact stepProducer_simulates represents value
  | consumer left => exact stepConsumer_simulates represents left

theorem represents_start (buffer : Fin capacity.value → α) (index : UInt64) :
    Represents [] (System.start buffer index) where
  holds := ⟨(UInt64.add_zero index).symm, Nat.zero_le _, fun offset inside => by cases inside⟩
  producer := trivial
  consumer := trivial

/-! ### Every schedule -/

/-- **The answers of a schedule are those of a FIFO that ends up holding what the ring holds.** -/
theorem represents_after [Inhabited α] (buffer : Fin capacity.value → α) (index : UInt64)
    (moves : List (Move α)) :
    ∃ held, Represents held ((System.start buffer index).after moves) ∧
      pushedValues ((System.start buffer index).answers moves) =
        poppedValues ((System.start buffer index).answers moves) ++ held := by
  obtain ⟨held, run, represents⟩ := simulates_fifo.trace (represents_start buffer index)
  exact ⟨held, represents, (conserves run (Nat.zero_le _)).1⟩

/-- An answer that refuses comes from a step of the FIFO that refuses. -/
theorem refused_of_represents [Inhabited α] {held : List α} {system : System capacity α}
    (represents : Represents held system) (move : Move α) :
    ((system.step move).2 = some .full → held.length = capacity.value) ∧
      ((system.step move).2 = some .empty → held = []) := by
  obtain ⟨later, fifo, -⟩ := simulates_fifo held system move represents
  constructor <;> intro answer <;> rw [answer] at fifo
  · cases fifo with
    | full _ full => exact full
  · cases fifo with
    | empty => rfl

/-- **A linear bounded FIFO under every interleaving**: for every capacity, every start value of the
two counters and every schedule, at the end of the schedule

* the popped values are a beginning of the pushed ones, also with the value a pop has moved out but
  not yet returned;
* at most `capacity` values are pending, and each of them is in its slot until it is moved out;
* a producer about to write does not write a pending slot, nor one the consumer has still to move
  out or to clear;
* a push that fails in the next step, which loads the read index, finds `capacity` values pending;
* a pop that fails in the next step, which loads the write index, finds none. -/
theorem linear_bounded_fifo [Inhabited α] (buffer : Fin capacity.value → α) (index : UInt64)
    (moves : List (Move α)) :
    let now := (System.start buffer index).after moves
    let pushed := pushedValues ((System.start buffer index).answers moves)
    let popped := poppedValues ((System.start buffer index).answers moves)
    (popped <+: pushed ∧
      ∀ read out, now.consumer = .movedOut read out ∨ now.consumer = .cleared read out →
        popped ++ [out] <+: pushed) ∧
    (pushed.length ≤ popped.length + capacity.value ∧
      ∀ offset (pending : popped.length + offset < pushed.length),
        (now.consumer.taken = true → offset ≠ 0) →
          now.ring.get (now.ring.readIndex + UInt64.ofNat offset) = pushed[popped.length + offset]) ∧
    (∀ value write, now.producer = .loadedRead value write →
      (∀ offset, popped.length + offset < pushed.length →
        capacity.slot write ≠ capacity.slot (now.ring.readIndex + UInt64.ofNat offset)) ∧
      ∀ read, now.consumer.claims = some read → capacity.slot write ≠ capacity.slot read) ∧
    (∀ move, (now.step move).2 = some .full → pushed.length = popped.length + capacity.value) ∧
    ∀ move, (now.step move).2 = some .empty → pushed = popped := by
  intro now pushed popped
  obtain ⟨held, represents, conserved⟩ := represents_after buffer index moves
  have split : pushed = popped ++ held := conserved
  have long : pushed.length = popped.length + held.length := by rw [split, List.length_append]
  have holds : now.ring.Holds held now.consumer.taken := represents.holds
  refine ⟨⟨⟨held, split.symm⟩, fun read out busy => ?_⟩, ⟨?_, fun offset pending fresh => ?_⟩,
    fun value write about => ⟨fun offset pending => ?_, fun read claimed => ?_⟩,
    fun move full => ?_, fun move empty => ?_⟩
  · have head : held.head? = some out := by
      have fits : now.consumer.Fits now.ring held := represents.consumer
      rcases busy with here | here <;> rw [here] at fits <;> exact fits.2
    obtain ⟨later, rfl⟩ := List.head?_eq_some_iff.mp head
    exact ⟨later, by rw [split, List.append_assoc]; rfl⟩
  · rw [long]
    exact Nat.add_le_add_left holds.bounded _
  · have inside : offset < held.length := by omega
    rw [holds.stored offset inside fresh]
    simp only [split, List.getElem_append_right (Nat.le_add_right _ _), Nat.add_sub_cancel_left]
  · have fits : now.producer.Fits now.ring held := represents.producer
    rw [about] at fits
    obtain ⟨rfl, room⟩ := fits
    exact (holds.slot_write_ne room (by omega)).symm
  · have fits : now.producer.Fits now.ring held := represents.producer
    have consumer : now.consumer.Fits now.ring held := represents.consumer
    have some : held ≠ [] := consumer.ne_nil (Or.inr (by rw [claimed]; rfl))
    rw [about] at fits
    obtain ⟨rfl, room⟩ := fits
    have here : read = now.ring.readIndex := by
      cases stage : now.consumer with
      | idle | loadedRead | cleared => rw [stage] at claimed; cases claimed
      | loadedWrite | movedOut =>
          rw [stage] at claimed consumer
          cases claimed
          exact consumer.1
    rw [here]
    exact (holds.slot_read_ne room some).symm
  · rw [long, (refused_of_represents represents move).1 full]
  · rw [split, (refused_of_represents represents move).2 empty, List.append_nil]

/-- Counters that start at the last 64-bit value: a push and a pop go around it. -/
example :
    let last : System ⟨2, by decide, by decide, by decide⟩ Nat := System.start (fun _ => 0) (0 - 1)
    poppedValues (last.answers
      (List.replicate 4 (.producer 7) ++ List.replicate 5 (.consumer 0))) = [7] := by decide

end Simulation

/-! ### Uninterrupted operations -/

section Uninterrupted

variable {capacity : RingCapacity} {α : Type} [Inhabited α] (ring : SpscRing capacity α)

/-- A push that nothing interrupts is `tryPush`: two steps if it fails, four if it succeeds. -/
theorem push_uninterrupted (consumer : Consumer α) (value : α) :
    let system : System capacity α := { ring, consumer }
    if (ring.tryPush value).1 then
      system.after (List.replicate 4 (.producer value)) =
        { ring := (ring.tryPush value).2, consumer }
    else system.after (List.replicate 2 (.producer value)) = system := by
  intro system
  unfold SpscRing.tryPush
  by_cases full : ring.writeIndex - ring.readIndex ≥ UInt64.ofNat capacity.value <;>
    simp [system, full, List.replicate, System.step, System.stepProducer]

/-- A pop that nothing interrupts is `tryPop`, whatever it leaves behind in the slot before it
clears it. -/
theorem pop_uninterrupted (producer : Producer α) (left out : α) :
    let system : System capacity α := { ring, producer }
    if (ring.tryPop out).1 then
      system.after (List.replicate 5 (.consumer left)) =
          { ring := (ring.tryPop out).2.2, producer } ∧
        system.answers (List.replicate 5 (.consumer left)) =
          [none, none, none, none, some (.popped (ring.tryPop out).2.1)]
    else system.after (List.replicate 2 (.consumer left)) = system := by
  intro system
  unfold SpscRing.tryPop
  by_cases empty : ring.readIndex = ring.writeIndex <;>
    simp [system, empty, List.replicate, System.step, System.stepConsumer, SpscRing.put]

end Uninterrupted

end MarketDataFabric.Runtime
