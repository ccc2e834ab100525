/-
**The owner of a side asks before it acts**: the producer calls `full()` or `size_estimate()` between its
pushes, or the consumer calls `empty()` or `size_estimate()` between its pops. The other side may take
any steps before, between and after the two loads of such a call.

* `pushedCount_of_consumer`, `poppedCount_of_producer` — what the other side leaves as it is.
* `producer_asks`, `consumer_asks` — an owner is answered truly, and what it does next succeeds as often
  as it was told.
* `owner_asks` — both.
-/

import MarketDataFabric.Runtime.SpscMonitor

namespace MarketDataFabric.Runtime

open Library BoundedFifo

section Owner

variable {capacity : RingCapacity} {α : Type} [Inhabited α]

namespace System

/-- How many values are pending after a schedule. -/
def pending (system : System capacity α) (moves : List (Move α)) : Nat :=
  system.pushedCount moves - system.poppedCount moves

theorem answers_append (system : System capacity α) (before during : List (Move α)) :
    system.answers (before ++ during) =
      system.answers before ++ (system.after before).answers during :=
  Machine.outputs_append System.step system before during

/-- Nothing pushed is taken back. -/
theorem pushedCount_le_append (system : System capacity α) (before during : List (Move α)) :
    system.pushedCount before ≤ system.pushedCount (before ++ during) := by
  rw [pushedCount, pushedCount, answers_append, pushedValues_append, List.length_append]
  exact Nat.le_add_right _ _

/-- An answer along a schedule is that of a step of it. -/
theorem exists_step_of_answer {system : System capacity α} {moves : List (Move α)}
    {answer : Option (Event α)} (member : answer ∈ system.answers moves) :
    ∃ (here : System capacity α) (move : Move α), move ∈ moves ∧ (here.step move).2 = answer := by
  obtain ⟨front, back, split⟩ := List.append_of_mem member
  obtain ⟨first, move, last, rfl, -, answered, -⟩ := Machine.outputs_split System.step split
  exact ⟨_, move, List.mem_append_right _ List.mem_cons_self, answered⟩

omit [Inhabited α] in
/-- Only a push answers the producer. -/
theorem stepProducer_answer (system : System capacity α) (value : α) :
    (system.stepProducer value).2 = none ∨ (system.stepProducer value).2 = some .full ∨
      ∃ pushed, (system.stepProducer value).2 = some (.pushed pushed) := by
  have told := system.stepProducer_pushing value
  cases answer : (system.stepProducer value).2 with
  | none => exact Or.inl rfl
  | some event =>
      rw [answer] at told
      rcases told.1 with rfl | same
      · exact Or.inr (Or.inl rfl)
      · obtain ⟨pushed, -, rfl⟩ := Option.map_eq_some_iff.mp same.symm
        exact Or.inr (Or.inr ⟨pushed, rfl⟩)

/-- The steps of the consumer push nothing. -/
theorem pushedCount_of_consumer (system : System capacity α) (before : List (Move α))
    {during : List (Move α)} (other : ∀ move ∈ during, ∃ left, move = .consumer left) :
    system.pushedCount (before ++ during) = system.pushedCount before := by
  have nothing : pushedValues ((system.after before).answers during) = [] := by
    refine List.filterMap_eq_nil_iff.mpr fun answer member => ?_
    obtain ⟨here, move, among, rfl⟩ := exists_step_of_answer member
    obtain ⟨left, rfl⟩ := other move among
    rcases here.stepConsumer_answer left with silent | empty | ⟨value, popped⟩
    · exact congrArg (·.bind Event.pushedValue) silent
    · exact congrArg (·.bind Event.pushedValue) empty
    · exact congrArg (·.bind Event.pushedValue) popped
  rw [pushedCount, answers_append, pushedValues_append, nothing, List.append_nil, pushedCount]

/-- The steps of the producer pop nothing. -/
theorem poppedCount_of_producer (system : System capacity α) (before : List (Move α))
    {during : List (Move α)} (other : ∀ move ∈ during, ∃ value, move = .producer value) :
    system.poppedCount (before ++ during) = system.poppedCount before := by
  have nothing : poppedValues ((system.after before).answers during) = [] := by
    refine List.filterMap_eq_nil_iff.mpr fun answer member => ?_
    obtain ⟨here, move, among, rfl⟩ := exists_step_of_answer member
    obtain ⟨value, rfl⟩ := other move among
    rcases here.stepProducer_answer value with silent | full | ⟨value, pushed⟩
    · exact congrArg (·.bind Event.poppedValue) silent
    · exact congrArg (·.bind Event.poppedValue) full
    · exact congrArg (·.bind Event.poppedValue) pushed
  rw [poppedCount, answers_append, poppedValues_append, nothing, List.append_nil, poppedCount]

end System

variable (buffer : Fin capacity.value → α) (index : UInt64) (before : List (Move α))

/-- **What goes on after a schedule**: a push is refused only once the free places were filled, and a
pop only once the pending values were taken. -/
theorem refusals_after (before rest : List (Move α)) :
    let system := System.start buffer index
    (∀ front back, (system.after before).answers rest = front ++ some .full :: back →
      capacity.value ≤ system.pending before + (pushedValues front).length) ∧
    ∀ front back, (system.after before).answers rest = front ++ some .empty :: back →
      system.pending before ≤ (poppedValues front).length := by
  intro system
  obtain ⟨held, represents, conserved⟩ := represents_after buffer index before
  obtain ⟨later, run, -⟩ : ∃ later,
      Machine.Trace (Step capacity.value) held ((system.after before).answers rest) later ∧
        Represents later ((system.after before).after rest) := simulates_fifo.trace represents
  have pending : system.pending before = held.length := by
    have counted := congrArg List.length conserved
    rw [List.length_append] at counted
    exact Nat.sub_eq_of_eq_add' counted
  rw [pending]
  exact ⟨fun front back split => room_of_full run split,
    fun front back split => held_of_empty run split⟩

/-- The difference of the two loads, where nothing is popped past what was pushed. -/
theorem sizeEstimate_toNat {during : List (Move α)} :
    let system := System.start buffer index
    system.poppedCount (before ++ during) ≤ system.pushedCount before →
    (SpscRing.sizeEstimate (system.after before).ring
        (system.after (before ++ during)).ring).toNat =
      system.pushedCount before - system.poppedCount (before ++ during) := by
  intro system behind
  obtain ⟨steps, count⟩ := Nat.exists_eq_add_of_le behind
  have bounded : system.pushedCount before ≤ system.poppedCount before + capacity.value :=
    (counters_after buffer index before).2.2.2
  have grows := system.poppedCount_le_append before during
  have fits := capacity.fits
  have small : steps < 2 ^ 64 := by omega
  have written : (system.after before).ring.writeIndex =
      index + UInt64.ofNat (system.pushedCount before) := (counters_after buffer index before).1
  rw [SpscRing.sizeEstimate, written, readIndex_after, count, UInt64.ofNat_add, ← UInt64.add_assoc,
    Circular.add_sub_self, UInt64.toNat_ofNat_of_lt' small, Nat.add_sub_cancel_left]

/-- **The producer is answered truly**: nothing is pushed while it asks. -/
theorem producer_asks {during : List (Move α)}
    (other : ∀ move ∈ during, ∃ left, move = .consumer left) :
    let system := System.start buffer index
    let first := (system.after before).ring
    let last := (system.after (before ++ during)).ring
    (first.full last = true ↔ system.pending (before ++ during) = capacity.value) ∧
      (first.sizeEstimate last).toNat = system.pending (before ++ during) := by
  intro system first last
  have same := system.pushedCount_of_consumer before other
  obtain ⟨-, -, behind, bounded⟩ := counters_after buffer index (before ++ during)
  have behind : system.poppedCount (before ++ during) ≤ system.pushedCount (before ++ during) :=
    behind
  have bounded : system.pushedCount (before ++ during) ≤
      system.poppedCount (before ++ during) + capacity.value := bounded
  have size : (first.sizeEstimate last).toNat = system.pending (before ++ during) := by
    rw [System.pending, same]
    exact sizeEstimate_toNat buffer index before (same ▸ behind)
  refine ⟨?_, size⟩
  have told : first.full last = true ↔ capacity.value ≤ (first.sizeEstimate last).toNat := by
    rw [SpscRing.full, decide_eq_true_iff, ge_iff_le, UInt64.le_iff_toNat_le,
      UInt64.toNat_ofNat_of_lt' capacity.fits]
    rfl
  rw [told, size, System.pending]
  omega

/-- **The consumer is answered truly**: nothing is popped while it asks. -/
theorem consumer_asks {during : List (Move α)}
    (other : ∀ move ∈ during, ∃ value, move = .producer value) :
    let system := System.start buffer index
    let first := (system.after before).ring
    let last := (system.after (before ++ during)).ring
    (first.empty last = true ↔ system.pending (before ++ during) = 0) ∧
      (first.sizeEstimate last).toNat = system.pending before ∧
      system.pending before ≤ system.pending (before ++ during) := by
  intro system first last
  have same := system.poppedCount_of_producer before other
  obtain ⟨-, -, behind, -⟩ := counters_after buffer index before
  have behind : system.poppedCount before ≤ system.pushedCount before := behind
  obtain ⟨written, -, ahead, bounded⟩ := counters_after buffer index (before ++ during)
  have ahead : system.poppedCount before ≤ system.pushedCount (before ++ during) := same ▸ ahead
  have bounded : system.pushedCount (before ++ during) ≤
      system.poppedCount before + capacity.value := same ▸ bounded
  have grows := system.pushedCount_le_append before during
  have fits := capacity.fits
  refine ⟨?_, ?_, ?_⟩
  · obtain ⟨steps, count⟩ := Nat.exists_eq_add_of_le ahead
    have small : steps < 2 ^ 64 := by omega
    have met : first.empty last = true ↔
        index + UInt64.ofNat (system.poppedCount before) + UInt64.ofNat steps =
          index + UInt64.ofNat (system.poppedCount before) := by
      rw [SpscRing.empty, decide_eq_true_iff, written, readIndex_after, UInt64.add_assoc,
        ← UInt64.ofNat_add, ← count]
      exact eq_comm
    rw [met, Circular.add_ofNat_eq_self_iff small, System.pending, same, count,
      Nat.add_sub_cancel_left]
  · rw [System.pending, ← same]
    exact sizeEstimate_toNat buffer index before (same ▸ behind)
  · rw [System.pending, System.pending, same]
    exact Nat.sub_le_sub_right grows _

end Owner

/-- **An owner may rely on what it asks**, whatever the other side does while it asks and afterwards.

* The producer: `full()` tells whether the ring is full, and `size_estimate()` how many values are
  pending. As many pushes succeed as there is room left, before one is refused.
* The consumer: `empty()` tells whether the ring is empty, and `size_estimate()` how many values were
  pending at its first load. As many pops succeed before one is refused, and at least one if the ring
  was not called empty. -/
theorem owner_asks {capacity : RingCapacity} {α : Type} [Inhabited α]
    (buffer : Fin capacity.value → α) (index : UInt64) (before during rest : List (Move α)) :
    let system := System.start buffer index
    let first := (system.after before).ring
    let last := (system.after (before ++ during)).ring
    let size := (first.sizeEstimate last).toNat
    let answers := (system.after (before ++ during)).answers rest
    ((∀ move ∈ during, ∃ left, move = .consumer left) →
      (first.full last = true ↔ system.pending (before ++ during) = capacity.value) ∧
      size = system.pending (before ++ during) ∧
      ∀ front back, answers = front ++ some .full :: back →
        capacity.value ≤ size + (pushedValues front).length) ∧
    ((∀ move ∈ during, ∃ value, move = .producer value) →
      (first.empty last = true ↔ system.pending (before ++ during) = 0) ∧
      size = system.pending before ∧
      ∀ front back, answers = front ++ some .empty :: back →
        size ≤ (poppedValues front).length ∧
        (first.empty last = false → poppedValues front ≠ [])) := by
  intro system first last size answers
  obtain ⟨full, empty⟩ := refusals_after buffer index (before ++ during) rest
  refine ⟨fun other => ?_, fun other => ?_⟩
  · obtain ⟨told, counted⟩ := producer_asks buffer index before other
    refine ⟨told, counted, fun front back split => ?_⟩
    have filled := full front back split
    rw [← counted] at filled
    exact filled
  · obtain ⟨told, counted, grows⟩ := consumer_asks buffer index before other
    refine ⟨told, counted, fun front back split => ?_⟩
    have taken := empty front back split
    refine ⟨counted.trans_le (grows.trans taken), fun some none => ?_⟩
    rw [none] at taken
    rw [told.mpr (Nat.le_zero.mp taken)] at some
    cases some

/-- Two slots, two pushes and one pop while the producer asks: it counts the value that is left, and one
more push succeeds before one is refused. -/
theorem owner_asks_refilled :
    let capacity : RingCapacity := ⟨2, by decide, by decide, by decide⟩
    let system : System capacity ℕ := System.start (fun _ => 0) 0
    let before := List.replicate 4 (.producer 7) ++ List.replicate 4 (.producer 8)
    let during := List.replicate 5 (.consumer 0)
    let rest := List.replicate 6 (.producer 9)
    (SpscRing.sizeEstimate (system.after before).ring (system.after (before ++ during)).ring).toNat = 1 ∧
      ∀ front back, (system.after (before ++ during)).answers rest = front ++ some .full :: back →
        2 ≤ 1 + (pushedValues front).length := by
  intro capacity system before during rest
  obtain ⟨-, size, room⟩ := (owner_asks (fun _ => 0) 0 before during rest).1
    fun move member => ⟨0, List.eq_of_mem_replicate member⟩
  have one : system.pending (before ++ during) = 1 := by decide
  rw [size] at room
  exact ⟨size.trans one, fun front back split => one ▸ room front back split⟩

end MarketDataFabric.Runtime
