/-
**The observer of a ring**: a third thread that calls `empty()`, `full()` or `size_estimate()`. Each
call loads one index and then the other, and the two sides may take any steps before, between and
after the two loads.

* `SpscRing.empty`, `SpscRing.full`, `SpscRing.sizeEstimate` — a call that meets the ring as it is
  `first` at its first load, and as it is `last` at its second.
* `counters_after` — **the two counters count** what is pushed and what is popped.
* `empty_honest` — `empty()` loads the read index first, and a ring it calls empty is empty.
* `empty_linearizable` — **either answer of `empty()` is right** at some moment of the call.
* `sizeEstimate_le_iff`, `full_honest_iff` — the other two load the write index first. For every
  schedule, when they answer truly: the consumer must not overtake the index that was loaded.
-/

import MarketDataFabric.Runtime.SpscSystem

namespace MarketDataFabric.Runtime

open Library BoundedFifo

namespace SpscRing

variable {capacity : RingCapacity} {α : Type}

def empty (first last : SpscRing capacity α) : Bool :=
  let read := first.readIndex
  let write := last.writeIndex
  read = write

def full (first last : SpscRing capacity α) : Bool :=
  let write := first.writeIndex
  let read := last.readIndex
  write - read ≥ UInt64.ofNat capacity.value

def sizeEstimate (first last : SpscRing capacity α) : UInt64 :=
  let write := first.writeIndex
  let read := last.readIndex
  write - read

end SpscRing

/-! ### What the counters count -/

section Counters

variable {capacity : RingCapacity} {α : Type} [Inhabited α]

/-- A step moves the read index by the value it pops. -/
theorem step_readIndex {held : List α} {system : System capacity α}
    (represents : Represents held system) (move : Move α) :
    (system.step move).1.ring.readIndex =
      system.ring.readIndex + UInt64.ofNat (poppedValues [(system.step move).2]).length := by
  have stays : system.ring.readIndex = system.ring.readIndex + UInt64.ofNat 0 :=
    (UInt64.add_zero _).symm
  cases move with
  | producer value =>
      show (system.stepProducer value).1.ring.readIndex =
        _ + UInt64.ofNat (poppedValues [(system.stepProducer value).2]).length
      unfold System.stepProducer
      cases system.producer with
      | idle | loadedRead | wroteSlot => exact stays
      | loadedWrite pushing write =>
          dsimp only
          split_ifs <;> exact stays
  | consumer left =>
      have fits := represents.consumer
      show (system.stepConsumer left).1.ring.readIndex =
        _ + UInt64.ofNat (poppedValues [(system.stepConsumer left).2]).length
      unfold System.stepConsumer
      cases stage : system.consumer with
      | idle | loadedWrite | movedOut => exact stays
      | loadedRead read =>
          dsimp only
          split_ifs <;> exact stays
      | cleared read out =>
          rw [stage] at fits
          obtain ⟨rfl, -⟩ := fits
          rfl

namespace System

/-- How many values a schedule pushes. -/
def pushedCount (system : System capacity α) (moves : List (Move α)) : Nat :=
  (pushedValues (system.answers moves)).length

/-- How many values a schedule pops. -/
def poppedCount (system : System capacity α) (moves : List (Move α)) : Nat :=
  (poppedValues (system.answers moves)).length

/-- The ring holds `capacity` values at some moment of the schedule `during`, which comes after
`before`. -/
def FullDuring (system : System capacity α) (before during : List (Move α)) : Prop :=
  ∃ front back, during = front ++ back ∧
    system.pushedCount (before ++ front) = system.poppedCount (before ++ front) + capacity.value

/-- Nothing popped is taken back. -/
theorem poppedCount_le_append (system : System capacity α) (before during : List (Move α)) :
    system.poppedCount before ≤ system.poppedCount (before ++ during) := by
  have answered : system.answers (before ++ during) =
      system.answers before ++ (system.after before).answers during :=
    Machine.outputs_append System.step system before during
  rw [poppedCount, poppedCount, answered, poppedValues_append, List.length_append]
  exact Nat.le_add_right _ _

end System

variable (buffer : Fin capacity.value → α) (index : UInt64)

theorem readIndex_after (moves : List (Move α)) :
    ((System.start buffer index).after moves).ring.readIndex =
      index + UInt64.ofNat ((System.start buffer index).poppedCount moves) := by
  have counted := Machine.outputs_history System.step
    (fun past (system : System capacity α) => (∃ held, Represents held system) ∧
      system.ring.readIndex = index + UInt64.ofNat (poppedValues past).length)
    (fun past system move here => by
      obtain ⟨⟨held, represents⟩, reached⟩ := here
      obtain ⟨later, -, represented⟩ := simulates_fifo held system move represents
      refine ⟨⟨later, represented⟩, ?_⟩
      rw [step_readIndex represents move, reached, poppedValues_append, List.length_append,
        UInt64.ofNat_add, UInt64.add_assoc])
    [] (System.start buffer index) moves
    ⟨⟨[], represents_start buffer index⟩, (UInt64.add_zero index).symm⟩
  exact counted.2

/-- **The two counters count**, from the index they start at, and what is pushed is ahead of what is
popped, by at most the capacity. -/
theorem counters_after (moves : List (Move α)) :
    let system := System.start buffer index
    (system.after moves).ring.writeIndex = index + UInt64.ofNat (system.pushedCount moves) ∧
      (system.after moves).ring.readIndex = index + UInt64.ofNat (system.poppedCount moves) ∧
      system.poppedCount moves ≤ system.pushedCount moves ∧
      system.pushedCount moves ≤ system.poppedCount moves + capacity.value := by
  intro system
  obtain ⟨held, represents, conserved⟩ := represents_after buffer index moves
  have long : system.pushedCount moves = system.poppedCount moves + held.length := by
    rw [System.pushedCount, conserved, List.length_append]
    rfl
  have read := readIndex_after buffer index moves
  refine ⟨?_, read, ?_, ?_⟩
  · rw [represents.holds.written, read, long, UInt64.ofNat_add, UInt64.add_assoc]
  · rw [long]
    exact Nat.le_add_right _ _
  · rw [long]
    exact Nat.add_le_add_left represents.holds.bounded _

end Counters

/-! ### When the observer is right -/

section Observer

variable {capacity : RingCapacity} {α : Type} [Inhabited α] (buffer : Fin capacity.value → α)
  (index : UInt64) (before during : List (Move α))

/-- **A ring that `empty()` calls empty is empty** at the second load, unless `2 ^ 64` values are pushed
since the first one. -/
theorem empty_honest :
    let system := System.start buffer index
    system.pushedCount (before ++ during) < system.poppedCount before + 2 ^ 64 →
    SpscRing.empty (system.after before).ring (system.after (before ++ during)).ring = true →
      system.pushedCount (before ++ during) = system.poppedCount (before ++ during) := by
  intro system few told
  obtain ⟨written, -, behind, -⟩ := counters_after buffer index (before ++ during)
  have behind : system.poppedCount (before ++ during) ≤ system.pushedCount (before ++ during) :=
    behind
  have grows := system.poppedCount_le_append before during
  obtain ⟨steps, count⟩ := Nat.exists_eq_add_of_le (Nat.le_trans grows behind)
  have met : index + UInt64.ofNat (system.poppedCount before) + UInt64.ofNat steps =
      index + UInt64.ofNat (system.poppedCount before) := by
    have same := of_decide_eq_true told
    rw [written, readIndex_after] at same
    rw [UInt64.add_assoc, ← UInt64.ofNat_add, ← count]
    exact same.symm
  have none : steps = 0 := (Circular.add_ofNat_eq_self_iff (by omega)).mp met
  omega

/-- **A ring that stays empty is left alone**: if it is empty at every moment of the call, nothing is
pushed in it. A push would be seen before the pop that takes it away. -/
theorem pushedCount_of_empty
    (stays : ∀ front back, during = front ++ back →
      (System.start buffer index).pushedCount (before ++ front) =
        (System.start buffer index).poppedCount (before ++ front)) :
    (System.start buffer index).pushedCount (before ++ during) =
      (System.start buffer index).pushedCount before := by
  induction during using List.reverseRecOn with
  | nil => rw [List.append_nil]
  | append_singleton front move ih =>
      have earlier := ih fun first rest split =>
        stays first (rest ++ [move]) (by rw [split, List.append_assoc])
      have still := stays front [move] rfl
      have empty := stays (front ++ [move]) [] (List.append_nil _).symm
      rw [← List.append_assoc] at empty ⊢
      rw [← earlier]
      have answered : (System.start buffer index).answers ((before ++ front) ++ [move]) =
          (System.start buffer index).answers (before ++ front) ++
            [(((System.start buffer index).after (before ++ front)).step move).2] :=
        Machine.outputs_append System.step _ (before ++ front) [move]
      have apart := pushes_or_pops (((System.start buffer index).after (before ++ front)).step move).2
      rw [System.pushedCount, System.poppedCount] at still
      rw [System.pushedCount, System.poppedCount, answered, pushedValues_append,
        poppedValues_append, List.length_append, List.length_append] at empty
      rw [System.pushedCount, System.pushedCount, answered, pushedValues_append, List.length_append]
      omega

/-- The ring holds a value at some moment of the schedule `during`, which comes after `before`. -/
def System.HoldsDuring (system : System capacity α) (before during : List (Move α)) : Prop :=
  ∃ front back, during = front ++ back ∧
    system.poppedCount (before ++ front) < system.pushedCount (before ++ front)

/-- **Either answer of `empty()` is right at some moment of the call**, whatever the two sides do during
it: a ring that is called empty is empty at the second load, unless `2 ^ 64` values are pushed since the
first, and a ring that is called non-empty holds a value at some moment of the call. -/
theorem empty_linearizable (buffer : Fin capacity.value → α) (index : UInt64)
    (before during : List (Move α)) :
    let system := System.start buffer index
    let answer := SpscRing.empty (system.after before).ring (system.after (before ++ during)).ring
    (system.pushedCount (before ++ during) < system.poppedCount before + 2 ^ 64 → answer = true →
      system.pushedCount (before ++ during) = system.poppedCount (before ++ during)) ∧
    (answer = false → system.HoldsDuring before during) := by
  intro system answer
  refine ⟨empty_honest buffer index before during, fun told => ?_⟩
  by_contra never
  have stays (front back : List (Move α)) (split : during = front ++ back) :
      system.pushedCount (before ++ front) = system.poppedCount (before ++ front) := by
    refine Nat.le_antisymm (Nat.le_of_not_lt fun holds => never ⟨front, back, split, holds⟩) ?_
    exact (counters_after buffer index (before ++ front)).2.2.1
  have first := stays [] during rfl
  have unpushed := pushedCount_of_empty buffer index before during stays
  rw [List.append_nil] at first
  have same : answer = true := by
    refine decide_eq_true ?_
    rw [readIndex_after, (counters_after buffer index (before ++ during)).1, unpushed, first]
  rw [same] at told
  cases told

/-- The difference of the two loads, where what was pushed before the first is fewer than `slack`
values more than what is popped before the second. -/
theorem sizeEstimate_lt_iff {slack : Nat} (narrow : slack ≤ 2 ^ 64) :
    let system := System.start buffer index
    system.pushedCount before < system.poppedCount (before ++ during) + slack →
    ((SpscRing.sizeEstimate (system.after before).ring
        (system.after (before ++ during)).ring).toNat < slack ↔
      Circular.WholeRounds slack
        (system.poppedCount (before ++ during) - system.pushedCount before)) := by
  intro system near
  rw [SpscRing.sizeEstimate, (counters_after buffer index before).1,
    (counters_after buffer index (before ++ during)).2.1]
  exact Circular.distance_lt_iff index narrow near

/-- **When `size_estimate()` is at most the capacity**: what is popped before the second load is no
more than what was pushed before the first, but for whole rounds of the counters. -/
theorem sizeEstimate_le_iff :
    let system := System.start buffer index
    SpscRing.sizeEstimate (system.after before).ring (system.after (before ++ during)).ring ≤
        UInt64.ofNat capacity.value ↔
      Circular.WholeRounds (capacity.value + 1)
        (system.poppedCount (before ++ during) - system.pushedCount before) := by
  intro system
  have near : system.pushedCount before <
      system.poppedCount (before ++ during) + (capacity.value + 1) := by
    have bounded : system.pushedCount before ≤ system.poppedCount before + capacity.value :=
      (counters_after buffer index before).2.2.2
    have grows := system.poppedCount_le_append before during
    omega
  rw [UInt64.le_iff_toNat_le, UInt64.toNat_ofNat_of_lt' capacity.fits, ← Nat.lt_succ_iff]
  exact sizeEstimate_lt_iff buffer index before during capacity.fits near

/-- **When `full()` is true only of a ring that was full**: the same, or the ring was full at some
moment of the call anyway. -/
theorem full_honest_iff :
    let system := System.start buffer index
    (SpscRing.full (system.after before).ring (system.after (before ++ during)).ring = true →
        system.FullDuring before during) ↔
      Circular.WholeRounds capacity.value
          (system.poppedCount (before ++ during) - system.pushedCount before) ∨
        system.FullDuring before during := by
  intro system
  have bounded : system.pushedCount before ≤ system.poppedCount before + capacity.value :=
    (counters_after buffer index before).2.2.2
  have grows := system.poppedCount_le_append before during
  by_cases near : system.pushedCount before <
      system.poppedCount (before ++ during) + capacity.value
  · have short := sizeEstimate_lt_iff buffer index before during (Nat.le_of_lt capacity.fits) near
    have told : SpscRing.full (system.after before).ring (system.after (before ++ during)).ring =
        true ↔ ¬ Circular.WholeRounds capacity.value
          (system.poppedCount (before ++ during) - system.pushedCount before) := by
      rw [← short, Nat.not_lt, SpscRing.full, decide_eq_true_iff, ge_iff_le,
        UInt64.le_iff_toNat_le, UInt64.toNat_ofNat_of_lt' capacity.fits]
      rfl
    rw [told, or_iff_not_imp_left]
  · -- nothing was popped since the first load, and the ring was full at that moment
    have full : system.FullDuring before during := by
      refine ⟨[], during, rfl, ?_⟩
      rw [List.append_nil]
      omega
    exact ⟨fun _ => Or.inr full, fun _ _ => full⟩

end Observer

end MarketDataFabric.Runtime
