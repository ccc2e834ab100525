/-
**The single-producer, single-consumer ring**, `runtime/spsc_ring.hpp`.

* `SpscRing`, `tryPush`, `tryPop` — the ring and its two operations, each taken as a whole.
* `Holds` — what the ring holds: the window of slots between its two counters. One lemma for each
  thing a step can do to a ring (`put_write`, `put_read`, `advance_write`, `advance_read`) and what
  the two tests mean (`full_iff`, `empty_iff`).
* `tryPush_holds`, `tryPop_holds` — hence the two operations are those of a bounded FIFO.
-/

import MarketDataFabric.Library.BoundedFifo
import MarketDataFabric.Library.Circular
import Mathlib.Logic.Function.Basic

namespace MarketDataFabric.Runtime

open Library BoundedFifo

def isPowerOfTwoV (value : Nat) : Bool := value ≠ 0 ∧ value &&& (value - 1) = 0

/-- A capacity that passes the static assertions of the ring. -/
structure RingCapacity where
  value : Nat
  two_le : 2 ≤ value
  powerOfTwo : isPowerOfTwoV value = true
  fits : value < 2 ^ 64

namespace RingCapacity

variable (capacity : RingCapacity)

theorem exists_width : ∃ width < 64, capacity.value = 2 ^ width := by
  obtain ⟨nonzero, masked⟩ := of_decide_eq_true capacity.powerOfTwo
  obtain ⟨width, power⟩ :=
    Nat.ne_zero_and_sub_one_eq_zero_iff_isPowerOfTwo.mp ⟨nonzero, masked⟩
  refine ⟨width, ?_, power⟩
  have fits := capacity.fits
  rw [power] at fits
  exact (Nat.pow_lt_pow_iff_right (by decide)).mp fits

theorem pos : 0 < capacity.value := Nat.lt_of_lt_of_le (by decide) capacity.two_le

def kIndexMask : UInt64 := UInt64.ofNat (capacity.value - 1)

theorem and_kIndexMask_toNat (index : UInt64) :
    (index &&& capacity.kIndexMask).toNat = index.toNat % capacity.value := by
  obtain ⟨width, narrow, power⟩ := capacity.exists_width
  rw [kIndexMask, power]
  exact Circular.and_mask_toNat narrow index

/-- The place `index & kIndexMask` in the buffer. -/
def slot (index : UInt64) : Fin capacity.value :=
  ⟨(index &&& capacity.kIndexMask).toNat, by
    rw [and_kIndexMask_toNat]
    exact Nat.mod_lt _ capacity.pos⟩

theorem slot_val (index : UInt64) : (capacity.slot index).val = index.toNat % capacity.value :=
  capacity.and_kIndexMask_toNat index

/-- **Slots of one window are different.** -/
theorem slot_injective {index : UInt64} {first second : Nat} (firstInside : first < capacity.value)
    (secondInside : second < capacity.value)
    (same : capacity.slot (index + UInt64.ofNat first) =
      capacity.slot (index + UInt64.ofNat second)) : first = second := by
  have places := congrArg Fin.val same
  rw [slot_val, slot_val] at places
  obtain ⟨width, narrow, power⟩ := capacity.exists_width
  rw [power] at firstInside secondInside places
  exact Circular.place_injective narrow firstInside secondInside places

end RingCapacity

structure SpscRing (capacity : RingCapacity) (α : Type) where
  buffer : Fin capacity.value → α
  writeIndex : UInt64 := 0
  readIndex : UInt64 := 0

namespace SpscRing

variable {capacity : RingCapacity} {α : Type}

def get (ring : SpscRing capacity α) (index : UInt64) : α := ring.buffer (capacity.slot index)

def put (ring : SpscRing capacity α) (index : UInt64) (value : α) : SpscRing capacity α :=
  { ring with buffer := Function.update ring.buffer (capacity.slot index) value }

def tryPush (ring : SpscRing capacity α) (value : α) : Bool × SpscRing capacity α :=
  let write := ring.writeIndex
  let read := ring.readIndex
  if write - read ≥ UInt64.ofNat capacity.value then
    (false, ring)
  else
    (true, { ring.put write value with writeIndex := write + 1 })

/-- A slot that is moved out is cleared to `T{}` at once. -/
def tryPop [Inhabited α] (ring : SpscRing capacity α) (out : α) :
    Bool × α × SpscRing capacity α :=
  let read := ring.readIndex
  let write := ring.writeIndex
  if read = write then
    (false, out, ring)
  else
    (true, ring.get read, { ring.put read default with readIndex := read + 1 })

/-- The values between the two counters. -/
def contents (ring : SpscRing capacity α) : List α :=
  (List.range (ring.writeIndex - ring.readIndex).toNat).map fun offset =>
    ring.get (ring.readIndex + UInt64.ofNat offset)

section Access

variable (ring : SpscRing capacity α) (index : UInt64) (value : α)

@[simp] theorem put_readIndex : (ring.put index value).readIndex = ring.readIndex := rfl

@[simp] theorem get_put_self : (ring.put index value).get index = value :=
  Function.update_self ..

theorem get_put_of_ne {other : UInt64} (apart : capacity.slot other ≠ capacity.slot index) :
    (ring.put index value).get other = ring.get other :=
  Function.update_of_ne apart ..

end Access

/-! ### What a ring holds -/

/-- **The ring holds `held`**, from its read index on. While its head is `taken` the first slot may
contain anything. -/
structure Holds (ring : SpscRing capacity α) (held : List α) (taken : Bool) : Prop where
  written : ring.writeIndex = ring.readIndex + UInt64.ofNat held.length
  bounded : held.length ≤ capacity.value
  stored : ∀ offset (inside : offset < held.length), (taken = true → offset ≠ 0) →
    ring.get (ring.readIndex + UInt64.ofNat offset) = held[offset]

namespace Holds

variable {ring : SpscRing capacity α} {held : List α} {taken : Bool}

theorem length_lt (holds : ring.Holds held taken) : held.length < 2 ^ 64 :=
  Nat.lt_of_le_of_lt holds.bounded capacity.fits

/-- The full test of the producer. -/
theorem full_iff (holds : ring.Holds held taken) :
    ring.writeIndex - ring.readIndex ≥ UInt64.ofNat capacity.value ↔
      held.length = capacity.value := by
  rw [holds.written, Circular.add_sub_self, ge_iff_le,
    Circular.ofNat_le_ofNat_iff capacity.fits holds.length_lt]
  exact ⟨fun full => Nat.le_antisymm holds.bounded full, fun full => full.ge⟩

/-- The empty test of the consumer. -/
theorem empty_iff (holds : ring.Holds held taken) :
    ring.readIndex = ring.writeIndex ↔ held = [] := by
  rw [holds.written, eq_comm, Circular.add_ofNat_eq_self_iff holds.length_lt,
    List.length_eq_zero_iff]

/-- The slot of the producer is none of those in use. -/
theorem slot_write_ne (holds : ring.Holds held taken) (room : held.length < capacity.value)
    {offset : Nat} (inside : offset < held.length) :
    capacity.slot (ring.readIndex + UInt64.ofNat offset) ≠ capacity.slot ring.writeIndex := by
  rw [holds.written]
  intro same
  have equal := capacity.slot_injective (Nat.lt_trans inside room) room same
  exact Nat.ne_of_lt inside equal

/-- The slot of the consumer is not the producer's. -/
theorem slot_read_ne (holds : ring.Holds held taken) (room : held.length < capacity.value)
    (some : held ≠ []) : capacity.slot ring.readIndex ≠ capacity.slot ring.writeIndex := by
  have apart := holds.slot_write_ne room (List.length_pos_iff.mpr some)
  rwa [show ring.readIndex + UInt64.ofNat 0 = ring.readIndex from UInt64.add_zero _] at apart

/-- Writing the producer's slot disturbs nothing. -/
theorem put_write (holds : ring.Holds held taken) (room : held.length < capacity.value)
    (value : α) : (ring.put ring.writeIndex value).Holds held taken where
  written := holds.written
  bounded := holds.bounded
  stored offset inside fresh := by
    rw [put_readIndex, get_put_of_ne _ _ _ (holds.slot_write_ne room inside)]
    exact holds.stored offset inside fresh

/-- Writing the consumer's slot takes the head. -/
theorem put_read (holds : ring.Holds held taken) (value : α) :
    (ring.put ring.readIndex value).Holds held true where
  written := holds.written
  bounded := holds.bounded
  stored offset inside fresh := by
    have later := fresh rfl
    have apart : capacity.slot (ring.readIndex + UInt64.ofNat offset) ≠
        capacity.slot ring.readIndex := by
      intro same
      have here : capacity.slot ring.readIndex =
          capacity.slot (ring.readIndex + UInt64.ofNat 0) :=
        congrArg capacity.slot (UInt64.add_zero _).symm
      rw [here] at same
      exact later (capacity.slot_injective (Nat.lt_of_lt_of_le inside holds.bounded) capacity.pos
        same)
    rw [put_readIndex, get_put_of_ne _ _ _ apart]
    exact holds.stored offset inside fun _ => later

/-- Publishing the producer's slot appends its value. -/
theorem advance_write (holds : ring.Holds held taken) (room : held.length < capacity.value)
    {value : α} (wrote : ring.get ring.writeIndex = value) :
    ({ ring with writeIndex := ring.writeIndex + 1 } : SpscRing capacity α).Holds (held ++ [value])
      taken where
  written := by
    rw [List.length_append, List.length_singleton, Circular.add_succ, ← holds.written]
  bounded := by
    rw [List.length_append]
    exact room
  stored offset inside fresh := by
    show ring.get (ring.readIndex + UInt64.ofNat offset) = _
    rw [List.length_append, List.length_singleton] at inside
    by_cases old : offset < held.length
    · rw [List.getElem_append_left old]
      exact holds.stored offset old fresh
    · obtain rfl : offset = held.length := by omega
      rw [List.getElem_concat_length rfl, ← holds.written]
      exact wrote

/-- Publishing the consumer's slot drops the head. -/
theorem advance_read {value : α} (holds : ring.Holds (value :: held) taken) :
    ({ ring with readIndex := ring.readIndex + 1 } : SpscRing capacity α).Holds held false where
  written := by
    rw [← Circular.add_succ', ← List.length_cons]
    exact holds.written
  bounded := Nat.le_of_succ_le holds.bounded
  stored offset inside _ := by
    show ring.get (ring.readIndex + 1 + UInt64.ofNat offset) = _
    rw [← Circular.add_succ']
    exact holds.stored (offset + 1) (Nat.succ_lt_succ inside) fun _ => Nat.succ_ne_zero offset

/-- The head is in its slot until it is taken. -/
theorem get_read {value : α} (holds : ring.Holds (value :: held) false) :
    ring.get ring.readIndex = value := by
  have head := holds.stored 0 (Nat.succ_pos _) fun taken => by cases taken
  rwa [show ring.readIndex + UInt64.ofNat 0 = ring.readIndex from UInt64.add_zero _] at head

theorem contents_eq (holds : ring.Holds held false) : ring.contents = held := by
  have distance : (ring.writeIndex - ring.readIndex).toNat = held.length := by
    rw [holds.written, Circular.add_sub_self, UInt64.toNat_ofNat_of_lt' holds.length_lt]
  refine List.ext_getElem (by simp [contents, distance]) fun offset _ inside => ?_
  simp only [contents, List.getElem_map, List.getElem_range]
  exact holds.stored offset inside fun taken => by cases taken

end Holds

/-! ### The operations as a whole -/

/-- A push appends its value, if there is room. -/
theorem tryPush_holds {ring : SpscRing capacity α} {held : List α} (holds : ring.Holds held false)
    (value : α) :
    if held.length < capacity.value then
      (ring.tryPush value).1 = true ∧ (ring.tryPush value).2.Holds (held ++ [value]) false
    else ring.tryPush value = (false, ring) := by
  unfold tryPush
  dsimp only
  split_ifs with room full full
  · exact absurd (holds.full_iff.mp full) (Nat.ne_of_lt room)
  · exact ⟨rfl, (holds.put_write room value).advance_write room (get_put_self ..)⟩
  · rfl
  · exact absurd (Nat.le_antisymm holds.bounded (Nat.le_of_not_lt room)) (mt holds.full_iff.mpr full)

/-- A pop takes the head, if there is one. -/
theorem tryPop_holds [Inhabited α] {ring : SpscRing capacity α} {held : List α}
    (holds : ring.Holds held false) (out : α) :
    match held with
    | [] => ring.tryPop out = (false, out, ring)
    | value :: later => (ring.tryPop out).1 = true ∧ (ring.tryPop out).2.1 = value ∧
        (ring.tryPop out).2.2.Holds later false := by
  unfold tryPop
  dsimp only
  cases held with
  | nil => exact if_pos (holds.empty_iff.mpr rfl)
  | cons value later =>
      have some : ¬ ring.readIndex = ring.writeIndex := fun empty => by
        cases holds.empty_iff.mp empty
      simp only [if_neg some]
      exact ⟨trivial, holds.get_read, (holds.put_read default).advance_read⟩

end SpscRing

end MarketDataFabric.Runtime
