/-
**64-bit counters that run around an array of `2 ^ width` places.**

A counter is never reduced: it wraps around `2 ^ 64`, and its low bits are its place. Two counters
in one window of the array's length have different places, wherever the window starts
(`place_injective`), and the distance of two counters is the number of steps between them. Read the
wrong way around, that distance is short only after whole rounds (`distance_lt_iff`).
-/

import Mathlib.Data.Nat.ModEq
import Mathlib.Data.UInt

namespace MarketDataFabric.Library.Circular

variable {width : Nat}

/-- The low bits of a counter are its place. -/
theorem and_mask_toNat (narrow : width < 64) (counter : UInt64) :
    (counter &&& UInt64.ofNat (2 ^ width - 1)).toNat = counter.toNat % 2 ^ width := by
  have small : 2 ^ width - 1 < 2 ^ 64 :=
    lt_of_le_of_lt (Nat.sub_le _ _) (Nat.pow_lt_pow_right (by decide) narrow)
  rw [UInt64.toNat_and, UInt64.toNat_ofNat_of_lt' small, Nat.and_two_pow_sub_one_eq_mod]

/-- Wrapping around `2 ^ 64` does not show in a place. -/
theorem place_add (narrow : width < 64) (counter : UInt64) (offset : Nat) :
    (counter + UInt64.ofNat offset).toNat % 2 ^ width = (counter.toNat + offset) % 2 ^ width := by
  have divides : 2 ^ width ∣ 2 ^ 64 := Nat.pow_dvd_pow 2 (Nat.le_of_lt narrow)
  rw [UInt64.toNat_add, Nat.mod_mod_of_dvd _ divides, UInt64.toNat_ofNat', Nat.add_mod,
    Nat.mod_mod_of_dvd _ divides, ← Nat.add_mod]

/-- **Places of one window are different.** -/
theorem place_injective (narrow : width < 64) {counter : UInt64} {first second : Nat}
    (firstInside : first < 2 ^ width) (secondInside : second < 2 ^ width)
    (same : (counter + UInt64.ofNat first).toNat % 2 ^ width =
      (counter + UInt64.ofNat second).toNat % 2 ^ width) : first = second := by
  rw [place_add narrow, place_add narrow] at same
  have congruent : first ≡ second [MOD 2 ^ width] := Nat.ModEq.add_left_cancel' counter.toNat same
  exact congruent.eq_of_lt_of_lt firstInside secondInside

/-- The distance from a counter to one `steps` ahead of it. -/
theorem add_sub_self (counter : UInt64) (steps : Nat) :
    counter + UInt64.ofNat steps - counter = UInt64.ofNat steps := by
  rw [UInt64.add_comm, UInt64.add_sub_cancel]

/-- One step further. -/
theorem add_succ (counter : UInt64) (steps : Nat) :
    counter + UInt64.ofNat (steps + 1) = counter + UInt64.ofNat steps + 1 := by
  rw [UInt64.ofNat_add, ← UInt64.add_assoc]
  rfl

/-- One step further, counted from the next place. -/
theorem add_succ' (counter : UInt64) (steps : Nat) :
    counter + UInt64.ofNat (steps + 1) = counter + 1 + UInt64.ofNat steps := by
  rw [add_succ, UInt64.add_assoc, UInt64.add_assoc, UInt64.add_comm 1]

theorem ofNat_le_ofNat_iff {first second : Nat} (firstFits : first < 2 ^ 64)
    (secondFits : second < 2 ^ 64) : UInt64.ofNat first ≤ UInt64.ofNat second ↔ first ≤ second := by
  rw [UInt64.le_iff_toNat_le, UInt64.toNat_ofNat_of_lt' firstFits,
    UInt64.toNat_ofNat_of_lt' secondFits]

/-- A counter meets itself only after no steps, or after a whole round of `2 ^ 64`. -/
theorem add_ofNat_eq_self_iff {counter : UInt64} {steps : Nat} (fits : steps < 2 ^ 64) :
    counter + UInt64.ofNat steps = counter ↔ steps = 0 := by
  constructor
  · intro same
    have zero := add_sub_self counter steps
    rw [same, UInt64.sub_self] at zero
    have words := congrArg UInt64.toNat zero
    rw [UInt64.toNat_ofNat_of_lt' fits] at words
    exact words.symm
  · rintro rfl
    exact UInt64.add_zero counter

/-- Two counters that left one place differ by their steps. -/
theorem add_sub_add (counter : UInt64) (front back : Nat) :
    counter + UInt64.ofNat front - (counter + UInt64.ofNat back) =
      UInt64.ofNat front - UInt64.ofNat back := by
  rw [UInt64.sub_eq_iff_eq_add, UInt64.add_comm counter (UInt64.ofNat back), ← UInt64.add_assoc,
    UInt64.sub_add_cancel, UInt64.add_comm]

/-- **Whole rounds of `2 ^ 64`**, but for fewer than `slack` steps. No step at all is no round. -/
def WholeRounds (slack steps : Nat) : Prop :=
  ∃ rounds, steps ≤ rounds * 2 ^ 64 ∧ rounds * 2 ^ 64 < steps + slack

/-- **The distance from one counter to another** that is less than `slack` steps behind it, or any
number of steps ahead of it: the unsigned difference is below `slack` when the steps ahead are whole
rounds. -/
theorem distance_lt_iff (counter : UInt64) {front back slack : Nat} (narrow : slack ≤ 2 ^ 64)
    (near : front < back + slack) :
    (counter + UInt64.ofNat front - (counter + UInt64.ofNat back)).toNat < slack ↔
      WholeRounds slack (back - front) := by
  rw [add_sub_add, UInt64.toNat_sub, UInt64.toNat_ofNat', UInt64.toNat_ofNat']
  constructor
  · intro short
    exact ⟨(back - front + (2 ^ 64 - 1)) / 2 ^ 64, by omega, by omega⟩
  · rintro ⟨rounds, reached, close⟩
    omega

end MarketDataFabric.Library.Circular
