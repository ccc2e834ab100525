/-
**Stable identifiers**, `stable_id32` of `feed/feed.hpp`: the 32-bit FNV-1a hash of a text, with `1` in
the place of `0`.

* `hashBytes_injective` — the hash of a fixed text is a bijection of the word it starts from: the
  factor is odd and has an inverse.
* `hash_collide_iff` — hence a common end cancels, and one different byte makes a different hash.
* `stable_ids_apart` — what this says of identifiers.
-/

import Mathlib.Data.List.Basic

namespace MarketDataFabric.Feed

/-- One round of the loop. -/
def hashByte (hash : UInt32) (byte : UInt8) : UInt32 := (hash ^^^ byte.toUInt32) * 16777619

def hashBytes (hash : UInt32) (bytes : List UInt8) : UInt32 := bytes.foldl hashByte hash

def stableId32 (value : List UInt8) : UInt32 :=
  let hash := hashBytes 2166136261 value
  if hash = 0 then 1 else hash

/-- The factor has an inverse. -/
theorem prime_inverse : (16777619 : UInt32) * 899433627 = 1 := by decide

theorem mul_prime_cancel {one other : UInt32} (same : one * 16777619 = other * 16777619) :
    one = other := by
  have back := congrArg (· * 899433627) same
  simpa only [UInt32.mul_assoc, prime_inverse, UInt32.mul_one] using back

/-- **A round loses nothing of the hash.** -/
theorem hashByte_injective {one other : UInt32} {byte : UInt8}
    (same : hashByte one byte = hashByte other byte) : one = other := by
  have undone := congrArg (· ^^^ byte.toUInt32) (mul_prime_cancel same)
  simpa only [UInt32.xor_assoc, UInt32.xor_self, UInt32.xor_zero] using undone

/-- Nor of the byte. -/
theorem hashByte_byte_injective {hash : UInt32} {one other : UInt8}
    (same : hashByte hash one = hashByte hash other) : one = other := by
  have undone := congrArg (hash ^^^ ·) (mul_prime_cancel same)
  simp only [← UInt32.xor_assoc, UInt32.xor_self, UInt32.zero_xor] at undone
  have values := congrArg UInt32.toNat undone
  rw [UInt8.toNat_toUInt32, UInt8.toNat_toUInt32] at values
  exact UInt8.toNat_inj.mp values

theorem hashBytes_injective {one other : UInt32} {bytes : List UInt8}
    (same : hashBytes one bytes = hashBytes other bytes) : one = other := by
  induction bytes generalizing one other with
  | nil => exact same
  | cons byte rest ih => exact hashByte_injective (ih same)

theorem hashBytes_append (hash : UInt32) (front back : List UInt8) :
    hashBytes hash (front ++ back) = hashBytes (hashBytes hash front) back := List.foldl_append

/-- **A common end cancels.** -/
theorem hash_collide_iff (hash : UInt32) (front other back : List UInt8) :
    hashBytes hash (front ++ back) = hashBytes hash (other ++ back) ↔
      hashBytes hash front = hashBytes hash other := by
  rw [hashBytes_append, hashBytes_append]
  exact ⟨hashBytes_injective, fun same => by rw [same]⟩

/-- The two hashes that have one identifier. -/
def Folded (one other : UInt32) : Prop := (one = 0 ∧ other = 1) ∨ (one = 1 ∧ other = 0)

/-- Two identifiers are the same where the hashes are, or where they are `0` and `1`. -/
theorem stableId32_eq_iff (value other : List UInt8) :
    stableId32 value = stableId32 other ↔
      hashBytes 2166136261 value = hashBytes 2166136261 other ∨
        Folded (hashBytes 2166136261 value) (hashBytes 2166136261 other) := by
  unfold stableId32 Folded
  generalize hashBytes 2166136261 value = one
  generalize hashBytes 2166136261 other = two
  dsimp only
  by_cases here : one = 0 <;> by_cases there : two = 0
  · simp [here, there]
  · simp [here, there, eq_comm]
  · simp [here, there]
  · simp [here, there]

theorem stableId32_ne_zero (value : List UInt8) : stableId32 value ≠ 0 := by
  unfold stableId32
  dsimp only
  split_ifs with folded
  · decide
  · exact folded

/-- **Identifiers of texts that differ in one byte are different**, but for the two hashes that are
folded into one identifier; no text has the identifier `0`. For texts with a common end it is the beginnings
that collide. -/
theorem stable_ids_apart :
    (∀ value, stableId32 value ≠ 0) ∧
    (∀ front back one two,
      stableId32 (front ++ one :: back) = stableId32 (front ++ two :: back) ↔
        one = two ∨ Folded (hashBytes 2166136261 (front ++ one :: back))
          (hashBytes 2166136261 (front ++ two :: back))) ∧
    ∀ front other back, stableId32 (front ++ back) = stableId32 (other ++ back) ↔
      hashBytes 2166136261 front = hashBytes 2166136261 other ∨
        Folded (hashBytes 2166136261 (front ++ back)) (hashBytes 2166136261 (other ++ back)) := by
  refine ⟨stableId32_ne_zero, fun front back one two => ?_, fun front other back => ?_⟩
  · rw [stableId32_eq_iff]
    refine or_congr_left ⟨fun same => ?_, fun same => by rw [same]⟩
    rw [List.append_cons, List.append_cons front two, hash_collide_iff, hashBytes_append,
      hashBytes_append] at same
    exact hashByte_byte_injective same
  · rw [stableId32_eq_iff, hash_collide_iff]

end MarketDataFabric.Feed
