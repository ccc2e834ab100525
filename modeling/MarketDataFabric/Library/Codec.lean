/-
**Fixed-width byte codecs.**

`FixedCodec α` writes every `α` in the same number of bytes and reads every byte string of that
length back, with both round trips as fields: the memory image of a packed record. Records are built
from `word`, `byteArray`, `pair` and `iso`.

`overlay` is what an in-place read does: the bytes that arrive replace the front of the old image.
-/

import Mathlib.Algebra.Group.Nat.Defs
import Mathlib.Data.Nat.Basic

namespace MarketDataFabric.Library

/-- A fixed-width codec with both round trips. `decode` is total; what it does to a byte string of
another length is not specified. -/
structure FixedCodec (α : Type) where
  size : Nat
  encode : α → List UInt8
  decode : List UInt8 → α
  length_encode : ∀ value, (encode value).length = size
  decode_encode : ∀ value, decode (encode value) = value
  encode_decode : ∀ bytes, bytes.length = size → encode (decode bytes) = bytes

/-- The bytes that arrived, over the image that was there. -/
def overlay (old new : List UInt8) : List UInt8 := new ++ old.drop new.length

theorem overlay_of_length {old new : List UInt8} (enough : old.length ≤ new.length) :
    overlay old new = new := by
  rw [overlay, List.drop_eq_nil_of_le enough, List.append_nil]

theorem overlay_length {old new : List UInt8} (inside : new.length ≤ old.length) :
    (overlay old new).length = old.length := by
  rw [overlay, List.length_append, List.length_drop]
  omega

@[simp] theorem overlay_take (old new : List UInt8) : (overlay old new).take new.length = new :=
  List.take_left' rfl

/-! ### Little-endian numbers -/

/-- The low `size` bytes of a number, lowest first. -/
def littleEndian : Nat → Nat → List UInt8
  | 0, _ => []
  | size + 1, value => UInt8.ofNat (value % 256) :: littleEndian size (value / 256)

/-- The number that bytes spell, lowest first. -/
def littleEndianValue : List UInt8 → Nat
  | [] => 0
  | byte :: rest => byte.toNat + 256 * littleEndianValue rest

@[simp] theorem littleEndian_length (size value : Nat) :
    (littleEndian size value).length = size := by
  induction size generalizing value with
  | zero => rfl
  | succ size ih => rw [littleEndian, List.length_cons, ih]

theorem littleEndianValue_lt (bytes : List UInt8) :
    littleEndianValue bytes < 256 ^ bytes.length := by
  induction bytes with
  | nil => exact Nat.one_pos
  | cons byte rest ih =>
      have low := byte.toNat_lt
      rw [littleEndianValue, List.length_cons, Nat.pow_succ]
      omega

theorem littleEndianValue_littleEndian {size value : Nat} (fits : value < 256 ^ size) :
    littleEndianValue (littleEndian size value) = value := by
  induction size generalizing value with
  | zero => exact (Nat.lt_one_iff.mp fits).symm
  | succ size ih =>
      have high : value / 256 < 256 ^ size := by
        rw [Nat.pow_succ] at fits
        exact Nat.div_lt_of_lt_mul (by rwa [Nat.mul_comm] at fits)
      have low : (UInt8.ofNat (value % 256)).toNat = value % 256 :=
        UInt8.toNat_ofNat_of_lt' (Nat.mod_lt _ (by decide))
      rw [littleEndian, littleEndianValue, ih high, low]
      exact Nat.mod_add_div value 256

theorem littleEndian_littleEndianValue (bytes : List UInt8) :
    littleEndian bytes.length (littleEndianValue bytes) = bytes := by
  induction bytes with
  | nil => rfl
  | cons byte rest ih =>
      have low := byte.toNat_lt
      have byteBack : (byte.toNat + 256 * littleEndianValue rest) % 256 = byte.toNat := by omega
      have restBack : (byte.toNat + 256 * littleEndianValue rest) / 256 =
          littleEndianValue rest := by omega
      rw [littleEndianValue, List.length_cons, littleEndian, byteBack, restBack, ih,
        UInt8.ofNat_toNat]

namespace FixedCodec

/-- A machine word, given as the numbers below `256 ^ size`. -/
def word {α : Type} (size : Nat) (toNat : α → Nat) (ofNat : Nat → α)
    (bound : ∀ value, toNat value < 256 ^ size) (ofNat_toNat : ∀ value, ofNat (toNat value) = value)
    (toNat_ofNat : ∀ number, number < 256 ^ size → toNat (ofNat number) = number) :
    FixedCodec α where
  size := size
  encode value := littleEndian size (toNat value)
  decode bytes := ofNat (littleEndianValue bytes)
  length_encode value := littleEndian_length size (toNat value)
  decode_encode value := by rw [littleEndianValue_littleEndian (bound value), ofNat_toNat]
  encode_decode bytes long := by
    subst long
    rw [toNat_ofNat _ (littleEndianValue_lt bytes), littleEndian_littleEndianValue]

def uint8 : FixedCodec UInt8 :=
  word 1 UInt8.toNat UInt8.ofNat (fun value => value.toNat_lt) (fun _ => UInt8.ofNat_toNat)
    fun _ bound => UInt8.toNat_ofNat_of_lt' bound

def uint16 : FixedCodec UInt16 :=
  word 2 UInt16.toNat UInt16.ofNat (fun value => value.toNat_lt) (fun _ => UInt16.ofNat_toNat)
    fun _ bound => UInt16.toNat_ofNat_of_lt' bound

def uint32 : FixedCodec UInt32 :=
  word 4 UInt32.toNat UInt32.ofNat (fun value => value.toNat_lt) (fun _ => UInt32.ofNat_toNat)
    fun _ bound => UInt32.toNat_ofNat_of_lt' bound

def uint64 : FixedCodec UInt64 :=
  word 8 UInt64.toNat UInt64.ofNat (fun value => value.toNat_lt) (fun _ => UInt64.ofNat_toNat)
    fun _ bound => UInt64.toNat_ofNat_of_lt' bound

/-- A character or byte array of fixed length. -/
def byteArray (size : Nat) : FixedCodec (Vector UInt8 size) where
  size := size
  encode := Vector.toList
  decode bytes := Vector.ofFn fun index => bytes.getD index 0
  length_encode value := Vector.length_toList
  decode_encode value := by
    ext index bound
    simp
  encode_decode bytes long := by
    subst long
    refine List.ext_getElem (by simp) fun index _ _ => ?_
    simp

/-- Two members, one after the other. -/
def pair {α β : Type} (first : FixedCodec α) (second : FixedCodec β) : FixedCodec (α × β) where
  size := first.size + second.size
  encode value := first.encode value.1 ++ second.encode value.2
  decode bytes := (first.decode (bytes.take first.size), second.decode (bytes.drop first.size))
  length_encode value := by
    rw [List.length_append, first.length_encode, second.length_encode]
  decode_encode value := by
    rw [List.take_left' (first.length_encode _), List.drop_left' (first.length_encode _),
      first.decode_encode, second.decode_encode]
  encode_decode bytes long := by
    rw [first.encode_decode _ (by rw [List.length_take]; omega),
      second.encode_decode _ (by rw [List.length_drop]; omega), List.take_append_drop]

/-- The same bytes, read as another type. -/
def iso {α β : Type} (codec : FixedCodec α) (wrap : α → β) (unwrap : β → α)
    (wrap_unwrap : ∀ value, wrap (unwrap value) = value)
    (unwrap_wrap : ∀ value, unwrap (wrap value) = value) : FixedCodec β where
  size := codec.size
  encode value := codec.encode (unwrap value)
  decode bytes := wrap (codec.decode bytes)
  length_encode value := codec.length_encode (unwrap value)
  decode_encode value := by rw [codec.decode_encode, wrap_unwrap]
  encode_decode bytes long := by rw [unwrap_wrap, codec.encode_decode bytes long]

variable {α : Type} (codec : FixedCodec α)

/-- A read over an old image: the decoded overlay. -/
def decodeOver (old : α) (bytes : List UInt8) : α := codec.decode (overlay (codec.encode old) bytes)

theorem decodeOver_of_length {old : α} {bytes : List UInt8} (whole : bytes.length = codec.size) :
    codec.decodeOver old bytes = codec.decode bytes := by
  rw [decodeOver, overlay_of_length (by rw [codec.length_encode, whole])]

/-- Bytes copied into an array are its front. -/
theorem byteArray_decodeOver_take {size : Nat} (old : Vector UInt8 size) {bytes : List UInt8}
    (inside : bytes.length ≤ size) :
    ((byteArray size).decodeOver old bytes).toList.take bytes.length = bytes := by
  have long : (overlay old.toList bytes).length = size := by
    rw [overlay_length (by rwa [Vector.length_toList]), Vector.length_toList]
  rw [show ((byteArray size).decodeOver old bytes).toList = overlay old.toList bytes from
    (byteArray size).encode_decode _ long, overlay_take]

end FixedCodec

end MarketDataFabric.Library
