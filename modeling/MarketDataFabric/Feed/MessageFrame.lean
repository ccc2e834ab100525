/-
**Message frames**, `BytePayload`, `MessageFrame` and `assign_payload` in `feed/message.hpp`: an envelope
with a buffer of a fixed size.

A frame is used for one message after the other; behind its size a buffer still holds what was there
before.

* `FrameCall.edit` — what a call means for the message that a frame shows, to which the buffer is hidden.
* `call_message` — **every call does what it means**, with the answer it gives.
-/

import Mathlib.Algebra.Group.Nat.Defs
import MarketDataFabric.Feed.Message

namespace MarketDataFabric.Feed

/-! ### The buffer -/

structure BytePayload (maxBytes : ℕ) where
  size : UInt32 := 0
  bytes : List UInt8 := List.replicate maxBytes 0
  bytes_length : bytes.length = maxBytes := by exact List.length_replicate ..
  size_le : size.toNat ≤ maxBytes := by exact Nat.zero_le _

namespace BytePayload

variable {maxBytes : ℕ}

def assign (payload : BytePayload maxBytes) (data : List UInt8) : Bool × BytePayload maxBytes :=
  if large : data.length > maxBytes then (false, payload)
  else
    (true,
      { size := UInt32.ofNat data.length
        bytes := data ++ payload.bytes.drop data.length
        bytes_length := by
          rw [List.length_append, List.length_drop, payload.bytes_length]
          exact Nat.add_sub_cancel' (Nat.le_of_not_gt large)
        size_le := by
          rw [UInt32.toNat_ofNat']
          exact Nat.le_trans (Nat.mod_le _ _) (Nat.le_of_not_gt large) })

def view (payload : BytePayload maxBytes) : List UInt8 := payload.bytes.take payload.size.toNat

/-- A store through `mutable_view`; there is none outside the view. -/
def store (payload : BytePayload maxBytes) (index : ℕ) (byte : UInt8) : BytePayload maxBytes :=
  if index < payload.size.toNat then
    { payload with
      bytes := payload.bytes.set index byte
      bytes_length := (List.length_set ..).trans payload.bytes_length }
  else payload

def clear (payload : BytePayload maxBytes) : BytePayload maxBytes :=
  { payload with size := 0, size_le := Nat.zero_le _ }

theorem view_length (payload : BytePayload maxBytes) : payload.view.length = payload.size.toNat := by
  rw [view, List.length_take, payload.bytes_length]
  exact Nat.min_eq_left payload.size_le

/-- **An assigned payload is seen, and nothing behind it**: all of it, if its size fits 32 bits. -/
theorem assign_view (payload : BytePayload maxBytes) {data : List UInt8}
    (fits : ¬ data.length > maxBytes) :
    (payload.assign data).2.view = data.take (data.length % 2 ^ 32) ∧
      (payload.assign data).2.size = UInt32.ofNat data.length := by
  rw [assign, dif_neg fits]
  refine ⟨?_, rfl⟩
  rw [view, UInt32.toNat_ofNat', List.take_append_of_le_length (Nat.mod_le _ _)]

theorem store_view (payload : BytePayload maxBytes) (index : ℕ) (byte : UInt8) :
    (payload.store index byte).view = payload.view.set index byte := by
  have length := payload.view_length
  unfold store
  split_ifs with inside
  · exact List.take_set ..
  · rw [List.set_eq_of_length_le (by rw [length]; exact Nat.le_of_not_lt inside)]

theorem clear_view (payload : BytePayload maxBytes) : payload.clear.view = [] := List.take_zero

end BytePayload

/-! ### The frame -/

structure MessageFrame (Payload : Type) where
  envelope : MessageEnvelope := {}
  payload : Payload

abbrev RawProviderMessageFrame (maxBytes : ℕ) := MessageFrame (BytePayload maxBytes)

instance (maxBytes : ℕ) : Inhabited (RawProviderMessageFrame maxBytes) := ⟨{ payload := {} }⟩

/-- What the owner of a frame can do to it: the functions of the header, or to write the members of the
envelope. -/
inductive FrameCall where
  | assignPayload (data : List UInt8)
  | assign (data : List UInt8)
  | store (index : ℕ) (byte : UInt8)
  | clear
  | describe (envelope : MessageEnvelope)
deriving Repr, DecidableEq

namespace RawProviderMessageFrame

variable {maxBytes : ℕ}

def assignPayload (frame : RawProviderMessageFrame maxBytes) (data : List UInt8) :
    Bool × RawProviderMessageFrame maxBytes :=
  match frame.payload.assign data with
  | (false, payload) => (false, { frame with payload })
  | (true, payload) =>
      (true, { envelope := { frame.envelope with payloadSize := payload.size }, payload })

def call (frame : RawProviderMessageFrame maxBytes) :
    FrameCall → RawProviderMessageFrame maxBytes × Bool
  | .assignPayload data =>
      let (done, frame) := frame.assignPayload data
      (frame, done)
  | .assign data =>
      let (done, payload) := frame.payload.assign data
      ({ frame with payload }, done)
  | .store index byte => ({ frame with payload := frame.payload.store index byte }, true)
  | .clear => ({ frame with payload := frame.payload.clear }, true)
  | .describe envelope => ({ frame with envelope }, true)

/-- The message that a frame shows. -/
def message (frame : RawProviderMessageFrame maxBytes) : FeedMessageView where
  envelope := frame.envelope
  payload := frame.payload.view

end RawProviderMessageFrame

/-- **What a call means** for the message that is shown. A payload that is too large changes nothing. -/
def FrameCall.edit (maxBytes : ℕ) (message : FeedMessageView) : FrameCall → FeedMessageView × Bool
  | .assignPayload data =>
      if data.length > maxBytes then (message, false)
      else
        ({ envelope := { message.envelope with payloadSize := UInt32.ofNat data.length }
           payload := data.take (data.length % 2 ^ 32) }, true)
  | .assign data =>
      if data.length > maxBytes then (message, false)
      else ({ message with payload := data.take (data.length % 2 ^ 32) }, true)
  | .store index byte => ({ message with payload := message.payload.set index byte }, true)
  | .clear => ({ message with payload := [] }, true)
  | .describe envelope => ({ message with envelope }, true)

/-- **Every call does what it means**, whatever is left in the buffer. -/
theorem call_message {maxBytes : ℕ} (frame : RawProviderMessageFrame maxBytes) (input : FrameCall) :
    ((frame.call input).1.message, (frame.call input).2) = input.edit maxBytes frame.message := by
  have refused {data : List UInt8} (large : data.length > maxBytes) :
      frame.payload.assign data = (false, frame.payload) := dif_pos large
  have accepted {data : List UInt8} (fits : ¬ data.length > maxBytes) :
      frame.payload.assign data = (true, (frame.payload.assign data).2) := by
    rw [BytePayload.assign, dif_neg fits]
  cases input with
  | assignPayload data =>
      by_cases large : data.length > maxBytes
      · simp only [RawProviderMessageFrame.call, RawProviderMessageFrame.assignPayload,
          refused large, FrameCall.edit, if_pos large]
      · obtain ⟨seen, size⟩ := frame.payload.assign_view large
        simp only [RawProviderMessageFrame.call, RawProviderMessageFrame.assignPayload]
        rw [accepted large, FrameCall.edit, if_neg large]
        simp only [RawProviderMessageFrame.message, seen, size]
  | assign data =>
      by_cases large : data.length > maxBytes
      · simp only [RawProviderMessageFrame.call, refused large, FrameCall.edit, if_pos large]
      · obtain ⟨seen, -⟩ := frame.payload.assign_view large
        simp only [RawProviderMessageFrame.call]
        rw [accepted large, FrameCall.edit, if_neg large]
        simp only [RawProviderMessageFrame.message, seen]
  | store index byte =>
      exact congrArg (fun payload => (FeedMessageView.mk frame.envelope payload, true))
        (frame.payload.store_view index byte)
  | clear =>
      exact congrArg (fun payload => (FeedMessageView.mk frame.envelope payload, true))
        frame.payload.clear_view
  | describe envelope => rfl

end MarketDataFabric.Feed
