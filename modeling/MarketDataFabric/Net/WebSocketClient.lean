/-
**The WebSocket client**, `net/websocket.hpp` and `net/beast/websocket_client.hpp`.

`WebSocketClient::run` sets up a connection, reads messages until the peer closes, a read fails or the
callback returns `false`, and closes. `WebSocketRun` is its frame while it waits for the network, and
`run` and `received` go on from there: the network may answer anything. It counts in natural numbers;
`wrapped` has the 64-bit counters.

`WebSocketRun.Honest` — **the run reports `stoppedByHandler` only for a callback that returned
`false`**, and after one it reads no further message.
-/

import Mathlib.Algebra.Group.Nat.Defs
import Mathlib.Data.List.Basic

namespace MarketDataFabric.Net

inductive WebSocketRunStatus where
  | completed
  | stoppedByHandler
  | invalidEndpoint
  | resolveFailed
  | connectFailed
  | tlsHandshakeFailed
  | webSocketHandshakeFailed
  | readFailed
  | closeFailed
  | backendUnavailable
deriving Repr, DecidableEq

structure WebSocketMessageView where
  recvTsNs : UInt64 := 0
  payload : List UInt8 := []
  binary : Bool := false
deriving Repr, DecidableEq

structure WebSocketRunResult where
  status : WebSocketRunStatus := .completed
  messages : Nat := 0
  bytes : Nat := 0
  startedNs : UInt64 := 0
  endedNs : UInt64 := 0
  error : String := ""
deriving Repr, DecidableEq

/-- The ways a run can fail before its first read. -/
inductive SetupFailure where
  | endpoint
  | resolve
  | connect
  | tlsHandshake
  | webSocketHandshake
  | backend
deriving Repr, DecidableEq

def SetupFailure.status : SetupFailure → WebSocketRunStatus
  | .endpoint => .invalidEndpoint
  | .resolve => .resolveFailed
  | .connect => .connectFailed
  | .tlsHandshake => .tlsHandshakeFailed
  | .webSocketHandshake => .webSocketHandshakeFailed
  | .backend => .backendUnavailable

/-- Where a run waits for the network. -/
inductive WebSocketPhase where
  | settingUp
  | reading
  | closing
  | returned
deriving Repr, DecidableEq

structure WebSocketRun where
  result : WebSocketRunResult := {}
  phase : WebSocketPhase := .settingUp
deriving Repr, DecidableEq

/-- What the network does, messages apart: the setup ends, a read fails to deliver, the close ends,
possibly with an error. `now` is the clock when the run returns. -/
inductive NetworkEvent where
  | setupFailed (failure : SetupFailure) (error : String) (now : UInt64)
  | connected
  | peerClosed
  | readFailed (error : String)
  | closed (error : Option String) (now : UInt64)
deriving Repr, DecidableEq

namespace WebSocketRun

/-- `run`, from one place where it waits to the next. -/
def run (websocket : WebSocketRun) (event : NetworkEvent) : WebSocketRun :=
  match websocket.phase, event with
  | .settingUp, .setupFailed failure error now =>
      { result := { websocket.result with status := failure.status, error, endedNs := now }
        phase := .returned }
  | .settingUp, .connected => { websocket with phase := .reading }
  | .reading, .peerClosed =>
      { result := { websocket.result with status := .completed }, phase := .closing }
  | .reading, .readFailed error =>
      { result := { websocket.result with status := .readFailed, error }, phase := .closing }
  | .closing, .closed none now =>
      { result := { websocket.result with endedNs := now }, phase := .returned }
  | .closing, .closed (some error) now =>
      if websocket.result.status = .completed then
        { result := { websocket.result with status := .closeFailed, error, endedNs := now }
          phase := .returned }
      else
        { result := { websocket.result with endedNs := now }, phase := .returned }
  | _, _ => websocket

/-- A read that delivers a message, and what the callback returned for it. -/
def received (websocket : WebSocketRun) (message : WebSocketMessageView) (keepRunning : Bool) :
    WebSocketRun :=
  let result :=
    { websocket.result with
      messages := websocket.result.messages + 1
      bytes := websocket.result.bytes + message.payload.length }
  if keepRunning then { websocket with result }
  else { result := { result with status := .stoppedByHandler }, phase := .closing }

/-- The counters, as 64-bit words hold them. -/
def wrapped (websocket : WebSocketRun) : WebSocketRun :=
  { websocket with
    result := { websocket.result with
      messages := websocket.result.messages % 2 ^ 64
      bytes := websocket.result.bytes % 2 ^ 64 } }

theorem wrapped_of_lt {websocket : WebSocketRun} (messages : websocket.result.messages < 2 ^ 64)
    (bytes : websocket.result.bytes < 2 ^ 64) : websocket.wrapped = websocket := by
  rw [wrapped, Nat.mod_eq_of_lt messages, Nat.mod_eq_of_lt bytes]

/-- **What the status of a run says**, `refused` telling whether a callback returned `false`. -/
structure Honest (refused : Bool) (websocket : WebSocketRun) : Prop where
  status : websocket.result.status = .stoppedByHandler → refused = true
  waiting : websocket.phase = .settingUp ∨ websocket.phase = .reading → refused = false

theorem Honest.run {refused : Bool} {websocket : WebSocketRun} (honest : Honest refused websocket)
    (event : NetworkEvent) : Honest refused (websocket.run event) := by
  obtain ⟨result, phase⟩ := websocket
  cases phase with
  | settingUp =>
      have fresh := honest.waiting (Or.inl rfl)
      cases event with
      | setupFailed failure error now =>
          refine ⟨fun stopped => ?_, fun _ => fresh⟩
          cases failure <;> cases stopped
      | connected => exact ⟨honest.status, fun _ => fresh⟩
      | peerClosed | readFailed | closed => exact honest
  | reading =>
      have fresh := honest.waiting (Or.inr rfl)
      cases event with
      | peerClosed | readFailed => exact ⟨nofun, fun _ => fresh⟩
      | setupFailed | connected | closed => exact honest
  | closing =>
      cases event with
      | closed error now =>
          cases error with
          | none => exact ⟨honest.status, by rintro (here | here) <;> cases here⟩
          | some error =>
              simp only [WebSocketRun.run]
              split_ifs with completed
              · exact ⟨nofun, by rintro (here | here) <;> cases here⟩
              · exact ⟨honest.status, by rintro (here | here) <;> cases here⟩
      | setupFailed | connected | peerClosed | readFailed => exact honest
  | returned => cases event <;> exact honest

/-- A message read while the run is open keeps it honest. -/
theorem Honest.received {websocket : WebSocketRun} (honest : Honest false websocket)
    (message : WebSocketMessageView) (keepRunning : Bool) :
    Honest (!keepRunning) (websocket.received message keepRunning) := by
  cases keepRunning with
  | true => exact ⟨honest.status, fun _ => rfl⟩
  | false => exact ⟨fun _ => rfl, by rintro (here | here) <;> cases here⟩

end WebSocketRun

end MarketDataFabric.Net
