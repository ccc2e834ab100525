/-
**The feed session with 64-bit counters**, `service/feed_session.hpp`. The loop of `FeedSession` counts
in natural numbers; here the counters are reduced modulo `2 ^ 64` wherever the source adds to them.

* `FeedSessionStats.wrapped`, `runFeedSessionWords` — the loop with such counters. A comparison is one of
  their values, and only a callback compares what it has just added to.
* `runFeedSession_grows` — no event takes a counter back.
* `session_words` — **until a counter would wrap, both loops do the same**: what holds of the runs of one
  holds of those of the other.
-/

import Mathlib.Algebra.Group.Nat.Defs
import MarketDataFabric.Service.FeedSession

namespace MarketDataFabric.Service

open MarketDataFabric.Feed Library

variable {options : FeedSessionOptions} {installed : Bool}

/-- The counters, as 64-bit words hold them. -/
def FeedSessionStats.wrapped (stats : FeedSessionStats) : FeedSessionStats :=
  { stats with
    attempts := stats.attempts % 2 ^ 64
    reconnects := stats.reconnects % 2 ^ 64
    messages := stats.messages % 2 ^ 64
    bytes := stats.bytes % 2 ^ 64 }

def FeedSession.wrapped (session : FeedSession) : FeedSession :=
  { session with stats := session.stats.wrapped }

/-- `run_feed_session`, its counters wrapping. -/
def runFeedSessionWords (options : FeedSessionOptions) (installed : Bool) (session : FeedSession)
    (event : SessionEvent) : FeedSession × SessionAction :=
  match event, session.phase with
  | .message view requested accepts, .runOnce callbacks =>
      let stats := (session.stats.observe view).wrapped
      let (reply, callbacks) :=
        answerFeedSessionMessage options installed stats callbacks requested accepts
      ({ session with stats, phase := .runOnce callbacks }, .answered view requested reply)
  | _, _ =>
      let result := runFeedSession options installed session event
      (result.1.wrapped, result.2)

/-- **No counter has reached `2 ^ 64`.** -/
structure FeedSessionStats.Fits (stats : FeedSessionStats) : Prop where
  attempts : stats.attempts < 2 ^ 64
  reconnects : stats.reconnects < 2 ^ 64
  messages : stats.messages < 2 ^ 64
  bytes : stats.bytes < 2 ^ 64

theorem FeedSessionStats.Fits.wrapped {stats : FeedSessionStats} (fits : stats.Fits) :
    stats.wrapped = stats := by
  simp only [FeedSessionStats.wrapped, Nat.mod_eq_of_lt fits.attempts,
    Nat.mod_eq_of_lt fits.reconnects, Nat.mod_eq_of_lt fits.messages, Nat.mod_eq_of_lt fits.bytes]

theorem FeedSession.wrapped_of_fits {session : FeedSession} (fits : session.stats.Fits) :
    session.wrapped = session := by
  rw [FeedSession.wrapped, fits.wrapped]

/-- No counter of the first is ahead of the second. -/
structure FeedSessionStats.Within (stats later : FeedSessionStats) : Prop where
  attempts : stats.attempts ≤ later.attempts
  reconnects : stats.reconnects ≤ later.reconnects
  messages : stats.messages ≤ later.messages
  bytes : stats.bytes ≤ later.bytes

theorem FeedSessionStats.Within.refl (stats : FeedSessionStats) : stats.Within stats :=
  ⟨Nat.le_refl _, Nat.le_refl _, Nat.le_refl _, Nat.le_refl _⟩

theorem FeedSessionStats.Within.fits {stats later : FeedSessionStats} (within : stats.Within later)
    (fits : later.Fits) : stats.Fits where
  attempts := Nat.lt_of_le_of_lt within.attempts fits.attempts
  reconnects := Nat.lt_of_le_of_lt within.reconnects fits.reconnects
  messages := Nat.lt_of_le_of_lt within.messages fits.messages
  bytes := Nat.lt_of_le_of_lt within.bytes fits.bytes

/-- **The counters only grow.** -/
theorem runFeedSession_grows (session : FeedSession) (event : SessionEvent) :
    session.stats.Within (runFeedSession options installed session event).1.stats := by
  obtain ⟨next, action, step, moved, -⟩ := exists_session_step options installed session event
  rw [moved]
  cases step with
  | idle | headReturns | backoffStops | sleeps | wakes => exact .refl _
  | attemptReturns => exact ⟨Nat.le_refl _, Nat.le_refl _, Nat.le_refl _, Nat.le_refl _⟩
  | calls => exact ⟨Nat.le_succ _, Nat.le_refl _, Nat.le_refl _, Nat.le_refl _⟩
  | answers => exact ⟨Nat.le_refl _, Nat.le_refl _, Nat.le_succ _, Nat.le_add_right _ _⟩
  | reconnects => exact ⟨Nat.le_refl _, Nat.le_succ _, Nat.le_refl _, Nat.le_refl _⟩

/-- **An event that makes no counter wrap** does the same to both loops. -/
theorem runFeedSessionWords_eq {session : FeedSession} {event : SessionEvent}
    (fits : (runFeedSession options installed session event).1.stats.Fits) :
    runFeedSessionWords options installed session event =
      runFeedSession options installed session event := by
  unfold runFeedSessionWords
  split
  next view requested accepts callbacks place =>
    simp only [runFeedSession, place, onFeedSessionMessage] at fits ⊢
    rw [fits.wrapped]
  next =>
    dsimp only
    rw [FeedSession.wrapped_of_fits fits]

/-- **Both loops do the same until a counter would wrap**: on every list of events after which no
counter has reached `2 ^ 64` they have done the same, and are in the same state. -/
theorem session_words (options : FeedSessionOptions) (installed : Bool) (events : List SessionEvent)
    (fits : (({} : FeedSession).after options installed events).stats.Fits) :
    Machine.final (runFeedSessionWords options installed) {} events =
        ({} : FeedSession).after options installed events ∧
      Machine.outputs (runFeedSessionWords options installed) {} events =
        ({} : FeedSession).actions options installed events :=
  (Machine.run_agrees (runFeedSession options installed) (fun _ => True)
    (fun session => session.stats.Fits) (fun _ _ => id)
    (fun session event _ => (runFeedSession_grows session event).fits)
    (fun _ _ _ => runFeedSessionWords_eq) trivial fits).2

end MarketDataFabric.Service
