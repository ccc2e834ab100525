/-
**The feed session**, `service/feed_session.hpp`: the loop that runs one attempt after another.

`run_feed_session` waits at four places for its environment: for the load of the stop token at the
loop head, for the callbacks and the return of `run_once`, and for the loads of the token while it
backs off. `FeedSession` is its frame at these places and `runFeedSession` goes from one to the next;
what does not fit the place is ignored. Counters are natural numbers; `SessionWords` has the 64-bit ones.

* `SessionStep`, `runFeedSession_step` — **everything the loop can do with an event**. Later proofs
  split on it and never unfold the loop.
* `headStopReason_justified`, `attemptStopReason_justified`, `attemptStopReason_none` — what a decision
  to return, or to go on, says.
* `CallbackStep`, `onFeedSessionMessage_step` — the four ways a callback answers.
-/

import MarketDataFabric.Library.Machine
import MarketDataFabric.Feed.Message

namespace MarketDataFabric.Service

open MarketDataFabric.Feed Library

inductive FeedRunStatus where
  | completed
  | stoppedByHandler
  | invalidEndpoint
  | resolveFailed
  | connectFailed
  | tlsHandshakeFailed
  | webSocketHandshakeFailed
  | readFailed
  | closeFailed
  | backendUnavailable
  | unknownError
deriving Repr, DecidableEq

inductive FeedRunErrorClass where
  | none
  | stopped
  | configuration
  | dependency
  | network
  | protocol
  | io
  | unknown
deriving Repr, DecidableEq

inductive FeedSessionStopReason where
  | completed
  | maxMessagesReached
  | stoppedByHandler
  | stopRequested
  | maxAttemptsReached
  | notRetryable
deriving Repr, DecidableEq

structure FeedRunAttemptResult where
  status : FeedRunStatus := .unknownError
  errorClass : FeedRunErrorClass := .unknown
  messages : Nat := 0
  bytes : Nat := 0
  startedNs : UInt64 := 0
  endedNs : UInt64 := 0
  firstRecvTsNs : UInt64 := 0
  lastRecvTsNs : UInt64 := 0
  error : String := ""
deriving Repr, DecidableEq

/-- Durations are milliseconds, and `maxAttempts = 0` retries for ever. `multiplier` is the product
of a duration with the source's `double`, truncated. -/
structure FeedRetryPolicy where
  maxAttempts : Nat := 1
  initialBackoff : Int := 250
  maxBackoff : Int := 30000
  multiplier : Int → Int := fun count => count * 2
  reconnectOnCompleted : Bool := false

/-- `maxMessages = 0` sets no limit. -/
structure FeedSessionOptions where
  maxMessages : Nat := 0
  retry : FeedRetryPolicy := {}

structure FeedSessionStats where
  attempts : Nat := 0
  reconnects : Nat := 0
  messages : Nat := 0
  bytes : Nat := 0
  firstRecvTsNs : UInt64 := 0
  lastRecvTsNs : UInt64 := 0
  lastStatus : FeedRunStatus := .unknownError
  lastErrorClass : FeedRunErrorClass := .unknown
  lastError : String := ""
deriving Repr, DecidableEq

def FeedSessionStats.observe (stats : FeedSessionStats) (message : FeedMessageView) :
    FeedSessionStats :=
  { stats with
    firstRecvTsNs :=
      if stats.messages = 0 then message.envelope.recvTsNs else stats.firstRecvTsNs
    messages := stats.messages + 1
    bytes := stats.bytes + message.payload.length
    lastRecvTsNs := message.envelope.recvTsNs }

def classifyFeedRunStatus : FeedRunStatus → FeedRunErrorClass
  | .completed => .none
  | .stoppedByHandler => .stopped
  | .invalidEndpoint => .configuration
  | .backendUnavailable => .dependency
  | .resolveFailed | .connectFailed | .tlsHandshakeFailed => .network
  | .webSocketHandshakeFailed => .protocol
  | .readFailed | .closeFailed => .io
  | .unknownError => .unknown

def isRetryableFeedError (errorClass : FeedRunErrorClass) : Bool :=
  errorClass = .network ∨ errorClass = .protocol ∨ errorClass = .io ∨ errorClass = .unknown

def nextBackoff (current : Int) (policy : FeedRetryPolicy) : Int :=
  if current ≤ 0 then policy.initialBackoff
  else min (policy.multiplier current) policy.maxBackoff

def kStopPollInterval : Int := 100

/-- `sleep_for_backoff` at a load of the stop token: it returns, or sleeps a chunk and has the rest
before it. -/
def sleepForBackoff (remaining : Int) (requested : Bool) : Bool ⊕ Int :=
  if remaining > 0 then
    if requested then .inl false else .inr (remaining - min remaining kStopPollInterval)
  else
    .inl (!requested)

/-! ### The callback -/

/-- The flags of `FeedSessionCallbackState`, all down when an attempt begins. -/
structure FeedSessionCallbackState where
  stoppedByHandler : Bool := false
  stopRequested : Bool := false
  maxMessagesReached : Bool := false
deriving Repr, DecidableEq

/-- What a callback returned, and what the downstream handler answered if it was given the
message. -/
structure CallbackReply where
  keepRunning : Bool
  downstream : Option Bool
deriving Repr, DecidableEq

/-- What `on_feed_session_message` does once the message is counted. `requested` is what the load of
the stop token sees, `accepts` what the downstream handler answers, if one is `installed`. -/
def answerFeedSessionMessage (options : FeedSessionOptions) (installed : Bool)
    (stats : FeedSessionStats) (callbacks : FeedSessionCallbackState) (requested accepts : Bool) :
    CallbackReply × FeedSessionCallbackState :=
  if requested then
    (⟨false, none⟩, { callbacks with stopRequested := true })
  else if installed ∧ accepts = false then
    (⟨false, some false⟩, { callbacks with stoppedByHandler := true })
  else
    let downstream := if installed then some true else none
    if options.maxMessages ≠ 0 ∧ stats.messages ≥ options.maxMessages then
      (⟨false, downstream⟩, { callbacks with maxMessagesReached := true })
    else
      (⟨true, downstream⟩, callbacks)

def onFeedSessionMessage (options : FeedSessionOptions) (installed : Bool)
    (stats : FeedSessionStats) (callbacks : FeedSessionCallbackState) (message : FeedMessageView)
    (requested accepts : Bool) :
    CallbackReply × FeedSessionStats × FeedSessionCallbackState :=
  let stats := stats.observe message
  let (reply, callbacks) :=
    answerFeedSessionMessage options installed stats callbacks requested accepts
  (reply, stats, callbacks)

/-! ### The loop -/

/-- Why the loop returns at its head, if it does. -/
def headStopReason (options : FeedSessionOptions) (stats : FeedSessionStats) (requested : Bool) :
    Option FeedSessionStopReason :=
  if requested then some .stopRequested
  else if options.maxMessages ≠ 0 ∧ stats.messages ≥ options.maxMessages then
    some .maxMessagesReached
  else if options.retry.maxAttempts ≠ 0 ∧ stats.attempts ≥ options.retry.maxAttempts then
    some .maxAttemptsReached
  else none

/-- Why the loop returns after an attempt, if it does. -/
def attemptStopReason (options : FeedSessionOptions) (stats : FeedSessionStats)
    (callbacks : FeedSessionCallbackState) (attempt : FeedRunAttemptResult) (requested : Bool) :
    Option FeedSessionStopReason :=
  if callbacks.maxMessagesReached then some .maxMessagesReached
  else if callbacks.stopRequested ∨ requested then some .stopRequested
  else if callbacks.stoppedByHandler then some .stoppedByHandler
  else if attempt.status = .completed ∧ options.retry.reconnectOnCompleted = false then
    some .completed
  else if isRetryableFeedError attempt.errorClass = false ∧ attempt.status ≠ .completed then
    some .notRetryable
  else if options.retry.maxAttempts ≠ 0 ∧ stats.attempts ≥ options.retry.maxAttempts then
    some .maxAttemptsReached
  else none

/-- Where the loop waits for its environment. -/
inductive Phase where
  | loopHead
  | runOnce (callbacks : FeedSessionCallbackState)
  | sleepForBackoff (remaining : Int)
  | returned (reason : FeedSessionStopReason)
deriving Repr, DecidableEq

structure FeedSession where
  stats : FeedSessionStats := {}
  backoff : Int := 0
  phase : Phase := .loopHead
deriving Repr, DecidableEq

/-- What the environment does: a load of the stop token, a callback from within `run_once`, or the
return of `run_once` with the load of the token that may follow it. -/
inductive SessionEvent where
  | poll (requested : Bool)
  | message (view : FeedMessageView) (requested accepts : Bool)
  | attempted (attempt : FeedRunAttemptResult) (requested : Bool)
deriving Repr, DecidableEq

/-- What the session did with an event: nothing, a load of the token after which it called nobody, a
call of `run_once` with its message limit, a callback with what its load of the token saw, or the end
of an attempt with the flags it raised and what the load of the token after it saw. -/
inductive SessionAction where
  | idle
  | polled (requested : Bool)
  | called (maxMessages : Nat)
  | answered (view : FeedMessageView) (requested : Bool) (reply : CallbackReply)
  | ended (callbacks : FeedSessionCallbackState) (attempt : FeedRunAttemptResult) (requested : Bool)
deriving Repr, DecidableEq

/-- The loop head. -/
def runLoopHead (options : FeedSessionOptions) (session : FeedSession) (requested : Bool) :
    FeedSession × SessionAction :=
  match headStopReason options session.stats requested with
  | some reason => ({ session with phase := .returned reason }, .polled requested)
  | none =>
      let remainingMessages :=
        if options.maxMessages = 0 then 0 else options.maxMessages - session.stats.messages
      ({ session with
          stats.attempts := session.stats.attempts + 1
          phase := .runOnce {} },
        .called remainingMessages)

/-- The body of the loop after `run_once`, up to the back-off. -/
def runAfterAttempt (options : FeedSessionOptions) (session : FeedSession)
    (callbacks : FeedSessionCallbackState) (attempt : FeedRunAttemptResult) (requested : Bool) :
    FeedSession × SessionAction :=
  let stats :=
    { session.stats with
      lastStatus := attempt.status
      lastErrorClass := attempt.errorClass
      lastError := attempt.error }
  match attemptStopReason options stats callbacks attempt requested with
  | some reason =>
      ({ session with stats, phase := .returned reason }, .ended callbacks attempt requested)
  | none =>
      let backoff := nextBackoff session.backoff options.retry
      ({ stats := { stats with reconnects := stats.reconnects + 1 }
         backoff
         phase := .sleepForBackoff backoff },
        .ended callbacks attempt requested)

/-- `run_feed_session`, from one place where it waits to the next. -/
def runFeedSession (options : FeedSessionOptions) (installed : Bool) (session : FeedSession) :
    SessionEvent → FeedSession × SessionAction
  | .poll requested =>
      match session.phase with
      | .loopHead => runLoopHead options session requested
      | .sleepForBackoff remaining =>
          match sleepForBackoff remaining requested with
          | .inl false => ({ session with phase := .returned .stopRequested }, .polled requested)
          | .inl true => ({ session with phase := .loopHead }, .polled requested)
          | .inr rest => ({ session with phase := .sleepForBackoff rest }, .polled requested)
      | .runOnce _ | .returned _ => (session, .idle)
  | .message view requested accepts =>
      match session.phase with
      | .runOnce callbacks =>
          let (reply, stats, callbacks) :=
            onFeedSessionMessage options installed session.stats callbacks view requested accepts
          ({ session with stats, phase := .runOnce callbacks },
            .answered view requested reply)
      | .loopHead | .sleepForBackoff _ | .returned _ => (session, .idle)
  | .attempted attempt requested =>
      match session.phase with
      | .runOnce callbacks => runAfterAttempt options session callbacks attempt requested
      | .loopHead | .sleepForBackoff _ | .returned _ => (session, .idle)

/-- The loop over a list of events. -/
abbrev FeedSession.after (options : FeedSessionOptions) (installed : Bool)
    (session : FeedSession) (events : List SessionEvent) : FeedSession :=
  Machine.final (runFeedSession options installed) session events

/-- What the session does along a list of events. -/
abbrev FeedSession.actions (options : FeedSessionOptions) (installed : Bool)
    (session : FeedSession) (events : List SessionEvent) : List SessionAction :=
  Machine.outputs (runFeedSession options installed) session events

/-! ### What a callback can do -/

section Callback

variable {options : FeedSessionOptions} {installed : Bool} {stats : FeedSessionStats}
  {callbacks : FeedSessionCallbackState} {message : FeedMessageView}

/-- **The answers of a callback**: what it returned, and the flags it leaves. It always observes. -/
inductive CallbackStep (options : FeedSessionOptions) (installed : Bool)
    (stats : FeedSessionStats) (callbacks : FeedSessionCallbackState) :
    Bool → CallbackReply → FeedSessionCallbackState → Prop
  | stopRequested : CallbackStep options installed stats callbacks true ⟨false, none⟩
      { callbacks with stopRequested := true }
  | stoppedByHandler : installed = true →
      CallbackStep options installed stats callbacks false ⟨false, some false⟩
        { callbacks with stoppedByHandler := true }
  | maxMessagesReached : options.maxMessages ≠ 0 → options.maxMessages ≤ stats.messages →
      CallbackStep options installed stats callbacks false
        ⟨false, if installed then some true else none⟩
        { callbacks with maxMessagesReached := true }
  | kept : (options.maxMessages ≠ 0 → stats.messages < options.maxMessages) →
      CallbackStep options installed stats callbacks false
        ⟨true, if installed then some true else none⟩ callbacks

theorem onFeedSessionMessage_step (options : FeedSessionOptions) (installed : Bool)
    (stats : FeedSessionStats) (callbacks : FeedSessionCallbackState) (message : FeedMessageView)
    (requested accepts : Bool) :
    let answer :=
      onFeedSessionMessage options installed stats callbacks message requested accepts
    answer.2.1 = stats.observe message ∧
      CallbackStep options installed (stats.observe message) callbacks requested answer.1
        answer.2.2 := by
  intro answer
  show (onFeedSessionMessage _ _ _ _ _ _ _).2.1 = _ ∧ CallbackStep _ _ _ _ _
    (onFeedSessionMessage _ _ _ _ _ _ _).1 (onFeedSessionMessage _ _ _ _ _ _ _).2.2
  unfold onFeedSessionMessage answerFeedSessionMessage
  cases requested with
  | true => exact ⟨rfl, .stopRequested⟩
  | false =>
      simp only [Bool.false_eq_true, if_false]
      by_cases refused : installed = true ∧ accepts = false
      · simp only [if_pos refused]
        exact ⟨trivial, .stoppedByHandler refused.1⟩
      simp only [if_neg refused]
      by_cases reached : options.maxMessages ≠ 0 ∧
          (stats.observe message).messages ≥ options.maxMessages
      · simp only [if_pos reached]
        exact ⟨trivial, .maxMessagesReached reached.1 reached.2⟩
      · simp only [if_neg reached]
        exact ⟨trivial, .kept fun limited => Nat.lt_of_not_le fun excess => reached ⟨limited, excess⟩⟩

/-- **A callback answers `false` exactly when it raises a flag.** -/
theorem CallbackStep.keepRunning_iff {requested : Bool} {reply : CallbackReply}
    {raised : FeedSessionCallbackState}
    (step : CallbackStep options installed stats {} requested reply raised) :
    reply.keepRunning = true ↔ raised = {} := by
  cases step <;> simp

/-- A callback that leaves all flags down found them down and kept the attempt running. -/
theorem CallbackStep.kept_of_down {requested : Bool} {reply : CallbackReply}
    {raised : FeedSessionCallbackState}
    (step : CallbackStep options installed stats callbacks requested reply raised)
    (down : raised = {}) :
    callbacks = {} ∧ requested = false ∧ ∃ downstream, reply = ⟨true, downstream⟩ := by
  cases step with
  | kept => exact ⟨down, rfl, _, rfl⟩
  | stopRequested => cases congrArg FeedSessionCallbackState.stopRequested down
  | stoppedByHandler => cases congrArg FeedSessionCallbackState.stoppedByHandler down
  | maxMessagesReached => cases congrArg FeedSessionCallbackState.maxMessagesReached down

end Callback

/-! ### What a decision says -/

section Decision

variable {options : FeedSessionOptions} {stats : FeedSessionStats} {requested : Bool}

/-- The loop goes on at its head only if nobody asked it to stop and both budgets last. -/
theorem headStopReason_none (goes : headStopReason options stats requested = none) :
    requested = false ∧ (options.maxMessages ≠ 0 → stats.messages < options.maxMessages) ∧
      (options.retry.maxAttempts ≠ 0 → stats.attempts < options.retry.maxAttempts) := by
  unfold headStopReason at goes
  split_ifs at goes with stop reached spent
  exact ⟨Bool.eq_false_iff.mpr stop,
    fun limited => Nat.lt_of_not_le fun excess => reached ⟨limited, excess⟩,
    fun limited => Nat.lt_of_not_le fun excess => spent ⟨limited, excess⟩⟩

/-- **What a reason to return says**, of the statistics and of the flags of the last attempt. -/
def Justified (options : FeedSessionOptions) (stats : FeedSessionStats)
    (callbacks : FeedSessionCallbackState) : FeedSessionStopReason → Prop
  | .completed => stats.lastStatus = .completed ∧ options.retry.reconnectOnCompleted = false
  | .maxMessagesReached => callbacks.maxMessagesReached = true ∨
      (options.maxMessages ≠ 0 ∧ options.maxMessages ≤ stats.messages)
  | .stoppedByHandler => callbacks.stoppedByHandler = true
  | .stopRequested => True
  | .maxAttemptsReached => options.retry.maxAttempts ≠ 0 ∧
      options.retry.maxAttempts ≤ stats.attempts
  | .notRetryable => stats.lastStatus ≠ .completed ∧
      isRetryableFeedError stats.lastErrorClass = false

theorem headStopReason_justified {reason : FeedSessionStopReason}
    (returns : headStopReason options stats requested = some reason)
    (callbacks : FeedSessionCallbackState) : Justified options stats callbacks reason := by
  unfold headStopReason at returns
  split_ifs at returns with stop reached spent
  · cases returns
    trivial
  · cases returns
    exact Or.inr reached
  · cases returns
    exact spent

theorem attemptStopReason_justified {callbacks : FeedSessionCallbackState}
    {attempt : FeedRunAttemptResult} {reason : FeedSessionStopReason}
    (returns : attemptStopReason options stats callbacks attempt requested = some reason)
    (status : stats.lastStatus = attempt.status)
    (errorClass : stats.lastErrorClass = attempt.errorClass) :
    Justified options stats callbacks reason := by
  unfold attemptStopReason at returns
  split_ifs at returns with reached stop refused completed final spent
  · cases returns
    exact Or.inl reached
  · cases returns
    trivial
  · cases returns
    exact refused
  · cases returns
    exact ⟨status.trans completed.1, completed.2⟩
  · cases returns
    exact ⟨status ▸ final.2, errorClass ▸ final.1⟩
  · cases returns
    exact spent

/-- **The loop goes on after an attempt** only if the attempt raised no flag, nobody asked it to stop,
its result allows another one, and the budget lasts. -/
theorem attemptStopReason_none {callbacks : FeedSessionCallbackState}
    {attempt : FeedRunAttemptResult}
    (goes : attemptStopReason options stats callbacks attempt requested = none) :
    callbacks = {} ∧ requested = false ∧
      (attempt.status = .completed ∧ options.retry.reconnectOnCompleted = true ∨
        attempt.status ≠ .completed ∧ isRetryableFeedError attempt.errorClass = true) ∧
      (options.retry.maxAttempts ≠ 0 → stats.attempts < options.retry.maxAttempts) := by
  unfold attemptStopReason at goes
  split_ifs at goes with reached stop refused completed final spent
  obtain ⟨noStop, unrequested⟩ := not_or.mp stop
  refine ⟨?_, Bool.eq_false_iff.mpr unrequested, ?_, fun limited =>
    Nat.lt_of_not_le fun excess => spent ⟨limited, excess⟩⟩
  · obtain ⟨byHandler, byToken, byLimit⟩ := callbacks
    simp_all
  · by_cases done : attempt.status = .completed
    · exact Or.inl ⟨done, eq_true_of_ne_false fun off => completed ⟨done, off⟩⟩
    · exact Or.inr ⟨done, eq_true_of_ne_false fun off => final ⟨off, done⟩⟩

end Decision

/-! ### What the loop can do -/

section Loop

variable (options : FeedSessionOptions) (installed : Bool)

/-- The statistics after an attempt. -/
def FeedSessionStats.attempted (stats : FeedSessionStats) (attempt : FeedRunAttemptResult) :
    FeedSessionStats :=
  { stats with
    lastStatus := attempt.status
    lastErrorClass := attempt.errorClass
    lastError := attempt.error }

/-- The limit of an attempt. -/
def FeedSession.remainingMessages (session : FeedSession) : Nat :=
  if options.maxMessages = 0 then 0 else options.maxMessages - session.stats.messages

/-- **The branches of the loop**: the session an event leaves, and what was done. -/
inductive SessionStep (session : FeedSession) : SessionEvent → FeedSession → SessionAction → Prop
  | idle (event : SessionEvent) : SessionStep session event session .idle
  | headReturns (requested : Bool) (reason : FeedSessionStopReason) :
      session.phase = .loopHead →
      headStopReason options session.stats requested = some reason →
      SessionStep session (.poll requested) { session with phase := .returned reason }
        (.polled requested)
  | calls : session.phase = .loopHead → headStopReason options session.stats false = none →
      SessionStep session (.poll false)
        { session with
          stats := { session.stats with attempts := session.stats.attempts + 1 }
          phase := .runOnce {} }
        (.called (session.remainingMessages options))
  | backoffStops (remaining : Int) : session.phase = .sleepForBackoff remaining →
      SessionStep session (.poll true) { session with phase := .returned .stopRequested }
        (.polled true)
  | sleeps (remaining rest : Int) : session.phase = .sleepForBackoff remaining →
      SessionStep session (.poll false) { session with phase := .sleepForBackoff rest }
        (.polled false)
  | wakes (remaining : Int) : session.phase = .sleepForBackoff remaining → remaining ≤ 0 →
      SessionStep session (.poll false) { session with phase := .loopHead } (.polled false)
  | answers (callbacks raised : FeedSessionCallbackState) (view : FeedMessageView)
      (requested accepts : Bool) (reply : CallbackReply) : session.phase = .runOnce callbacks →
      CallbackStep options installed (session.stats.observe view) callbacks requested reply raised →
      SessionStep session (.message view requested accepts)
        { session with stats := session.stats.observe view, phase := .runOnce raised }
        (.answered view requested reply)
  | attemptReturns (callbacks : FeedSessionCallbackState) (attempt : FeedRunAttemptResult)
      (requested : Bool) (reason : FeedSessionStopReason) : session.phase = .runOnce callbacks →
      attemptStopReason options (session.stats.attempted attempt) callbacks attempt requested =
        some reason →
      SessionStep session (.attempted attempt requested)
        { session with stats := session.stats.attempted attempt, phase := .returned reason }
        (.ended callbacks attempt requested)
  | reconnects (callbacks : FeedSessionCallbackState) (attempt : FeedRunAttemptResult)
      (requested : Bool) : session.phase = .runOnce callbacks →
      attemptStopReason options (session.stats.attempted attempt) callbacks attempt requested =
        none →
      SessionStep session (.attempted attempt requested)
        { stats := { session.stats.attempted attempt with
            reconnects := session.stats.reconnects + 1 }
          backoff := nextBackoff session.backoff options.retry
          phase := .sleepForBackoff (nextBackoff session.backoff options.retry) }
        (.ended callbacks attempt requested)

/-- A callback during an attempt is answered. -/
theorem runFeedSession_message {session : FeedSession} {callbacks : FeedSessionCallbackState}
    (place : session.phase = .runOnce callbacks) (view : FeedMessageView)
    (requested accepts : Bool) :
    ∃ reply raised,
      runFeedSession options installed session (.message view requested accepts) =
        ({ session with stats := session.stats.observe view, phase := .runOnce raised },
          .answered view requested reply) ∧
      CallbackStep options installed (session.stats.observe view) callbacks requested reply
        raised := by
  obtain ⟨observed, step⟩ := onFeedSessionMessage_step options installed session.stats callbacks view
    requested accepts
  refine ⟨_, _, ?_, step⟩
  simp only [runFeedSession, place, observed]

/-- After an attempt the loop returns or backs off. -/
theorem runFeedSession_attempted {session : FeedSession} {callbacks : FeedSessionCallbackState}
    (place : session.phase = .runOnce callbacks) (attempt : FeedRunAttemptResult)
    (requested : Bool) :
    (∃ reason,
      attemptStopReason options (session.stats.attempted attempt) callbacks attempt requested =
        some reason ∧
      runFeedSession options installed session (.attempted attempt requested) =
        ({ session with stats := session.stats.attempted attempt, phase := .returned reason },
          .ended callbacks attempt requested)) ∨
      (attemptStopReason options (session.stats.attempted attempt) callbacks attempt requested =
        none ∧
      runFeedSession options installed session (.attempted attempt requested) =
        ({ stats := { session.stats.attempted attempt with
             reconnects := session.stats.reconnects + 1 }
           backoff := nextBackoff session.backoff options.retry
           phase := .sleepForBackoff (nextBackoff session.backoff options.retry) },
          .ended callbacks attempt requested)) := by
  simp only [runFeedSession, place, runAfterAttempt]
  cases decision : attemptStopReason options (session.stats.attempted attempt) callbacks attempt
      requested with
  | some reason =>
      refine Or.inl ⟨reason, rfl, ?_⟩
      rw [FeedSessionStats.attempted] at decision
      simp only [decision]
      rfl
  | none =>
      refine Or.inr ⟨rfl, ?_⟩
      rw [FeedSessionStats.attempted] at decision
      simp only [decision]
      rfl

theorem runFeedSession_step (session : FeedSession) (event : SessionEvent) :
    SessionStep options installed session event (runFeedSession options installed session event).1
      (runFeedSession options installed session event).2 := by
  cases event with
  | poll requested =>
      cases place : session.phase with
      | loopHead =>
          simp only [runFeedSession, place, runLoopHead]
          cases decision : headStopReason options session.stats requested with
          | some reason => exact .headReturns requested reason place decision
          | none =>
              obtain ⟨rfl, -, -⟩ := headStopReason_none decision
              exact .calls place decision
      | sleepForBackoff remaining =>
          simp only [runFeedSession, place, sleepForBackoff]
          by_cases more : remaining > 0
          · cases requested with
            | true =>
                simp only [if_pos more, if_true]
                exact .backoffStops remaining place
            | false =>
                simp only [if_pos more, Bool.false_eq_true, if_false]
                exact .sleeps remaining _ place
          · cases requested with
            | true =>
                simp only [if_neg more, Bool.not_true]
                exact .backoffStops remaining place
            | false =>
                simp only [if_neg more, Bool.not_false]
                exact .wakes remaining place (Int.not_lt.mp more)
      | runOnce | returned =>
          simp only [runFeedSession, place]
          exact .idle _
  | message view requested accepts =>
      cases place : session.phase with
      | runOnce callbacks =>
          obtain ⟨reply, raised, same, step⟩ :=
            runFeedSession_message options installed place view requested accepts
          rw [same]
          exact .answers callbacks raised view requested accepts reply place step
      | loopHead | sleepForBackoff | returned =>
          simp only [runFeedSession, place]
          exact .idle _
  | attempted attempt requested =>
      cases place : session.phase with
      | runOnce callbacks =>
          rcases runFeedSession_attempted options installed place attempt requested with
            ⟨reason, decision, same⟩ | ⟨decision, same⟩
          · rw [same]
            exact .attemptReturns callbacks attempt requested reason place decision
          · rw [same]
            exact .reconnects callbacks attempt requested place decision
      | loopHead | sleepForBackoff | returned =>
          simp only [runFeedSession, place]
          exact .idle _

/-- The same with the next state and the action named. -/
theorem exists_session_step (session : FeedSession) (event : SessionEvent) :
    ∃ next action, SessionStep options installed session event next action ∧
      (runFeedSession options installed session event).1 = next ∧
      (runFeedSession options installed session event).2 = action :=
  ⟨_, _, runFeedSession_step options installed session event, rfl, rfl⟩

end Loop

end MarketDataFabric.Service
