/-
**The live Binance session**: `run_feed_session` over `BinanceWebSocketFeedClient`, wired as in
`apps/gateway/src/binance_live_runner.cpp`.

`onMessage` is the client's callback around the session's; `LiveRun` is the whole system, the session
and the attempt it runs. Counters are natural numbers; `LiveWords` has the system with 64-bit ones.

* `LiveStep`, `runLive_step` — what a step of the system does.
* `onMessage_eq` — when the two layers have counted the same messages, the client's own limit never
  answers for itself.
* `Agreed`, `agreed_step` — they have, at every place of every run.
* `limits_agree` — hence the client stops an attempt only with a flag of the session up, and a session
  whose last attempt was stopped by its handler returns for one of the three reasons that go with it.
* `session_of_live` — the session inside is a session whose attempts are obedient, so what holds of
  those holds of it.
-/

import MarketDataFabric.Feed.Connection
import MarketDataFabric.Net.WebSocketClient
import MarketDataFabric.Service.SessionAccounts

namespace MarketDataFabric.Apps

open MarketDataFabric.Feed Net Service Library

/-! ### The client -/

/-- The counters of `BinanceWebSocketFeedClient::CallbackState`. -/
structure CallbackState where
  messages : Nat := 0
  bytes : Nat := 0
  firstRecvTsNs : UInt64 := 0
  lastRecvTsNs : UInt64 := 0
deriving Repr, DecidableEq

structure BinanceWebSocketFeedClientRunResult where
  websocket : WebSocketRunResult := {}
  messages : Nat := 0
  bytes : Nat := 0
  firstRecvTsNs : UInt64 := 0
  lastRecvTsNs : UInt64 := 0
deriving Repr, DecidableEq

def CallbackState.observe (state : CallbackState) (message : WebSocketMessageView) :
    CallbackState where
  messages := state.messages + 1
  bytes := state.bytes + message.payload.length
  firstRecvTsNs := if state.messages = 0 then message.recvTsNs else state.firstRecvTsNs
  lastRecvTsNs := message.recvTsNs

/-- The message the client makes of a frame: a connection of one feed knows the feed. -/
def CallbackState.feedMessage (state : CallbackState) (connection : FeedConnectionSpec)
    (message : WebSocketMessageView) : FeedMessageView :=
  let captureSeq := UInt64.ofNat (state.messages + 1)
  let envelope :=
    match connection.feeds with
    | [feed] => makeFeedEnvelope connection feed captureSeq message.recvTsNs
    | _ => makeConnectionEnvelope connection captureSeq message.recvTsNs
  let envelope := { envelope with payloadSize := UInt32.ofNat message.payload.length }
  let envelope :=
    if message.binary then
      { envelope with
        payloadEncoding := .providerBinary
        flags := envelope.flags ||| binaryPayload }
    else envelope
  { envelope, payload := message.payload }

/-- `on_message`. The handler answers and has an effect of its own. -/
def onMessage {σ : Type} (connection : FeedConnectionSpec) (maxMessages : Nat)
    (state : CallbackState) (message : WebSocketMessageView)
    (handler : FeedMessageView → Bool × σ) : Bool × CallbackState × σ :=
  let feedMessage := state.feedMessage connection message
  let state := state.observe message
  let (handlerOk, effect) := handler feedMessage
  if handlerOk = false then (false, state, effect)
  else (maxMessages = 0 ∨ state.messages < maxMessages, state, effect)

/-- The client calls its handler once, whatever it answers itself. -/
theorem onMessage_effect {σ : Type} (connection : FeedConnectionSpec) (maxMessages : Nat)
    (state : CallbackState) (message : WebSocketMessageView)
    (handler : FeedMessageView → Bool × σ) :
    (onMessage connection maxMessages state message handler).2.2 =
      (handler (state.feedMessage connection message)).2 := by
  unfold onMessage
  dsimp only
  split_ifs <;> rfl

/-! ### The wiring -/

def toFeedRunStatus : WebSocketRunStatus → FeedRunStatus
  | .completed => .completed
  | .stoppedByHandler => .stoppedByHandler
  | .invalidEndpoint => .invalidEndpoint
  | .resolveFailed => .resolveFailed
  | .connectFailed => .connectFailed
  | .tlsHandshakeFailed => .tlsHandshakeFailed
  | .webSocketHandshakeFailed => .webSocketHandshakeFailed
  | .readFailed => .readFailed
  | .closeFailed => .closeFailed
  | .backendUnavailable => .backendUnavailable

def toFeedAttemptResult (runResult : BinanceWebSocketFeedClientRunResult) :
    FeedRunAttemptResult where
  status := toFeedRunStatus runResult.websocket.status
  errorClass := classifyFeedRunStatus (toFeedRunStatus runResult.websocket.status)
  messages := runResult.messages
  bytes := runResult.bytes
  startedNs := runResult.websocket.startedNs
  endedNs := runResult.websocket.endedNs
  firstRecvTsNs := runResult.firstRecvTsNs
  lastRecvTsNs := runResult.lastRecvTsNs
  error := runResult.websocket.error

/-- An attempt: the client's limit and counters, and the run of its WebSocket. -/
structure LiveAttempt where
  maxMessages : Nat
  state : CallbackState := {}
  websocket : WebSocketRun := {}
deriving Repr, DecidableEq

/-- The client of an attempt. Without a feed it returns at once. -/
def LiveAttempt.start (connection : FeedConnectionSpec) (maxMessages : Nat) (now : UInt64) :
    LiveAttempt :=
  if connection.feeds = [] then
    { maxMessages
      websocket :=
        { result :=
            { status := .invalidEndpoint, startedNs := now, endedNs := now,
              error := "BinanceWebSocketFeedClient 至少需要一个 feed" }
          phase := .returned } }
  else
    { maxMessages, websocket := { result := { startedNs := now } } }

def LiveAttempt.runResult (attempt : LiveAttempt) : BinanceWebSocketFeedClientRunResult where
  websocket := attempt.websocket.result
  messages := attempt.state.messages
  bytes := attempt.state.bytes
  firstRecvTsNs := attempt.state.firstRecvTsNs
  lastRecvTsNs := attempt.state.lastRecvTsNs

structure LiveRun where
  session : FeedSession := {}
  attempt : Option LiveAttempt := none
deriving Repr, DecidableEq

/-- What the environment of the system does: a load of the stop token, a message from the network with
what the load of the token sees and the downstream handler answers, anything else from the network,
or the return of the client with the load of the token that may follow it. -/
inductive LiveEvent where
  | poll (requested : Bool) (now : UInt64)
  | received (message : WebSocketMessageView) (requested accepts : Bool)
  | network (event : NetworkEvent)
  | returned (requested : Bool)
deriving Repr, DecidableEq

/-- What the session answers a callback. -/
def answer : SessionAction → Bool
  | .answered _ _ reply => reply.keepRunning
  | .idle | .polled _ | .called _ | .ended _ _ _ => false

/-- The session's callback, as the client calls it. -/
def sessionCallback (options : FeedSessionOptions) (installed : Bool) (session : FeedSession)
    (requested accepts : Bool) (view : FeedMessageView) : Bool × FeedSession × SessionAction :=
  let (session, action) :=
    runFeedSession options installed session (.message view requested accepts)
  (answer action, session, action)

/-- The system, from one event to the next. -/
def runLive (connection : FeedConnectionSpec) (options : FeedSessionOptions) (installed : Bool)
    (run : LiveRun) : LiveEvent → LiveRun × SessionAction
  | .poll requested now =>
      let (session, action) := runFeedSession options installed run.session (.poll requested)
      match action with
      | .called maxMessages =>
          ({ session, attempt := some (.start connection maxMessages now) }, action)
      | .idle | .polled _ | .answered _ _ _ | .ended _ _ _ => ({ run with session }, action)
  | .received message requested accepts =>
      match run.attempt with
      | some attempt =>
          if attempt.websocket.phase = .reading then
            let (keepRunning, state, session, action) :=
              onMessage connection attempt.maxMessages attempt.state message
                (sessionCallback options installed run.session requested accepts)
            ({ session
               attempt := some
                { attempt with state, websocket := attempt.websocket.received message keepRunning } },
              action)
          else (run, .idle)
      | none => (run, .idle)
  | .network event =>
      match run.attempt with
      | some attempt =>
          ({ run with attempt := some { attempt with websocket := attempt.websocket.run event } },
            .idle)
      | none => (run, .idle)
  | .returned requested =>
      match run.attempt with
      | some attempt =>
          if attempt.websocket.phase = .returned then
            let (session, action) := runFeedSession options installed run.session
              (.attempted (toFeedAttemptResult attempt.runResult) requested)
            ({ session, attempt := none }, action)
          else (run, .idle)
      | none => (run, .idle)

abbrev LiveRun.after (connection : FeedConnectionSpec) (options : FeedSessionOptions)
    (installed : Bool) (run : LiveRun) (events : List LiveEvent) : LiveRun :=
  Machine.final (runLive connection options installed) run events

/-! ### The two limits -/

section Limits

variable {connection : FeedConnectionSpec} {options : FeedSessionOptions} {installed : Bool}

variable (connection options installed) in
/-- What one step of the system does: nothing, or what the session, the client or the network does. -/
inductive LiveStep (run : LiveRun) : LiveRun → SessionAction → Prop
  | waits : LiveStep run run .idle
  | polls (requested : Bool) {session : FeedSession} {action : SessionAction} :
      runFeedSession options installed run.session (.poll requested) = (session, action) →
      (∀ limit, action ≠ .called limit) → LiveStep run { run with session } action
  | calls (requested : Bool) {session : FeedSession} (limit : Nat) (now : UInt64) :
      runFeedSession options installed run.session (.poll requested) = (session, .called limit) →
      LiveStep run { session, attempt := some (.start connection limit now) } (.called limit)
  | reads {attempt : LiveAttempt} (message : WebSocketMessageView) (requested accepts : Bool)
      {keepRunning : Bool} {state : CallbackState} {session : FeedSession}
      {action : SessionAction} :
      run.attempt = some attempt → attempt.websocket.phase = .reading →
      onMessage connection attempt.maxMessages attempt.state message
          (sessionCallback options installed run.session requested accepts) =
        (keepRunning, state, session, action) →
      LiveStep run
        { session
          attempt := some
            { attempt with state, websocket := attempt.websocket.received message keepRunning } }
        action
  | runs {attempt : LiveAttempt} (event : NetworkEvent) : run.attempt = some attempt →
      LiveStep run
        { run with attempt := some { attempt with websocket := attempt.websocket.run event } } .idle
  | returns {attempt : LiveAttempt} (requested : Bool) {session : FeedSession}
      {action : SessionAction} : run.attempt = some attempt →
      runFeedSession options installed run.session
        (.attempted (toFeedAttemptResult attempt.runResult) requested) = (session, action) →
      LiveStep run { session, attempt := none } action

variable (connection options installed) in
/-- **What a step of the system does.** -/
theorem runLive_step (run : LiveRun) (event : LiveEvent) :
    LiveStep connection options installed run (runLive connection options installed run event).1
      (runLive connection options installed run event).2 := by
  obtain ⟨session, attempt⟩ := run
  cases event with
  | poll requested now =>
      simp only [runLive]
      cases asked : runFeedSession options installed session (.poll requested) with
      | mk next action =>
          cases action with
          | called limit => exact .calls requested limit now asked
          | idle | polled | answered | ended => exact .polls requested asked nofun
  | received message requested accepts =>
      cases attempt with
      | none => exact .waits
      | some attempt =>
          simp only [runLive]
          split_ifs with reading
          · exact .reads message requested accepts rfl reading rfl
          · exact .waits
  | network event =>
      cases attempt with
      | none => exact .waits
      | some attempt => exact .runs event rfl
  | returned requested =>
      cases attempt with
      | none => exact .waits
      | some attempt =>
          simp only [runLive]
          split_ifs with done
          · exact .returns requested rfl rfl
          · exact .waits

/-- **The counters of an attempt** against those of the session that runs it: the client is honest
about the flags, and both layers have the same number of messages before them. -/
structure InAttempt (options : FeedSessionOptions) (messages : Nat)
    (callbacks : FeedSessionCallbackState) (attempt : LiveAttempt) : Prop where
  honest : attempt.websocket.Honest (decide (callbacks ≠ {}))
  unlimited : options.maxMessages = 0 → attempt.maxMessages = 0
  limited : options.maxMessages ≠ 0 → attempt.maxMessages ≠ 0 ∧
    attempt.state.messages + options.maxMessages = messages + attempt.maxMessages

/-- **The client's limit never answers for itself**: the client answers what the session's callback
answers. -/
theorem onMessage_eq {session : FeedSession} {attempt : LiveAttempt}
    (here : InAttempt options session.stats.messages {} attempt) (place : session.phase = .runOnce {})
    (message : WebSocketMessageView) (requested accepts : Bool) :
    let view := attempt.state.feedMessage connection message
    ∃ reply raised,
      onMessage connection attempt.maxMessages attempt.state message
          (sessionCallback options installed session requested accepts) =
        (reply.keepRunning, attempt.state.observe message,
          { session with stats := session.stats.observe view, phase := .runOnce raised },
          .answered view requested reply) ∧
      (sessionCallback options installed session requested accepts view).1 = reply.keepRunning ∧
      (reply.keepRunning = true ↔ raised = {}) := by
  intro view
  obtain ⟨reply, raised, same, step⟩ :=
    runFeedSession_message options installed place view requested accepts
  have asked : sessionCallback options installed session requested accepts view =
      (reply.keepRunning,
        { session with stats := session.stats.observe view, phase := .runOnce raised },
        .answered view requested reply) := by
    rw [sessionCallback, same]
    rfl
  refine ⟨reply, raised, ?_, by rw [asked], step.keepRunning_iff⟩
  unfold onMessage
  simp only [view] at asked
  simp only [asked]
  cases step with
  | stopRequested | stoppedByHandler | maxMessagesReached => rfl
  | kept below =>
      have room : attempt.maxMessages = 0 ∨
          (attempt.state.observe message).messages < attempt.maxMessages := by
        by_cases free : options.maxMessages = 0
        · exact Or.inl (here.unlimited free)
        · right
          have count := (here.limited free).2
          have under : session.stats.messages + 1 < options.maxMessages := below free
          show attempt.state.messages + 1 < attempt.maxMessages
          omega
      simp only [room, decide_true, Bool.true_eq_false, if_false]
      rfl

/-- The reasons that go with an attempt that its handler stopped. -/
def StopsByHandler (reason : FeedSessionStopReason) : Prop :=
  reason = .maxMessagesReached ∨ reason = .stopRequested ∨ reason = .stoppedByHandler

/-- What the last status says of the place of the session. -/
def Verdict (stats : FeedSessionStats) : Phase → Prop
  | .returned reason => stats.lastStatus = .stoppedByHandler → StopsByHandler reason
  | .loopHead | .sleepForBackoff _ | .runOnce _ => stats.lastStatus ≠ .stoppedByHandler

/-- An attempt runs exactly while the session waits for `run_once`, and the layers agree. -/
def Running (options : FeedSessionOptions) (session : FeedSession) : Option LiveAttempt → Prop
  | none => ∀ callbacks, session.phase ≠ .runOnce callbacks
  | some attempt => ∃ callbacks, session.phase = .runOnce callbacks ∧
      InAttempt options session.stats.messages callbacks attempt

structure Agreed (options : FeedSessionOptions) (run : LiveRun) : Prop where
  running : Running options run.session run.attempt
  verdict : Verdict run.session.stats run.session.phase

/-- A raised flag ends the session, for one of the three reasons. -/
theorem attemptStopReason_of_raised {stats : FeedSessionStats}
    {callbacks : FeedSessionCallbackState} {attempt : FeedRunAttemptResult} {requested : Bool}
    (raised : callbacks ≠ {}) :
    ∃ reason, attemptStopReason options stats callbacks attempt requested = some reason ∧
      StopsByHandler reason := by
  unfold attemptStopReason
  split_ifs with reached stop refused
  · exact ⟨_, rfl, Or.inl rfl⟩
  · exact ⟨_, rfl, Or.inr (Or.inl rfl)⟩
  · exact ⟨_, rfl, Or.inr (Or.inr rfl)⟩
  all_goals
    obtain ⟨byHandler, byToken, byLimit⟩ := callbacks
    simp_all

theorem toFeedRunStatus_stopped {status : WebSocketRunStatus}
    (stopped : toFeedRunStatus status = .stoppedByHandler) : status = .stoppedByHandler := by
  cases status <;> first | rfl | cases stopped

/-- A fresh attempt agrees with the session that calls it. -/
theorem inAttempt_start {session : FeedSession}
    (goes : headStopReason options session.stats false = none) (now : UInt64) :
    InAttempt options session.stats.messages {}
      (.start connection (session.remainingMessages options) now) := by
  have parts (limit : Nat) : (LiveAttempt.start connection limit now).maxMessages = limit ∧
      (LiveAttempt.start connection limit now).state.messages = 0 ∧
      (LiveAttempt.start connection limit now).websocket.Honest false := by
    unfold LiveAttempt.start
    split_ifs
    · exact ⟨rfl, rfl, nofun, fun _ => rfl⟩
    · exact ⟨rfl, rfl, nofun, fun _ => rfl⟩
  obtain ⟨limit, none, honest⟩ := parts (session.remainingMessages options)
  refine ⟨honest, fun free => ?_, fun limited => ?_⟩
  · rw [limit, FeedSession.remainingMessages, if_pos free]
  · have room := (headStopReason_none goes).2.1 limited
    rw [limit, none, FeedSession.remainingMessages, if_neg limited]
    omega

/-- Between attempts, a step of the session starts an attempt or leaves the place between them. -/
theorem agreed_poll {session : FeedSession} (idle : ∀ callbacks, session.phase ≠ .runOnce callbacks)
    (verdict : Verdict session.stats session.phase) (requested : Bool) (now : UInt64) :
    Agreed options
      (runLive connection options installed { session } (.poll requested now)).1 := by
  have step := runFeedSession_step options installed session (.poll requested)
  simp only [runLive]
  generalize runFeedSession options installed session (.poll requested) = result at step ⊢
  obtain ⟨next, action⟩ := result
  cases step with
  | idle => exact ⟨idle, verdict⟩
  | headReturns _ reason place =>
      rw [place] at verdict
      exact ⟨(fun _ other => by cases other), fun stopped => absurd stopped verdict⟩
  | calls place decision =>
      rw [place] at verdict
      exact ⟨⟨{}, rfl, inAttempt_start decision now⟩, verdict⟩
  | backoffStops remaining place =>
      rw [place] at verdict
      exact ⟨(fun _ other => by cases other), fun stopped => absurd stopped verdict⟩
  | sleeps remaining rest place | wakes remaining place =>
      rw [place] at verdict
      exact ⟨(fun _ other => by cases other), verdict⟩

section Attempt

variable {session : FeedSession} {attempt : LiveAttempt} {callbacks : FeedSessionCallbackState}

/-- A message the client reads is counted by both layers. -/
theorem agreed_received (place : session.phase = .runOnce callbacks)
    (inside : InAttempt options session.stats.messages callbacks attempt)
    (verdict : Verdict session.stats session.phase) (message : WebSocketMessageView)
    (requested accepts : Bool) :
    Agreed options (runLive connection options installed { session, attempt := some attempt }
      (.received message requested accepts)).1 := by
  simp only [runLive]
  split_ifs with reading
  · obtain rfl : callbacks = {} := by
      simpa using inside.honest.waiting (Or.inr reading)
    obtain ⟨reply, raised, same, -, keeps⟩ := @onMessage_eq connection options installed _ _
      inside place message requested accepts
    simp only [same]
    rw [place] at verdict
    refine ⟨⟨raised, rfl, ?_, inside.unlimited, fun limit => ?_⟩, verdict⟩
    · have honest := inside.honest.received message reply.keepRunning
      have told : decide (raised ≠ {}) = !reply.keepRunning := by
        cases kept : reply.keepRunning with
        | true => exact decide_eq_false (not_not.mpr (keeps.mp kept))
        | false => exact decide_eq_true fun down => by rw [keeps.mpr down] at kept; cases kept
      rw [told]
      exact honest
    · obtain ⟨positive, count⟩ := inside.limited limit
      refine ⟨positive, ?_⟩
      show attempt.state.messages + 1 + options.maxMessages =
        session.stats.messages + 1 + attempt.maxMessages
      omega
  · exact ⟨⟨callbacks, place, inside⟩, verdict⟩

/-- An attempt that returns leaves a verdict of the session. -/
theorem agreed_returned (place : session.phase = .runOnce callbacks)
    (inside : InAttempt options session.stats.messages callbacks attempt)
    (verdict : Verdict session.stats session.phase) (requested : Bool) :
    Agreed options (runLive connection options installed { session, attempt := some attempt }
      (.returned requested)).1 := by
  simp only [runLive]
  split_ifs with done
  · have stopped : (toFeedAttemptResult attempt.runResult).status = .stoppedByHandler →
        callbacks ≠ {} := fun status =>
      of_decide_eq_true (inside.honest.status (toFeedRunStatus_stopped status))
    rcases runFeedSession_attempted options installed place
      (toFeedAttemptResult attempt.runResult) requested with
      ⟨reason, decision, same⟩ | ⟨decision, same⟩
    · rw [same]
      refine ⟨(fun _ other => by cases other), fun status => ?_⟩
      obtain ⟨other, returned, among⟩ := attemptStopReason_of_raised (stopped status)
      rw [decision] at returned
      exact Option.some.inj returned ▸ among
    · rw [same]
      refine ⟨(fun _ other => by cases other), fun status => ?_⟩
      exact stopped status (attemptStopReason_none decision).1
  · exact ⟨⟨callbacks, place, inside⟩, verdict⟩

end Attempt

theorem agreed_step (run : LiveRun) (event : LiveEvent) (here : Agreed options run) :
    Agreed options (runLive connection options installed run event).1 := by
  obtain ⟨session, attempt⟩ := run
  obtain ⟨running, verdict⟩ := here
  cases attempt with
  | none =>
      cases event with
      | poll requested now => exact agreed_poll running verdict requested now
      | received | network | returned => exact ⟨running, verdict⟩
  | some attempt =>
      obtain ⟨callbacks, place, inside⟩ : ∃ callbacks, session.phase = .runOnce callbacks ∧
        InAttempt options session.stats.messages callbacks attempt := running
      cases event with
      | poll requested now =>
          have waits : runFeedSession options installed session (.poll requested) =
              (session, .idle) := by
            simp only [runFeedSession, place]
          simp only [runLive, waits]
          exact ⟨⟨callbacks, place, inside⟩, verdict⟩
      | received message requested accepts =>
          exact agreed_received place inside verdict message requested accepts
      | network event =>
          exact ⟨⟨callbacks, place, inside.honest.run event, inside.unlimited, inside.limited⟩,
            verdict⟩
      | returned requested => exact agreed_returned place inside verdict requested

/-- **The two message limits agree.** `run` is the system after any events: any limits, reconnects,
downstream handler, stop schedule and network.

* While an attempt reads, the client answers a message what the session's callback answers it, and
  `false` only with a flag up.
* An attempt that its handler stopped has a flag of the session up.
* A session whose last attempt was stopped by its handler returns because the limit was reached, or
  because it was asked or told to stop. -/
theorem limits_agree (connection : FeedConnectionSpec) (options : FeedSessionOptions)
    (installed : Bool) (events : List LiveEvent) :
    let run := ({} : LiveRun).after connection options installed events
    (∀ attempt, run.attempt = some attempt →
      (attempt.websocket.phase = .reading → ∀ message requested accepts,
        let asked := onMessage connection attempt.maxMessages attempt.state message
          (sessionCallback options installed run.session requested accepts)
        asked.1 = (sessionCallback options installed run.session requested accepts
            (attempt.state.feedMessage connection message)).1 ∧
          (asked.1 = false → ∃ raised, asked.2.2.1.phase = .runOnce raised ∧ raised ≠ {})) ∧
      (attempt.websocket.result.status = .stoppedByHandler →
        ∃ raised, run.session.phase = .runOnce raised ∧ raised ≠ {})) ∧
    ∀ reason, run.session.phase = .returned reason →
      run.session.stats.lastStatus = .stoppedByHandler →
        reason = .maxMessagesReached ∨ reason = .stopRequested ∨ reason = .stoppedByHandler := by
  intro run
  have agreed : Agreed options run :=
    Machine.final_invariant (runLive connection options installed) (Agreed options) (fun _ => True)
      (fun run event here _ => agreed_step run event here) ⟨nofun, nofun⟩ fun _ _ => trivial
  obtain ⟨running, verdict⟩ := agreed
  refine ⟨fun attempt present => ?_, fun reason returned stopped => ?_⟩
  · rw [present] at running
    obtain ⟨callbacks, place, inside⟩ := running
    refine ⟨fun reading message requested accepts => ?_, fun stopped => ?_⟩
    · obtain rfl : callbacks = {} := by
        simpa using inside.honest.waiting (Or.inr reading)
      obtain ⟨reply, raised, same, told, keeps⟩ := @onMessage_eq connection options installed _ _
        inside place message requested accepts
      show (onMessage _ _ _ _ _).1 = _ ∧ ((onMessage _ _ _ _ _).1 = false → _)
      rw [same, told]
      refine ⟨rfl, fun refused => ⟨raised, rfl, fun down => ?_⟩⟩
      rw [keeps.mpr down] at refused
      cases refused
    · exact ⟨callbacks, place, of_decide_eq_true (inside.honest.status stopped)⟩
  · rw [returned] at verdict
    exact verdict stopped

/-! ### The session inside -/

/-- The session of a live run is one that ran on its own, obediently. -/
def Inner (options : FeedSessionOptions) (installed : Bool) (session : FeedSession) : Prop :=
  ∃ events, ({} : FeedSession).after options installed events = session ∧
    Obedient (({} : FeedSession).actions options installed events) ∧
    Clean (({} : FeedSession).actions options installed events) session.phase

theorem Inner.step {session : FeedSession} (inner : Inner options installed session)
    (event : SessionEvent)
    (down : ∀ callbacks view requested accepts, event = .message view requested accepts →
      session.phase = .runOnce callbacks → callbacks = {}) :
    Inner options installed (runFeedSession options installed session event).1 := by
  obtain ⟨events, same, obedient, clean⟩ := inner
  have actions : ({} : FeedSession).actions options installed (events ++ [event]) =
      ({} : FeedSession).actions options installed events ++
        [(runFeedSession options installed session event).2] := by
    rw [← same]
    exact Machine.outputs_append _ _ _ _
  refine ⟨events ++ [event], ?_, ?_, ?_⟩
  · rw [← same]
    exact Machine.final_append _ _ _ _
  · rw [actions]
    refine Obedient.append obedient fun callback => ?_
    obtain ⟨callbacks, view, requested, accepts, asked, place⟩ := received_inv callback
    rw [place] at clean
    exact clean (down callbacks view requested accepts asked place)
  · rw [actions]
    exact clean_step event clean

/-- The system leaves its session alone or hands it one event, a message only while it reads. -/
theorem runLive_session (run : LiveRun) (event : LiveEvent) :
    (runLive connection options installed run event).1.session = run.session ∨
      ∃ asked, (runLive connection options installed run event).1.session =
          (runFeedSession options installed run.session asked).1 ∧
        ∀ view requested accepts, asked = .message view requested accepts →
          ∃ attempt, run.attempt = some attempt ∧ attempt.websocket.phase = .reading := by
  have step := runLive_step connection options installed run event
  generalize (runLive connection options installed run event).1 = next at step ⊢
  generalize (runLive connection options installed run event).2 = action at step
  cases step with
  | waits | runs => exact Or.inl rfl
  | polls requested asked | calls requested _ _ asked =>
      exact Or.inr ⟨.poll requested, (congrArg Prod.fst asked).symm, nofun⟩
  | returns requested _ asked => exact Or.inr ⟨_, (congrArg Prod.fst asked).symm, nofun⟩
  | @reads attempt message requested accepts _ _ session action present reading asked =>
      right
      refine ⟨.message (attempt.state.feedMessage connection message) requested accepts, ?_,
        fun _ _ _ _ => ⟨attempt, present, reading⟩⟩
      have effect := onMessage_effect connection attempt.maxMessages attempt.state message
        (sessionCallback options installed run.session requested accepts)
      rw [asked] at effect
      exact congrArg Prod.fst effect

/-- **The session inside a live run** ran on its own through events in which no attempt makes a
callback after one that returned `false`. -/
theorem session_of_live (connection : FeedConnectionSpec) (options : FeedSessionOptions)
    (installed : Bool) (events : List LiveEvent) :
    ∃ inner : List SessionEvent,
      ({} : FeedSession).after options installed inner =
        (({} : LiveRun).after connection options installed events).session ∧
      Obedient (({} : FeedSession).actions options installed inner) := by
  have fresh : Agreed options {} ∧ Inner options installed {} :=
    ⟨⟨nofun, nofun⟩, [], rfl, .of_unrefused .nil, Unrefused.nil⟩
  have both := Machine.final_invariant (runLive connection options installed)
    (fun run => Agreed options run ∧ Inner options installed run.session) (fun _ => True) ?_ fresh
    (fun event (_ : event ∈ events) => trivial)
  · obtain ⟨-, inner, same, obedient, -⟩ := both
    exact ⟨inner, same, obedient⟩
  · intro run event ⟨agreed, inner⟩ _
    refine ⟨agreed_step run event agreed, ?_⟩
    rcases runLive_session run event with same | ⟨asked, same, whenReading⟩
    · rw [same]
      exact inner
    · rw [same]
      refine inner.step asked fun callbacks view requested accepts message place => ?_
      obtain ⟨attempt, present, reading⟩ := whenReading view requested accepts message
      have running := agreed.running
      rw [present] at running
      obtain ⟨flags, here, inside⟩ := running
      obtain rfl : callbacks = flags := Phase.runOnce.inj (place.symm.trans here)
      simpa using inside.honest.waiting (Or.inr reading)

end Limits

end MarketDataFabric.Apps
