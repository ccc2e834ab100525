/-
**The live session with 64-bit counters**: `BinanceLive` with the counters of the client, of its socket
and of the session reduced modulo `2 ^ 64`, as those of the source are.

* `runLiveWords` — the system with such counters. Like the session's callback, the client's compares the
  messages it has just counted.
* `Counted`, `counted_step` — an attempt has counted no more than the session.
* `live_words` — **until a counter of the session would wrap, both systems do the same**: what holds of
  the runs of one holds of those of the other.
-/

import MarketDataFabric.Apps.LiveAccounts
import MarketDataFabric.Service.SessionWords

namespace MarketDataFabric.Apps

open MarketDataFabric.Feed Net Service Library

/-! ### The client and the wiring -/

/-- The counters, as 64-bit words hold them. -/
def CallbackState.wrapped (state : CallbackState) : CallbackState :=
  { state with messages := state.messages % 2 ^ 64, bytes := state.bytes % 2 ^ 64 }

/-- `on_message`, its counters wrapping. -/
def onMessageWords {σ : Type} (connection : FeedConnectionSpec) (maxMessages : Nat)
    (state : CallbackState) (message : WebSocketMessageView)
    (handler : FeedMessageView → Bool × σ) : Bool × CallbackState × σ :=
  let feedMessage := state.feedMessage connection message
  let state := (state.observe message).wrapped
  let (handlerOk, effect) := handler feedMessage
  if handlerOk = false then (false, state, effect)
  else (maxMessages = 0 ∨ state.messages < maxMessages, state, effect)

/-- The session's callback, its counters wrapping. -/
def sessionCallbackWords (options : FeedSessionOptions) (installed : Bool) (session : FeedSession)
    (requested accepts : Bool) (view : FeedMessageView) : Bool × FeedSession × SessionAction :=
  let (session, action) :=
    runFeedSessionWords options installed session (.message view requested accepts)
  (answer action, session, action)

/-- The system, its counters wrapping. Only a message is counted by a client, and the session's callback
is the only part of a session that compares what it has just added to. -/
def runLiveWords (connection : FeedConnectionSpec) (options : FeedSessionOptions) (installed : Bool)
    (run : LiveRun) (event : LiveEvent) : LiveRun × SessionAction :=
  match event, run.attempt with
  | .received message requested accepts, some attempt =>
      if attempt.websocket.phase = .reading then
        let (keepRunning, state, session, action) :=
          onMessageWords connection attempt.maxMessages attempt.state message
            (sessionCallbackWords options installed run.session requested accepts)
        ({ session
           attempt := some
            { attempt with
              state, websocket := (attempt.websocket.received message keepRunning).wrapped } },
          action)
      else (run, .idle)
  | _, _ =>
      let result := runLive connection options installed run event
      ({ result.1 with session := result.1.session.wrapped }, result.2)

/-! ### What an attempt has counted -/

section Counted

variable {connection : FeedConnectionSpec} {options : FeedSessionOptions} {installed : Bool}

/-- **An attempt has counted no more than the session**, and its socket as much as its client. -/
structure Counted (options : FeedSessionOptions) (run : LiveRun) : Prop where
  agreed : Agreed options run
  socket : ∀ attempt, run.attempt = some attempt → SameCount attempt
  messages : ∀ attempt, run.attempt = some attempt →
    attempt.state.messages ≤ run.session.stats.messages
  bytes : ∀ attempt, run.attempt = some attempt → attempt.state.bytes ≤ run.session.stats.bytes

theorem Counted.fresh (options : FeedSessionOptions) : Counted options {} where
  agreed := ⟨nofun, nofun⟩
  socket _ none := nomatch none
  messages _ none := nomatch none
  bytes _ none := nomatch none

/-- What does not touch the attempt takes nothing from the session. -/
theorem Counted.grows {run next : LiveRun} (here : Counted options run) (agreed : Agreed options next)
    (same : next.attempt = run.attempt) (grows : run.session.stats.Within next.session.stats) :
    Counted options next where
  agreed := agreed
  socket attempt present := here.socket attempt (same ▸ present)
  messages attempt present := (here.messages attempt (same ▸ present)).trans grows.messages
  bytes attempt present := (here.bytes attempt (same ▸ present)).trans grows.bytes

/-- A message that is read is counted by the attempt, its socket and the session. -/
theorem runLive_received {run : LiveRun} (here : Counted options run) {attempt : LiveAttempt}
    (present : run.attempt = some attempt) (reading : attempt.websocket.phase = .reading)
    (message : WebSocketMessageView) (requested accepts : Bool) :
    ∃ reply raised,
      onMessage connection attempt.maxMessages attempt.state message
          (sessionCallback options installed run.session requested accepts) =
        (reply.keepRunning, attempt.state.observe message,
          { run.session with
            stats := run.session.stats.observe (attempt.state.feedMessage connection message)
            phase := .runOnce raised },
          .answered (attempt.state.feedMessage connection message) requested reply) := by
  have running := here.agreed.running
  rw [present] at running
  obtain ⟨callbacks, place, inside⟩ : ∃ callbacks, run.session.phase = .runOnce callbacks ∧
    InAttempt options run.session.stats.messages callbacks attempt := running
  obtain rfl : callbacks = {} := by
    simpa using inside.honest.waiting (Or.inr reading)
  obtain ⟨reply, raised, answered, -, -⟩ := @onMessage_eq connection options installed _ _
    inside place message requested accepts
  exact ⟨reply, raised, answered⟩

theorem counted_step (run : LiveRun) (event : LiveEvent) (here : Counted options run) :
    Counted options (runLive connection options installed run event).1 ∧
      run.session.stats.Within
        (runLive connection options installed run event).1.session.stats := by
  have agreed := @agreed_step connection options installed run event here.agreed
  have step := runLive_step connection options installed run event
  generalize (runLive connection options installed run event).1 = next at step agreed ⊢
  generalize (runLive connection options installed run event).2 = action at step
  cases step with
  | waits => exact ⟨here, .refl _⟩
  | polls requested asked =>
      have grows := @runFeedSession_grows options installed run.session (.poll requested)
      rw [asked] at grows
      exact ⟨here.grows agreed rfl grows, grows⟩
  | calls requested limit now asked =>
      have grows := @runFeedSession_grows options installed run.session (.poll requested)
      rw [asked] at grows
      have fresh : SameCount (.start connection limit now) ∧
          (LiveAttempt.start connection limit now).state.messages = 0 ∧
          (LiveAttempt.start connection limit now).state.bytes = 0 := by
        unfold LiveAttempt.start
        split_ifs <;> exact ⟨⟨rfl, rfl⟩, rfl, rfl⟩
      refine ⟨⟨agreed, ?_, ?_, ?_⟩, grows⟩
      all_goals
        intro attempt present
        obtain rfl := Option.some.inj present
      · exact fresh.1
      · rw [fresh.2.1]
        exact Nat.zero_le _
      · rw [fresh.2.2]
        exact Nat.zero_le _
  | @runs attempt event present =>
      refine ⟨⟨agreed, ?_, ?_, ?_⟩, .refl _⟩
      all_goals
        intro later same
        obtain rfl := Option.some.inj same
      · exact (here.socket attempt present).run event
      · exact here.messages attempt present
      · exact here.bytes attempt present
  | @returns attempt requested session action present asked =>
      have grows := @runFeedSession_grows options installed run.session
        (.attempted (toFeedAttemptResult attempt.runResult) requested)
      rw [asked] at grows
      exact ⟨⟨agreed, nofun, nofun, nofun⟩, grows⟩
  | @reads attempt message requested accepts _ _ session action present reading asked =>
      obtain ⟨reply, raised, answered⟩ := @runLive_received connection options installed run here
        attempt present reading message requested accepts
      rw [answered] at asked
      cases asked
      have payload := (feedMessage_faithful connection attempt.state message).payload
      have longer : attempt.state.bytes + message.payload.length ≤ run.session.stats.bytes +
          (attempt.state.feedMessage connection message).payload.length := by
        rw [payload]
        exact Nat.add_le_add_right (here.bytes attempt present) _
      refine ⟨⟨agreed, ?_, ?_, ?_⟩,
        ⟨Nat.le_refl _, Nat.le_refl _, Nat.le_succ _, Nat.le_add_right _ _⟩⟩
      all_goals
        intro later same
        obtain rfl := Option.some.inj same
      · exact (here.socket attempt present).received message reply.keepRunning
      · exact Nat.succ_le_succ (here.messages attempt present)
      · exact longer

/-! ### Both systems -/

theorem CallbackState.wrapped_of_lt {state : CallbackState} (messages : state.messages < 2 ^ 64)
    (bytes : state.bytes < 2 ^ 64) : state.wrapped = state := by
  rw [CallbackState.wrapped, Nat.mod_eq_of_lt messages, Nat.mod_eq_of_lt bytes]

/-- **A message that makes no counter wrap** is answered alike by both clients. -/
theorem onMessageWords_eq {session : FeedSession} {limit : Nat} {state : CallbackState}
    {message : WebSocketMessageView} {requested accepts : Bool}
    (observed : (state.observe message).wrapped = state.observe message)
    (fits : (sessionCallback options installed session requested accepts
      (state.feedMessage connection message)).2.1.stats.Fits) :
    onMessageWords connection limit state message
        (sessionCallbackWords options installed session requested accepts) =
      onMessage connection limit state message
        (sessionCallback options installed session requested accepts) := by
  have called : sessionCallbackWords options installed session requested accepts
      (state.feedMessage connection message) =
        sessionCallback options installed session requested accepts
          (state.feedMessage connection message) := by
    have same := @runFeedSessionWords_eq options installed session
      (.message (state.feedMessage connection message) requested accepts) fits
    rw [sessionCallbackWords, same]
    rfl
  rw [onMessageWords, onMessage, observed, called]

/-- **An event that makes no counter of the session wrap** does the same to both systems. -/
theorem runLiveWords_eq {run : LiveRun} {event : LiveEvent} (here : Counted options run)
    (fits : (runLive connection options installed run event).1.session.stats.Fits) :
    runLiveWords connection options installed run event =
      runLive connection options installed run event := by
  have counted := (@counted_step connection options installed run event here).1
  unfold runLiveWords
  split
  next message requested accepts attempt present =>
    simp only [runLive, present] at fits counted ⊢
    split_ifs at fits counted ⊢ with reading
    · obtain ⟨reply, raised, answered⟩ := @runLive_received connection options installed run here
        attempt present reading message requested accepts
      have asked := onMessage_effect connection attempt.maxMessages attempt.state message
        (sessionCallback options installed run.session requested accepts)
      rw [answered] at fits counted asked
      have messages := Nat.lt_of_le_of_lt (counted.messages _ rfl) fits.messages
      have bytes := Nat.lt_of_le_of_lt (counted.bytes _ rfl) fits.bytes
      have socket := counted.socket _ rfl
      have same := @onMessageWords_eq connection options installed run.session attempt.maxMessages
        attempt.state message requested accepts (CallbackState.wrapped_of_lt messages bytes)
        (asked ▸ fits)
      rw [same, answered]
      dsimp only
      rw [WebSocketRun.wrapped_of_lt (socket.messages ▸ messages) (socket.bytes ▸ bytes)]
    · rfl
  next =>
    dsimp only
    rw [FeedSession.wrapped_of_fits fits]

/-- **Both systems do the same until a counter of the session would wrap**: on every list of events
after which no counter of the session has reached `2 ^ 64` they have done the same, and are in the same
state. The counters of the client and of its socket are never ahead of those. -/
theorem live_words (connection : FeedConnectionSpec) (options : FeedSessionOptions) (installed : Bool)
    (events : List LiveEvent)
    (fits : (LiveRun.after connection options installed {} events).session.stats.Fits) :
    Machine.final (runLiveWords connection options installed) {} events =
        LiveRun.after connection options installed {} events ∧
      Machine.outputs (runLiveWords connection options installed) {} events =
        Machine.outputs (runLive connection options installed) {} events :=
  (Machine.run_agrees (runLive connection options installed) (Counted options)
    (fun run => run.session.stats.Fits) (fun run event here => (counted_step run event here).1)
    (fun run event here => (counted_step run event here).2.fits)
    (fun _ _ => runLiveWords_eq) (.fresh options) fits).2

end Counted

end MarketDataFabric.Apps
