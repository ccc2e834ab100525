/-
**The accounts of a live run**: what the network delivers, what the layers count of it, and what the
session hands on.

* `runLive_asks` — whatever happens to the system, its session takes one step of its own.
* `live_accounted` — hence the accounts of an obedient session (`Accounted`) hold along every live run.
* `live_accepted` — **the downstream handler accepts every message received**, except possibly the last
  one.
* `Faithful`, `reads_received` — **every message read from the network reaches the session**, once, in
  order, with its payload, its time and its size.
* `Layered` — the counters of the three layers since the last call of the client.
* `live_delivery` — **from the network to the session and back**: what is read, what is received, what
  every layer counts and what every attempt reports are the same messages.
-/

import MarketDataFabric.Apps.CaptureOrder

namespace MarketDataFabric.Apps

open MarketDataFabric.Feed Net Service Library

section Live

variable {connection : FeedConnectionSpec} {options : FeedSessionOptions} {installed : Bool}

/-! ### The session inside -/

/-- In every phase there is something that the session does not react to. -/
theorem exists_idle (options : FeedSessionOptions) (installed : Bool) (session : FeedSession) :
    ∃ event, runFeedSession options installed session event = (session, .idle) ∧
      ∀ view requested accepts, event = .message view requested accepts →
        ∀ callbacks, session.phase ≠ .runOnce callbacks := by
  cases place : session.phase with
  | runOnce callbacks =>
      refine ⟨.poll false, ?_, fun _ _ _ said => by cases said⟩
      simp only [runFeedSession, place]
  | loopHead | sleepForBackoff | returned =>
      refine ⟨.message {} false false, ?_, fun _ _ _ _ _ same => by cases same⟩
      simp only [runFeedSession, place]

/-- **Whatever happens to the system, its session takes one step**, that of a message only while the
attempt reads. -/
theorem runLive_asks (run : LiveRun) (event : LiveEvent) :
    ∃ asked, runFeedSession options installed run.session asked =
        ((runLive connection options installed run event).1.session,
          (runLive connection options installed run event).2) ∧
      ∀ callbacks view requested accepts, asked = .message view requested accepts →
        run.session.phase = .runOnce callbacks →
        ∃ attempt, run.attempt = some attempt ∧ attempt.websocket.phase = .reading := by
  have step := runLive_step connection options installed run event
  generalize (runLive connection options installed run event).1 = next at step ⊢
  generalize (runLive connection options installed run event).2 = action at step ⊢
  cases step with
  | waits | runs =>
      obtain ⟨asked, same, elsewhere⟩ := exists_idle options installed run.session
      exact ⟨asked, same, fun callbacks view requested accepts said place =>
        absurd place (elsewhere view requested accepts said callbacks)⟩
  | polls requested asked | calls requested _ _ asked =>
      exact ⟨.poll requested, asked, fun _ _ _ _ said => by cases said⟩
  | returns requested _ asked => exact ⟨_, asked, fun _ _ _ _ said => by cases said⟩
  | @reads attempt message requested accepts _ _ session action present reading asked =>
      have effect := onMessage_effect connection attempt.maxMessages attempt.state message
        (sessionCallback options installed run.session requested accepts)
      rw [asked] at effect
      exact ⟨.message (attempt.state.feedMessage connection message) requested accepts, effect.symm,
        fun _ _ _ _ _ _ => ⟨attempt, present, reading⟩⟩

/-- What a live run keeps: its layers agree, its session is obedient, and the accounts of the session
are those of what was done. -/
structure LiveAccounted (options : FeedSessionOptions) (installed : Bool)
    (actions : List SessionAction) (run : LiveRun) : Prop where
  agreed : Agreed options run
  obedient : Obedient actions
  clean : Clean actions run.session.phase
  accounted : Accounted options installed actions run.session

/-- A message is received while no flag is up, hence after callbacks that were all kept. -/
theorem LiveAccounted.unrefused {actions : List SessionAction} {run : LiveRun}
    (here : LiveAccounted options installed actions run) {asked : SessionEvent}
    (whenReading : ∀ callbacks view requested accepts, asked = .message view requested accepts →
      run.session.phase = .runOnce callbacks →
      ∃ attempt, run.attempt = some attempt ∧ attempt.websocket.phase = .reading)
    (callback : (runFeedSession options installed run.session asked).2.received ≠ none) :
    Unrefused actions := by
  obtain ⟨callbacks, view, requested, accepts, said, place⟩ := received_inv callback
  obtain ⟨attempt, present, reading⟩ := whenReading callbacks view requested accepts said place
  have running := here.agreed.running
  rw [present] at running
  obtain ⟨flags, there, inside⟩ := running
  have clean := here.clean
  rw [there] at clean
  exact clean (by simpa using inside.honest.waiting (Or.inr reading))

theorem live_accounted_step (actions : List SessionAction) (run : LiveRun) (event : LiveEvent)
    (here : LiveAccounted options installed actions run) :
    LiveAccounted options installed
      (actions ++ [(runLive connection options installed run event).2])
      (runLive connection options installed run event).1 := by
  obtain ⟨asked, same, whenReading⟩ := @runLive_asks connection options installed run event
  have did := congrArg Prod.snd same
  have moved := congrArg Prod.fst same
  dsimp only at did moved
  have obeys : Obedient (actions ++ [(runFeedSession options installed run.session asked).2]) :=
    here.obedient.append (here.unrefused whenReading)
  refine ⟨agreed_step run event here.agreed, did ▸ obeys, ?_, ?_⟩
  · rw [← did, ← moved]
    exact clean_step asked here.clean
  · rw [← did, ← moved]
    exact accounted_step actions run.session asked (fun _ => here.accounted) obeys

/-- **The accounts of a session hold along every live run.** -/
theorem live_accounted (connection : FeedConnectionSpec) (options : FeedSessionOptions)
    (installed : Bool) (events : List LiveEvent) :
    LiveAccounted options installed (({} : LiveRun).actions connection options installed events)
      (({} : LiveRun).after connection options installed events) := by
  have fresh : LiveAccounted options installed [] {} :=
    ⟨⟨nofun, nofun⟩, .of_unrefused .nil, .nil,
      ⟨rfl, rfl, rfl, rfl⟩, trivial, fun _ front _ cut => by simp at cut,
      fun limit => Nat.pos_of_ne_zero limit, fun _ => rfl⟩
  exact Machine.outputs_history (runLive connection options installed)
    (LiveAccounted options installed) live_accounted_step [] {} events fresh

/-! ### What the downstream handler accepts -/

/-- The message that the downstream handler accepted. -/
def accepted : SessionAction → Option FeedMessageView
  | .answered view _ ⟨_, some true⟩ => some view
  | .answered _ _ ⟨_, some false⟩ | .answered _ _ ⟨_, none⟩ => none
  | .idle | .polled _ | .called _ | .ended _ _ _ => none

/-- Every message received was accepted, except possibly the last one; and that one, too, unless a
callback was refused. -/
structure AcceptedOn (actions : List SessionAction) : Prop where
  kept : Unrefused actions → actions.filterMap accepted = received actions
  last : actions.filterMap accepted = received actions ∨
    ∃ view, received actions = actions.filterMap accepted ++ [view]

theorem accepted_append (actions : List SessionAction) (action : SessionAction) :
    (actions ++ [action]).filterMap accepted =
      actions.filterMap accepted ++ (accepted action).toList := by
  rw [List.filterMap_append]
  rcases action with _ | _ | _ | ⟨view, requested, ⟨keepRunning, _ | _ | _⟩⟩ | _ <;> rfl

/-- **A session keeps it**, when a callback is made only after callbacks that were all kept. -/
theorem AcceptedOn.step {actions : List SessionAction} (here : AcceptedOn actions)
    (session : FeedSession) (event : SessionEvent)
    (before : (runFeedSession options true session event).2.received ≠ none →
      Unrefused actions) :
    AcceptedOn (actions ++ [(runFeedSession options true session event).2]) := by
  obtain ⟨next, action, step, -, did⟩ := exists_session_step options true session event
  rw [did] at before ⊢
  have silent (quiet : action.received = none) (unaccepted : accepted action = none) :
      AcceptedOn (actions ++ [action]) := by
    refine ⟨fun unrefused => ?_, ?_⟩
    · rw [accepted_append, unaccepted, received_silent quiet]
      exact (List.append_nil _).trans (here.kept fun view requested reply member =>
        unrefused view requested reply (List.mem_append_left _ member))
    · rw [accepted_append, unaccepted, received_silent quiet, Option.toList, List.append_nil]
      exact here.last
  cases step with
  | idle | headReturns | calls | backoffStops | sleeps | wakes | attemptReturns | reconnects =>
      exact silent rfl rfl
  | answers callbacks raised view requested accepts reply place step =>
      have all := here.kept (before nofun)
      have grown (reply : CallbackReply) :
          received (actions ++ [SessionAction.answered view requested reply]) =
            received actions ++ [view] := received_append _ _
      cases step with
      | stopRequested | stoppedByHandler =>
          refine ⟨fun unrefused => ?_, Or.inr ⟨view, ?_⟩⟩
          · cases unrefused view _ _ (List.mem_append_right _ (List.mem_singleton.mpr rfl))
          · rw [grown, accepted_append, all]
            exact (congrArg (· ++ [view]) (List.append_nil _)).symm
      | maxMessagesReached | kept =>
          have same (keepRunning : Bool) :
              (actions ++ [SessionAction.answered view false
                ⟨keepRunning, some true⟩]).filterMap accepted =
                  received (actions ++ [SessionAction.answered view false
                    ⟨keepRunning, some true⟩]) := by
            rw [grown, accepted_append, all]
            rfl
          exact ⟨fun _ => same _, Or.inl (same _)⟩

/-- **The downstream handler accepts every message received**, except possibly the last one. -/
theorem live_accepted (connection : FeedConnectionSpec) (options : FeedSessionOptions)
    (events : List LiveEvent) :
    let actions := ({} : LiveRun).actions connection options true events
    actions.filterMap accepted = received actions ∨
      ∃ view, received actions = actions.filterMap accepted ++ [view] := by
  have fresh : LiveAccounted options true [] {} ∧ AcceptedOn [] :=
    ⟨live_accounted connection options true [], fun _ => rfl, Or.inl rfl⟩
  have both := Machine.outputs_history (runLive connection options true)
    (fun actions run => LiveAccounted options true actions run ∧ AcceptedOn actions) ?_ [] {} events
    fresh
  · exact both.2.last
  · rintro actions run event ⟨accounted, kept⟩
    refine ⟨live_accounted_step actions run event accounted, ?_⟩
    obtain ⟨asked, same, whenReading⟩ := @runLive_asks connection options true run event
    rw [← congrArg Prod.snd same]
    exact kept.step run.session asked (accounted.unrefused whenReading)

/-- A session that its handler stopped has a callback that the handler refused. -/
theorem live_stopped (connection : FeedConnectionSpec) (options : FeedSessionOptions)
    (installed : Bool) (events : List LiveEvent)
    (stopped : (({} : LiveRun).after connection options installed events).session.phase =
      .returned .stoppedByHandler) :
    ∃ view, .answered view false ⟨false, some false⟩ ∈
      ({} : LiveRun).actions connection options installed events := by
  have controlled : Controlled options (({} : LiveRun).actions connection options installed events)
      (({} : LiveRun).after connection options installed events).session := by
    refine Machine.outputs_history (runLive connection options installed)
      (fun actions run => Controlled options actions run.session) ?_ [] {} events
      ⟨rfl, fun _ => Nat.zero_le _, rfl, trivial⟩
    intro actions run event here
    obtain ⟨asked, same, -⟩ := @runLive_asks connection options installed run event
    have moved := congrArg Prod.fst same
    have did := congrArg Prod.snd same
    dsimp only at moved did
    rw [← moved, ← did]
    exact controlled_step actions run.session asked here
  have accountable := controlled.accountable
  rw [stopped] at accountable
  exact accountable

/-! ### From the network to the session -/

/-- The message that the client reads, if it reads one. -/
def reads (run : LiveRun) : LiveEvent → List WebSocketMessageView
  | .received message _ _ =>
      match run.attempt with
      | some attempt => if attempt.websocket.phase = .reading then [message] else []
      | none => []
  | .poll _ _ | .network _ | .returned _ => []

/-- Everything the client reads along a list of events. -/
abbrev LiveRun.reads (connection : FeedConnectionSpec) (options : FeedSessionOptions)
    (installed : Bool) (run : LiveRun) (events : List LiveEvent) : List WebSocketMessageView :=
  Machine.requests (runLive connection options installed) Apps.reads run events

/-- **A view of a message of the network**, which carries its payload, time and size, the ids of the
connection and of its only feed, and the mark of a binary payload. -/
structure Faithful (connection : FeedConnectionSpec) (message : WebSocketMessageView)
    (view : FeedMessageView) : Prop where
  payload : view.payload = message.payload
  time : view.envelope.recvTsNs = message.recvTsNs
  size : view.envelope.payloadSize = UInt32.ofNat message.payload.length
  origin : view.envelope.connectionId = connection.connectionId
  feed : ∀ feed, connection.feeds = [feed] → view.envelope.feedId = feed.feedId
  unknown : connection.feeds.length ≠ 1 → view.envelope.feedId = 0
  binary : view.envelope.flags &&& binaryPayload = if message.binary then binaryPayload else 0
  encoding : message.binary = true → view.envelope.payloadEncoding = .providerBinary

theorem feedMessage_faithful (connection : FeedConnectionSpec) (state : CallbackState)
    (message : WebSocketMessageView) :
    Faithful connection message (state.feedMessage connection message) := by
  have plain : providerTimestampUnknown &&& binaryPayload = 0 := by decide
  have known : (providerTimestampUnknown ||| feedKnownWithoutParsing) &&& binaryPayload = 0 := by
    decide
  have marked : (providerTimestampUnknown ||| binaryPayload) &&& binaryPayload = binaryPayload := by
    decide
  have both : (providerTimestampUnknown ||| feedKnownWithoutParsing ||| binaryPayload) &&&
      binaryPayload = binaryPayload := by
    decide
  obtain ⟨sourceId, connectionId, protocol, compression, feeds⟩ := connection
  obtain ⟨recvTsNs, payload, binary⟩ := message
  rcases feeds with _ | ⟨feed, _ | ⟨second, rest⟩⟩ <;> cases binary
  · exact ⟨rfl, rfl, rfl, rfl, nofun, fun _ => rfl, plain, nofun⟩
  · exact ⟨rfl, rfl, rfl, rfl, nofun, fun _ => rfl, marked, fun _ => rfl⟩
  · exact ⟨rfl, rfl, rfl, rfl, fun _ same => by cases same; rfl, fun other => absurd rfl other,
      known, nofun⟩
  · exact ⟨rfl, rfl, rfl, rfl, fun _ same => by cases same; rfl, fun other => absurd rfl other,
      both, fun _ => rfl⟩
  · exact ⟨rfl, rfl, rfl, rfl, nofun, fun _ => rfl, plain, nofun⟩
  · exact ⟨rfl, rfl, rfl, rfl, nofun, fun _ => rfl, marked, fun _ => rfl⟩

/-- Only a message is received. -/
theorem received_none (session : FeedSession) {event : SessionEvent}
    (other : ∀ view requested accepts, event ≠ .message view requested accepts) :
    (runFeedSession options installed session event).2.received = none := by
  by_contra callback
  obtain ⟨_, view, requested, accepts, same, -⟩ := received_inv callback
  exact other view requested accepts same

/-- Without a message from the network the session receives none. -/
theorem runLive_received_none (run : LiveRun) {event : LiveEvent}
    (other : ∀ message requested accepts, event ≠ .received message requested accepts) :
    (runLive connection options installed run event).2.received = none := by
  obtain ⟨session, attempt⟩ := run
  cases event with
  | poll requested now =>
      have quiet := @received_none options installed session (.poll requested)
        fun _ _ _ said => by cases said
      simp only [runLive]
      generalize runFeedSession options installed session (.poll requested) = asked at quiet ⊢
      obtain ⟨next, action⟩ := asked
      cases action <;> exact quiet
  | received message requested accepts => exact absurd rfl (other message requested accepts)
  | network event => cases attempt <;> rfl
  | returned requested =>
      cases attempt with
      | none => rfl
      | some attempt =>
          simp only [runLive]
          split_ifs
          · exact received_none session fun _ _ _ said => by cases said
          · rfl

/-- A message that is read is the one the session receives. -/
theorem reads_step {actions : List SessionAction} {run : LiveRun}
    (here : LiveAccounted options installed actions run) (event : LiveEvent) :
    List.Forall₂ (Faithful connection) (reads run event)
      (runLive connection options installed run event).2.received.toList := by
  cases event with
  | poll requested now =>
      rw [runLive_received_none run fun _ _ _ said => by cases said]
      exact .nil
  | network event =>
      rw [runLive_received_none run fun _ _ _ said => by cases said]
      exact .nil
  | returned requested =>
      rw [runLive_received_none run fun _ _ _ said => by cases said]
      exact .nil
  | received message requested accepts =>
      obtain ⟨session, attempt⟩ := run
      have running := here.agreed.running
      cases attempt with
      | none => exact .nil
      | some attempt =>
          simp only [runLive, reads]
          split_ifs with reading
          · obtain ⟨callbacks, place, inside⟩ : ∃ callbacks, session.phase = .runOnce callbacks ∧
              InAttempt options session.stats.messages callbacks attempt := running
            obtain rfl : callbacks = {} := by
              simpa using inside.honest.waiting (Or.inr reading)
            obtain ⟨reply, raised, same, -, -⟩ := @onMessage_eq connection options installed _ _
              inside place message requested accepts
            rw [same]
            exact .cons (feedMessage_faithful connection attempt.state message) .nil
          · exact .nil

/-- **Every message read from the network reaches the session**, once and in order. -/
theorem reads_received (events : List LiveEvent) :
    List.Forall₂ (Faithful connection)
      (({} : LiveRun).reads connection options installed events)
      (received (({} : LiveRun).actions connection options installed events)) := by
  suffices all : ∀ (actions : List SessionAction) (run : LiveRun),
      LiveAccounted options installed actions run →
      List.Forall₂ (Faithful connection) (run.reads connection options installed events)
        (received (run.actions connection options installed events)) from
    all [] {} (live_accounted connection options installed [])
  induction events with
  | nil => exact fun _ _ _ => .nil
  | cons event rest ih =>
      intro actions run here
      have later := ih _ _ (@live_accounted_step connection _ _ actions run event here)
      have first := @reads_step connection _ _ actions run here event
      have split : received (run.actions connection options installed (event :: rest)) =
          (runLive connection options installed run event).2.received.toList ++
            received ((runLive connection options installed run event).1.actions connection options
              installed rest) := by
        have does : run.actions connection options installed (event :: rest) =
            (runLive connection options installed run event).2 ::
              (runLive connection options installed run event).1.actions connection options
                installed rest := rfl
        rw [received, does, List.filterMap_cons]
        cases (runLive connection options installed run event).2.received <;> rfl
      rw [split]
      exact List.rel_append first later

/-! ### The counters of the layers -/

/-- The counters of a client, as the statistics of a session. -/
def CallbackState.stats (state : CallbackState) : FeedSessionStats where
  messages := state.messages
  bytes := state.bytes
  firstRecvTsNs := state.firstRecvTsNs
  lastRecvTsNs := state.lastRecvTsNs

/-- What an attempt reports, as the statistics of a session. -/
def reported (result : FeedRunAttemptResult) : FeedSessionStats where
  messages := result.messages
  bytes := result.bytes
  firstRecvTsNs := result.firstRecvTsNs
  lastRecvTsNs := result.lastRecvTsNs

/-- The socket has counted as much as the client around it. -/
structure SameCount (attempt : LiveAttempt) : Prop where
  messages : attempt.websocket.result.messages = attempt.state.messages
  bytes : attempt.websocket.result.bytes = attempt.state.bytes

/-- **The layers since the last call of the client**: the socket and the client have counted the
messages that the session received, and an attempt that ended reported them. -/
structure Layered (options : FeedSessionOptions) (since : List SessionAction) (run : LiveRun) :
    Prop where
  agreed : Agreed options run
  counted : ∀ attempt, run.attempt = some attempt →
    SameCount attempt ∧ Totals (received since) attempt.state.stats
  reports : ∀ callbacks result requested, .ended callbacks result requested ∈ since →
    run.attempt = none ∧ Totals (received since) (reported result)

/-- What is neither a callback nor an end changes nothing for the layers. -/
theorem Layered.silent {since : List SessionAction} {run next : LiveRun} {action : SessionAction}
    (here : Layered options since run) (agreed : Agreed options next)
    (same : next.attempt = run.attempt) (quiet : action.received = none)
    (other : ∀ callbacks result requested, action ≠ .ended callbacks result requested) :
    Layered options (since ++ [action]) next := by
  refine ⟨agreed, fun attempt present => ?_, fun callbacks result requested member => ?_⟩
  · rw [received_silent quiet]
    exact here.counted attempt (same ▸ present)
  · rw [received_silent quiet, same]
    rcases List.mem_append.mp member with early | last
    · exact here.reports callbacks result requested early
    · exact absurd (List.mem_singleton.mp last).symm (other callbacks result requested)

/-- The network changes no counter. -/
theorem SameCount.run {attempt : LiveAttempt} (same : SameCount attempt) (event : NetworkEvent) :
    SameCount { attempt with websocket := attempt.websocket.run event } := by
  have kept : (attempt.websocket.run event).result.messages = attempt.websocket.result.messages ∧
      (attempt.websocket.run event).result.bytes = attempt.websocket.result.bytes := by
    unfold WebSocketRun.run
    split <;> first
      | exact ⟨rfl, rfl⟩
      | (split_ifs <;> exact ⟨rfl, rfl⟩)
  exact ⟨kept.1.trans same.messages, kept.2.trans same.bytes⟩

theorem SameCount.received {attempt : LiveAttempt} (same : SameCount attempt)
    (message : WebSocketMessageView) (keepRunning : Bool) :
    SameCount { attempt with
      state := attempt.state.observe message
      websocket := attempt.websocket.received message keepRunning } := by
  cases keepRunning with
  | true | false =>
      exact ⟨congrArg (· + 1) same.messages, congrArg (· + message.payload.length) same.bytes⟩

/-- Only the return of a client ends an attempt. -/
theorem ended_inv {session : FeedSession} {event : SessionEvent}
    {callbacks : FeedSessionCallbackState} {result : FeedRunAttemptResult} {requested : Bool}
    (ends : (runFeedSession options installed session event).2 =
      .ended callbacks result requested) : event = .attempted result requested := by
  obtain ⟨next, action, step, -, did⟩ := exists_session_step options installed session event
  rw [did] at ends
  cases step with
  | attemptReturns | reconnects =>
      cases ends
      rfl
  | idle | headReturns | calls | backoffStops | sleeps | wakes | answers => cases ends

/-- What is not a call keeps the layers together. -/
theorem Layered.step {since : List SessionAction} {run : LiveRun} (here : Layered options since run)
    (event : LiveEvent)
    (uncalled : (runLive connection options installed run event).2.isCall = false) :
    Layered options (since ++ [(runLive connection options installed run event).2])
      (runLive connection options installed run event).1 := by
  have agreed := @agreed_step connection options installed run event here.agreed
  have step := runLive_step connection options installed run event
  generalize (runLive connection options installed run event).1 = next at step agreed ⊢
  generalize (runLive connection options installed run event).2 = action at step uncalled ⊢
  cases step with
  | waits => exact here.silent agreed rfl rfl fun _ _ _ ends => by cases ends
  | calls => cases uncalled
  | polls requested asked =>
      refine here.silent agreed rfl ?_ fun callbacks result requested' ends => ?_
      · have quiet := @received_none options installed run.session (.poll requested)
          fun _ _ _ said => by cases said
        rwa [asked] at quiet
      · cases ended_inv (ends ▸ congrArg Prod.snd asked)
  | @runs attempt event present =>
      refine ⟨agreed, fun later same => ?_, fun callbacks result requested member => ?_⟩
      · obtain rfl := Option.some.inj same
        rw [received_silent rfl]
        exact (here.counted attempt present).imp (SameCount.run · event) id
      · rcases List.mem_append.mp member with early | last
        · rw [(here.reports callbacks result requested early).1] at present
          cases present
        · cases List.mem_singleton.mp last
  | @returns attempt requested session action present asked =>
      obtain ⟨same, totals⟩ := here.counted attempt present
      have quiet := @received_none options installed run.session
        (.attempted (toFeedAttemptResult attempt.runResult) requested) fun _ _ _ said => by cases said
      rw [asked] at quiet
      refine ⟨agreed, nofun, fun callbacks result requested' member => ⟨rfl, ?_⟩⟩
      rw [received_silent quiet]
      rcases List.mem_append.mp member with early | last
      · rw [(here.reports callbacks result requested' early).1] at present
        cases present
      · have ends := ended_inv ((congrArg Prod.snd asked).trans (List.mem_singleton.mp last).symm)
        cases ends
        exact totals
  | @reads attempt message requested accepts _ _ session action present reading asked =>
      obtain ⟨same, totals⟩ := here.counted attempt present
      have running := here.agreed.running
      rw [present] at running
      obtain ⟨callbacks, place, inside⟩ : ∃ callbacks, run.session.phase = .runOnce callbacks ∧
        InAttempt options run.session.stats.messages callbacks attempt := running
      obtain rfl : callbacks = {} := by
        simpa using inside.honest.waiting (Or.inr reading)
      obtain ⟨reply, raised, answered, -, -⟩ := @onMessage_eq connection options installed _ _
        inside place message requested accepts
      rw [answered] at asked
      cases asked
      refine ⟨agreed, fun later kept => ?_, fun callbacks result requested' member => ?_⟩
      · obtain rfl := Option.some.inj kept
        refine ⟨same.received message reply.keepRunning, ?_⟩
        rw [received_append]
        have faithful := feedMessage_faithful connection attempt.state message
        have observed : (attempt.state.observe message).stats =
            attempt.state.stats.observe (attempt.state.feedMessage connection message) := by
          simp only [CallbackState.stats, CallbackState.observe, FeedSessionStats.observe,
            faithful.payload, faithful.time]
        rw [observed]
        exact totals.observe _
      · rcases List.mem_append.mp member with early | last
        · rw [(here.reports callbacks result requested' early).1] at present
          cases present
        · cases List.mem_singleton.mp last

/-- Every call of the client begins the count anew. -/
theorem Layered.renew {since : List SessionAction} {run : LiveRun}
    (here : Layered options since run) (event : LiveEvent)
    (called : (runLive connection options installed run event).2.isCall = true) :
    Layered options [] (runLive connection options installed run event).1 := by
  have agreed := @agreed_step connection options installed run event here.agreed
  have step := runLive_step connection options installed run event
  generalize (runLive connection options installed run event).1 = next at step agreed ⊢
  generalize (runLive connection options installed run event).2 = action at step called
  cases step with
  | waits | runs => cases called
  | polls requested asked other =>
      rw [isCall_eq_false other] at called
      cases called
  | returns requested _ asked =>
      rw [isCall_attempted asked] at called
      cases called
  | @reads attempt message requested accepts _ _ session action present reading asked =>
      have effect := onMessage_effect connection attempt.maxMessages attempt.state message
        (sessionCallback options installed run.session requested accepts)
      have uncalled := (sessionCallback_delivers options installed run.session requested accepts
        (attempt.state.feedMessage connection message)).1
      rw [← effect, asked] at uncalled
      rw [uncalled] at called
      cases called
  | calls requested limit now asked =>
      refine ⟨agreed, fun attempt present => ?_, fun _ _ _ member => by cases member⟩
      obtain rfl := Option.some.inj present
      unfold LiveAttempt.start
      split_ifs <;> exact ⟨⟨rfl, rfl⟩, rfl, rfl, rfl, rfl⟩

/-- What faithful views agree on, all of them agree on. -/
theorem map_eq_of_faithful {α : Type} {messages : List WebSocketMessageView}
    {views : List FeedMessageView} {ofMessage : WebSocketMessageView → α}
    {ofView : FeedMessageView → α} (delivery : List.Forall₂ (Faithful connection) messages views)
    (agree : ∀ message view, Faithful connection message view → ofMessage message = ofView view) :
    messages.map ofMessage = views.map ofView := by
  rw [← List.forall₂_eq_eq_eq, List.forall₂_map_left_iff, List.forall₂_map_right_iff]
  exact delivery.imp agree

/-- **From the network to the session and back.** For every connection, options, downstream handler
and events, with any reconnects:

* the session receives every message that a client reads, once and in order, with its payload, time
  and size;
* its statistics are those of the messages read, over all attempts;
* every attempt that ends reports the statistics of the messages received since its call, and the
  socket of an attempt under way has counted as much as its client. -/
theorem live_delivery (connection : FeedConnectionSpec) (options : FeedSessionOptions)
    (installed : Bool) (events : List LiveEvent) :
    let run := ({} : LiveRun).after connection options installed events
    let actions := ({} : LiveRun).actions connection options installed events
    let messages := ({} : LiveRun).reads connection options installed events
    List.Forall₂ (Faithful connection) messages (received actions) ∧
      (run.session.stats.messages = messages.length ∧
        run.session.stats.bytes = (messages.map fun message => message.payload.length).sum ∧
        run.session.stats.firstRecvTsNs = (messages.head?.map (·.recvTsNs)).getD 0 ∧
        run.session.stats.lastRecvTsNs = (messages.getLast?.map (·.recvTsNs)).getD 0) ∧
      (∀ epoch ∈ attempts actions, ∀ callbacks result requested,
        .ended callbacks result requested ∈ epoch → Totals (received epoch) (reported result)) ∧
      ∀ attempt, run.attempt = some attempt → SameCount attempt := by
  intro run actions messages
  have delivery : List.Forall₂ (Faithful connection) messages (received actions) :=
    reads_received events
  have totals := (live_accounted connection options installed events).accounted.totals
  have fresh : Layered options [] {} := ⟨⟨nofun, nofun⟩, nofun, fun _ _ _ member => by cases member⟩
  have sizes : messages.map (fun message => message.payload.length) =
      (received actions).map fun view => view.payload.length :=
    map_eq_of_faithful delivery fun _ _ faithful => by rw [faithful.payload]
  have times : messages.map (·.recvTsNs) =
      (received actions).map fun view => view.envelope.recvTsNs :=
    map_eq_of_faithful delivery fun _ _ faithful => faithful.time.symm
  obtain ⟨head, later, cut, ⟨_, first⟩, others, _, last⟩ :=
    Machine.epochs_history (Layered options) (fun _ _ event here => here.renew event)
      (fun _ _ event here => here.step event) fresh events
  refine ⟨delivery, ⟨?_, ?_, ?_, ?_⟩, fun epoch member callbacks result requested ends => ?_,
    fun attempt present => (last.counted attempt present).1⟩
  · rw [delivery.length_eq]
    exact totals.messages
  · rw [sizes]
    exact totals.bytes
  · rw [← List.head?_map, times, List.head?_map]
    exact totals.first
  · rw [← List.getLast?_map, times, List.getLast?_map]
    exact totals.last
  · have layered : ∃ reached, Layered options epoch reached := by
      have among : epoch ∈ head :: later := cut ▸ member
      rcases List.mem_cons.mp among with rfl | among
      · exact ⟨_, first⟩
      · exact others epoch among
    obtain ⟨reached, layered⟩ := layered
    exact (layered.reports callbacks result requested ends).2

end Live

end MarketDataFabric.Apps
