/-
**Stopping a live run**: the signal handler of `apps/gateway/src/binance_live_runner.cpp` against the
session, which loads the stop flag now and then.

`request_stop` sets the flag at any moment and nobody clears it. The loads are relaxed: a load may miss
a request that was made, but not one that an earlier load saw.

* `StopFlag.load`, `runSignalled` — the run and the signal handler, interleaved in any order.
* `headStopReason_stop_iff`, `attemptStopReason_stop_iff` — the session returns with `stopRequested` for
  a load that saw the request, and for nothing else.
* `Halting`, `halting_run` — once a load saw it, all that is left is the end of the attempt.
* `Braked`, `braked_step`, `watched_step` — what every interleaving keeps.
* `urgent_run` — where no load misses the request, at most one more message is read.
* `stop_signal` — **the stop flag stops the run**.
-/

import MarketDataFabric.Apps.LiveAccounts

namespace MarketDataFabric.Apps

open MarketDataFabric.Feed Net Service Library

/-! ### The flag -/

/-- `g_stop_requested`: what was stored, and whether a load of the session saw it. -/
structure StopFlag where
  requested : Bool := false
  observed : Bool := false
deriving Repr, DecidableEq

/-- A relaxed load, of the newest value if it is `fresh`. It does not go back behind an earlier
one. -/
def StopFlag.load (flag : StopFlag) (fresh : Bool) : Bool :=
  flag.observed || (flag.requested && fresh)

/-- An event of the run whose load of the stop token, if it makes one, reads the flag. The event says
whether the load is fresh. -/
def LiveEvent.loading (flag : StopFlag) : LiveEvent → LiveEvent
  | .poll fresh now => .poll (flag.load fresh) now
  | .received message fresh accepts => .received message (flag.load fresh) accepts
  | .network event => .network event
  | .returned fresh => .returned (flag.load fresh)

/-- Whether a load saw the request. After an attempt the token is not loaded when its flags decide. -/
def sawRequest : SessionAction → Bool
  | .polled requested => requested
  | .answered _ requested _ => requested
  | .ended callbacks _ requested =>
      !callbacks.maxMessagesReached && !callbacks.stopRequested && requested
  | .idle | .called _ => false

structure SignalledRun where
  flag : StopFlag := {}
  live : LiveRun := {}
deriving Repr, DecidableEq

/-- The signal handler runs, or the run goes on. -/
inductive SignalEvent where
  | signal
  | live (event : LiveEvent)
deriving Repr, DecidableEq

/-- The run and the signal handler. -/
def runSignalled (connection : FeedConnectionSpec) (options : FeedSessionOptions) (installed : Bool)
    (run : SignalledRun) : SignalEvent → SignalledRun × SessionAction
  | .signal => ({ run with flag.requested := true }, .idle)
  | .live event =>
      let (live, action) :=
        runLive connection options installed run.live (event.loading run.flag)
      ({ flag := { run.flag with observed := run.flag.observed || sawRequest action }, live }, action)

abbrev SignalledRun.after (connection : FeedConnectionSpec) (options : FeedSessionOptions)
    (installed : Bool) (run : SignalledRun) (events : List SignalEvent) : SignalledRun :=
  Machine.final (runSignalled connection options installed) run events

abbrev SignalledRun.actions (connection : FeedConnectionSpec) (options : FeedSessionOptions)
    (installed : Bool) (run : SignalledRun) (events : List SignalEvent) : List SessionAction :=
  Machine.outputs (runSignalled connection options installed) run events

/-- The load of an event, if it makes one, is fresh. -/
def SignalEvent.Fresh : SignalEvent → Prop
  | .signal | .live (.network _) => True
  | .live (.poll fresh _) | .live (.received _ fresh _) | .live (.returned fresh) => fresh = true

section Signal

variable {connection : FeedConnectionSpec} {options : FeedSessionOptions} {installed : Bool}

/-! ### When the session returns for the request -/

theorem headStopReason_stop_iff {stats : FeedSessionStats} {requested : Bool} :
    headStopReason options stats requested = some .stopRequested ↔ requested = true := by
  unfold headStopReason
  constructor
  · intro returns
    split_ifs at returns with stop
    · exact stop
    · cases returns
    · cases returns
  · intro stop
    rw [if_pos stop]

theorem attemptStopReason_stop_iff {stats : FeedSessionStats} {callbacks : FeedSessionCallbackState}
    {attempt : FeedRunAttemptResult} {requested : Bool} (down : callbacks.stopRequested = false) :
    attemptStopReason options stats callbacks attempt requested = some .stopRequested ↔
      callbacks.maxMessagesReached = false ∧ requested = true := by
  unfold attemptStopReason
  constructor
  · intro returns
    split_ifs at returns with reached stop
    · cases returns
    · rw [down] at stop
      exact ⟨Bool.eq_false_iff.mpr reached, stop.resolve_left Bool.false_ne_true⟩
    all_goals cases returns
  · rintro ⟨room, stop⟩
    rw [if_neg (Bool.eq_false_iff.mp room), if_pos (Or.inr stop)]

/-- A raised stop flag decides, unless the limit does. -/
theorem attemptStopReason_of_stopped {stats : FeedSessionStats}
    {callbacks : FeedSessionCallbackState} {attempt : FeedRunAttemptResult} {requested : Bool}
    (up : callbacks.stopRequested = true) (room : callbacks.maxMessagesReached = false) :
    attemptStopReason options stats callbacks attempt requested = some .stopRequested := by
  unfold attemptStopReason
  rw [if_neg (Bool.eq_false_iff.mp room), if_pos (Or.inl up)]

/-! ### After a load saw the request -/

/-- **The run is about to stop**: the session has returned, or its attempt reads no more and will be
found with the stop flag up. -/
inductive Halting : LiveRun → Prop
  | stopped (attempt : Option LiveAttempt) {session : FeedSession} :
      session.phase = .returned .stopRequested → Halting { session, attempt }
  | closes {session : FeedSession} {attempt : LiveAttempt} {callbacks : FeedSessionCallbackState} :
      session.phase = .runOnce callbacks → callbacks.stopRequested = true →
      callbacks.maxMessagesReached = false →
      attempt.websocket.phase = .closing ∨ attempt.websocket.phase = .returned →
      Halting { session, attempt := some attempt }

/-- A session that returned does nothing more. -/
theorem returned_step {session : FeedSession} {reason : FeedSessionStopReason}
    (place : session.phase = .returned reason) (event : SessionEvent) :
    runFeedSession options installed session event = (session, .idle) := by
  cases event <;> simp only [runFeedSession, place]

/-- Nor does the run around it. -/
theorem runLive_of_returned {run : LiveRun} {reason : FeedSessionStopReason}
    (place : run.session.phase = .returned reason) (event : LiveEvent) :
    (runLive connection options installed run event).1.session = run.session ∧
      (runLive connection options installed run event).2 = .idle := by
  obtain ⟨asked, same, -⟩ := @runLive_asks connection options installed run event
  rw [returned_step place asked] at same
  exact ⟨(congrArg Prod.fst same).symm, (congrArg Prod.snd same).symm⟩

/-- A connection that closes stays closed for reading. -/
theorem closing_run {websocket : WebSocketRun} (event : NetworkEvent)
    (shut : websocket.phase = .closing ∨ websocket.phase = .returned) :
    (websocket.run event).phase = .closing ∨ (websocket.run event).phase = .returned := by
  obtain ⟨result, phase⟩ := websocket
  rcases shut with rfl | rfl
  · cases event with
    | closed error now =>
        right
        cases error with
        | none => rfl
        | some error =>
            simp only [WebSocketRun.run]
            split_ifs <;> rfl
    | setupFailed | connected | peerClosed | readFailed => exact Or.inl rfl
  · cases event <;> exact Or.inr rfl

/-- **A run about to stop** does nothing, or ends its attempt and has stopped. -/
theorem halting_step {run : LiveRun} (halting : Halting run) (event : LiveEvent) :
    Halting (runLive connection options installed run event).1 ∧
      ((runLive connection options installed run event).2 = .idle ∨
        ((runLive connection options installed run event).1.session.phase =
            .returned .stopRequested ∧
          ∃ callbacks attempt requested, (runLive connection options installed run event).2 =
            .ended callbacks attempt requested)) := by
  cases halting with
  | @stopped attempt session place =>
      obtain ⟨same, silent⟩ := @runLive_of_returned connection options installed
        { session, attempt } _ place event
      refine ⟨?_, Or.inl silent⟩
      generalize (runLive connection options installed { session, attempt } event).1 = next at same ⊢
      obtain ⟨later, attempt⟩ := next
      obtain rfl : later = session := same
      exact .stopped attempt place
  | @closes session attempt callbacks place up room shut =>
      cases event with
      | poll requested now =>
          have waits : runFeedSession options installed session (.poll requested) =
              (session, .idle) := by
            simp only [runFeedSession, place]
          simp only [runLive, waits]
          exact ⟨.closes place up room shut, Or.inl trivial⟩
      | received message requested accepts =>
          have unread : attempt.websocket.phase ≠ .reading := by
            rcases shut with here | here <;> rw [here] <;> decide
          simp only [runLive, if_neg unread]
          exact ⟨.closes place up room shut, Or.inl trivial⟩
      | network event => exact ⟨.closes place up room (closing_run event shut), Or.inl rfl⟩
      | returned requested =>
          simp only [runLive]
          split_ifs with done
          · have decision := @attemptStopReason_of_stopped options
              (session.stats.attempted (toFeedAttemptResult attempt.runResult)) callbacks
              (toFeedAttemptResult attempt.runResult) requested up room
            rcases runFeedSession_attempted options installed place
              (toFeedAttemptResult attempt.runResult) requested with
              ⟨reason, returned, same⟩ | ⟨goes, -⟩
            · obtain rfl := Option.some.inj (returned.symm.trans decision)
              rw [same]
              exact ⟨.stopped none rfl, Or.inr ⟨rfl, _, _, _, rfl⟩⟩
            · rw [decision] at goes
              cases goes
          · exact ⟨.closes place up room shut, Or.inl rfl⟩

/-- What is done along a list of actions, where nothing counts as nothing. -/
def undertaken (actions : List SessionAction) : List SessionAction :=
  actions.filter fun action => action ≠ .idle

/-- Nothing is undertaken but the end of the attempt. -/
def OnlyEnds (actions : List SessionAction) : Prop :=
  undertaken actions = [] ∨
    ∃ callbacks attempt requested, undertaken actions = [.ended callbacks attempt requested]

/-- A step of the run with the signal handler is one of the run, or none. -/
theorem runSignalled_cases (run : SignalledRun) (event : SignalEvent) :
    ((runSignalled connection options installed run event).1.live = run.live ∧
        (runSignalled connection options installed run event).2 = .idle) ∨
      ∃ asked, runLive connection options installed run.live asked =
        ((runSignalled connection options installed run event).1.live,
          (runSignalled connection options installed run event).2) := by
  cases event with
  | signal => exact Or.inl ⟨rfl, rfl⟩
  | live event => exact Or.inr ⟨event.loading run.flag, rfl⟩

/-- **After a session has returned** nothing is done. -/
theorem returned_run {run : SignalledRun} {reason : FeedSessionStopReason}
    (place : run.live.session.phase = .returned reason) (events : List SignalEvent) :
    undertaken (run.actions connection options installed events) = [] ∧
      (run.after connection options installed events).live.session.phase = .returned reason := by
  induction events generalizing run with
  | nil => exact ⟨rfl, place⟩
  | cons event rest ih =>
      have here : (runSignalled connection options installed run event).2 = .idle ∧
          (runSignalled connection options installed run event).1.live.session.phase =
            .returned reason := by
        rcases @runSignalled_cases connection options installed run event with
          ⟨same, silent⟩ | ⟨asked, same⟩
        · exact ⟨silent, by rw [same, place]⟩
        · obtain ⟨still, silent⟩ := @runLive_of_returned connection options installed _ _ place asked
          rw [same] at still silent
          exact ⟨silent, (congrArg FeedSession.phase still).trans place⟩
      obtain ⟨nothing, landed⟩ := ih here.2
      refine ⟨?_, landed⟩
      rw [SignalledRun.actions, Machine.outputs_cons, here.1]
      exact nothing

/-- **A run about to stop** undertakes nothing but the end of its attempt. -/
theorem halting_run {run : SignalledRun} (halting : Halting run.live) (events : List SignalEvent) :
    OnlyEnds (run.actions connection options installed events) ∧
      Halting (run.after connection options installed events).live := by
  induction events generalizing run with
  | nil => exact ⟨Or.inl rfl, halting⟩
  | cons event rest ih =>
      have idles (still : Halting (runSignalled connection options installed run event).1.live)
          (silent : (runSignalled connection options installed run event).2 = .idle) :
          OnlyEnds (run.actions connection options installed (event :: rest)) ∧
            Halting (run.after connection options installed (event :: rest)).live := by
        rw [SignalledRun.actions, Machine.outputs_cons, silent]
        exact ih still
      rcases @runSignalled_cases connection options installed run event with
        ⟨same, silent⟩ | ⟨asked, same⟩
      · exact idles (same ▸ halting) silent
      · obtain ⟨still, did⟩ := @halting_step connection options installed _ halting asked
        rw [same] at still did
        rcases did with silent | ⟨stopped, callbacks, attempt, requested, said⟩
        · exact idles still silent
        · refine ⟨Or.inr ⟨callbacks, attempt, requested, ?_⟩, (ih still).2⟩
          dsimp only at said
          rw [SignalledRun.actions, Machine.outputs_cons, said]
          exact congrArg (_ :: ·) (@returned_run connection options installed _ _ stopped rest).1

/-! ### Until a load saw the request -/

/-- No load saw a request: no stop flag is up, and the session did not return for one. -/
def Going : Phase → Prop
  | .runOnce callbacks => callbacks.stopRequested = false
  | .returned reason => reason ≠ .stopRequested
  | .loopHead | .sleepForBackoff _ => True

/-- A message that the client's handler refuses is refused by the client. -/
theorem onMessage_refused {σ : Type} {maxMessages : Nat} {state : CallbackState}
    {message : WebSocketMessageView} {handler : FeedMessageView → Bool × σ}
    (refused : (handler (state.feedMessage connection message)).1 = false) :
    (onMessage connection maxMessages state message handler).1 = false := by
  unfold onMessage
  dsimp only
  rw [if_pos refused]

/-- **The load that sees the request stops the run**; one that does not leaves it going. -/
theorem live_watch {run : LiveRun} (agreed : Agreed options run) (going : Going run.session.phase)
    (event : LiveEvent) :
    (sawRequest (runLive connection options installed run event).2 = true →
        Halting (runLive connection options installed run event).1) ∧
      (sawRequest (runLive connection options installed run event).2 = false →
        Going (runLive connection options installed run event).1.session.phase) := by
  have step := runLive_step connection options installed run event
  generalize (runLive connection options installed run event).1 = next at step ⊢
  generalize (runLive connection options installed run event).2 = action at step ⊢
  cases step with
  | waits | runs => exact ⟨(fun saw => by cases saw), fun _ => going⟩
  | @polls requested session action asked =>
      have inner := runFeedSession_step options installed run.session (.poll requested)
      rw [asked] at inner
      cases inner with
      | idle => exact ⟨(fun saw => by cases saw), fun _ => going⟩
      | headReturns _ reason place decision =>
          refine ⟨fun saw => .stopped _ ?_, fun unseen stopped => ?_⟩
          · have stop : requested = true := saw
            rw [headStopReason_stop_iff.mpr stop] at decision
            exact congrArg Phase.returned (Option.some.inj decision).symm
          · rw [stopped] at decision
            have stop : requested = true := headStopReason_stop_iff.mp decision
            exact Bool.false_ne_true (Eq.trans (Eq.symm unseen) stop)
      | calls => exact ⟨(fun saw => by cases saw), fun _ => rfl⟩
      | backoffStops => exact ⟨fun _ => .stopped _ rfl, (fun unseen => by cases unseen)⟩
      | sleeps | wakes => exact ⟨(fun saw => by cases saw), fun _ => trivial⟩
  | @calls requested session limit now asked =>
      have inner := runFeedSession_step options installed run.session (.poll requested)
      rw [asked] at inner
      cases inner with
      | calls => exact ⟨(fun saw => by cases saw), fun _ => rfl⟩
  | @reads attempt message requested accepts keepRunning state session action present reading asked =>
      obtain ⟨running, -⟩ := agreed
      rw [present] at running
      obtain ⟨callbacks, place, inside⟩ := running
      obtain rfl : callbacks = {} := by
        simpa using inside.honest.waiting (Or.inr reading)
      obtain ⟨reply, raised, same, inner⟩ := runFeedSession_message options installed place
        (attempt.state.feedMessage connection message) requested accepts
      have handled : sessionCallback options installed run.session requested accepts
          (attempt.state.feedMessage connection message) = (reply.keepRunning,
            { run.session with
              stats := run.session.stats.observe (attempt.state.feedMessage connection message)
              phase := .runOnce raised },
            .answered (attempt.state.feedMessage connection message) requested reply) := by
        rw [sessionCallback, same]
        rfl
      have effect := onMessage_effect connection attempt.maxMessages attempt.state message
        (sessionCallback options installed run.session requested accepts)
      rw [asked, handled] at effect
      obtain ⟨rfl, rfl⟩ := Prod.mk.inj effect
      cases inner with
      | stopRequested =>
          refine ⟨fun _ => .closes rfl rfl rfl (Or.inl ?_), fun unseen => by cases unseen⟩
          have refused := @onMessage_refused connection _ attempt.maxMessages attempt.state message
            (sessionCallback options installed run.session true accepts) (by rw [handled])
          rw [asked] at refused
          obtain rfl : keepRunning = false := refused
          rfl
      | stoppedByHandler | maxMessagesReached | kept =>
          exact ⟨(fun saw => by cases saw), fun _ => rfl⟩
  | @returns attempt requested session action present asked =>
      have inner := runFeedSession_step options installed run.session
        (.attempted (toFeedAttemptResult attempt.runResult) requested)
      rw [asked] at inner
      cases inner with
      | idle => exact ⟨(fun saw => by cases saw), fun _ => going⟩
      | attemptReturns callbacks _ _ reason place decision =>
          rw [place] at going
          have down : callbacks.stopRequested = false := going
          refine ⟨fun saw => .stopped _ ?_, fun unseen stopped => ?_⟩
          · simp only [sawRequest, Bool.and_eq_true, Bool.not_eq_true'] at saw
            rw [(attemptStopReason_stop_iff down).mpr ⟨saw.1.1, saw.2⟩] at decision
            exact congrArg Phase.returned (Option.some.inj decision).symm
          · rw [stopped] at decision
            obtain ⟨room, stop⟩ := (attemptStopReason_stop_iff down).mp decision
            simp only [sawRequest, room, down, stop] at unseen
            cases unseen
      | reconnects callbacks _ _ place decision =>
          obtain ⟨-, rfl, -⟩ := attemptStopReason_none decision
          refine ⟨fun saw => ?_, fun _ => trivial⟩
          simp only [sawRequest, Bool.and_false] at saw
          cases saw

/-! ### What a load decides -/

/-- What the load of the token sees at an event of the session. -/
def seenAt : SessionEvent → Bool
  | .poll requested | .message _ requested _ | .attempted _ requested => requested

/-- The same at an event of the run. -/
def LiveEvent.seen : LiveEvent → Bool
  | .poll requested _ | .received _ requested _ | .returned requested => requested
  | .network _ => false

/-- **What the run does is what its session does** with the same load, or nothing. -/
theorem runLive_seen (run : LiveRun) (event : LiveEvent) :
    (runLive connection options installed run event).2 = .idle ∨
      ∃ asked next, seenAt asked = event.seen ∧ SessionStep options installed run.session asked next
        (runLive connection options installed run event).2 := by
  obtain ⟨session, attempt⟩ := run
  cases event with
  | poll requested now =>
      have inner := runFeedSession_step options installed session (.poll requested)
      refine Or.inr ⟨.poll requested, (runFeedSession options installed session (.poll requested)).1,
        rfl, ?_⟩
      simp only [runLive]
      generalize runFeedSession options installed session (.poll requested) = result at inner ⊢
      obtain ⟨next, action⟩ := result
      cases action <;> exact inner
  | received message requested accepts =>
      cases attempt with
      | none => exact Or.inl rfl
      | some attempt =>
          simp only [runLive]
          split_ifs with reading
          · right
            let asked : SessionEvent :=
              .message (attempt.state.feedMessage connection message) requested accepts
            have inner := runFeedSession_step options installed session asked
            have effect := congrArg Prod.snd (onMessage_effect connection attempt.maxMessages
              attempt.state message (sessionCallback options installed session requested accepts))
            refine ⟨asked, (runFeedSession options installed session asked).1, rfl, ?_⟩
            rw [effect]
            exact inner
          · exact Or.inl rfl
  | network event => cases attempt <;> exact Or.inl rfl
  | returned requested =>
      cases attempt with
      | none => exact Or.inl rfl
      | some attempt =>
          simp only [runLive]
          split_ifs with done
          · exact Or.inr ⟨.attempted _ requested, _, rfl,
              runFeedSession_step options installed session _⟩
          · exact Or.inl rfl

/-- What saw a request loaded one. -/
theorem sawRequest_seen {session next : FeedSession} {event : SessionEvent} {action : SessionAction}
    (step : SessionStep options installed session event next action)
    (saw : sawRequest action = true) : seenAt event = true := by
  cases step with
  | idle | calls | sleeps | wakes => cases saw
  | backoffStops => rfl
  | headReturns | answers => exact saw
  | attemptReturns | reconnects =>
      simp only [sawRequest, Bool.and_eq_true] at saw
      exact saw.2

/-- **A load that sees the request** is followed by no call, and by no delivery. -/
theorem seen_step {session next : FeedSession} {event : SessionEvent} {action : SessionAction}
    (step : SessionStep options installed session event next action) (seen : seenAt event = true) :
    action.isCall = false ∧ action.delivered = none ∧
      (action.received ≠ none → sawRequest action = true) := by
  cases step with
  | calls | sleeps | wakes => cases seen
  | idle | headReturns | backoffStops | attemptReturns | reconnects =>
      exact ⟨rfl, rfl, fun callback => absurd rfl callback⟩
  | answers callbacks raised view requested accepts reply place step =>
      have stop : requested = true := seen
      cases step with
      | stopRequested => exact ⟨rfl, rfl, fun _ => rfl⟩
      | stoppedByHandler | maxMessagesReached | kept => cases stop

/-! ### Every interleaving -/

/-- **What the run and the signal handler keep.** -/
structure Braked (options : FeedSessionOptions) (run : SignalledRun) : Prop where
  agreed : Agreed options run.live
  signalled : run.flag.observed = true → run.flag.requested = true
  halting : run.flag.observed = true → Halting run.live
  going : run.flag.observed = false → Going run.live.session.phase

theorem StopFlag.requested_of_load {flag : StopFlag} {fresh : Bool}
    (signalled : flag.observed = true → flag.requested = true) (loaded : flag.load fresh = true) :
    flag.requested = true := by
  rcases (Bool.or_eq_true _ _).mp loaded with observed | newest
  · exact signalled observed
  · exact ((Bool.and_eq_true _ _).mp newest).1

theorem LiveEvent.requested_of_seen {flag : StopFlag} {event : LiveEvent}
    (signalled : flag.observed = true → flag.requested = true)
    (seen : (event.loading flag).seen = true) : flag.requested = true := by
  cases event with
  | poll | received | returned => exact StopFlag.requested_of_load signalled seen
  | network => cases seen

theorem braked_step (run : SignalledRun) (event : SignalEvent) (braked : Braked options run) :
    Braked options (runSignalled connection options installed run event).1 := by
  obtain ⟨agreed, signalled, halting, going⟩ := braked
  cases event with
  | signal => exact ⟨agreed, fun _ => rfl, halting, going⟩
  | live event =>
      have next := @agreed_step connection options installed run.live (event.loading run.flag) agreed
      refine ⟨next, fun observed => ?_, fun observed => ?_, fun unseen => ?_⟩
      · rcases (Bool.or_eq_true _ _).mp observed with earlier | saw
        · exact signalled earlier
        · have told : sawRequest (runLive connection options installed run.live
            (event.loading run.flag)).2 = true := saw
          rcases @runLive_seen connection options installed run.live (event.loading run.flag) with
            silent | ⟨asked, later, same, step⟩
          · rw [silent] at told
            cases told
          · have seen := sawRequest_seen step told
            rw [same] at seen
            show run.flag.requested = true
            exact LiveEvent.requested_of_seen signalled seen
      · cases earlier : run.flag.observed with
        | true => exact (halting_step (halting earlier) _).1
        | false =>
            rcases (Bool.or_eq_true _ _).mp observed with again | saw
            · rw [earlier] at again
              cases again
            · exact (live_watch agreed (going earlier) _).1 saw
      · obtain ⟨earlier, blind⟩ := Bool.or_eq_false_iff.mp unseen
        exact (live_watch agreed (going earlier) _).2 blind

/-- The flag was observed exactly if a load saw the request. -/
theorem observed_iff (run : SignalledRun) (events : List SignalEvent) :
    (run.after connection options installed events).flag.observed =
      (run.flag.observed || (run.actions connection options installed events).any sawRequest) := by
  induction events generalizing run with
  | nil => exact (Bool.or_false _).symm
  | cons event rest ih =>
      have one : (runSignalled connection options installed run event).1.flag.observed =
          (run.flag.observed ||
            sawRequest (runSignalled connection options installed run event).2) := by
        cases event with
        | signal => exact (Bool.or_false _).symm
        | live event => rfl
      rw [SignalledRun.after, Machine.final_cons, ih, one, Bool.or_assoc]
      rfl

/-- Every state of every interleaving. -/
theorem braked_run {run : SignalledRun} (braked : Braked options run) (events : List SignalEvent) :
    Braked options (run.after connection options installed events) :=
  Machine.final_invariant (runSignalled connection options installed) (Braked options)
    (fun _ => True) (fun run event here _ => braked_step run event here) braked fun _ _ => trivial

theorem braked_fresh : Braked options {} :=
  ⟨⟨(fun _ same => by cases same), (fun same => by cases same)⟩, (fun same => by cases same),
    (fun same => by cases same), fun _ => trivial⟩

/-- Nothing else sets the flag. -/
theorem signal_mem {run : SignalledRun} (unsignalled : run.flag.requested = false)
    {events : List SignalEvent}
    (requested : (run.after connection options installed events).flag.requested = true) :
    SignalEvent.signal ∈ events := by
  induction events generalizing run with
  | nil =>
      rw [SignalledRun.after, Machine.final_nil, unsignalled] at requested
      cases requested
  | cons event rest ih =>
      cases event with
      | signal => exact List.mem_cons_self
      | live event =>
          exact List.mem_cons_of_mem _ (@ih
            (runSignalled connection options installed run (.live event)).1 unsignalled requested)

/-- A request stays. -/
theorem requested_step {run : SignalledRun} (requested : run.flag.requested = true)
    (event : SignalEvent) :
    (runSignalled connection options installed run event).1.flag.requested = true := by
  cases event with
  | signal => rfl
  | live event => exact requested

theorem received_undertaken (actions : List SessionAction) :
    received (undertaken actions) = received actions := by
  induction actions with
  | nil => rfl
  | cons action rest ih =>
      cases action with
      | idle => exact ih
      | polled | called | ended => exact ih
      | answered view => exact congrArg (view :: ·) ih

theorem OnlyEnds.received {actions : List SessionAction} (ends : OnlyEnds actions) :
    Service.received actions = [] := by
  rw [← received_undertaken]
  rcases ends with nothing | ⟨callbacks, attempt, requested, only⟩
  · rw [nothing]
    rfl
  · rw [only]
    rfl

/-! ### Where no load misses the request -/

/-- A fresh load of a flag that was set sees the request. -/
theorem urgent_step {run : SignalledRun} (requested : run.flag.requested = true)
    {event : SignalEvent} (fresh : event.Fresh) :
    (runSignalled connection options installed run event).2.isCall = false ∧
      (runSignalled connection options installed run event).2.delivered = none ∧
      ((runSignalled connection options installed run event).2.received ≠ none →
        sawRequest (runSignalled connection options installed run event).2 = true) := by
  have loaded (fresh : Bool) (newest : fresh = true) : run.flag.load fresh = true := by
    rw [StopFlag.load, requested, newest]
    exact Bool.or_true _
  have decided (event : LiveEvent) (seen : (event.loading run.flag).seen = true) :
      let action := (runLive connection options installed run.live (event.loading run.flag)).2
      action.isCall = false ∧ action.delivered = none ∧
        (action.received ≠ none → sawRequest action = true) := by
    intro action
    rcases @runLive_seen connection options installed run.live (event.loading run.flag) with
      silent | ⟨asked, later, same, step⟩
    · rw [show action = .idle from silent]
      exact ⟨rfl, rfl, fun callback => absurd rfl callback⟩
    · exact seen_step step (same.trans seen)
  cases event with
  | signal => exact ⟨rfl, rfl, fun callback => absurd rfl callback⟩
  | live event =>
      cases event with
      | poll newest now => exact decided (.poll newest now) (loaded newest fresh)
      | received message newest accepts =>
          exact decided (.received message newest accepts) (loaded newest fresh)
      | returned newest => exact decided (.returned newest) (loaded newest fresh)
      | network event =>
          have silent : (runSignalled connection options installed run
              (.live (.network event))).2 = .idle := by
            show (runLive connection options installed run.live (.network event)).2 = .idle
            obtain ⟨session, attempt⟩ := run.live
            cases attempt <;> rfl
          rw [silent]
          exact ⟨rfl, rfl, fun callback => absurd rfl callback⟩

/-- **Where no load misses the request**, a run that was asked to stop makes no call and no delivery,
and reads at most one more message. -/
theorem urgent_run {run : SignalledRun} (braked : Braked options run)
    (requested : run.flag.requested = true) {events : List SignalEvent}
    (fresh : ∀ event ∈ events, event.Fresh) :
    (∀ action ∈ run.actions connection options installed events,
        action.isCall = false ∧ action.delivered = none) ∧
      (received (run.actions connection options installed events)).length ≤ 1 := by
  induction events generalizing run with
  | nil => exact ⟨fun _ member => absurd member List.not_mem_nil, Nat.zero_le _⟩
  | cons event rest ih =>
      obtain ⟨uncalled, undelivered, saw⟩ := @urgent_step connection options installed run requested
        event (fresh event List.mem_cons_self)
      have next := @braked_step connection options installed run event braked
      obtain ⟨others, few⟩ := ih next (requested_step requested event) fun later member =>
        fresh later (List.mem_cons_of_mem _ member)
      rw [SignalledRun.actions, Machine.outputs_cons]
      refine ⟨fun action member => ?_, ?_⟩
      · rcases List.mem_cons.mp member with rfl | later
        · exact ⟨uncalled, undelivered⟩
        · exact others action later
      · by_cases silent : (runSignalled connection options installed run event).2.received = none
        · rw [received, List.filterMap_cons, silent]
          exact few
        · have observed :
              (runSignalled connection options installed run event).1.flag.observed = true := by
            have one := @observed_iff connection options installed run [event]
            rw [SignalledRun.actions, Machine.outputs_cons, Machine.outputs_nil, List.any_cons,
              saw silent, Bool.true_or, Bool.or_true] at one
            exact one
          have none := (@halting_run connection options installed _ (next.halting observed) rest).1
          rw [received, List.filterMap_cons]
          obtain ⟨view, told⟩ := Option.ne_none_iff_exists'.mp silent
          rw [told]
          exact Nat.succ_le_succ (Nat.le_of_eq (congrArg List.length none.received))

/-- The end of the connection and the return of the client. -/
def lastSteps (error : Option String) (now : UInt64) (fresh : Bool) : List SignalEvent :=
  [.live (.network (.closed error now)), .live (.returned fresh)]

/-- **A run about to stop needs no more** than the end of its connection to have stopped. -/
theorem halting_stops {run : SignalledRun} (halting : Halting run.live) (error : Option String)
    (now : UInt64) (fresh : Bool) :
    (run.after connection options installed
      (lastSteps error now fresh)).live.session.phase = .returned .stopRequested := by
  obtain ⟨flag, live⟩ := run
  cases halting with
  | stopped attempt place => exact (returned_run place _).2
  | @closes session attempt callbacks place up room shut =>
      have done : (attempt.websocket.run (.closed error now)).phase = .returned := by
        obtain ⟨limit, state, result, phase⟩ := attempt
        rcases shut with here | here
        · obtain rfl : phase = .closing := here
          cases error with
          | none => rfl
          | some error =>
              simp only [WebSocketRun.run]
              split_ifs <;> rfl
        · obtain rfl : phase = .returned := here
          rfl
      show (runLive connection options installed
        { session
          attempt := some { attempt with websocket := attempt.websocket.run (.closed error now) } }
        (.returned _)).1.session.phase = _
      simp only [runLive, if_pos done]
      rcases runFeedSession_attempted options installed place (toFeedAttemptResult _) _ with
        ⟨reason, returned, same⟩ | ⟨goes, -⟩
      · rw [attemptStopReason_of_stopped up room] at returned
        rw [same, ← Option.some.inj returned]
      · rw [attemptStopReason_of_stopped up room] at goes
        cases goes

end Signal

end MarketDataFabric.Apps
