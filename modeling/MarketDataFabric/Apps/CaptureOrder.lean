/-
**Capture sequence numbers order each attempt.**

The client counts in the callback state of one attempt, so `capture_seq` starts at `1` again with
every attempt of a session.

* `place` — the messages an attempt has captured, while it may still hand one to the downstream
  handler.
* `live_restarts` — a live run is a machine with a counter that restarts whenever the client is
  called.
* `capture_orders_attempts` — hence every attempt hands over a beginning of `1, 2, 3, …`, and the
  session is in order only if at most one attempt hands over any message.
-/

import MarketDataFabric.Apps.BinanceLive
import MarketDataFabric.Library.Restarts
import MarketDataFabric.Service.SessionControl

namespace MarketDataFabric.Apps

open MarketDataFabric.Feed Net Service Library

/-- What a live run does along a list of events. -/
abbrev LiveRun.actions (connection : FeedConnectionSpec) (options : FeedSessionOptions)
    (installed : Bool) (run : LiveRun) (events : List LiveEvent) : List SessionAction :=
  Machine.outputs (runLive connection options installed) run events

/-- The capture sequence number an action hands to the downstream handler. -/
def capture (action : SessionAction) : Option UInt64 :=
  action.delivered.map fun view => view.envelope.captureSeq

/-- The capture sequence numbers handed to the downstream handler, in order. -/
abbrev captures (actions : List SessionAction) : List UInt64 :=
  actions.filterMap capture

/-- The attempts of a session: its actions, cut at the calls of the client. The first piece is what
came before the first call. -/
abbrev attempts (actions : List SessionAction) : List (List SessionAction) :=
  actions.splitOnP SessionAction.isCall

/-- The number a client gives the message after `index` others. -/
def captureNumber (index : Nat) : UInt64 := UInt64.ofNat (index + 1)

/-! ### The numbers of an attempt -/

section Numbers

variable {connection : FeedConnectionSpec} {options : FeedSessionOptions} {installed : Bool}

theorem feedMessage_envelope (state : CallbackState) (connection : FeedConnectionSpec)
    (message : WebSocketMessageView) :
    (state.feedMessage connection message).envelope.captureSeq = captureNumber state.messages ∧
      (state.feedMessage connection message).envelope.connectionId = connection.connectionId := by
  unfold CallbackState.feedMessage
  obtain ⟨_, _, _, _, feeds⟩ := connection
  rcases feeds with _ | ⟨feed, _ | ⟨_, _⟩⟩ <;> cases message.binary <;> exact ⟨rfl, rfl⟩

/-- The client counts a message whatever its handler answers. -/
theorem onMessage_state {σ : Type} (connection : FeedConnectionSpec) (maxMessages : Nat)
    (state : CallbackState) (message : WebSocketMessageView)
    (handler : FeedMessageView → Bool × σ) :
    (onMessage connection maxMessages state message handler).2.1 = state.observe message := by
  unfold onMessage
  dsimp only
  split_ifs <;> rfl

/-- A refusal of the handler is one of the client. -/
theorem onMessage_of_refused {σ : Type} {connection : FeedConnectionSpec} {maxMessages : Nat}
    {state : CallbackState} {message : WebSocketMessageView} {handler : FeedMessageView → Bool × σ}
    (refused : (handler (state.feedMessage connection message)).1 = false) :
    (onMessage connection maxMessages state message handler).1 = false := by
  unfold onMessage
  dsimp only
  rw [if_pos refused]

/-- The attempt may still receive a message. -/
def LiveAttempt.listening (attempt : LiveAttempt) : Bool :=
  attempt.websocket.phase = .settingUp ∨ attempt.websocket.phase = .reading

/-- How many messages the attempt has captured, while it may still hand one to the downstream
handler. -/
def place (installed : Bool) (run : LiveRun) : Option Nat :=
  match run.attempt with
  | some attempt => if installed ∧ attempt.listening then some attempt.state.messages else none
  | none => none

/-- **A callback hands the message on, or it refuses it or has nobody to give it to.** -/
theorem sessionCallback_delivers (options : FeedSessionOptions) (installed : Bool)
    (session : FeedSession) (requested accepts : Bool) (view : FeedMessageView) :
    let asked := sessionCallback options installed session requested accepts view
    asked.2.2.isCall = false ∧
      ((installed = true ∧ asked.2.2.delivered = some view) ∨
        (asked.2.2.delivered = none ∧ (installed = false ∨ asked.1 = false))) := by
  intro asked
  have step := runFeedSession_step options installed session (.message view requested accepts)
  have shape : asked = (answer (runFeedSession options installed session
      (.message view requested accepts)).2, runFeedSession options installed session
      (.message view requested accepts)) := rfl
  rw [shape]
  dsimp only
  generalize (runFeedSession options installed session (.message view requested accepts)).1 = next
    at step
  generalize (runFeedSession options installed session (.message view requested accepts)).2 = action
    at step ⊢
  cases step with
  | idle => exact ⟨rfl, Or.inr ⟨rfl, Or.inr rfl⟩⟩
  | answers callbacks raised view requested accepts reply _ step =>
      refine ⟨rfl, ?_⟩
      cases step with
      | stopRequested => exact Or.inr ⟨rfl, Or.inr rfl⟩
      | stoppedByHandler present => exact Or.inl ⟨present, rfl⟩
      | maxMessagesReached | kept =>
          cases installed with
          | true => exact Or.inl ⟨rfl, rfl⟩
          | false => exact Or.inr ⟨rfl, Or.inl rfl⟩

/-- A fresh attempt has captured nothing. -/
theorem place_start (session : FeedSession) (limit : Nat) (now : UInt64) :
    let run : LiveRun := { session, attempt := some (.start connection limit now) }
    place installed run = none ∨ place installed run = some 0 := by
  cases installed with
  | false => exact Or.inl rfl
  | true =>
      by_cases bare : connection.feeds = []
      · exact Or.inl (by simp [place, LiveAttempt.start, bare, LiveAttempt.listening])
      · exact Or.inr (by simp [place, LiveAttempt.start, bare, LiveAttempt.listening])

/-- The network only ever ends the listening of an attempt. -/
theorem listening_run (websocket : WebSocketRun) (event : NetworkEvent) :
    (websocket.run event).phase = .settingUp ∨ (websocket.run event).phase = .reading →
      websocket.phase = .settingUp ∨ websocket.phase = .reading := by
  obtain ⟨result, phase⟩ := websocket
  intro still
  cases phase with
  | settingUp => exact Or.inl rfl
  | reading => exact Or.inr rfl
  | returned => cases event <;> exact still
  | closing =>
      cases event with
      | setupFailed | connected | peerClosed | readFailed => exact still
      | closed error now =>
          cases error with
          | none => rcases still with here | here <;> cases here
          | some error =>
              simp only [WebSocketRun.run] at still
              split_ifs at still <;> rcases still with here | here <;> cases here

theorem place_run (installed : Bool) (session : FeedSession) (attempt : LiveAttempt)
    (event : NetworkEvent) :
    let next := { attempt with websocket := attempt.websocket.run event }
    place installed { session, attempt := some next } = none ∨
      place installed { session, attempt := some next } =
        place installed { session, attempt := some attempt } := by
  intro next
  unfold place
  dsimp only
  by_cases still : installed = true ∧ next.listening = true
  · right
    have before : installed = true ∧ attempt.listening = true :=
      ⟨still.1, decide_eq_true (listening_run attempt.websocket event (of_decide_eq_true still.2))⟩
    rw [if_pos still, if_pos before]
  · exact Or.inl (if_neg still)

/-- After a message an attempt goes on counting, or it is over. -/
theorem place_received (installed : Bool) (session : FeedSession) {attempt : LiveAttempt}
    (reading : attempt.websocket.phase = .reading) (message : WebSocketMessageView)
    (keepRunning : Bool) :
    let run : LiveRun :=
      { session
        attempt := some { attempt with
          state := attempt.state.observe message
          websocket := attempt.websocket.received message keepRunning } }
    (place installed run = none ∨ place installed run = some (attempt.state.messages + 1)) ∧
      (installed = false ∨ keepRunning = false → place installed run = none) := by
  intro run
  cases installed with
  | false => exact ⟨Or.inl rfl, fun _ => rfl⟩
  | true =>
      cases keepRunning with
      | false => exact ⟨Or.inl rfl, fun _ => rfl⟩
      | true =>
          have listens : LiveAttempt.listening { attempt with
              state := attempt.state.observe message
              websocket := attempt.websocket.received message true } = true :=
            decide_eq_true (Or.inr reading)
          refine ⟨Or.inr (if_pos ⟨rfl, listens⟩), ?_⟩
          rintro (other | other) <;> cases other

/-- Only a message is handed over. -/
theorem delivered_eq_none {session next : FeedSession} {event : SessionEvent}
    {action : SessionAction}
    (asked : runFeedSession options installed session event = (next, action))
    (other : ∀ view requested accepts, event ≠ .message view requested accepts) :
    action.delivered = none := by
  have step := runFeedSession_step options installed session event
  rw [asked] at step
  cases step with
  | answers _ _ view requested accepts => exact absurd rfl (other view requested accepts)
  | idle | headReturns | calls | backoffStops | sleeps | wakes | attemptReturns | reconnects => rfl

/-- A return of the client calls nobody. -/
theorem isCall_attempted {session next : FeedSession} {result : FeedRunAttemptResult}
    {requested : Bool} {action : SessionAction}
    (asked : runFeedSession options installed session (.attempted result requested) =
      (next, action)) : action.isCall = false := by
  have step := runFeedSession_step options installed session (.attempted result requested)
  rw [asked] at step
  cases step with
  | idle | attemptReturns | reconnects => rfl

theorem isCall_eq_false {action : SessionAction} (other : ∀ limit, action ≠ .called limit) :
    action.isCall = false := by
  cases action with
  | called limit => exact absurd rfl (other limit)
  | idle | polled | answered | ended => rfl

variable (connection options installed) in
/-- **A message that is read** is counted, and handed on under the next number or not at all. -/
theorem countStep_reads (session : FeedSession) (attempt : LiveAttempt)
    (reading : attempt.websocket.phase = .reading) (message : WebSocketMessageView)
    (requested accepts : Bool) :
    let asked := onMessage connection attempt.maxMessages attempt.state message
      (sessionCallback options installed session requested accepts)
    Machine.CountStep SessionAction.isCall capture captureNumber asked.2.2.2
      (place installed { session, attempt := some attempt })
      (place installed
        { session := asked.2.2.1
          attempt := some { attempt with
            state := asked.2.1, websocket := attempt.websocket.received message asked.1 } }) := by
  intro asked
  have counted : asked.2.1 = attempt.state.observe message := onMessage_state ..
  have effect : asked.2.2 = (sessionCallback options installed session requested accepts
      (attempt.state.feedMessage connection message)).2 := onMessage_effect ..
  obtain ⟨uncalled, delivers⟩ := sessionCallback_delivers options installed session requested
    accepts (attempt.state.feedMessage connection message)
  rw [← effect] at uncalled delivers
  have listens : attempt.listening = true := decide_eq_true (Or.inr reading)
  have after := place_received installed asked.2.2.1 reading message asked.1
  rw [← counted] at after
  rcases delivers with ⟨rfl, handed⟩ | ⟨kept, refused⟩
  · have before : place true { session, attempt := some attempt } = some attempt.state.messages :=
      if_pos ⟨rfl, listens⟩
    rw [before]
    refine .counts _ uncalled ?_ after.1
    rw [capture, handed, Option.map_some, (feedMessage_envelope _ _ _).1]
  · refine .silent uncalled (by rw [capture, kept]; rfl) (Or.inl (after.2 ?_))
    exact refused.imp_right onMessage_of_refused

/-- What is not handed over has no number. -/
theorem capture_eq_none {action : SessionAction} (kept : action.delivered = none) :
    capture action = none := by
  rw [capture, kept]
  rfl

/-- **A live run counts, and restarts whenever it calls the client.** -/
theorem live_restarts : Machine.Restarts SessionAction.isCall capture captureNumber
    (runLive connection options installed) (place installed) := by
  intro run event
  have step := runLive_step connection options installed run event
  generalize (runLive connection options installed run event).1 = next at step ⊢
  generalize (runLive connection options installed run event).2 = action at step ⊢
  cases step with
  | waits => exact .silent rfl rfl (Or.inr rfl)
  | calls => exact .restarts rfl rfl (place_start ..)
  | polls requested asked other =>
      exact .silent (isCall_eq_false other) (capture_eq_none (delivered_eq_none asked nofun))
        (Or.inr rfl)
  | reads message requested accepts present reading asked =>
      have counted := countStep_reads connection options installed run.session _ reading message
        requested accepts
      rw [asked, ← present] at counted
      exact counted
  | @runs attempt event present =>
      have ends := place_run installed run.session attempt event
      rw [← present] at ends
      exact .silent rfl rfl ends
  | returns requested _ asked =>
      exact .silent (isCall_attempted asked) (capture_eq_none (delivered_eq_none asked nofun))
        (Or.inl rfl)

/-- What is handed over is a message the client made. -/
theorem delivered_made (run : LiveRun) (event : LiveEvent) {view : FeedMessageView}
    (handed : (runLive connection options installed run event).2.delivered = some view) :
    ∃ (state : CallbackState) (message : WebSocketMessageView),
      view = state.feedMessage connection message := by
  have step := runLive_step connection options installed run event
  generalize (runLive connection options installed run event).1 = next at step
  generalize (runLive connection options installed run event).2 = action at step handed
  cases step with
  | waits | calls | runs => cases handed
  | polls _ asked =>
      rw [delivered_eq_none asked nofun] at handed
      cases handed
  | returns _ _ asked =>
      rw [delivered_eq_none asked nofun] at handed
      cases handed
  | @reads attempt message requested accepts _ _ _ _ _ _ asked =>
      have effect := onMessage_effect connection attempt.maxMessages attempt.state message
        (sessionCallback options installed run.session requested accepts)
      rw [asked] at effect
      obtain ⟨-, ⟨-, given⟩ | ⟨kept, -⟩⟩ := sessionCallback_delivers options installed run.session
        requested accepts (attempt.state.feedMessage connection message)
      · rw [← effect, handed] at given
        exact ⟨attempt.state, message, Option.some.inj given⟩
      · rw [← effect, handed] at kept
        cases kept

end Numbers

/-! ### The order of a session -/

theorem captureNumber_lt {first second : Nat} (before : first < second)
    (small : second + 1 < 2 ^ 64) : captureNumber first < captureNumber second := by
  have word (index : Nat) (fits : index + 1 < 2 ^ 64) : (captureNumber index).toNat = index + 1 := by
    rw [captureNumber, UInt64.toNat_ofNat', Nat.mod_eq_of_lt fits]
  rw [UInt64.lt_iff_toNat_lt, word first (by omega), word second small]
  omega

/-- The numbers of one attempt strictly increase, as long as they are 64-bit words. -/
theorem captureNumbers_pairwise {count : Nat} (small : count < 2 ^ 64) :
    ((List.range count).map captureNumber).Pairwise (· < ·) := by
  rw [List.pairwise_map]
  refine List.pairwise_lt_range.imp_of_mem fun {first second} _ member before => ?_
  have bound := List.mem_range.mp member
  exact captureNumber_lt before (by omega)

/-- **Capture sequence numbers order each attempt**, and not the session. For every connection,
options, downstream handler and events, with any reconnects and any messages:

* every message handed over carries the id of the connection, and the messages of one attempt carry
  `1, 2, 3, …`, with which every attempt begins again;
* the numbers of the session, if there are less than `2 ^ 64`, strictly increase exactly when no two
  attempts hand over a message. -/
theorem capture_orders_attempts (connection : FeedConnectionSpec) (options : FeedSessionOptions)
    (installed : Bool) (events : List LiveEvent) :
    let actions := ({} : LiveRun).actions connection options installed events
    (∀ view ∈ delivered actions, view.envelope.connectionId = connection.connectionId) ∧
    (∀ attempt ∈ attempts actions,
      captures attempt = (List.range (captures attempt).length).map captureNumber) ∧
    ((captures actions).length < 2 ^ 64 →
      ((captures actions).Pairwise (· < ·) ↔
        (attempts actions).Pairwise fun earlier later =>
          captures earlier = [] ∨ captures later = [])) := by
  intro actions
  have beginnings : ∀ attempt ∈ attempts actions,
      ∃ count, captures attempt = (List.range count).map captureNumber :=
    live_restarts.epochs (Or.inl rfl) events
  have quiet : ∀ action : SessionAction, action.isCall = true → capture action = none := by
    intro action called
    cases action with
    | called => rfl
    | idle | polled | answered | ended => cases called
  have whole : captures actions = ((attempts actions).map captures).flatten :=
    Machine.filterMap_splitOnP quiet actions
  refine ⟨?_, fun attempt member => ?_, fun small => ?_⟩
  · intro view member
    obtain ⟨action, done, handed⟩ := List.mem_filterMap.mp member
    refine Machine.outputs_invariant (runLive connection options installed) (fun _ => True)
      (fun _ => True) (fun action => ∀ view, action.delivered = some view →
        view.envelope.connectionId = connection.connectionId) ?_ trivial (fun _ _ => trivial) action
      done view handed
    intro run event _ _
    refine ⟨trivial, fun view handed => ?_⟩
    obtain ⟨state, message, rfl⟩ := delivered_made run event handed
    exact (feedMessage_envelope state connection message).2
  · obtain ⟨count, same⟩ := beginnings attempt member
    rw [same, List.length_map, List.length_range]
  · have pieces : ∀ piece ∈ (attempts actions).map captures,
        ∃ count, piece = (List.range count).map captureNumber := by
      intro piece member
      obtain ⟨attempt, among, rfl⟩ := List.mem_map.mp member
      exact beginnings attempt among
    have ordered : ∀ piece ∈ (attempts actions).map captures, piece.Pairwise (· < ·) := by
      intro piece member
      obtain ⟨count, rfl⟩ := pieces piece member
      have fits := (List.sublist_flatten_of_mem member).length_le
      rw [← whole, List.length_map, List.length_range] at fits
      exact captureNumbers_pairwise (by omega)
    rw [whole, Machine.pairwise_flatten_beginnings (UInt64.lt_irrefl _) pieces ordered,
      List.pairwise_map]

/-- Two messages in one attempt. -/
theorem capture_orders_attempts_once :
    (captures (({} : LiveRun).actions { connectionId := 7, feeds := [{ feedId := 3 }] } {} true
      [.poll false 1, .network .connected, .received { payload := [1] } false true,
        .received { payload := [2] } false true])).Pairwise (· < ·) :=
  ((capture_orders_attempts { connectionId := 7, feeds := [{ feedId := 3 }] } {} true
    [.poll false 1, .network .connected, .received { payload := [1] } false true,
      .received { payload := [2] } false true]).2.2 (by decide)).mpr (by decide)

/-- One message, a reset connection, and one message more: both carry `1`. -/
theorem capture_restarts :
    let actions := ({} : LiveRun).actions { connectionId := 7, feeds := [{ feedId := 3 }] }
      { retry := { maxAttempts := 2, initialBackoff := 0 } } true
      [.poll false 1, .network .connected, .received { payload := [1] } false true,
        .network (.readFailed "reset"), .network (.closed none 2), .returned false,
        .poll false 3, .poll false 4, .network .connected,
        .received { payload := [2] } false true]
    ¬ (captures actions).Pairwise (· < ·) ∧
      ((delivered actions).map fun view =>
        (view.envelope.connectionId, view.envelope.captureSeq, view.payload)) =
          [(7, 1, [1]), (7, 1, [2])] := by
  decide

end MarketDataFabric.Apps
