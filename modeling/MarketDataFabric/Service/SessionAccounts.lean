/-
**Accounts of a feed session across its attempts.**

* `Obedient` — the promise of an attempt: after a callback that returned `false` it makes no further
  one.
* `Totals` — the statistics of the messages received so far; a callback adds one.
* `Accounted`, `accounted_step` — what the loop keeps, against the list of what it did so far, under
  that promise.
* `Clean`, `clean_step`, `Obedient.append` — a flag ends the session, so an attempt that stops at its
  first refusal is obedient.
* `session_accounting` — the accounts of every obedient run.
-/

import Mathlib.Algebra.BigOperators.Group.List.Basic
import Mathlib.Algebra.GroupWithZero.Nat
import MarketDataFabric.Service.FeedSession

namespace MarketDataFabric.Service

open MarketDataFabric.Feed Library

variable {options : FeedSessionOptions} {installed : Bool}

namespace SessionAction

/-- The message of a callback. -/
def received : SessionAction → Option FeedMessageView
  | .answered view _ _ => some view
  | .idle | .polled _ | .called _ | .ended _ _ _ => none

/-- The message a callback gave to the downstream handler. -/
def delivered : SessionAction → Option FeedMessageView
  | .answered view _ ⟨_, some _⟩ => some view
  | .answered _ _ ⟨_, none⟩ => none
  | .idle | .polled _ | .called _ | .ended _ _ _ => none

end SessionAction

/-- The messages of all callbacks, in order. -/
abbrev received (actions : List SessionAction) : List FeedMessageView :=
  actions.filterMap SessionAction.received

/-- The messages the downstream handler was given, in order. -/
abbrev delivered (actions : List SessionAction) : List FeedMessageView :=
  actions.filterMap SessionAction.delivered

/-- **After a callback that returned `false` there is no further one before the next attempt.** -/
def Obedient (actions : List SessionAction) : Prop :=
  ∀ front view requested reply between later,
    front ++ .answered view requested reply :: (between ++ [later]) <+: actions →
    reply.keepRunning = false → later.received ≠ none → ∃ count, .called count ∈ between

theorem Obedient.of_append {actions later : List SessionAction}
    (obedient : Obedient (actions ++ later)) : Obedient actions :=
  fun front view requested reply between last cut =>
    obedient front view requested reply between last (cut.trans (List.prefix_append _ _))

/-! ### Totals -/

/-- **The statistics of the received messages.** -/
structure Totals (views : List FeedMessageView) (stats : FeedSessionStats) : Prop where
  messages : stats.messages = views.length
  bytes : stats.bytes = (views.map fun view => view.payload.length).sum
  first : stats.firstRecvTsNs = (views.head?.map fun view => view.envelope.recvTsNs).getD 0
  last : stats.lastRecvTsNs = (views.getLast?.map fun view => view.envelope.recvTsNs).getD 0

/-- A callback adds its message. -/
theorem Totals.observe {views : List FeedMessageView} {stats : FeedSessionStats}
    (totals : Totals views stats) (view : FeedMessageView) :
    Totals (views ++ [view]) (stats.observe view) := by
  refine ⟨?_, ?_, ?_, ?_⟩
  · show stats.messages + 1 = _
    rw [List.length_append, totals.messages]
    rfl
  · show stats.bytes + view.payload.length = _
    rw [List.map_append, List.sum_append, totals.bytes]
    rfl
  · show (if stats.messages = 0 then view.envelope.recvTsNs else stats.firstRecvTsNs) = _
    rw [totals.messages, totals.first]
    cases views with
    | nil => rfl
    | cons earlier rest => rfl
  · show view.envelope.recvTsNs = _
    rw [List.getLast?_concat]
    rfl

/-! ### What the loop keeps -/

/-- A raised flag tells of a callback of this attempt that returned `false`. -/
def Raised (actions : List SessionAction) : Phase → Prop
  | .runOnce callbacks => callbacks ≠ {} → ∃ front view requested reply between,
      actions = front ++ .answered view requested reply :: between ∧ reply.keepRunning = false ∧
        ∀ count, .called count ∉ between
  | .loopHead | .sleepForBackoff _ | .returned _ => True

/-- The messages stay below the limit until the callback that reaches it. -/
def Budgeted (options : FeedSessionOptions) (stats : FeedSessionStats) : Phase → Prop
  | .loopHead | .sleepForBackoff _ => stats.messages < options.maxMessages
  | .runOnce callbacks => stats.messages ≤ options.maxMessages ∧
      (callbacks = {} → stats.messages < options.maxMessages) ∧
      (callbacks.maxMessagesReached = true → stats.messages = options.maxMessages)
  | .returned reason => stats.messages ≤ options.maxMessages ∧
      (reason = .maxMessagesReached → stats.messages = options.maxMessages)

/-- Every message was handed on, except possibly the last one, on which stop was observed. -/
def HandedOn (actions : List SessionAction) : Prop :=
  delivered actions = received actions ∨ ∃ view reply,
    received actions = delivered actions ++ [view] ∧ .answered view true reply ∈ actions

/-- Until a flag is raised every message was handed on. -/
def Handed (actions : List SessionAction) : Phase → Prop
  | .runOnce callbacks => HandedOn actions ∧ (callbacks = {} → delivered actions = received actions)
  | .loopHead | .sleepForBackoff _ => delivered actions = received actions
  | .returned _ => HandedOn actions

/-- Every attempt was given what was left of the limit, and something was left. -/
def Limited (options : FeedSessionOptions) (actions : List SessionAction) : Prop :=
  ∀ front count, front ++ [.called count] <+: actions →
    0 < count ∧ (received front).length + count = options.maxMessages

structure Accounted (options : FeedSessionOptions) (installed : Bool)
    (actions : List SessionAction) (session : FeedSession) : Prop where
  totals : Totals (received actions) session.stats
  raised : Raised actions session.phase
  limited : options.maxMessages ≠ 0 → Limited options actions
  budgeted : options.maxMessages ≠ 0 → Budgeted options session.stats session.phase
  handed : installed = true → Handed actions session.phase

/-! ### Actions that are no callback -/

section Silent

variable {actions : List SessionAction} {action : SessionAction}

theorem received_append (actions : List SessionAction) (action : SessionAction) :
    received (actions ++ [action]) = received actions ++ action.received.toList := by
  rw [received, List.filterMap_append]
  cases action <;> rfl

theorem delivered_append (actions : List SessionAction) (action : SessionAction) :
    delivered (actions ++ [action]) = delivered actions ++ action.delivered.toList := by
  rw [delivered, List.filterMap_append]
  rcases action with _ | _ | _ | ⟨view, requested, ⟨keepRunning, _ | downstream⟩⟩ | _ <;> rfl

theorem delivered_of_silent (silent : action.received = none) : action.delivered = none := by
  cases action with
  | answered => cases silent
  | idle | polled | called | ended => rfl

theorem received_silent (silent : action.received = none) :
    received (actions ++ [action]) = received actions := by
  rw [received_append, silent]
  exact List.append_nil _

theorem delivered_silent (silent : action.received = none) :
    delivered (actions ++ [action]) = delivered actions := by
  rw [delivered_append, delivered_of_silent silent]
  exact List.append_nil _

/-- Without a callback everything handed on stays handed on. -/
theorem HandedOn.silent (handed : HandedOn actions) (silent : action.received = none) :
    HandedOn (actions ++ [action]) := by
  rcases handed with all | ⟨view, reply, split, member⟩
  · left
    rw [delivered_silent silent, received_silent silent, all]
  · right
    refine ⟨view, reply, ?_, List.mem_append_left _ member⟩
    rw [delivered_silent silent, received_silent silent, split]

theorem Totals.silent {stats : FeedSessionStats} (totals : Totals (received actions) stats)
    (silent : action.received = none) : Totals (received (actions ++ [action])) stats := by
  rw [received_silent silent]
  exact totals

theorem Raised.silent {phase : Phase} (raised : Raised actions phase)
    (fresh : ∀ count, action ≠ .called count) : Raised (actions ++ [action]) phase := by
  cases phase with
  | loopHead | sleepForBackoff | returned => trivial
  | runOnce callbacks =>
      intro up
      obtain ⟨front, view, requested, reply, between, rfl, refused, uncalled⟩ := raised up
      refine ⟨front, view, requested, reply, between ++ [action], ?_, refused, ?_⟩
      · rw [List.append_assoc, List.cons_append]
      · intro count member
        rcases List.mem_append.mp member with early | last
        · exact uncalled count early
        · exact fresh count (List.mem_singleton.mp last).symm

theorem Handed.silent {phase : Phase} (handed : Handed actions phase)
    (silent : action.received = none) : Handed (actions ++ [action]) phase := by
  have all : delivered actions = received actions →
      delivered (actions ++ [action]) = received (actions ++ [action]) := fun same => by
    rw [delivered_silent silent, received_silent silent, same]
  cases phase with
  | loopHead | sleepForBackoff => exact all handed
  | runOnce callbacks => exact ⟨handed.1.silent silent, fun down => all (handed.2 down)⟩
  | returned => exact HandedOn.silent handed silent

theorem Limited.append (limited : Limited options actions)
    (fresh : ∀ count, action = .called count →
      0 < count ∧ (received actions).length + count = options.maxMessages) :
    Limited options (actions ++ [action]) := by
  intro front count cut
  rcases List.prefix_concat_iff.mp cut with same | earlier
  · obtain ⟨rfl, called⟩ := List.append_inj' same rfl
    exact fresh count (List.cons.inj called).1.symm
  · exact limited front count earlier

/-- An action that is neither a callback nor a call keeps the limits. -/
theorem Limited.silent (limited : Limited options actions)
    (fresh : ∀ count, action ≠ .called count) : Limited options (actions ++ [action]) :=
  limited.append fun count same => absurd same (fresh count)

end Silent

/-! ### One step -/

/-- An obedient attempt makes a callback only while its flags are down. -/
theorem Raised.down {actions : List SessionAction} {callbacks : FeedSessionCallbackState}
    {action : SessionAction} (raised : Raised actions (.runOnce callbacks))
    (obedient : Obedient (actions ++ [action])) (callback : action.received ≠ none) :
    callbacks = {} := by
  by_contra up
  obtain ⟨front, view, requested, reply, between, rfl, refused, uncalled⟩ := raised up
  have whole : front ++ .answered view requested reply :: (between ++ [action]) =
      front ++ .answered view requested reply :: between ++ [action] := by
    rw [List.append_assoc, List.cons_append]
  obtain ⟨count, member⟩ := obedient front view requested reply between action
    (whole ▸ List.prefix_rfl) refused callback
  exact uncalled count member

/-- **A callback** keeps the accounts. -/
theorem accounted_answer {actions : List SessionAction} {session : FeedSession}
    {raised : FeedSessionCallbackState} {view : FeedMessageView} {requested : Bool}
    {reply : CallbackReply} (here : Accounted options installed actions session)
    (place : session.phase = .runOnce {})
    (step : CallbackStep options installed (session.stats.observe view) {} requested reply raised) :
    Accounted options installed (actions ++ [.answered view requested reply])
      { session with stats := session.stats.observe view, phase := .runOnce raised } := by
  obtain ⟨totals, -, limited, budgeted, handed⟩ := here
  rw [place] at budgeted handed
  refine ⟨?_, ?_, fun limit => (limited limit).silent fun _ => SessionAction.noConfusion, ?_, ?_⟩
  · rw [received_append]
    exact totals.observe view
  · intro up
    refine ⟨actions, view, requested, reply, [], rfl, ?_, fun _ => List.not_mem_nil⟩
    cases step with
    | stopRequested | stoppedByHandler | maxMessagesReached => rfl
    | kept => exact absurd rfl up
  · intro limit
    have room := (budgeted limit).2.1 rfl
    cases step with
    | stopRequested => exact ⟨room, nofun, nofun⟩
    | stoppedByHandler => exact ⟨room, nofun, nofun⟩
    | maxMessagesReached _ excess => exact ⟨room, nofun, fun _ => Nat.le_antisymm room excess⟩
    | kept below => exact ⟨room, fun _ => below limit, nofun⟩
  · intro present
    have all := (handed present).2 rfl
    cases step with
    | stopRequested =>
        refine ⟨Or.inr ⟨view, ⟨false, none⟩, ?_, ?_⟩, nofun⟩
        · rw [received_append, delivered_append, all]
          show received actions ++ [view] = received actions ++ [] ++ [view]
          rw [List.append_nil]
        · exact List.mem_append_right _ (List.mem_singleton.mpr rfl)
    | stoppedByHandler =>
        have same : delivered (actions ++ [.answered view false ⟨false, some false⟩]) =
            received (actions ++ [.answered view false ⟨false, some false⟩]) := by
          rw [received_append, delivered_append, all]
          rfl
        exact ⟨Or.inl same, fun _ => same⟩
    | maxMessagesReached | kept =>
        rw [if_pos present]
        have same (keepRunning : Bool) :
            delivered (actions ++ [.answered view false ⟨keepRunning, some true⟩]) =
              received (actions ++ [.answered view false ⟨keepRunning, some true⟩]) := by
          rw [received_append, delivered_append, all]
          rfl
        exact ⟨Or.inl (same _), fun _ => same _⟩

theorem accounted_step (actions : List SessionAction) (session : FeedSession)
    (event : SessionEvent) (here : Obedient actions → Accounted options installed actions session)
    (obedient : Obedient (actions ++ [(runFeedSession options installed session event).2])) :
    Accounted options installed (actions ++ [(runFeedSession options installed session event).2])
      (runFeedSession options installed session event).1 := by
  have accounted := here obedient.of_append
  obtain ⟨totals, raised, limited, budgeted, handed⟩ := accounted
  obtain ⟨next, action, step, moved, did⟩ := exists_session_step options installed session event
  rw [did] at obedient
  rw [moved, did]
  cases step with
  | idle =>
      exact ⟨totals.silent rfl, raised.silent nofun, fun limit => (limited limit).silent nofun,
        budgeted, fun present => (handed present).silent rfl⟩
  | headReturns requested reason place decision =>
      rw [place] at budgeted handed
      refine ⟨totals.silent rfl, trivial, fun limit => (limited limit).silent nofun, ?_, ?_⟩
      · intro limit
        have room : session.stats.messages < options.maxMessages := budgeted limit
        refine ⟨room.le, fun same => ?_⟩
        subst same
        rcases headStopReason_justified decision {} with raised | ⟨-, excess⟩
        · cases raised
        · exact absurd room (Nat.not_lt.mpr excess)
      · exact fun present => HandedOn.silent (Or.inl (handed present)) rfl
  | calls place decision =>
      rw [place] at budgeted handed
      obtain ⟨-, below, -⟩ := headStopReason_none decision
      have kept : Totals (received (actions ++ [.called (session.remainingMessages options)]))
          session.stats := totals.silent rfl
      refine ⟨⟨kept.messages, kept.bytes, kept.first, kept.last⟩, fun up => absurd rfl up,
        fun limit => (limited limit).append fun count same => ?_, fun limit => ?_,
        fun present => ⟨HandedOn.silent (Or.inl (handed present)) rfl, fun _ => ?_⟩⟩
      · -- what is left of the limit is not zero, because the loop head checked it
        have room := below limit
        have left : count = options.maxMessages - session.stats.messages := by
          rw [← SessionAction.called.inj same, FeedSession.remainingMessages, if_neg limit]
        rw [← totals.messages]
        omega
      · have room : session.stats.messages < options.maxMessages := budgeted limit
        exact ⟨room.le, fun _ => room, nofun⟩
      · rw [delivered_silent rfl, received_silent rfl]
        exact handed present
  | backoffStops remaining place =>
      rw [place] at budgeted handed
      refine ⟨totals.silent rfl, trivial, fun limit => (limited limit).silent nofun,
        fun limit => ⟨?_, nofun⟩, fun present => HandedOn.silent (Or.inl (handed present)) rfl⟩
      exact Nat.le_of_lt (budgeted limit)
  | sleeps remaining rest place | wakes remaining place =>
      rw [place] at budgeted handed
      exact ⟨totals.silent rfl, trivial, fun limit => (limited limit).silent nofun, budgeted,
        fun present => Handed.silent (handed present) rfl⟩
  | answers callbacks raised' view requested accepts reply place step =>
      have raisedHere := raised
      rw [place] at raisedHere
      obtain rfl : callbacks = {} := raisedHere.down obedient nofun
      exact accounted_answer ⟨totals, raised, limited, budgeted, handed⟩ place step
  | attemptReturns callbacks attempt requested reason place decision =>
      rw [place] at budgeted handed
      have kept : Totals (received (actions ++ [.ended callbacks attempt requested]))
          session.stats := totals.silent rfl
      refine ⟨⟨kept.messages, kept.bytes, kept.first, kept.last⟩, trivial,
        fun limit => (limited limit).silent nofun, fun limit => ?_,
        fun present => (handed present).1.silent rfl⟩
      obtain ⟨most, -, exactly⟩ := budgeted limit
      refine ⟨most, fun same => ?_⟩
      subst same
      rcases attemptStopReason_justified decision rfl rfl with flagged | ⟨-, excess⟩
      · exact exactly flagged
      · exact Nat.le_antisymm most excess
  | reconnects callbacks attempt requested place decision =>
      rw [place] at budgeted handed
      obtain ⟨rfl, -, -, -⟩ := attemptStopReason_none decision
      have kept : Totals (received (actions ++ [.ended {} attempt requested])) session.stats :=
        totals.silent rfl
      refine ⟨⟨kept.messages, kept.bytes, kept.first, kept.last⟩, trivial,
        fun limit => (limited limit).silent nofun, fun limit => (budgeted limit).2.1 rfl,
        fun present => ?_⟩
      have all := (handed present).2 rfl
      show delivered _ = received _
      rw [delivered_silent rfl, received_silent rfl, all]

/-! ### Obedient attempts -/

/-- No callback was refused. -/
def Unrefused (actions : List SessionAction) : Prop :=
  ∀ view requested reply, .answered view requested reply ∈ actions → reply.keepRunning = true

/-- Until a flag is raised no callback was refused, in any attempt: a flag ends the session. -/
def Clean (actions : List SessionAction) : Phase → Prop
  | .runOnce callbacks => callbacks = {} → Unrefused actions
  | .loopHead | .sleepForBackoff _ => Unrefused actions
  | .returned _ => True

theorem Unrefused.nil : Unrefused [] := fun _ _ _ member => (List.not_mem_nil member).elim

theorem Unrefused.append {actions : List SessionAction} {action : SessionAction}
    (unrefused : Unrefused actions)
    (keeps : ∀ view requested reply, action = .answered view requested reply →
      reply.keepRunning = true) : Unrefused (actions ++ [action]) := by
  intro view requested reply member
  rcases List.mem_append.mp member with early | last
  · exact unrefused view requested reply early
  · exact keeps view requested reply (List.mem_singleton.mp last).symm

theorem clean_step {actions : List SessionAction} {session : FeedSession} (event : SessionEvent)
    (clean : Clean actions session.phase) :
    Clean (actions ++ [(runFeedSession options installed session event).2])
      (runFeedSession options installed session event).1.phase := by
  obtain ⟨next, action, step, moved, did⟩ := exists_session_step options installed session event
  rw [moved, did]
  cases step with
  | idle =>
      cases place : session.phase with
      | loopHead | sleepForBackoff =>
          rw [place] at clean
          exact Unrefused.append clean nofun
      | runOnce callbacks =>
          rw [place] at clean
          exact fun down => (clean down).append nofun
      | returned => trivial
  | headReturns | backoffStops | attemptReturns => trivial
  | calls place =>
      rw [place] at clean
      exact fun _ => Unrefused.append clean nofun
  | sleeps remaining rest place | wakes remaining place =>
      rw [place] at clean
      exact Unrefused.append clean nofun
  | answers callbacks raised view requested accepts reply place step =>
      rw [place] at clean
      intro down
      obtain ⟨wasDown, -, downstream, rfl⟩ := step.kept_of_down down
      refine (clean wasDown).append fun view' requested' reply' same => ?_
      cases same
      rfl
  | reconnects callbacks attempt requested place decision =>
      rw [place] at clean
      exact (clean (attemptStopReason_none decision).1).append nofun

/-- Without a refusal there is nothing to obey. -/
theorem Obedient.of_unrefused {actions : List SessionAction} (unrefused : Unrefused actions) :
    Obedient actions := by
  intro front view requested reply between later cut refused
  have member : SessionAction.answered view requested reply ∈ actions :=
    cut.subset (List.mem_append_right _ List.mem_cons_self)
  rw [unrefused view requested reply member] at refused
  cases refused

/-- A callback that finds every earlier one kept, or no callback at all, is obedient. -/
theorem Obedient.append {actions : List SessionAction} {action : SessionAction}
    (obedient : Obedient actions) (fine : action.received ≠ none → Unrefused actions) :
    Obedient (actions ++ [action]) := by
  intro front view requested reply between later cut refused callback
  rcases List.prefix_concat_iff.mp cut with same | earlier
  · rw [← List.cons_append, ← List.append_assoc] at same
    obtain ⟨rfl, last⟩ := List.append_inj' same rfl
    obtain rfl := (List.cons.inj last).1
    have kept := fine callback view requested reply
      (List.mem_append_right _ List.mem_cons_self)
    rw [refused] at kept
    cases kept
  · exact obedient front view requested reply between later earlier refused callback

/-- A callback is made for a message, within an attempt. -/
theorem received_inv {session : FeedSession} {event : SessionEvent}
    (callback : (runFeedSession options installed session event).2.received ≠ none) :
    ∃ callbacks view requested accepts, event = .message view requested accepts ∧
      session.phase = .runOnce callbacks := by
  obtain ⟨next, action, step, -, did⟩ := exists_session_step options installed session event
  rw [did] at callback
  cases step with
  | answers callbacks raised view requested accepts reply place =>
      exact ⟨callbacks, view, requested, accepts, rfl, place⟩
  | idle | headReturns | calls | backoffStops | sleeps | wakes | attemptReturns | reconnects =>
      exact absurd rfl callback

/-! ### A session -/

/-- **Accounts of a session.** For every options, with or without a downstream handler, and for every
list of events in which no attempt makes a callback after one that returned `false`:

* the statistics are those of all messages received, over all attempts;
* the downstream handler was given every one of them, in order, except possibly the last one, on
  which stop was observed;
* under a limit no more messages than that were received, every attempt was given what was left of
  it, which was not nothing, and the loop returns with `maxMessagesReached` only at the limit. -/
theorem session_accounting (options : FeedSessionOptions) (installed : Bool)
    (events : List SessionEvent)
    (obedient : Obedient (({} : FeedSession).actions options installed events)) :
    let session := ({} : FeedSession).after options installed events
    let actions := ({} : FeedSession).actions options installed events
    session.stats.messages = (received actions).length ∧
      session.stats.bytes = ((received actions).map fun view => view.payload.length).sum ∧
      session.stats.firstRecvTsNs =
        ((received actions).head?.map fun view => view.envelope.recvTsNs).getD 0 ∧
      session.stats.lastRecvTsNs =
        ((received actions).getLast?.map fun view => view.envelope.recvTsNs).getD 0 ∧
      (installed = true → delivered actions = received actions ∨ ∃ view reply,
        received actions = delivered actions ++ [view] ∧ .answered view true reply ∈ actions) ∧
      (options.maxMessages ≠ 0 →
        session.stats.messages ≤ options.maxMessages ∧
        (∀ front count, front ++ [.called count] <+: actions →
          0 < count ∧ (received front).length + count = options.maxMessages) ∧
        (session.phase = .returned .maxMessagesReached →
          session.stats.messages = options.maxMessages)) := by
  intro session actions
  have fresh : Accounted options installed [] {} :=
    ⟨⟨rfl, rfl, rfl, rfl⟩, trivial, fun _ front _ cut => by simp at cut,
      fun limit => Nat.pos_of_ne_zero limit, fun _ => rfl⟩
  obtain ⟨totals, -, limited, budgeted, handed⟩ : Accounted options installed actions session :=
    Machine.outputs_history _
      (fun actions session => Obedient actions → Accounted options installed actions session)
      accounted_step [] {} events (fun _ => fresh) obedient
  refine ⟨totals.messages, totals.bytes, totals.first, totals.last, fun present => ?_,
    fun limit => ⟨?_, limited limit, fun returned => ?_⟩⟩
  · have here := handed present
    revert here
    cases session.phase with
    | loopHead | sleepForBackoff => exact Or.inl
    | runOnce => exact And.left
    | returned => exact id
  · have here := budgeted limit
    revert here
    cases session.phase with
    | loopHead | sleepForBackoff => exact Nat.le_of_lt
    | runOnce | returned => exact And.left
  · have here := budgeted limit
    rw [returned] at here
    exact here.2 rfl

/-- A read fails after the first message; in the second attempt two more reach the limit. -/
theorem session_accounting_at_limit :
    let options : FeedSessionOptions :=
      { maxMessages := 3, retry := { maxAttempts := 0, initialBackoff := 0 } }
    let first : FeedMessageView := { envelope := { recvTsNs := 7 }, payload := [1, 2] }
    let second : FeedMessageView := { envelope := { recvTsNs := 9 }, payload := [3] }
    let third : FeedMessageView := { envelope := { recvTsNs := 12 }, payload := [4, 5] }
    let broken : FeedRunAttemptResult := { status := .readFailed, errorClass := .io }
    let events : List SessionEvent :=
      [.poll false, .message first false true, .attempted broken false, .poll false, .poll false,
        .message second false true, .message third false true,
        .attempted { status := .stoppedByHandler, errorClass := .stopped } false]
    let session := ({} : FeedSession).after options true events
    let actions := ({} : FeedSession).actions options true events
    session.phase = .returned .maxMessagesReached ∧ session.stats.reconnects = 1 ∧
      session.stats.messages = 3 ∧ session.stats.bytes = 5 ∧
      session.stats.firstRecvTsNs = 7 ∧ session.stats.lastRecvTsNs = 12 ∧
      delivered actions = [first, second, third] := by
  intro options first second third broken events session actions
  have run : actions =
      [.called 3, .answered first false ⟨true, some true⟩, .ended {} broken false, .polled false,
        .called 2, .answered second false ⟨true, some true⟩] ++
      [.answered third false ⟨false, some true⟩] ++
      [.ended { maxMessagesReached := true }
        { status := .stoppedByHandler, errorClass := .stopped } false] := by decide
  have obedient : Obedient actions := by
    have kept : Unrefused [.called 3, .answered first false ⟨true, some true⟩,
        .ended {} broken false, .polled false, .called 2,
        .answered second false ⟨true, some true⟩] := by
      intro view requested reply member
      simp only [List.mem_cons, List.not_mem_nil, reduceCtorEq, or_false, false_or,
        SessionAction.answered.injEq] at member
      rcases member with ⟨-, -, rfl⟩ | ⟨-, -, rfl⟩ <;> rfl
    rw [run]
    exact ((Obedient.of_unrefused kept).append fun _ => kept).append fun none => absurd rfl none
  obtain ⟨messages, bytes, firstTime, lastTime, handed, limited⟩ :=
    session_accounting options true events obedient
  have returned : session.phase = .returned .maxMessagesReached := by decide
  have received : received actions = [first, second, third] := by
    rw [run]
    rfl
  have count : session.stats.messages = 3 := (limited (by decide)).2.2 returned
  refine ⟨returned, by decide, count, bytes.trans ?_, firstTime.trans ?_, lastTime.trans ?_, ?_⟩
  · rw [received]
    rfl
  · rw [received]
    rfl
  · rw [received]
    rfl
  · rw [run]
    rfl

end MarketDataFabric.Service
