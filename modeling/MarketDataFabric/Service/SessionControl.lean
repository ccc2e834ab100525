/-
**Control of a feed session.**

* `Controlled`, `controlled_step` — what the loop keeps of its counters, of its budget and of the
  reasons it returns with, against the list of what it did so far.
* `Between`, `between_step` — what lies between a call of `run_once` and the place reached since.
* `session_control` — the same for every run.
-/

import MarketDataFabric.Service.FeedSession

namespace MarketDataFabric.Service

open MarketDataFabric.Feed Library

variable {options : FeedSessionOptions} {installed : Bool}

/-- A call of `run_once`. -/
def SessionAction.isCall : SessionAction → Bool
  | .called _ => true
  | .idle | .polled _ | .answered _ _ _ | .ended _ _ _ => false

/-- **What the loop returned with**: the statistics and what was done before justify the reason. -/
def Returned (options : FeedSessionOptions) (stats : FeedSessionStats)
    (actions : List SessionAction) : FeedSessionStopReason → Prop
  | .maxAttemptsReached => stats.attempts = options.retry.maxAttempts
  | .notRetryable => stats.lastStatus ≠ .completed ∧
      isRetryableFeedError stats.lastErrorClass = false
  | .completed => stats.lastStatus = .completed ∧ options.retry.reconnectOnCompleted = false
  | .stoppedByHandler => ∃ view, .answered view false ⟨false, some false⟩ ∈ actions
  | .maxMessagesReached | .stopRequested => True

/-- **Why another attempt follows**, read off what was done between two calls of `run_once`: every
callback kept the attempt running, it ended without a flag and without a request to stop, no later
load of the token saw one, and its result allows another attempt. -/
def Continues (options : FeedSessionOptions) (between : List SessionAction) : Prop :=
  ∃ during attempt waiting, between = during ++ .ended {} attempt false :: waiting ∧
    (∀ action ∈ during, action = .idle ∨ ∃ view downstream,
      action = .answered view false ⟨true, downstream⟩) ∧
    (∀ action ∈ waiting, action = .idle ∨ action = .polled false) ∧
    (attempt.status = .completed ∧ options.retry.reconnectOnCompleted = true ∨
      attempt.status ≠ .completed ∧
        attempt.errorClass ∈ [FeedRunErrorClass.network, .protocol, .io, .unknown])

/-! ### Counters and reasons -/

/-- How far the attempts are ahead of the reconnects. -/
def Ahead (stats : FeedSessionStats) : Phase → Prop
  | .loopHead | .sleepForBackoff _ => stats.attempts = stats.reconnects
  | .runOnce _ => stats.attempts = stats.reconnects + 1
  | .returned _ => stats.reconnects ≤ stats.attempts ∧ stats.attempts ≤ stats.reconnects + 1

/-- A raised handler flag tells of a refusal, and a reason to return is justified. -/
def Accountable (options : FeedSessionOptions) (stats : FeedSessionStats)
    (actions : List SessionAction) : Phase → Prop
  | .loopHead | .sleepForBackoff _ => True
  | .runOnce callbacks => callbacks.stoppedByHandler = true →
      ∃ view, .answered view false ⟨false, some false⟩ ∈ actions
  | .returned reason => Returned options stats actions reason

structure Controlled (options : FeedSessionOptions) (actions : List SessionAction)
    (session : FeedSession) : Prop where
  calls : actions.countP SessionAction.isCall = session.stats.attempts
  budget : options.retry.maxAttempts ≠ 0 → session.stats.attempts ≤ options.retry.maxAttempts
  ahead : Ahead session.stats session.phase
  accountable : Accountable options session.stats actions session.phase

/-- What was done stays done. -/
theorem Returned.append {stats : FeedSessionStats} {actions : List SessionAction}
    {reason : FeedSessionStopReason} (returned : Returned options stats actions reason)
    (later : List SessionAction) : Returned options stats (actions ++ later) reason := by
  cases reason with
  | stoppedByHandler =>
      obtain ⟨view, member⟩ := returned
      exact ⟨view, List.mem_append_left _ member⟩
  | completed | maxMessagesReached | stopRequested | maxAttemptsReached | notRetryable =>
      exact returned

theorem Accountable.append {stats : FeedSessionStats} {actions : List SessionAction} {phase : Phase}
    (accountable : Accountable options stats actions phase) (later : List SessionAction) :
    Accountable options stats (actions ++ later) phase := by
  cases phase with
  | loopHead | sleepForBackoff => trivial
  | runOnce callbacks =>
      intro raised
      obtain ⟨view, member⟩ := accountable raised
      exact ⟨view, List.mem_append_left _ member⟩
  | returned reason => exact Returned.append accountable later

/-- A justified reason is one to return with, once the budget holds and the flags tell the truth. -/
theorem Justified.returned {stats : FeedSessionStats} {callbacks : FeedSessionCallbackState}
    {actions : List SessionAction} {reason : FeedSessionStopReason}
    (justified : Justified options stats callbacks reason)
    (budget : options.retry.maxAttempts ≠ 0 → stats.attempts ≤ options.retry.maxAttempts)
    (truthful : Accountable options stats actions (.runOnce callbacks)) :
    Returned options stats actions reason := by
  cases reason with
  | completed | notRetryable => exact justified
  | maxMessagesReached | stopRequested => trivial
  | stoppedByHandler => exact truthful justified
  | maxAttemptsReached => exact Nat.le_antisymm (budget justified.1) justified.2

theorem controlled_step (actions : List SessionAction) (session : FeedSession)
    (event : SessionEvent) (here : Controlled options actions session) :
    Controlled options (actions ++ [(runFeedSession options installed session event).2])
      (runFeedSession options installed session event).1 := by
  obtain ⟨calls, budget, ahead, accountable⟩ := here
  have counted : ∀ action : SessionAction, action.isCall = false →
      (actions ++ [action]).countP SessionAction.isCall = session.stats.attempts := by
    intro action other
    rw [List.countP_append, calls, List.countP_singleton, other]
    rfl
  obtain ⟨next, action, step, moved, did⟩ := exists_session_step options installed session event
  rw [moved, did]
  cases step with
  | idle => exact ⟨counted _ rfl, budget, ahead, accountable.append _⟩
  | headReturns requested reason place decision =>
      rw [place] at ahead accountable
      have level : session.stats.attempts = session.stats.reconnects := ahead
      refine ⟨counted _ rfl, budget, ⟨level.ge, level.le.trans (Nat.le_succ _)⟩, ?_⟩
      exact (headStopReason_justified decision {}).returned budget fun raised => by cases raised
  | calls place decision =>
      rw [place] at ahead
      obtain ⟨-, -, lasts⟩ := headStopReason_none decision
      refine ⟨?_, fun limited => lasts limited, congrArg (· + 1) ahead, fun raised => by cases raised⟩
      rw [List.countP_append, calls]
      rfl
  | backoffStops remaining place =>
      rw [place] at ahead
      have level : session.stats.attempts = session.stats.reconnects := ahead
      exact ⟨counted _ rfl, budget, ⟨level.ge, level.le.trans (Nat.le_succ _)⟩, trivial⟩
  | sleeps remaining rest place =>
      rw [place] at ahead
      exact ⟨counted _ rfl, budget, ahead, trivial⟩
  | wakes remaining place =>
      rw [place] at ahead
      exact ⟨counted _ rfl, budget, ahead, trivial⟩
  | answers callbacks raised view requested accepts reply place step =>
      rw [place] at ahead accountable
      refine ⟨counted _ rfl, budget, ahead, fun flagged => ?_⟩
      cases step with
      | stoppedByHandler => exact ⟨view, List.mem_append_right _ (List.mem_singleton.mpr rfl)⟩
      | stopRequested | maxMessagesReached | kept =>
          obtain ⟨earlier, member⟩ := accountable flagged
          exact ⟨earlier, List.mem_append_left _ member⟩
  | attemptReturns callbacks attempt requested reason place decision =>
      rw [place] at ahead accountable
      have leads : session.stats.attempts = session.stats.reconnects + 1 := ahead
      refine ⟨counted _ rfl, budget, ⟨(Nat.le_succ _).trans leads.ge, leads.le⟩, ?_⟩
      have truthful : Accountable options (session.stats.attempted attempt) actions
          (.runOnce callbacks) := accountable
      exact ((attemptStopReason_justified decision rfl rfl).returned budget truthful).append _
  | reconnects callbacks attempt requested place decision =>
      rw [place] at ahead
      exact ⟨counted _ rfl, budget, ahead, trivial⟩

/-! ### Between two calls -/

/-- What was done since a call of `run_once`, at the place reached. -/
def Between (options : FeedSessionOptions) (actions : List SessionAction) : Phase → Prop
  | .runOnce callbacks => callbacks = {} → ∀ action ∈ actions, action = .idle ∨
      ∃ view downstream, action = .answered view false ⟨true, downstream⟩
  | .loopHead | .sleepForBackoff _ => Continues options actions
  | .returned _ => True

/-- Waiting changes nothing about why an attempt may follow. -/
theorem Continues.waits {between : List SessionAction} (continues : Continues options between)
    {action : SessionAction} (waits : action = .idle ∨ action = .polled false) :
    Continues options (between ++ [action]) := by
  obtain ⟨during, attempt, waiting, rfl, kept, quiet, allows⟩ := continues
  refine ⟨during, attempt, waiting ++ [action], ?_, kept, ?_, allows⟩
  · rw [List.append_assoc, List.cons_append]
  · intro later member
    rcases List.mem_append.mp member with early | last
    · exact quiet later early
    · rw [List.mem_singleton.mp last]
      exact waits

theorem isRetryableFeedError_iff (errorClass : FeedRunErrorClass) :
    isRetryableFeedError errorClass = true ↔
      errorClass ∈ [FeedRunErrorClass.network, .protocol, .io, .unknown] := by
  cases errorClass <;> decide

theorem between_step (actions : List SessionAction) (session : FeedSession) (event : SessionEvent)
    (here : (∀ count, .called count ∉ actions) → Between options actions session.phase)
    (uncalled : ∀ count,
      .called count ∉ actions ++ [(runFeedSession options installed session event).2]) :
    Between options (actions ++ [(runFeedSession options installed session event).2])
      (runFeedSession options installed session event).1.phase := by
  have since := here fun count member => uncalled count (List.mem_append_left _ member)
  have fresh : ∀ count, (runFeedSession options installed session event).2 ≠ .called count :=
    fun count same => uncalled count (List.mem_append_right _ (List.mem_singleton.mpr same.symm))
  obtain ⟨next, action, step, moved, did⟩ := exists_session_step options installed session event
  rw [did] at fresh
  rw [moved, did]
  cases step with
  | idle =>
      cases place : session.phase with
      | loopHead | sleepForBackoff =>
          rw [place] at since
          exact Continues.waits since (Or.inl rfl)
      | runOnce callbacks =>
          rw [place] at since
          intro down earlier member
          rcases List.mem_append.mp member with early | last
          · exact since down earlier early
          · exact Or.inl (List.mem_singleton.mp last)
      | returned => trivial
  | headReturns | backoffStops | attemptReturns => trivial
  | calls => exact absurd rfl (fresh _)
  | sleeps remaining rest place | wakes remaining place =>
      rw [place] at since
      exact Continues.waits since (Or.inr rfl)
  | answers callbacks raised view requested accepts reply place step =>
      rw [place] at since
      intro down earlier member
      obtain ⟨wasDown, rfl, downstream, rfl⟩ := step.kept_of_down down
      rcases List.mem_append.mp member with early | last
      · exact since wasDown earlier early
      · exact Or.inr ⟨view, downstream, List.mem_singleton.mp last⟩
  | reconnects callbacks attempt requested place decision =>
      rw [place] at since
      obtain ⟨rfl, rfl, allows, -⟩ := attemptStopReason_none decision
      rw [isRetryableFeedError_iff] at allows
      exact ⟨actions, attempt, [], rfl, since rfl, fun _ member => (List.not_mem_nil member).elim,
        allows⟩

/-- **A call of `run_once`** is made at the loop head, when the token was not seen requested. -/
theorem called_inv {session : FeedSession} {event : SessionEvent} {count : Nat}
    (called : (runFeedSession options installed session event).2 = .called count) :
    session.phase = .loopHead ∧ event = .poll false ∧
      (runFeedSession options installed session event).1.phase = .runOnce {} := by
  have step := runFeedSession_step options installed session event
  rw [called] at step
  generalize (runFeedSession options installed session event).1 = next at step ⊢
  cases step with
  | calls place decision => exact ⟨place, rfl, rfl⟩

/-- **Control of a session.** For every options, with or without a downstream handler, and for every
list of events:

* `run_once` was called `attempts` times, not more often than the budget allows, and the attempts are
  at most one ahead of the reconnects;
* a call of `run_once` follows a load of the token that saw no request, and between two calls an
  attempt ended that another one may follow;
* the loop returned for a reason that holds. -/
theorem session_control (options : FeedSessionOptions) (installed : Bool)
    (events : List SessionEvent) :
    let session := ({} : FeedSession).after options installed events
    let actions := ({} : FeedSession).actions options installed events
    actions.countP SessionAction.isCall = session.stats.attempts ∧
      (options.retry.maxAttempts ≠ 0 → session.stats.attempts ≤ options.retry.maxAttempts) ∧
      session.stats.reconnects ≤ session.stats.attempts ∧
      session.stats.attempts ≤ session.stats.reconnects + 1 ∧
      (∀ front event back count, events = front ++ event :: back →
        (runFeedSession options installed
          (({} : FeedSession).after options installed front) event).2 = .called count →
        event = .poll false) ∧
      (∀ front first between second back,
        actions = front ++ .called first :: (between ++ .called second :: back) →
        (∀ count, .called count ∉ between) → Continues options between) ∧
      ∀ reason, session.phase = .returned reason →
        Returned options session.stats actions reason := by
  intro session actions
  have fresh : Controlled options [] {} :=
    ⟨rfl, fun _ => Nat.zero_le _, rfl, trivial⟩
  obtain ⟨calls, budget, ahead, accountable⟩ : Controlled options actions session :=
    Machine.outputs_history _ (Controlled options) controlled_step [] {} events fresh
  have order : session.stats.reconnects ≤ session.stats.attempts ∧
      session.stats.attempts ≤ session.stats.reconnects + 1 := by
    revert ahead
    cases session.phase with
    | loopHead | sleepForBackoff =>
        intro level
        exact ⟨Nat.le_of_eq level.symm, (Nat.le_of_eq level).trans (Nat.le_succ _)⟩
    | runOnce =>
        intro leads
        exact ⟨(Nat.le_succ _).trans (Nat.le_of_eq leads.symm), Nat.le_of_eq leads⟩
    | returned => exact id
  refine ⟨calls, budget, order.1, order.2, ?_, ?_, ?_⟩
  · intro front event back count _ called
    exact (called_inv called).2.1
  · intro front first between second back split uncalled
    obtain ⟨before, event, after, -, -, called, rest⟩ := Machine.outputs_split _ split
    obtain ⟨inside, next, -, -, earlier, again, -⟩ := Machine.outputs_split _ rest
    obtain ⟨-, -, running⟩ := called_inv called
    obtain ⟨atHead, -, -⟩ := called_inv again
    have since := Machine.outputs_history (runFeedSession options installed)
      (fun actions session => (∀ count, .called count ∉ actions) →
        Between options actions session.phase)
      between_step [] _ inside (fun _ => by
        rw [running]
        exact fun _ _ member => (List.not_mem_nil member).elim)
    rw [List.nil_append, earlier, atHead] at since
    exact since uncalled
  · intro reason returned
    rw [returned] at accountable
    exact accountable

/-- A refused connection, then two messages that reach the limit. -/
example :
    ({} : FeedSession).after { maxMessages := 2, retry := { maxAttempts := 3, initialBackoff := 0 } }
        false
        [.poll false, .attempted { status := .connectFailed, errorClass := .network } false,
          .poll false, .poll false, .message { payload := [1, 2] } false true,
          .message { payload := [3, 4] } false true,
          .attempted { status := .stoppedByHandler, errorClass := .stopped } false] =
      { stats :=
          { attempts := 2, reconnects := 1, messages := 2, bytes := 4,
            lastStatus := .stoppedByHandler, lastErrorClass := .stopped }
        backoff := 0
        phase := .returned .maxMessagesReached } := by
  decide

end MarketDataFabric.Service
