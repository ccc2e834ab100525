/-
**The delays of the feed session**, `next_backoff` and `sleep_for_backoff` in
`service/feed_session.hpp`.

* `nextBackoff_climbs` — between zero and the maximum, the next delay is not below the current one
  and not above the maximum.
* `pace_moves` — the delays a session sleeps move one cursor, the `backoff` of the loop.
* `delays_capped_iff` — hence the delays of every run climb to the maximum and stay below it, exactly
  when the first one does, which is slept as it was configured.
-/

import MarketDataFabric.Service.FeedSession

namespace MarketDataFabric.Service

open Library

/-! ### The delays of a run -/

/-- The duration that a step of the loop hands to `sleep_for_backoff`. -/
def slept (here next : FeedSession) : Option Int :=
  match here.phase, next.phase with
  | .runOnce _, .sleepForBackoff duration => some duration
  | _, _ => none

theorem slept_self (session : FeedSession) : slept session session = none := by
  unfold slept
  cases session.phase <;> rfl

/-- The loop, observed at its calls of `sleep_for_backoff`. -/
def pace (options : FeedSessionOptions) (installed : Bool) (session : FeedSession)
    (event : SessionEvent) : FeedSession × Option Int :=
  ((runFeedSession options installed session event).1,
    slept session (runFeedSession options installed session event).1)

/-- The delays along a list of events. -/
abbrev FeedSession.delays (options : FeedSessionOptions) (installed : Bool)
    (session : FeedSession) (events : List SessionEvent) : List Int :=
  Machine.emitted (pace options installed) id session events

section Pace

variable {options : FeedSessionOptions} {installed : Bool}

/-- **A step sleeps only after an attempt that is to be repeated**, and then the next back-off; any
other step leaves the back-off. -/
theorem pace_cases (session : FeedSession) (event : SessionEvent) :
    ((pace options installed session event).2 = none ∧
        (pace options installed session event).1.backoff = session.backoff) ∨
      ((pace options installed session event).2 =
          some (nextBackoff session.backoff options.retry) ∧
        (pace options installed session event).1.backoff =
          nextBackoff session.backoff options.retry ∧
        (options.retry.maxAttempts ≠ 0 → session.stats.attempts < options.retry.maxAttempts) ∧
        ∃ callbacks, session.phase = .runOnce callbacks) := by
  obtain ⟨next, action, step, moved, -⟩ := exists_session_step options installed session event
  rw [pace, moved]
  cases step with
  | idle => exact Or.inl ⟨slept_self session, rfl⟩
  | headReturns _ _ place | calls place | backoffStops _ place | sleeps _ _ place
  | wakes _ place | answers _ _ _ _ _ _ place | attemptReturns _ _ _ _ place =>
      exact Or.inl ⟨by simp only [slept, place], rfl⟩
  | reconnects callbacks attempt requested place goes =>
      obtain ⟨-, -, -, room⟩ := attemptStopReason_none goes
      exact Or.inr ⟨by simp only [slept, place], rfl, room, callbacks, place⟩

/-- An attempt that runs was counted. -/
def Counted (session : FeedSession) : Prop :=
  ∀ callbacks, session.phase = .runOnce callbacks → 0 < session.stats.attempts

theorem pace_counted {session : FeedSession} (event : SessionEvent) (counted : Counted session) :
    Counted (pace options installed session event).1 := by
  obtain ⟨next, action, step, moved, -⟩ := exists_session_step options installed session event
  rw [pace, moved]
  cases step with
  | idle => exact counted
  | calls => exact fun _ _ => Nat.succ_pos _
  | answers callbacks _ _ _ _ _ place => exact fun _ _ => counted callbacks place
  | headReturns | backoffStops | sleeps | wakes | attemptReturns | reconnects =>
      intro callbacks impossible
      cases impossible

/-- Where one attempt is all there is, nothing is slept. -/
theorem delays_of_single (single : options.retry.maxAttempts = 1) (events : List SessionEvent) :
    ({} : FeedSession).delays options installed events = [] := by
  have silent : ∀ said ∈ Machine.outputs (pace options installed) ({} : FeedSession) events,
      said = none := by
    refine Machine.outputs_invariant (pace options installed) Counted (fun _ => True)
      (fun said => said = none) (fun session event counted _ =>
        ⟨pace_counted event counted, (pace_cases session event).elim And.left ?_⟩)
      (fun _ impossible => by cases impossible) fun _ _ => trivial
    rintro ⟨-, -, room, callbacks, place⟩
    have below := room (by rw [single]; decide)
    rw [single, Nat.lt_one_iff] at below
    exact absurd below (Nat.ne_of_gt (counted callbacks place))
  exact List.filterMap_eq_nil_iff.mpr silent

end Pace

/-! ### The cap -/

section Cap

variable {policy : FeedRetryPolicy}

/-- **The next delay**, from a capped one. -/
theorem nextBackoff_climbs (doubling : policy.multiplier = fun count => count * 2)
    (initial : 0 ≤ policy.initialBackoff) (capped : policy.initialBackoff ≤ policy.maxBackoff)
    {current : Int} (high : current ≤ policy.maxBackoff) :
    current ≤ nextBackoff current policy ∧ nextBackoff current policy ≤ policy.maxBackoff := by
  unfold nextBackoff
  split_ifs with first
  · exact ⟨Int.le_trans first initial, capped⟩
  · have doubled : current ≤ current * 2 := by omega
    rw [doubling]
    exact ⟨Int.le_min.mpr ⟨doubled, high⟩, Int.min_le_right _ _⟩

/-- One delay after another, below the cap. -/
def ClimbsTo (cap : Int) (here there : Int) : Prop := here ≤ there ∧ there ≤ cap

instance (cap : Int) : IsTrans Int (ClimbsTo cap) :=
  ⟨fun _ _ _ here there => ⟨Int.le_trans here.1 there.1, there.2⟩⟩

variable {options : FeedSessionOptions} (installed : Bool)

/-- **The delays move the back-off**, upwards and not above the cap. -/
theorem pace_moves (doubling : options.retry.multiplier = fun count => count * 2)
    (initial : 0 ≤ options.retry.initialBackoff)
    (capped : options.retry.initialBackoff ≤ options.retry.maxBackoff) :
    Machine.Moves (pace options installed)
      (fun session => session.backoff ≤ options.retry.maxBackoff) (fun _ => True)
      FeedSession.backoff id (ClimbsTo options.retry.maxBackoff) where
  keeps session event below _ := by
    rcases pace_cases session event with ⟨-, same⟩ | ⟨-, moved, -⟩
    · rwa [same]
    · rw [moved]
      exact (nextBackoff_climbs doubling initial capped below).2
  stays session event _ _ silent := by
    rcases pace_cases session event with ⟨-, same⟩ | ⟨said, -⟩
    · exact same
    · rw [said] at silent
      cases silent
  moves session event delay below _ said := by
    rcases pace_cases session event with ⟨silent, -⟩ | ⟨slept, moved, -⟩
    · rw [silent] at said
      cases said
    · rw [slept] at said
      obtain rfl := Option.some.inj said
      exact ⟨nextBackoff_climbs doubling initial capped below, moved⟩

/-- A failed first attempt is repeated where the budget allows it. -/
def failedOnce : List SessionEvent := [.poll false, .attempted { errorClass := .network } false]

/-- **The first delay is the configured one**, whatever the cap. -/
theorem delays_failedOnce (several : options.retry.maxAttempts ≠ 1) :
    ({} : FeedSession).delays options installed failedOnce = [options.retry.initialBackoff] := by
  have head : headStopReason options {} false = none := by
    unfold headStopReason
    rw [if_neg Bool.false_ne_true, if_neg fun reached => reached.1 (Nat.le_zero.mp reached.2),
      if_neg fun spent => spent.1 (Nat.le_zero.mp spent.2)]
  have begun : runFeedSession options installed {} (.poll false) =
      ({ stats := { attempts := 1 }, phase := .runOnce {} },
        .called (({} : FeedSession).remainingMessages options)) := by
    simp only [runFeedSession, runLoopHead, head]
    rfl
  have again : attemptStopReason options
      (FeedSessionStats.attempted { attempts := 1 } { errorClass := .network }) {}
      { errorClass := .network } false = none := by
    unfold attemptStopReason
    rw [if_neg Bool.false_ne_true, if_neg (by decide), if_neg Bool.false_ne_true,
      if_neg fun completed => absurd completed.1 (by decide), if_neg (by decide),
      if_neg fun spent => several (Nat.le_antisymm spent.2 (Nat.pos_of_ne_zero spent.1))]
  simp only [failedOnce, Machine.emitted, Machine.outputs_cons, Machine.outputs_nil, pace, begun]
  have place : (FeedSession.mk { attempts := 1 } 0 (.runOnce {})).phase = .runOnce {} := rfl
  rcases runFeedSession_attempted options installed place { errorClass := .network } false with
    ⟨reason, decision, -⟩ | ⟨-, same⟩
  · rw [again] at decision
    cases decision
  · rw [same]
    rfl

/-- **The delays of every run climb to the cap exactly where the first one is below it**, or nothing
is repeated at all. -/
theorem delays_capped_iff (options : FeedSessionOptions)
    (doubling : options.retry.multiplier = fun count => count * 2)
    (initial : 0 ≤ options.retry.initialBackoff) (cap : 0 ≤ options.retry.maxBackoff) :
    (∀ installed events,
        (∀ delay ∈ ({} : FeedSession).delays options installed events,
          delay ≤ options.retry.maxBackoff) ∧
        (({} : FeedSession).delays options installed events).Pairwise (· ≤ ·)) ↔
      options.retry.initialBackoff ≤ options.retry.maxBackoff ∨ options.retry.maxAttempts = 1 := by
  constructor
  · intro all
    by_contra neither
    obtain ⟨above, several⟩ := not_or.mp neither
    have first := (all false failedOnce).1 options.retry.initialBackoff
    rw [delays_failedOnce false several] at first
    exact above (first List.mem_cons_self)
  · rintro (capped | single) installed events
    · have chain : List.IsChain (ClimbsTo options.retry.maxBackoff)
          (({} : FeedSession).backoff :: ({} : FeedSession).delays options installed events) :=
        (pace_moves installed doubling initial capped).isChain cap fun _ _ => trivial
      obtain ⟨below, sorted⟩ := List.pairwise_cons.mp (List.isChain_iff_pairwise.mp chain)
      exact ⟨fun delay member => (below delay member).2, sorted.imp And.left⟩
    · rw [delays_of_single single]
      exact ⟨fun _ absent => absurd absent List.not_mem_nil, List.Pairwise.nil⟩

/-- The default policy, without a limit of attempts: two failures, and a wait between them. -/
theorem delays_capped_default :
    (∀ delay ∈ ({} : FeedSession).delays { retry.maxAttempts := 0 } false
        (failedOnce ++ List.replicate 4 (.poll false) ++ failedOnce), delay ≤ 30000) ∧
      (({} : FeedSession).delays { retry.maxAttempts := 0 } false
        (failedOnce ++ List.replicate 4 (.poll false) ++ failedOnce)).Pairwise (· ≤ ·) :=
  (delays_capped_iff { retry.maxAttempts := 0 } rfl (by decide) (by decide)).mpr
    (Or.inl (by decide)) false _

/-- A first delay above the cap. -/
def shortCap : FeedSessionOptions :=
  { retry := { maxAttempts := 0, initialBackoff := 300, maxBackoff := 100 } }

/-- It is slept all the same, and the next delay is shorter. -/
theorem delays_above_cap :
    ({} : FeedSession).delays shortCap false
        (failedOnce ++ List.replicate 4 (.poll false) ++ failedOnce) = [300, 100] ∧
      ¬ ∀ installed events,
        (∀ delay ∈ ({} : FeedSession).delays shortCap installed events,
          delay ≤ shortCap.retry.maxBackoff) ∧
        (({} : FeedSession).delays shortCap installed events).Pairwise (· ≤ ·) := by
  have run : ({} : FeedSession).delays shortCap false
      (failedOnce ++ List.replicate 4 (.poll false) ++ failedOnce) = [300, 100] := by decide
  refine ⟨run, fun all => ?_⟩
  have first := (all false (failedOnce ++ List.replicate 4 (.poll false) ++ failedOnce)).1 300
  rw [run] at first
  exact absurd (first List.mem_cons_self) (by decide)

end Cap

end MarketDataFabric.Service
